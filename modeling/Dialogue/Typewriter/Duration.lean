import Dialogue.Json.Codec

/-! Spans of time as JSON: 64-bit numbers of milliseconds. -/
namespace Dialogue.Typewriter

structure Duration where
  nanos : Nat
  deriving DecidableEq, Repr

namespace Duration

def nanosPerMilli : Nat := 1000000

def ofMillis (n : Nat) : Duration := ⟨n * nanosPerMilli⟩

/-- The whole milliseconds of a span. -/
def asMillis (d : Duration) : Nat := d.nanos / nanosPerMilli

/-- The number that a span is written as: of greater numbers the low 64 bits are left. -/
def toNumber (d : Duration) : Nat := d.asMillis % Json.naturalBound

def ofNumber (n : Nat) : Duration := .ofMillis n

def coding (c : Json.Codec) : Json.Coding Duration := c.natural.via toNumber ofNumber

/-- Spans that are known by their whole milliseconds. -/
def millis (c : Json.Codec) : Json.Coding Nat := (coding c).via ofMillis asMillis

end Duration
end Dialogue.Typewriter
