import Dialogue.Text.Quoted
import Dialogue.Typewriter.Basic

/-! One-line descriptions of a typewriter and of times. -/
namespace Dialogue.Typewriter

def State.name : State → String
  | .idle => "Idle"
  | .typing => "Typing"
  | .complete => "Complete"
  | .paused => "Paused"

/-- The digits of a fraction of `places` places, without the zeros at its end. -/
def fractionDigits (places fraction : Nat) : String :=
  let digits := (toString fraction).toList
  let padded := List.replicate (places - digits.length) '0' ++ digits
  String.ofList (padded.reverse.dropWhile (· == '0')).reverse

/-- A time in the largest unit that it fills: seconds with their fraction, or milliseconds. -/
def describeMillis (ms : Nat) : String :=
  if ms = 0 then "0ns"
  else if ms < 1000 then s!"{ms}ms"
  else if ms % 1000 = 0 then s!"{ms / 1000}s"
  else s!"{ms / 1000}." ++ fractionDigits 3 (ms % 1000) ++ "s"

def inspect (t : Typewriter) (now : Nat) : String :=
  "Typewriter \x7b state: " ++ t.state.name ++ ", display_text: " ++ Text.quote t.shown ++
  s!", char_index: {t.index}, total_chars: {t.total}" ++
  ", clock: ManualClock \x7b now: Cell \x7b value: " ++ describeMillis now ++ " \x7d \x7d, .. \x7d"

end Dialogue.Typewriter
