import Dialogue.Typewriter.Config

/-! A typewriter shows one message character by character. It is told the time, in milliseconds,
whenever it matters, and compares it only with times it was told before. Times and delays are whole
milliseconds of any size. That a clock's durations end at 2 ^ 64 seconds, where a sum of two of them
would stop the program, is left out. -/
namespace Dialogue

inductive Typewriter.State
  | idle
  | typing
  | complete
  | paused
  deriving DecidableEq, Repr

/-- What a typewriter reports while it works. -/
inductive Typewriter.Signal
  | char (c : Char)
  | complete
  | skip
  deriving DecidableEq, Repr

structure Typewriter where
  config : Typewriter.Config
  text : String := ""
  /-- The characters of the text. -/
  chars : List Char := []
  shown : String := ""
  index : Nat := 0
  /-- The characters still to come. -/
  pending : List Char := []
  state : Typewriter.State := .idle
  startedAt : Nat := 0
  revealedAt : Nat := 0
  /-- What the last character adds to the delay of the next one. -/
  extraDelay : Nat := 0
  completedAt : Option Nat := none
  deriving DecidableEq, Repr

namespace Typewriter

/-- What an operation did: whether it took effect, what it reported, and what it left. -/
structure Reaction where
  effective : Bool
  signals : List Signal
  typewriter : Typewriter

/-- An operation that does not apply. -/
def ignore (t : Typewriter) : Reaction := ⟨false, [], t⟩

def start (t : Typewriter) (text : String) (now : Nat) : Typewriter where
  config := t.config
  text := text
  chars := text.toList
  pending := text.toList
  state := .typing
  startedAt := now
  revealedAt := now

def finish (t : Typewriter) (now : Nat) : Typewriter :=
  { t with state := .complete, completedAt := some now }

/-- Shows `c`, the next character, and leaves `rest`. -/
def reveal (t : Typewriter) (c : Char) (rest : List Char) (now : Nat) : Typewriter :=
  { t with
    shown := t.shown.push c
    index := t.index + 1
    pending := rest
    revealedAt := now
    extraDelay := t.config.extraDelayAfter c }

/-- The time that has to pass after a character before the next one. -/
def requiredDelay (t : Typewriter) : Nat := t.config.charDelay + t.extraDelay

/-- Shows the next character if its time has come, and never more than one. Time lost before is
not made up for. -/
def update (t : Typewriter) (now : Nat) : Reaction :=
  if t.state ≠ .typing then t.ignore
  else
    match t.pending with
    | [] => ⟨false, [.complete], t.finish now⟩
    | c :: rest =>
      if now - t.revealedAt < t.requiredDelay then t.ignore
      else if rest.isEmpty then ⟨true, [.char c, .complete], (t.reveal c rest now).finish now⟩
      else ⟨true, [.char c], t.reveal c rest now⟩

/-- Shows the whole text at once. -/
def skip (t : Typewriter) (now : Nat) : Reaction :=
  if t.state = .typing ∧ t.config.skipEnabled then
    let t := { t with shown := t.text, index := t.chars.length, pending := [] }
    ⟨true, [.skip, .complete], t.finish now⟩
  else t.ignore

def pause (t : Typewriter) : Reaction :=
  if t.state = .typing ∧ t.config.pauseEnabled then ⟨true, [], { t with state := .paused }⟩
  else t.ignore

/-- Goes on; the delay of the next character starts anew. -/
def resume (t : Typewriter) (now : Nat) : Reaction :=
  if t.state = .paused ∧ t.config.pauseEnabled then
    ⟨true, [], { t with state := .typing, revealedAt := now }⟩
  else t.ignore

def reset (t : Typewriter) : Typewriter := { config := t.config }

def isIdle (t : Typewriter) : Bool := t.state = .idle

def isTyping (t : Typewriter) : Bool := t.state = .typing

def isComplete (t : Typewriter) : Bool := t.state = .complete

def isPaused (t : Typewriter) : Bool := t.state = .paused

def total (t : Typewriter) : Nat := t.chars.length

/-- The share of the text that is shown; none of an empty text is. -/
def progress (t : Typewriter) : Float32 :=
  if t.chars.isEmpty then 0 else t.index.toUInt64.toFloat32 / t.total.toUInt64.toFloat32

/-- The time spent on the text, up to its completion. -/
def elapsed (t : Typewriter) (now : Nat) : Nat :=
  match t.state with
  | .idle => 0
  | .complete => t.completedAt.getD t.startedAt - t.startedAt
  | .typing | .paused => now - t.startedAt

def timeSinceComplete (t : Typewriter) (now : Nat) : Option Nat := t.completedAt.map (now - ·)

end Typewriter
end Dialogue
