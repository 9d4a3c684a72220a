import Dialogue.Text.Suffix
import Dialogue.Typewriter.Message

/-! Typing one message into a terminal, frame by frame, with a wait between frames. Where pages turn
by themselves the message is dismissed too; elsewhere its last character ends it. -/
namespace Dialogue.Terminal

open Typewriter

/-- What a frame of typing shows, the size of what is shown since, and whether it was the last. -/
structure TypingFrame where
  fresh : List Char
  printed : Nat
  done : Bool
  box : MessageBox

def typingFrame (box : MessageBox) (printed : Nat) (now : Nat) : TypingFrame :=
  let box := (box.tick false now).box
  let t := box.typewriter
  { fresh := Text.suffixFrom printed t.shown
    printed := t.shown.utf8ByteSize
    done := if t.config.autoComplete then box.dismissed else t.isComplete
    box }

/-- The stages before a message is dismissed: its characters, its completion, its dismissal. -/
def stagesLeft (b : MessageBox) : Nat :=
  b.typewriter.pending.length + (if b.typewriter.isComplete then 0 else 1) +
    if b.dismissed then 0 else 1

/-- The time before the next stage may be reached. -/
def timeLeft (b : MessageBox) (now : Nat) : Nat :=
  let t := b.typewriter
  match t.timeSinceComplete now with
  | some elapsed => t.config.autoCompleteDelay - elapsed
  | none => t.requiredDelay - (now - t.revealedAt)

structure Typed where
  output : String
  elapsed : Nat
  waits : Nat
  now : Nat
  box : MessageBox

/-- Types until the message is done. A frame that brings it no nearer to its end would come again
for ever; then there is no result. -/
def typeFrames (wait : Nat) (box : MessageBox) (printed now waits : Nat) (output : String) :
    Option Typed :=
  let f := typingFrame box printed now
  let output := output ++ String.ofList f.fresh
  if f.done then
    some ⟨output ++ "\n", f.box.typewriter.elapsed now, waits, now, f.box⟩
  else if _nearer : stagesLeft f.box < stagesLeft box ∨
      stagesLeft f.box = stagesLeft box ∧ timeLeft f.box (now + wait) < timeLeft box now then
    typeFrames wait f.box f.printed (now + wait) (waits + 1) output
  else none
termination_by (stagesLeft box, timeLeft box now)
decreasing_by
  rcases _nearer with h | ⟨h, h'⟩
  · exact Prod.Lex.left _ _ h
  · exact h ▸ Prod.Lex.right _ h'

/-- Types `text`, with a clock that goes on by `wait` between two frames. -/
def typeText (wait : Nat) (box : MessageBox) (text : String) (now : Nat) : Option Typed :=
  typeFrames wait (box.present text now) 0 now 0 ""

end Dialogue.Terminal
