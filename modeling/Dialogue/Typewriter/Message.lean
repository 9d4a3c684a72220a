import Dialogue.Typewriter.Basic

/-! A message box types one message at a time and waits for a press. A press completes the message
or dismisses it, never both, and a complete message may be dismissed by time alone. -/
namespace Dialogue.Typewriter

inductive MessageAction
  /-- The rest of the message was shown. -/
  | skipped
  /-- The message was dismissed. -/
  | advance
  deriving DecidableEq, Repr

inductive MessageSignal
  | typewriter (signal : Signal)
  | advance
  deriving DecidableEq, Repr

structure MessageBox where
  typewriter : Typewriter
  dismissed : Bool := false
  deriving DecidableEq, Repr

namespace MessageBox

/-- What a frame did, what was reported, and what it left. -/
structure Frame where
  action : Option MessageAction
  signals : List MessageSignal
  box : MessageBox

def present (b : MessageBox) (text : String) (now : Nat) : MessageBox :=
  ⟨b.typewriter.start text now, false⟩

/-- Whether a complete message has stood long enough to be dismissed by itself. -/
def autoAdvanceDue (t : Typewriter) (now : Nat) : Bool :=
  t.config.autoComplete &&
    match t.timeSinceComplete now with
    | none => false
    | some elapsed => t.config.autoCompleteDelay ≤ elapsed

/-- One frame, with a fresh press or without. Only a message that was complete before the frame is
dismissed in it. -/
def tick (b : MessageBox) (confirm : Bool) (now : Nat) : Frame :=
  if b.dismissed || b.typewriter.isIdle then ⟨none, [], b⟩
  else
    let skipped := b.typewriter.skip now
    if confirm && skipped.effective then
      ⟨some .skipped, skipped.signals.map .typewriter, { b with typewriter := skipped.typewriter }⟩
    else
      let updated := b.typewriter.update now
      let signals := updated.signals.map .typewriter
      let t := updated.typewriter
      if b.typewriter.isComplete && (confirm || autoAdvanceDue t now) then
        ⟨some .advance, signals ++ [.advance], ⟨t, true⟩⟩
      else ⟨none, signals, { b with typewriter := t }⟩

end MessageBox
end Dialogue.Typewriter
