import Mathlib.Data.List.DropRight
import Dialogue.Typewriter.Message
import Dialogue.Proofs.Typewriter.Session

/-! A message box in use: messages are presented, frames go by with a press or without, and in
between the clock is set to anything. What one frame can do is told by cases, with what has to hold
for each of them. -/
namespace Dialogue.Typewriter

/-- Only a typewriter that types is moved by time. -/
theorem update_of_ne_typing {t : Typewriter} (still : t.state ≠ .typing) (now : Nat) :
    t.update now = t.ignore :=
  if_pos still

@[simp] theorem config_update (t : Typewriter) (now : Nat) :
    (t.update now).typewriter.config = t.config :=
  (does_update t now).config_eq

@[simp] theorem config_skip (t : Typewriter) (now : Nat) :
    (t.skip now).typewriter.config = t.config :=
  (does_operate t now (o := .skip) trivial).config_eq

namespace MessageBox

theorem autoAdvanceDue_iff {t : Typewriter} {now : Nat} :
    autoAdvanceDue t now = true ↔
      t.config.autoComplete = true ∧
        ∃ waited, t.timeSinceComplete now = some waited ∧ t.config.autoCompleteDelay ≤ waited := by
  unfold autoAdvanceDue
  cases t.timeSinceComplete now <;> simp

inductive Operation
  | present (text : String)
  /-- A frame, with a fresh press or without. -/
  | tick (confirm : Bool)
  /-- The clock is set to `now`. -/
  | clock (now : Nat)
  deriving DecidableEq, Repr

/-- Whether an operation begins a message. -/
def Operation.isPresent : Operation → Bool
  | .present _ => true
  | .tick _ | .clock _ => false

def operate (b : MessageBox) (now : Nat) : Operation → Frame
  | .present text => ⟨none, [], b.present text now⟩
  | .tick confirm => b.tick confirm now
  | .clock _ => ⟨none, [], b⟩

/-- The frames that are possible. -/
inductive Does (b : MessageBox) (confirm : Bool) (now : Nat) : Frame → Prop
  | rests (off : b.dismissed = true ∨ b.typewriter.state = .idle) :
      Does b confirm now ⟨none, [], b⟩
  | skips (shown : b.dismissed = false) (pressed : confirm = true)
      (typing : b.typewriter.state = .typing) (enabled : b.typewriter.config.skipEnabled = true) :
      Does b confirm now
        ⟨some .skipped, [.typewriter .skip, .typewriter .complete],
          ⟨(b.typewriter.skip now).typewriter, false⟩⟩
  | advances (shown : b.dismissed = false) (complete : b.typewriter.state = .complete)
      (due : confirm = true ∨ autoAdvanceDue b.typewriter now = true) :
      Does b confirm now ⟨some .advance, [.advance], ⟨b.typewriter, true⟩⟩
  | types (shown : b.dismissed = false)
      (kept : ¬ (confirm = true ∧ b.typewriter.state = .typing ∧
        b.typewriter.config.skipEnabled = true))
      (undue : b.typewriter.state = .complete →
        ¬ (confirm = true ∨ autoAdvanceDue b.typewriter now = true)) :
      Does b confirm now
        ⟨none, (b.typewriter.update now).signals.map .typewriter,
          ⟨(b.typewriter.update now).typewriter, false⟩⟩

variable {b : MessageBox} {confirm : Bool} {now : Nat} {f : Frame}

theorem tick_of_dismissed (dismissed : b.dismissed = true) (confirm : Bool) (now : Nat) :
    b.tick confirm now = ⟨none, [], b⟩ := by
  simp [tick, dismissed]

theorem skip_effective_iff {t : Typewriter} :
    (t.skip now).effective = true ↔ t.state = .typing ∧ t.config.skipEnabled = true := by
  unfold skip
  split <;> simp_all [ignore]

theorem does_tick (b : MessageBox) (confirm : Bool) (now : Nat) :
    Does b confirm now (b.tick confirm now) := by
  obtain ⟨t, dismissed⟩ := b
  unfold tick
  split
  · next off =>
    apply Does.rests
    simpa [isIdle] using off
  · next on =>
    have shown : dismissed = false := by simp_all
    subst shown
    simp only [Bool.and_eq_true, skip_effective_iff]
    split
    · next skips =>
      obtain ⟨pressed, typing, enabled⟩ := skips
      have skipped : Does ⟨t, false⟩ confirm now _ := .skips rfl pressed typing enabled
      simpa [skip, typing, enabled] using skipped
    · next kept =>
      have still (complete : t.state = .complete) : (t.update now).typewriter = t := by
        rw [update_of_ne_typing (by simp [complete])]
        rfl
      split
      · next leaves =>
        simp only [isComplete, Bool.or_eq_true, decide_eq_true_eq] at leaves
        obtain ⟨complete, due⟩ := leaves
        rw [still complete] at due ⊢
        rw [update_of_ne_typing (by simp [complete])]
        exact .advances rfl complete due
      · next stays =>
        apply Does.types rfl kept
        intro complete due
        have complete : t.state = .complete := complete
        apply stays
        rw [still complete]
        simpa [isComplete, complete] using due

/-- A frame skips where a press comes while a message is typed that may be skipped. -/
theorem Does.action_eq_skipped_iff (does : Does b confirm now f) :
    f.action = some .skipped ↔
      b.dismissed = false ∧ confirm = true ∧ b.typewriter.state = .typing ∧
        b.typewriter.config.skipEnabled = true := by
  cases does with
  | rests off =>
    refine iff_of_false (by simp) ?_
    rintro ⟨shown, -, typing, -⟩
    simp [shown, typing] at off
  | skips shown pressed typing enabled => simp [shown, pressed, typing, enabled]
  | advances shown complete => simp [complete]
  | types shown kept => simpa [shown] using kept

/-- A frame advances where a message stood complete before it and a press comes, or has stood so for
long enough. -/
theorem Does.action_eq_advance_iff (does : Does b confirm now f) :
    f.action = some .advance ↔
      b.dismissed = false ∧ b.typewriter.state = .complete ∧
        (confirm = true ∨ autoAdvanceDue b.typewriter now = true) := by
  cases does with
  | rests off =>
    refine iff_of_false (by simp) ?_
    rintro ⟨shown, complete, -⟩
    simp [shown, complete] at off
  | skips shown pressed typing => simp [typing]
  | advances shown complete due => simp [shown, complete, due]
  | types shown kept undue => simpa [shown] using undue

/-- Where messages do not advance by themselves, nothing happens without a press. -/
theorem Does.action_eq_none (does : Does b false now f)
    (manual : b.typewriter.config.autoComplete = false) : f.action = none := by
  rw [Option.eq_none_iff_forall_ne_some]
  intro action acts
  cases action with
  | skipped =>
    obtain ⟨-, pressed, -⟩ := does.action_eq_skipped_iff.mp acts
    contradiction
  | advance =>
    obtain ⟨-, -, pressed | due⟩ := does.action_eq_advance_iff.mp acts
    · contradiction
    · rw [autoAdvanceDue_iff, manual] at due
      exact absurd due.1 (by simp)

/-- The advance is reported once where it happens, and nowhere else. -/
theorem Does.count_advance (does : Does b confirm now f) :
    f.signals.count .advance = f.action.toList.count .advance := by
  cases does with
  | rests | skips | advances => rfl
  | types =>
    rw [List.count_eq_zero.mpr]
    · rfl
    · simp

/-- The frame in which a message is advanced is not the one that completes it. -/
theorem Does.not_complete_of_advance (does : Does b confirm now f)
    (advances : f.action = some .advance) : .typewriter .complete ∉ f.signals := by
  cases does with
  | advances => simp
  | rests | types => contradiction
  | skips => cases advances

theorem Does.config (does : Does b confirm now f) :
    f.box.typewriter.config = b.typewriter.config := by
  cases does <;> simp

end MessageBox
end Dialogue.Typewriter
