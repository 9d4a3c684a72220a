import Dialogue.Proofs.Typewriter.Frames

/-! The stages of a message. From one message to the next a message box skips at most once, then
advances at most once, and rests after that; whether it has advanced is what it knows of itself. -/
namespace Dialogue.Typewriter.MessageBox

/-- A message box with its clock. -/
structure Session where
  box : MessageBox
  now : Nat := 0

namespace Session

def step (s : Session) (o : Operation) : Session where
  box := (s.box.operate s.now o).box
  now := match o with
    | .clock now => now
    | .present _ | .tick _ => s.now

def run (s : Session) (os : List Operation) : Session := os.foldl step s

/-- The operations of a run, each with what it did. -/
def history (s : Session) : List Operation → List (Operation × Frame)
  | [] => []
  | o :: os => (o, s.box.operate s.now o) :: (s.step o).history os

/-- The actions since a message was presented last, or since the start if none was. -/
def acted (s : Session) (os : List Operation) : List MessageAction :=
  ((s.history os).rtakeWhile fun entry => !entry.1.isPresent).filterMap fun entry =>
    entry.2.action

variable (s : Session) (os : List Operation) (o : Operation)

theorem run_concat : s.run (os ++ [o]) = (s.run os).step o := by
  simp [run]

theorem history_concat :
    s.history (os ++ [o]) = s.history os ++ [(o, (s.run os).box.operate (s.run os).now o)] := by
  induction os generalizing s with
  | nil => rfl
  | cons first os ih => exact congrArg _ (ih (s.step first))

theorem acted_present (text : String) : s.acted (os ++ [.present text]) = [] := by
  rw [acted, history_concat, List.rtakeWhile_concat_neg]
  · rfl
  · simp [Operation.isPresent]

theorem acted_concat {o : Operation} (goes_on : o.isPresent = false) :
    s.acted (os ++ [o]) =
      s.acted os ++ ((s.run os).box.operate (s.run os).now o).action.toList := by
  rw [acted, history_concat, List.rtakeWhile_concat_pos]
  · rw [List.filterMap_append, acted, List.filterMap_cons, List.filterMap_nil]
    cases ((s.run os).box.operate (s.run os).now o).action <;> rfl
  · simp [goes_on]

end Session

/-- How far a message box is with its message, by the actions it has taken on it. -/
inductive Stage (b : MessageBox) : List MessageAction → Prop
  | shown (kept : b.dismissed = false) : Stage b []
  | skipped (kept : b.dismissed = false) (complete : b.typewriter.state = .complete) :
      Stage b [.skipped]
  | advanced (dismissed : b.dismissed = true) : Stage b [.advance]
  | skippedAndAdvanced (dismissed : b.dismissed = true) : Stage b [.skipped, .advance]

variable {b : MessageBox} {actions : List MessageAction} {confirm : Bool} {now : Nat} {f : Frame}

/-- A message that was advanced past is not touched again. -/
theorem Does.eq_of_dismissed (does : Does b confirm now f) (dismissed : b.dismissed = true) :
    f = ⟨none, [], b⟩ := by
  cases does with
  | rests => rfl
  | skips kept | advances kept | types kept => simp [kept] at dismissed

theorem Stage.frame (stage : Stage b actions) (does : Does b confirm now f) :
    Stage f.box (actions ++ f.action.toList) := by
  cases stage with
  | shown kept =>
    cases does with
    | rests => exact .shown kept
    | skips _ _ typing enabled => exact .skipped rfl (by simp [skip, typing, enabled, finish])
    | advances => exact .advanced rfl
    | types => exact .shown rfl
  | skipped kept complete =>
    cases does with
    | rests => exact .skipped kept complete
    | skips _ _ typing => simp [typing] at complete
    | advances => exact .skippedAndAdvanced rfl
    | types =>
      refine .skipped rfl ?_
      rw [update_of_ne_typing (by simp [complete])]
      exact complete
  | advanced dismissed =>
    rw [does.eq_of_dismissed dismissed]
    exact .advanced dismissed
  | skippedAndAdvanced dismissed =>
    rw [does.eq_of_dismissed dismissed]
    exact .skippedAndAdvanced dismissed

theorem Stage.actions_prefix (stage : Stage b actions) :
    actions <+: [.skipped, .advance] ∨ actions <+: [.advance] := by
  cases stage <;> decide

theorem Stage.dismissed_iff (stage : Stage b actions) :
    b.dismissed = true ↔ .advance ∈ actions := by
  cases stage <;> simp_all

namespace Session

/-- A message box on a typewriter that may have been used before. -/
def start (t : Typewriter) (now : Nat) : Session := ⟨⟨t, false⟩, now⟩

variable (t : Typewriter) (now : Nat) (os : List Operation)

theorem stage_run : Stage ((start t now).run os).box ((start t now).acted os) := by
  induction os using List.reverseRecOn with
  | nil => exact .shown rfl
  | append_singleton os o ih =>
    rw [run_concat]
    cases o with
    | present text =>
      rw [acted_present]
      exact .shown rfl
    | tick confirm =>
      rw [acted_concat _ _ rfl]
      exact ih.frame (does_tick _ _ _)
    | clock now =>
      rw [acted_concat _ _ rfl]
      simpa [step, operate] using ih

theorem config_run : ((start t now).run os).box.typewriter.config = t.config := by
  induction os using List.reverseRecOn with
  | nil => rfl
  | append_singleton os o ih =>
    rw [run_concat, ← ih]
    cases o with
    | present | clock => rfl
    | tick confirm => exact (does_tick _ _ _).config

/-- A message box acts once in each stage of a message. From one message to the next it skips at
most once and then advances at most once, knows whether it has advanced, and rests after that, with
nothing reported. It reports an advance once where it makes it. It skips exactly where a press comes
while a text is typed that may be skipped. It advances only past a text that stood complete before
the frame, and exactly if a press comes or, where messages advance by themselves, the time for that
has passed. -/
theorem acts_once_per_stage :
    let s : Session := (start t now).run os
    let actions := (start t now).acted os
    let w := s.box.typewriter
    (actions <+: [.skipped, .advance] ∨ actions <+: [.advance]) ∧
    (s.box.dismissed = true ↔ .advance ∈ actions) ∧
    (s.box.dismissed = true → ∀ confirm later, s.box.tick confirm later = ⟨none, [], s.box⟩) ∧
    ∀ o,
      let f := s.box.operate s.now o
      f.signals.count .advance = f.action.toList.count .advance ∧
      (f.action = some .skipped ↔ o = .tick true ∧ s.box.dismissed = false ∧
        w.state = .typing ∧ t.config.skipEnabled = true) ∧
      (f.action = some .advance ↔ ∃ confirm, o = .tick confirm ∧ s.box.dismissed = false ∧
        w.state = .complete ∧ (confirm = true ∨ t.config.autoComplete = true ∧
          ∃ waited, w.timeSinceComplete s.now = some waited ∧
            t.config.autoCompleteDelay ≤ waited)) ∧
      (f.action = some .advance → .typewriter .complete ∉ f.signals) ∧
      (t.config.autoComplete = false → f.action ≠ none → o = .tick true) := by
  intro s actions w
  have stage : Stage s.box actions := stage_run t now os
  refine ⟨stage.actions_prefix, stage.dismissed_iff, tick_of_dismissed, ?_⟩
  intro o f
  cases o with
  | present text => simp [f, operate]
  | clock now => simp [f, operate]
  | tick confirm =>
    have does : Does s.box confirm s.now f := does_tick s.box confirm s.now
    have skips := does.action_eq_skipped_iff
    have advances := does.action_eq_advance_iff
    rw [config_run] at skips
    rw [autoAdvanceDue_iff, config_run] at advances
    have same : ∀ pressed, Operation.tick confirm = .tick pressed ↔ confirm = pressed :=
      fun pressed => ⟨Operation.tick.inj, congrArg Operation.tick⟩
    refine ⟨does.count_advance, ?_, ?_, does.not_complete_of_advance, ?_⟩
    · rw [skips, same]
      exact and_left_comm
    · simp only [advances, same, exists_eq_left']
      exact Iff.rfl
    · intro manual acts
      rw [same]
      cases action : f.action with
      | none => contradiction
      | some action' =>
        cases action' with
        | skipped => exact (skips.mp action).2.1
        | advance =>
          obtain ⟨-, -, pressed | ⟨auto, -⟩⟩ := advances.mp action
          · exact pressed
          · simp [manual] at auto

end Session
end Dialogue.Typewriter.MessageBox
