import Dialogue.Proofs.Typewriter.Session

/-! The state of a typewriter and its text, whatever is done to it. The text falls into what is
shown and what is pending; the state says whether anything is pending, and the index and the time of
completion follow it. -/
namespace Dialogue.Typewriter

/-- Whether a text is being typed or held. -/
def State.Underway : State → Prop
  | .typing | .paused => True
  | .idle | .complete => False

theorem State.underway_iff {state : State} :
    state.Underway ↔ state = .typing ∨ state = .paused := by
  cases state <;> simp [Underway]

theorem State.Underway.ne_complete {state : State} (h : state.Underway) : state ≠ .complete := by
  rintro rfl
  exact h

theorem State.Underway.ne_idle {state : State} (h : state.Underway) : state ≠ .idle := by
  rintro rfl
  exact h

/-- What is shown and what is pending are the text, whose characters are at hand, and the index
counts what is shown. -/
structure Divided (t : Typewriter) : Prop where
  chars : t.chars = t.text.toList
  parts : t.text.toList = t.shown.toList ++ t.pending
  index : t.index = t.shown.length

/-- The state of a typewriter agrees with its text. -/
structure Sound (t : Typewriter) : Prop extends Divided t where
  completed : t.completedAt.isSome = true ↔ t.state = .complete
  complete : t.state = .complete → t.pending = []
  unfinished : t.state.Underway → t.text ≠ "" → t.pending ≠ []
  idle : t.state = .idle → t.text = ""

variable {t : Typewriter}

theorem Divided.total_eq (h : Divided t) : t.total = t.text.toList.length := by
  rw [total, h.chars]

/-- The index counts what is shown of the text. -/
theorem Divided.index_add (h : Divided t) : t.index + t.pending.length = t.total := by
  rw [h.total_eq, h.parts, h.index, List.length_append, String.length_toList]

theorem Divided.shown_eq_take (h : Divided t) : t.shown.toList = t.text.toList.take t.index := by
  rw [h.parts, h.index, ← String.length_toList, List.take_left]

theorem Sound.isSome_timeSinceComplete (h : Sound t) (now : Nat) :
    (t.timeSinceComplete now).isSome = true ↔ t.state = .complete := by
  rw [timeSinceComplete, Option.isSome_map, h.completed]

theorem Sound.index_of_complete (h : Sound t) (complete : t.state = .complete) :
    t.index = t.total := by
  simpa [h.complete complete] using h.index_add

theorem Sound.index_lt (h : Sound t) (underway : t.state.Underway) (nonempty : t.text ≠ "") :
    t.index < t.total := by
  have counted := h.index_add
  have some_left := List.length_pos_iff.mpr (h.unfinished underway nonempty)
  omega

theorem Sound.of_idle (h : Sound t) (idle : t.state = .idle) :
    t.text = "" ∧ t.shown = "" ∧ t.pending = [] ∧ t.index = 0 := by
  have none_left := h.parts
  rw [h.idle idle] at none_left
  obtain ⟨unshown, unpending⟩ := List.append_eq_nil_iff.mp none_left.symm
  have empty : t.shown = "" := String.toList_eq_nil_iff.mp unshown
  exact ⟨h.idle idle, empty, unpending, by rw [h.index, empty]; rfl⟩

theorem sound_fresh (config : Config) : Sound { config } where
  chars := rfl
  parts := rfl
  index := rfl
  completed := by simp
  complete := by simp
  unfinished := False.elim
  idle := fun _ => rfl

theorem sound_start (t : Typewriter) (text : String) (now : Nat) : Sound (t.start text now) where
  chars := rfl
  parts := rfl
  index := rfl
  completed := by simp [start]
  complete := by simp [start]
  unfinished := by
    intro _ nonempty none_left
    exact nonempty (String.toList_eq_nil_iff.mp none_left)
  idle := by simp [start]

/-- A text is finished only where nothing of it is left. -/
theorem Divided.finish (h : Divided t) (none_left : t.pending = []) (now : Nat) :
    Sound (t.finish now) where
  chars := h.chars
  parts := h.parts
  index := h.index
  completed := by simp [Typewriter.finish]
  complete := fun _ => none_left
  unfinished := False.elim
  idle := by simp [Typewriter.finish]

theorem Divided.reveal (h : Divided t) {c : Char} {rest : List Char}
    (next : t.pending = c :: rest) (now : Nat) : Divided (t.reveal c rest now) where
  chars := h.chars
  parts := by simp [Typewriter.reveal, h.parts, next]
  index := by simp [Typewriter.reveal, h.index]

/-- Holding a text and going on with it change nothing but the state and the time. -/
theorem Sound.turn (h : Sound t) (before : t.state.Underway) (state : State)
    (after : state.Underway) (revealedAt : Nat) : Sound { t with state, revealedAt } where
  chars := h.chars
  parts := h.parts
  index := h.index
  completed := by
    rw [h.completed]
    exact iff_of_false before.ne_complete after.ne_complete
  complete := fun complete => absurd complete after.ne_complete
  unfinished := fun _ => h.unfinished before
  idle := fun idle => absurd idle after.ne_idle

theorem Sound.does (h : Sound t) {now : Nat} {o : Operation} {reaction : Reaction}
    (does : Does t now o reaction) : Sound reaction.typewriter := by
  cases does with
  | ignores => exact h
  | completes _ none_left => exact h.toDivided.finish none_left now
  | reveals typing next more =>
    exact {
      toDivided := h.toDivided.reveal next now
      completed := h.completed
      complete := fun complete => absurd (typing.symm.trans complete) (by simp)
      unfinished := fun _ _ => more
      idle := h.idle }
  | revealsLast _ next => exact (h.toDivided.reveal next now).finish rfl now
  | skips =>
    have all_shown : Divided { t with shown := t.text, index := t.chars.length, pending := [] } :=
      ⟨h.chars, (List.append_nil _).symm, by rw [h.chars, String.length_toList]⟩
    exact all_shown.finish rfl now
  | pauses typing =>
    exact h.turn (State.underway_iff.mpr (.inl typing)) .paused trivial t.revealedAt
  | resumes paused =>
    exact h.turn (State.underway_iff.mpr (.inr paused)) .typing trivial now

theorem Sound.operate (h : Sound t) (now : Nat) (o : Operation) :
    Sound (t.operate now o).typewriter := by
  cases o with
  | start text => exact sound_start t text now
  | reset => exact sound_fresh t.config
  | update | skip | pause | resume | clock => exact h.does (does_operate t now trivial)

theorem sound_run (config : Config) (now : Nat) (os : List Operation) :
    Sound ((Session.fresh config now).run os).typewriter :=
  Session.run_keeps (fun _ now o _ h => h.operate now o) (sound_fresh config) fun _ _ => trivial

/-- While a text goes on, its display only grows. -/
theorem prefix_operate (h : Sound t) (now : Nat) {o : Operation} (continues : o.Continues) :
    t.shown.toList <+: (t.operate now o).typewriter.shown.toList := by
  have does := does_operate t now continues
  generalize t.operate now o = reaction at does ⊢
  cases does with
  | ignores | completes | pauses | resumes => exact List.prefix_refl _
  | reveals | revealsLast => simp [Typewriter.reveal, Typewriter.finish]
  | skips => exact h.parts ▸ List.prefix_append _ _

/-- A text that is not underway is left alone. -/
theorem Does.eq_ignore {now : Nat} {o : Operation} {reaction : Reaction}
    (does : Does t now o reaction) (still : ¬ t.state.Underway) : reaction = t.ignore := by
  rw [State.underway_iff, not_or] at still
  cases does with
  | ignores => rfl
  | completes typing | reveals typing | revealsLast typing | skips typing | pauses typing =>
    exact absurd typing still.1
  | resumes paused => exact absurd paused still.2

/-- Nothing that goes on with a complete text changes anything. -/
theorem operate_of_complete (complete : t.state = .complete) (now : Nat) {o : Operation}
    (continues : o.Continues) : (t.operate now o).typewriter = t := by
  have still : ¬ t.state.Underway := fun underway => underway.ne_complete complete
  rw [(does_operate t now continues).eq_ignore still]
  rfl

theorem elapsed_of_complete (complete : t.state = .complete) (now : Nat) :
    t.elapsed now = t.completedAt.getD t.startedAt - t.startedAt := by
  simp [elapsed, complete]

namespace Session

theorem prefix_run {s : Session} (h : Sound s.typewriter) {os : List Operation}
    (onward : ∀ o ∈ os, o.Continues) :
    s.typewriter.shown.toList <+: (s.run os).typewriter.shown.toList := by
  have extends_both : Sound (s.run os).typewriter ∧
      s.typewriter.shown.toList <+: (s.run os).typewriter.shown.toList := by
    refine run_keeps (P := fun t => Sound t ∧ s.typewriter.shown.toList <+: t.shown.toList)
      ?_ ⟨h, List.prefix_refl _⟩ onward
    rintro t now o continues ⟨sound, grown⟩
    exact ⟨sound.operate now o, grown.trans (prefix_operate sound now continues)⟩
  exact extends_both.2

theorem run_of_complete {s : Session} (complete : s.typewriter.state = .complete)
    {os : List Operation} (onward : ∀ o ∈ os, o.Continues) :
    (s.run os).typewriter = s.typewriter := by
  refine run_keeps (P := (· = s.typewriter)) ?_ rfl onward
  rintro t now o continues rfl
  exact operate_of_complete complete now continues

theorem elapsed_run_of_complete {s : Session} (complete : s.typewriter.state = .complete)
    {os : List Operation} (onward : ∀ o ∈ os, o.Continues) : (s.run os).elapsed = s.elapsed := by
  rw [elapsed, elapsed, run_of_complete complete onward, elapsed_of_complete complete,
    elapsed_of_complete complete]

/-- The state of a typewriter in use. What is shown is as much of the text as the index counts; a
text is complete when all of it is shown and it has a time of completion, and only then; and an
idle typewriter has no text. As long as a text goes on, what is shown only grows, and once it is
complete the time spent on it stands still. -/
theorem typewriter_state (config : Config) (now : Nat) (os : List Operation) :
    let s := (fresh config now).run os
    let t := s.typewriter
    t.shown.toList = t.text.toList.take t.index ∧
    t.index ≤ t.total ∧ t.total = t.text.toList.length ∧
    ((t.timeSinceComplete s.now).isSome = true ↔ t.state = .complete) ∧
    (t.state = .complete → t.index = t.total) ∧
    (t.state = .typing ∨ t.state = .paused → t.text ≠ "" → t.index < t.total) ∧
    (t.state = .idle → t.text = "" ∧ t.shown = "" ∧ t.pending = [] ∧ t.index = 0) ∧
    ∀ more, (∀ o ∈ more, o.Continues) →
      t.shown.toList <+: (s.run more).typewriter.shown.toList ∧
      (t.state = .complete →
        (s.run more).typewriter.state = .complete ∧ (s.run more).elapsed = s.elapsed) := by
  intro s t
  have h : Sound t := sound_run config now os
  refine ⟨h.shown_eq_take, Nat.le.intro h.index_add, h.total_eq,
    h.isSome_timeSinceComplete s.now, h.index_of_complete, ?_, h.of_idle, ?_⟩
  · intro underway
    exact h.index_lt (State.underway_iff.mpr underway)
  · intro more onward
    refine ⟨prefix_run h onward, ?_⟩
    intro complete
    exact ⟨run_of_complete complete onward ▸ complete, elapsed_run_of_complete complete onward⟩

end Session
end Dialogue.Typewriter
