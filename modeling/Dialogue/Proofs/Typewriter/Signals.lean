import Dialogue.Proofs.Typewriter.State

/-! What a typewriter reports of a text, from its start to the next start or reset: the characters
it shows, one by one, and then the completion, once, with the skip before it where the text was
skipped. How far the text is tells what has been reported of it. -/
namespace Dialogue.Typewriter

def Signal.char? : Signal → Option Char
  | .char c => some c
  | .complete | .skip => none

/-- What has been reported of a text since it was started, by how far it is. -/
inductive Told (text : String) (t : Typewriter) : List Signal → Prop
  | underway (going : t.state.Underway) : Told text t (t.shown.toList.map .char)
  | typed (complete : t.state = .complete) : Told text t (text.toList.map .char ++ [.complete])
  | skipped {shown : List Char} (complete : t.state = .complete) (begins : shown <+: text.toList) :
      Told text t (shown.map .char ++ [.skip, .complete])

variable {t : Typewriter} {now : Nat} {o : Operation} {reaction : Reaction} {text : String}
  {log : List Signal}

/-- A character is reported by each update that shows one, and by nothing else. -/
theorem Does.length_chars (does : Does t now o reaction) :
    (reaction.signals.filterMap Signal.char?).length =
      if o = .update ∧ reaction.effective = true then 1 else 0 := by
  cases does <;> simp [ignore, Signal.char?]

/-- A skip is reported by each skip that takes effect, and by nothing else. -/
theorem Does.skip_mem_iff (does : Does t now o reaction) :
    .skip ∈ reaction.signals ↔ o = .skip ∧ reaction.effective = true := by
  cases does <;> simp [ignore]

theorem Does.text_eq (does : Does t now o reaction) : reaction.typewriter.text = t.text := by
  cases does <;> rfl

theorem Told.does (told : Told t.text t log) (h : Divided t) (does : Does t now o reaction) :
    Told t.text reaction.typewriter (log ++ reaction.signals) := by
  -- Only a text that is underway is told more of; a complete one is left alone.
  cases told with
  | underway going =>
    cases does with
    | ignores =>
      rw [ignore, List.append_nil]
      exact .underway going
    | completes typing none_left =>
      have all_shown : t.shown.toList = t.text.toList := by simp [h.parts, none_left]
      rw [all_shown]
      exact .typed rfl
    | @reveals c rest typing next =>
      have shown : (t.reveal c rest now).shown.toList.map Signal.char =
          t.shown.toList.map .char ++ [.char c] := by
        simp [Typewriter.reveal]
      rw [← shown]
      exact .underway going
    | @revealsLast c typing next =>
      have all_shown : t.shown.toList.map Signal.char ++ [.char c, .complete] =
          t.text.toList.map .char ++ [.complete] := by
        simp [h.parts, next]
      rw [all_shown]
      exact .typed rfl
    | skips typing =>
      exact .skipped rfl (h.parts ▸ List.prefix_append _ _)
    | pauses | resumes =>
      rw [List.append_nil]
      exact .underway trivial
  | typed complete =>
    rw [does.eq_ignore fun going => going.ne_complete complete, ignore, List.append_nil]
    exact .typed complete
  | skipped complete begins =>
    rw [does.eq_ignore fun going => going.ne_complete complete, ignore, List.append_nil]
    exact .skipped complete begins

/-- What has been reported is a beginning of the text, and how it ended if it did. -/
theorem Told.exists_parts (told : Told t.text t log) (h : Sound t) :
    ∃ shown ending, log = shown.map .char ++ ending ∧ shown <+: t.text.toList ∧
      (ending = [] ∨ ending = [.complete] ∧ shown = t.text.toList ∨ ending = [.skip, .complete]) ∧
      (.complete ∈ log ↔ t.state = .complete) ∧
      (t.text ≠ "" → shown = t.text.toList → .complete ∈ log) := by
  cases told with
  | underway going =>
    have begins : t.shown.toList <+: t.text.toList := h.parts ▸ List.prefix_append _ _
    refine ⟨t.shown.toList, [], (List.append_nil _).symm, begins, .inl rfl, ?_, ?_⟩
    · simp [going.ne_complete]
    · intro nonempty all_shown
      have none_left : t.pending = [] := by simpa [all_shown] using h.parts
      exact absurd none_left (h.unfinished going nonempty)
  | typed complete =>
    refine ⟨t.text.toList, [.complete], rfl, List.prefix_refl _, .inr (.inl ⟨rfl, rfl⟩), ?_, ?_⟩ <;>
      simp [complete]
  | @skipped shown complete begins =>
    refine ⟨shown, [.skip, .complete], rfl, begins, .inr (.inr rfl), ?_, ?_⟩ <;> simp [complete]

namespace Session

variable {s : Session} {os : List Operation}

theorem signals_cons (s : Session) (o : Operation) (os : List Operation) :
    s.signals (o :: os) =
      (s.typewriter.operate s.now o).signals ++ (s.step o).signals os := rfl

/-- Every entry of a run that goes on with a text is something that can be done to it. -/
theorem does_of_mem_history (onward : ∀ o ∈ os, o.Continues) :
    ∀ entry ∈ s.history os, ∃ t now, Does t now entry.1 entry.2 := by
  induction os generalizing s with
  | nil => simp [history]
  | cons o os ih =>
    obtain ⟨first, rest⟩ := List.forall_mem_cons.mp onward
    exact List.forall_mem_cons.mpr ⟨⟨_, _, does_operate s.typewriter s.now first⟩, ih rest⟩

theorem told_run (h : Sound s.typewriter) (told : Told s.typewriter.text s.typewriter log)
    (onward : ∀ o ∈ os, o.Continues) :
    (s.run os).typewriter.text = s.typewriter.text ∧
      Told s.typewriter.text (s.run os).typewriter (log ++ s.signals os) := by
  induction os generalizing s log with
  | nil => exact ⟨rfl, (List.append_nil log).symm ▸ told⟩
  | cons o os ih =>
    obtain ⟨first, rest⟩ := List.forall_mem_cons.mp onward
    have does := does_operate s.typewriter s.now first
    have next := told.does h.toDivided does
    have text : (s.step o).typewriter.text = s.typewriter.text := does.text_eq
    rw [← text] at next ⊢
    rw [signals_cons, ← List.append_assoc]
    exact ih (s := s.step o) (h.operate s.now o) next rest

/-- An idle typewriter reports nothing until a text is started. -/
theorem signals_of_idle (idle : s.typewriter.state = .idle) (onward : ∀ o ∈ os, o.Continues) :
    s.signals os = [] := by
  induction os generalizing s with
  | nil => rfl
  | cons o os ih =>
    obtain ⟨first, rest⟩ := List.forall_mem_cons.mp onward
    have still : s.typewriter.operate s.now o = s.typewriter.ignore :=
      (does_operate s.typewriter s.now first).eq_ignore fun going => going.ne_idle idle
    have idle_still : (s.step o).typewriter.state = .idle := by
      rw [typewriter_step, still]
      exact idle
    rw [signals_cons, still, ih idle_still rest]
    rfl

theorem skip_mem_signals_iff (onward : ∀ o ∈ os, o.Continues) :
    .skip ∈ s.signals os ↔
      ∃ entry ∈ s.history os, entry.1 = .skip ∧ entry.2.effective = true := by
  rw [signals, List.mem_flatMap]
  refine exists_congr fun entry => and_congr_right fun done => ?_
  obtain ⟨t, now, does⟩ := does_of_mem_history onward entry done
  exact does.skip_mem_iff

/-- What a typewriter reports, text by text. Nothing is reported before the first text and after a
reset. Of a text its characters are reported from the first on, one by each update that shows one,
and then nothing, or the completion where all of them have been, or a skip and the completion. The
completion has been reported exactly if the text is complete, and a skip exactly if one took effect;
so when the last character of a text has been reported, its completion has been too. -/
theorem signals_text_by_text (config : Config) (now : Nat) (before os : List Operation)
    (onward : ∀ o ∈ os, o.Continues) :
    (fresh config now).signals os = [] ∧
    ((fresh config now).run (before ++ [.reset])).signals os = [] ∧
    ∀ text,
      let s := (fresh config now).run (before ++ [.start text])
      let reported := s.signals os
      ∃ shown ending, reported = shown.map .char ++ ending ∧ shown <+: text.toList ∧
        (ending = [] ∨ ending = [.complete] ∧ shown = text.toList ∨ ending = [.skip, .complete]) ∧
        (.complete ∈ reported ↔ (s.run os).typewriter.state = .complete) ∧
        (text ≠ "" → shown = text.toList → .complete ∈ reported) ∧
        (.skip ∈ reported ↔
          ∃ entry ∈ s.history os, entry.1 = .skip ∧ entry.2.effective = true) ∧
        ∀ entry ∈ s.history os, (entry.2.signals.filterMap Signal.char?).length =
          if entry.1 = .update ∧ entry.2.effective = true then 1 else 0 := by
  refine ⟨signals_of_idle rfl onward, ?_, ?_⟩
  · rw [run_append]
    exact signals_of_idle rfl onward
  · intro text s reported
    have started : s = ((fresh config now).run before).step (.start text) := run_append ..
    have current : s.typewriter.text = text := by rw [started]; rfl
    have told : Told s.typewriter.text s.typewriter [] := started ▸ .underway trivial
    obtain ⟨same, told⟩ := told_run (sound_run config now _) told onward
    have sound : Sound (s.run os).typewriter := by
      rw [← run_append]
      exact sound_run config now _
    rw [← same] at told
    obtain ⟨shown, ending, parts, begins, ends, complete, all⟩ := told.exists_parts sound
    rw [same, current] at begins ends all
    refine ⟨shown, ending, parts, begins, ends, complete, all, skip_mem_signals_iff onward, ?_⟩
    intro entry done
    obtain ⟨t, now, does⟩ := does_of_mem_history onward entry done
    exact does.length_chars

theorem signals_of_skipped_text :
    let os : List Operation := [.clock 60, .update, .pause, .skip, .resume, .skip, .update]
    let s := (fresh .default 0).run [.start "ab"]
    (∀ o ∈ os, o.Continues) ∧ (fresh .default 0).signals os = [] ∧
      s.signals os = [.char 'a', .skip, .complete] ∧ (s.run os).typewriter.state = .complete := by
  intro os s
  have onward : ∀ o ∈ os, o.Continues := by simp [os, Operation.Continues]
  have reported : s.signals os = [.char 'a', .skip, .complete] := by decide
  obtain ⟨silent, -, texts⟩ := signals_text_by_text .default 0 [] os onward
  obtain ⟨_, _, -, -, -, complete, -⟩ := texts "ab"
  have ended : .complete ∈ s.signals os := by simp [reported]
  exact ⟨onward, silent, reported, complete.mp ended⟩

end Session
end Dialogue.Typewriter
