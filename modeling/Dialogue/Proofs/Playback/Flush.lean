import Dialogue.Proofs.Playback.Path

/-! Showing the rest of a page at once does the same units of work as showing it one by one, up to
the next stop. -/
namespace Dialogue.Playback.Queue

variable (table : CommandTable σ) {q : Queue σ}

theorem append_ofList_cons (display : String) (c : Char) (cs : List Char) :
    display ++ String.ofList (c :: cs) = display.push c ++ String.ofList cs := by
  rw [← String.toList_inj]
  simp

theorem flushEvents_dropWhile (display : String) (host : σ) (es : List Event) :
    flushEvents table display host (es.dropWhile Event.isExhausted) =
      flushEvents table display host es := by
  refine apply_dropWhile_isExhausted (f := flushEvents table display host) ?_ es
  intro r es none_left
  simp [flushEvents, none_left]

theorem flush_of_inactive (ha : q.active = false) : q.flush table = (.running, q) := by
  simp [flush, ha]

theorem dropWhile_eq_nil_iff (q : Queue σ) :
    q.events.dropWhile Event.isExhausted = [] ↔ q.isFinished = true := by
  rw [List.dropWhile_eq_nil_iff, isFinished, List.all_eq_true]

theorem runHead_of_isFinished (ha : q.active = true) (hf : q.isFinished = true) :
    q.runHead table = (.finished, { q with events := [] }) := by
  simp [runHead, ha, (dropWhile_eq_nil_iff q).mpr hf]

theorem runHead_of_inactive (ha : q.active = false) : q.runHead table = (.running, q) := by
  simp [runHead, ha]

theorem runHead_of_not_isFinished (hf : q.isFinished = false) :
    (q.runHead table).1 = .running := by
  obtain ⟨e, es, hd, _⟩ := exists_of_not_isFinished hf
  unfold runHead
  rw [hd]
  split
  · rfl
  · cases e with
    | text r => dsimp only; split <;> rfl
    | pageBreak => rfl
    | command c => dsimp only; split <;> rfl

/-- A unit of work reports the end exactly where no work was left. -/
theorem runHead_eq_finished_iff :
    (q.runHead table).1 = .finished ↔ q.active = true ∧ q.isFinished = true := by
  constructor
  · intro finished
    cases ha : q.active with
    | false =>
      rw [runHead_of_inactive table ha] at finished
      contradiction
    | true =>
      cases hf : q.isFinished with
      | false =>
        rw [runHead_of_not_isFinished table hf] at finished
        contradiction
      | true => exact ⟨rfl, rfl⟩
  · rintro ⟨active, finished⟩
    rw [runHead_of_isFinished table active finished]

theorem flush_of_isFinished (ha : q.active = true) (hf : q.isFinished = true) :
    q.flush table = (.finished, { q with events := [] }) := by
  rw [flush, if_pos ha, ← flushEvents_dropWhile, (dropWhile_eq_nil_iff q).mpr hf, flushEvents, ← ha]

/-- A flush can be told to start with one unit of work. -/
theorem flush_runHead (ha : q.active = true) (hf : q.isFinished = false) :
    (q.runHead table).2.flush table = q.flush table := by
  obtain ⟨e, es, hd, he⟩ := exists_of_not_isFinished hf
  conv_rhs => rw [flush, if_pos ha, ← flushEvents_dropWhile, hd]
  unfold runHead
  rw [hd]
  cases e with
  | text r =>
    cases hp : r.pending with
    | nil => simp [Event.isExhausted, Reveal.isExhausted, hp] at he
    | cons c cs =>
      simp only [ha, Reveal.next?, hp, flush, flushEvents, append_ofList_cons, Bool.not_true,
        Bool.false_eq_true, if_false, if_true]
  | pageBreak => simp [ha, flush, flushEvents]
  | command c =>
    simp only [ha, flushEvents, Bool.not_true, Bool.false_eq_true, if_false]
    cases (table.invoke c q.host q.display).flow <;> simp [flush]

/-- What units of work keep, a flush keeps. -/
theorem flush_keeps {P : Queue σ → Prop} (keeps : ∀ q, P q → P (q.runHead table).2) {q : Queue σ}
    (h : P q) : P (q.flush table).2 := by
  cases ha : q.active with
  | false =>
    rw [flush_of_inactive table ha]
    exact h
  | true =>
    have first := keeps q h
    cases hf : q.isFinished with
    | true =>
      rw [runHead_of_isFinished table ha hf] at first
      rw [flush_of_isFinished table ha hf]
      exact first
    | false =>
      rw [← flush_runHead table ha hf]
      exact flush_keeps keeps first
termination_by q.work
decreasing_by exact work_runHead table ha hf

theorem flushEvents_ends (display : String) (host : σ) (es : List Event) :
    let (status, q) := flushEvents table display host es
    (status = .finished ∧ q.active = true ∧ q.events = []) ∨
      (status = .running ∧ q.active = false) := by
  fun_induction flushEvents table display host es with
  | case1 => exact .inl ⟨rfl, rfl, rfl⟩
  | case2 _ _ _ _ ih => exact ih
  | case3 => exact .inr ⟨rfl, rfl⟩
  | case4 _ _ _ _ _ _ ih => exact ih
  | case5 => exact .inr ⟨rfl, rfl⟩

/-- A flush either runs out of events or leaves the queue at a stop. -/
theorem flush_ends (ha : q.active = true) :
    ((q.flush table).1 = .finished ∧ (q.flush table).2.active = true ∧
        (q.flush table).2.events = []) ∨
      ((q.flush table).1 = .running ∧ (q.flush table).2.active = false) := by
  rw [flush, if_pos ha]
  exact flushEvents_ends table q.display q.host q.events

theorem leads_runHead (q : Queue σ) : ∃ n, Leads table n q [] (q.runHead table).2 := by
  cases ha : q.active with
  | false =>
    rw [runHead_of_inactive table ha]
    exact ⟨0, .here rfl⟩
  | true =>
    cases hf : q.isFinished with
    | true =>
      rw [runHead_of_isFinished table ha hf]
      exact ⟨0, .here (by simp [settled, ha, (dropWhile_eq_nil_iff q).mpr hf])⟩
    | false => exact ⟨1, .work ha hf (.here rfl)⟩

/-- A flush goes on along the path, past no stop. -/
theorem leads_flush (q : Queue σ) : ∃ n, Leads table n q [] (q.flush table).2 := by
  cases ha : q.active with
  | false =>
    rw [flush_of_inactive table ha]
    exact ⟨0, .here rfl⟩
  | true =>
    cases hf : q.isFinished with
    | true =>
      rw [flush_of_isFinished table ha hf]
      exact ⟨0, .here (by simp [settled, ha, (dropWhile_eq_nil_iff q).mpr hf])⟩
    | false =>
      obtain ⟨n, path⟩ := leads_flush (q.runHead table).2
      rw [flush_runHead table ha hf] at path
      exact ⟨n + 1, .work ha hf path⟩
termination_by q.work
decreasing_by exact work_runHead table ha hf

theorem leads_pop (ha : q.active = false) : Leads table 1 q [q] q.pop.2 :=
  .leave ha (.here rfl)

end Dialogue.Playback.Queue
