import Dialogue.Playback.PageReader

/-! How much work is left in a script: a unit for every character to be shown, two for every event,
one of them spent where the queue stops at it, and one for closing the script. -/
namespace Dialogue.Playback

def Event.pendingChars : Event → Nat
  | .text r => r.remaining
  | .pageBreak | .command _ => 0

def eventsWork : List Event → Nat
  | [] => 0
  | e :: es => e.pendingChars + 2 + eventsWork es

def Queue.work (q : Queue σ) : Nat := eventsWork q.events - if q.active then 0 else 1

def PageReader.work (r : PageReader σ) : Nat := r.queue.work + if r.closed then 0 else 1

@[simp] theorem eventsWork_nil : eventsWork [] = 0 := rfl

@[simp] theorem eventsWork_cons (e : Event) (es : List Event) :
    eventsWork (e :: es) = e.pendingChars + 2 + eventsWork es := rfl

theorem eventsWork_dropWhile (p : Event → Bool) (es : List Event) :
    eventsWork (es.dropWhile p) ≤ eventsWork es := by
  induction es with
  | nil => simp
  | cons e es ih =>
    rw [List.dropWhile_cons]
    split
    · rw [eventsWork_cons]; omega
    · exact Nat.le_refl _

theorem Queue.exists_of_not_isFinished {q : Queue σ} (h : q.isFinished = false) :
    ∃ e es, q.events.dropWhile Event.isExhausted = e :: es ∧ e.isExhausted = false := by
  unfold isFinished at h
  cases hd : q.events.dropWhile Event.isExhausted with
  | nil =>
    have hall : q.events.takeWhile Event.isExhausted = q.events := by
      simpa [hd] using List.takeWhile_append_dropWhile (p := Event.isExhausted) (l := q.events)
    have := List.all_takeWhile (p := Event.isExhausted) (l := q.events)
    rw [hall, h] at this
    exact absurd this Bool.false_ne_true
  | cons e es =>
    refine ⟨e, es, rfl, ?_⟩
    have := List.head?_dropWhile_not Event.isExhausted q.events
    simpa [hd] using this

theorem Queue.work_runHead (table : CommandTable σ) {q : Queue σ} (ha : q.active)
    (hf : q.isFinished = false) : (q.runHead table).2.work < q.work := by
  obtain ⟨e, es, hd, he⟩ := exists_of_not_isFinished hf
  have hle := eventsWork_dropWhile Event.isExhausted q.events
  rw [hd, eventsWork_cons] at hle
  unfold runHead
  rw [hd]
  cases e with
  | text r =>
    cases hp : r.pending with
    | nil => simp [Event.isExhausted, Reveal.isExhausted, hp] at he
    | cons c cs =>
      simp [ha, Reveal.next?, hp, work, Event.pendingChars, Reveal.remaining] at hle ⊢
      omega
  | pageBreak =>
    simp [ha, work, Event.pendingChars] at hle ⊢
    omega
  | command c =>
    simp only [ha, Bool.not_true, Bool.false_eq_true, if_false]
    cases (table.invoke c q.host q.display).flow <;> simp [ha, work, Event.pendingChars] at hle ⊢ <;>
      omega

/-- Going past a stop takes work off. -/
theorem PageReader.work_turnPage {q : Queue σ} (h : q.active = false) :
    (turnPage q).2.work < (⟨q, false⟩ : PageReader σ).work := by
  unfold turnPage Queue.pop
  cases hq : q.events with
  | nil => simp [close, work, Queue.work]
  | cons e es =>
    cases es with
    | nil => simp [close, work, Queue.work, h, hq]
    | cons f es =>
      simp [work, Queue.work, h, hq]

/-- A frame takes work off, except on a closed script and without a press at a stop. -/
theorem PageReader.work_tick_of_atStop (table : CommandTable σ) {r : PageReader σ} {confirm : Bool}
    (hc : r.closed = false) (h : r.isWaiting || r.queue.isFinished → confirm) (hp : confirm →
      r.isWaiting || r.queue.isFinished) : (r.tick table confirm).2.work < r.work := by
  obtain ⟨q, closed⟩ := r
  subst hc
  unfold tick
  simp only [isWaiting] at h hp
  cases ha : q.active with
  | false =>
    simp_all [work_turnPage ha]
  | true =>
    cases hf : q.isFinished with
    | true => simp_all [close, work]
    | false =>
      have := Queue.work_runHead table ha hf
      simp_all [work]

end Dialogue.Playback
