import Dialogue.Playback.Work

/-! What a unit of work does, by the first event that is not shown completely. -/
namespace Dialogue.Playback

theorem Reveal.pending_of_next? {r r' : Reveal} {c : Char} (h : r.next? = some (c, r')) :
    r.pending = c :: r'.pending := by
  unfold next? at h
  split at h
  · contradiction
  · next cs hp =>
    cases h
    exact hp

namespace Queue

variable {table : CommandTable σ} {q : Queue σ}

inductive Works (table : CommandTable σ) (q : Queue σ) : Queue σ → Prop
  | reveal {r r' : Reveal} {c : Char} {es : List Event}
      (first : q.events.dropWhile Event.isExhausted = .text r :: es)
      (next : r.next? = some (c, r')) :
      Works table q ⟨.text r' :: es, true, q.display.push c, q.host⟩
  | arrive {es : List Event}
      (first : q.events.dropWhile Event.isExhausted = .pageBreak :: es) :
      Works table q ⟨.pageBreak :: es, false, q.display, q.host⟩
  | proceed {c : Command} {es : List Event}
      (first : q.events.dropWhile Event.isExhausted = .command c :: es)
      (flow : (table.invoke c q.host q.display).flow = .proceed) :
      Works table q ⟨es, true, (table.invoke c q.host q.display).display,
        (table.invoke c q.host q.display).host⟩
  | halt {c : Command} {es : List Event}
      (first : q.events.dropWhile Event.isExhausted = .command c :: es)
      (flow : (table.invoke c q.host q.display).flow = .halt) :
      Works table q ⟨.command c :: es, false, (table.invoke c q.host q.display).display,
        (table.invoke c q.host q.display).host⟩

/-- An active queue with work left does one of these. -/
theorem works_runHead (table : CommandTable σ) (ha : q.active = true) (hf : q.isFinished = false) :
    Works table q (q.runHead table).2 := by
  obtain ⟨e, es, first, unshown⟩ := exists_of_not_isFinished hf
  unfold runHead
  simp only [ha, first, Bool.not_true, Bool.false_eq_true, if_false]
  cases e with
  | text r =>
    cases hn : r.next? with
    | none =>
      cases hp : r.pending with
      | nil => simp [Event.isExhausted, Reveal.isExhausted, hp] at unshown
      | cons c cs => simp [Reveal.next?, hp] at hn
    | some next =>
      simp only [hn]
      exact .reveal first hn
  | pageBreak => exact .arrive first
  | command c =>
    cases flow : (table.invoke c q.host q.display).flow with
    | proceed =>
      simp only [flow]
      exact .proceed first flow
    | halt =>
      simp only [flow]
      exact .halt first flow

end Queue
end Dialogue.Playback
