import Dialogue.Proofs.Playback.Flush
import Dialogue.Proofs.Playback.Visits

/-! The confirms cannot change what a script does: whenever they come, the queue goes along its one
path, and a reader that is closed has come to the end of it. -/
namespace Dialogue.Playback.PageReader

open Queue

variable (table : CommandTable σ)

/-- A frame goes on along the path, and what it turns are the stops it leaves behind. -/
theorem leads_tick (r : PageReader σ) (confirm : Bool) :
    ∃ n, Leads table n r.queue (r.queue.popped table (r.movesOf table confirm))
      (r.tick table confirm).2.queue := by
  rw [queue_tick]
  unfold movesOf
  cases r.closed with
  | true => exact ⟨0, .here rfl⟩
  | false =>
    cases ha : r.queue.active with
    | false =>
      cases confirm with
      | false => exact ⟨0, .here rfl⟩
      | true => exact ⟨1, leads_pop table ha⟩
    | true =>
      cases r.queue.isFinished with
      | true => exact ⟨0, .here rfl⟩
      | false =>
        cases confirm with
        | false => exact leads_runHead table r.queue
        | true =>
          obtain ⟨n, flushed⟩ := leads_flush table r.queue
          simp only [Bool.not_true, Bool.false_eq_true, if_false]
          split
          · exact ⟨n, flushed⟩
          · obtain ⟨status, -, -⟩ | ⟨status, stopped⟩ := flush_ends table ha
            · rw [status]
              exact ⟨n, flushed⟩
            · rw [status]
              exact ⟨n + 1, flushed.trans (leads_pop table stopped)⟩

theorem leads_play (r : PageReader σ) (confirms : List Bool) :
    ∃ n, Leads table n r.queue (r.turns table confirms) (r.play table confirms).queue := by
  induction confirms generalizing r with
  | nil => exact ⟨0, .here rfl⟩
  | cons confirm confirms ih =>
    obtain ⟨n, first⟩ := leads_tick table r confirm
    obtain ⟨m, rest⟩ := ih (r.tick table confirm).2
    rw [turns_cons]
    exact ⟨n + m, first.trans rest⟩

theorem next?_of_no_events {q : Queue σ} (ha : q.active = true) (he : q.events = []) :
    q.next? table = none := by
  rw [next?_eq_none_iff]
  exact ⟨ha, by simp [isFinished, he]⟩

theorem next?_turnPage (q : Queue σ) (h : (turnPage q).2.closed = true) :
    (turnPage q).2.queue.next? table = none := by
  have last : q.events.tail = [] := by
    unfold turnPage pop at h
    cases hq : q.events.tail with
    | nil => rfl
    | cons e es => simp [hq] at h
  rw [queue_turnPage]
  exact next?_of_no_events table rfl last

/-- A frame closes the script only at the end of the path. -/
theorem next?_tick {r : PageReader σ} {confirm : Bool} (hc : r.closed = false)
    (h : (r.tick table confirm).2.closed = true) :
    (r.tick table confirm).2.queue.next? table = none := by
  unfold tick press at h ⊢
  cases ha : r.queue.active with
  | false =>
    cases confirm with
    | false => simp [hc, ha] at h
    | true =>
      simp only [hc, ha, Bool.false_eq_true, if_false, Bool.not_false, if_true] at h ⊢
      exact next?_turnPage table r.queue h
  | true =>
    cases hf : r.queue.isFinished with
    | true =>
      cases confirm with
      | false => simp [hc, ha, hf] at h
      | true =>
        simp only [hc, Bool.false_eq_true, if_false, Bool.not_true, if_true]
        exact next?_eq_none_iff.mpr ⟨ha, hf⟩
    | false =>
      cases confirm with
      | false => simp [hc, ha, hf] at h
      | true =>
        simp only [hc, ha, hf, Bool.false_eq_true, if_false, Bool.not_true, if_true] at h ⊢
        split at h
        · simp at h
        · next same =>
          rw [if_neg same]
          obtain ⟨status, active, none_left⟩ | ⟨status, -⟩ := flush_ends table ha
          · rw [status]
            exact next?_of_no_events table active none_left
          · rw [status] at h ⊢
            exact next?_turnPage table _ h

theorem next?_play {r : PageReader σ} {confirms : List Bool}
    (hr : r.closed = true → r.queue.next? table = none)
    (h : (r.play table confirms).closed = true) :
    (r.play table confirms).queue.next? table = none := by
  induction confirms generalizing r with
  | nil => exact hr h
  | cons confirm confirms ih =>
    rw [play_cons] at h ⊢
    apply ih ?_ h
    intro closed
    cases hc : r.closed with
    | false => exact next?_tick table hc closed
    | true =>
      rw [tick_of_closed table hc]
      exact hr hc

/-- Two runs that both close the script have turned the same pages and have come to the same end. -/
theorem closed_unique {r : PageReader σ} (hr : r.closed = false) {first second : List Bool}
    (h₁ : (r.play table first).closed = true) (h₂ : (r.play table second).closed = true) :
    r.turns table first = r.turns table second ∧
      (r.play table first).queue.settled = (r.play table second).queue.settled := by
  have start : r.closed = true → r.queue.next? table = none := by simp [hr]
  obtain ⟨n, path₁⟩ := leads_play table r first
  obtain ⟨m, path₂⟩ := leads_play table r second
  exact path₁.unique (next?_play table start h₁) path₂ (next?_play table start h₂)

theorem closed_play_logging (r : PageReader σ) (confirms : List Bool) :
    (r.logging.play table.logged confirms).closed = (r.play table confirms).closed := by
  rw [← play_logging table r]
  rfl

/-- A script does the same whenever it is confirmed. The queue is always at a point of the path
from where it started and only goes on along it, and a reader that is closed has come to its end;
so of two runs that close the script, both have made the same calls with the same displays, have
dropped the head of the same queues and end with the same display and the same host. -/
theorem play_follows_path (table : CommandTable σ) (q : Queue σ) :
    let run := PageReader.play table ⟨q, false⟩
    (∀ confirms, ∃ n, At table q n (run confirms).queue) ∧
    (∀ confirms more n, At table q n (run confirms).queue →
      ∃ m, n ≤ m ∧ At table q m (run (confirms ++ more)).queue) ∧
    (∀ confirms, (run confirms).closed = true → (run confirms).queue.next? table = none) ∧
    ∀ first second, (run first).closed = true → (run second).closed = true →
      visits table ⟨q, false⟩ first = visits table ⟨q, false⟩ second ∧
      turns table ⟨q, false⟩ first = turns table ⟨q, false⟩ second ∧
      (run first).display = (run second).display ∧
      (run first).queue.host = (run second).queue.host := by
  refine ⟨?_, ?_, ?_, ?_⟩
  · intro confirms
    obtain ⟨n, path⟩ := leads_play table ⟨q, false⟩ confirms
    exact ⟨n, path.reaches⟩
  · intro confirms more n here
    obtain ⟨k, path⟩ := leads_play table (play table ⟨q, false⟩ confirms) more
    rw [← play_append] at path
    exact ⟨n + k, Nat.le_add_right n k, here.trans path.reaches⟩
  · intro confirms closed
    have opened : (⟨q, false⟩ : PageReader σ).closed = true → q.next? table = none := by
      intro impossible
      contradiction
    exact next?_play table opened closed
  · intro first second closed₁ closed₂
    have calls := (closed_unique table.logged (r := logging ⟨q, false⟩) rfl
      ((closed_play_logging table _ first).trans closed₁)
      ((closed_play_logging table _ second).trans closed₂)).2
    obtain ⟨turned, same⟩ := closed_unique table rfl closed₁ closed₂
    have logs := congrArg Queue.host calls
    have displays := congrArg Queue.display same
    have hosts := congrArg Queue.host same
    simp only [settled_host, settled_display] at logs displays hosts
    exact ⟨congrArg Prod.snd logs, turned, displays, hosts⟩

end Dialogue.Playback.PageReader
