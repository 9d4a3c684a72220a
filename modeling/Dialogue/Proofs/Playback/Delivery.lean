import Dialogue.Proofs.Playback.Closing
import Dialogue.Proofs.Playback.Remainder

/-! The commands of a script come to their handlers once each and in order. All along the path the
calls made and the commands ahead of the queue are together the commands of the script; what is left
of the script then tells which of them have been called. -/
namespace Dialogue.Playback

namespace CommandTable

/-- The command of an event, if a handler is registered for it. -/
def handled? (t : CommandTable σ) : Event → Option Command
  | .command c => if t.contains c.name then some c else none
  | .text _ | .pageBreak => none

/-- The commands among events that a handler is registered for. -/
def registered (t : CommandTable σ) (es : List Event) : List Command := es.filterMap t.handled?

end CommandTable

/-- What calls ask of the handlers: each command is prepared and then run, with the display it
sees. -/
def visitsOfCalls (calls : List (Command × String)) : List Visit :=
  calls.flatMap fun (c, display) => [.prepare c, .run c display]

namespace Queue

/-- The event that a queue has stopped at. -/
def stop (q : Queue σ) : List Event := if q.active then [] else q.events.head?.toList

/-- The events that a queue has not come to. -/
def ahead (q : Queue σ) : List Event := if q.active then q.events else q.events.tail

/-- The calls made so far are those for the commands of the script that are not ahead. -/
def Delivers (table : CommandTable σ) (script : List Event) (q : Queue (σ × List Visit)) : Prop :=
  ∃ calls, q.host.2 = visitsOfCalls calls ∧
    calls.map Prod.fst ++ table.registered q.ahead = table.registered script

end Queue

section
variable {table : CommandTable σ} {script left es : List Event}

namespace CommandTable

theorem registered_append (t : CommandTable σ) (first second : List Event) :
    t.registered (first ++ second) = t.registered first ++ t.registered second :=
  List.filterMap_append

theorem registered_cons (t : CommandTable σ) (e : Event) (es : List Event) :
    t.registered (e :: es) = t.registered [e] ++ t.registered es :=
  t.registered_append [e] es

@[simp] theorem registered_text (t : CommandTable σ) (r : Reveal) (es : List Event) :
    t.registered (.text r :: es) = t.registered es := rfl

@[simp] theorem registered_pageBreak (t : CommandTable σ) (es : List Event) :
    t.registered (.pageBreak :: es) = t.registered es := rfl

theorem registered_of_isFinished (t : CommandTable σ) (finished : es.all Event.isExhausted = true) :
    t.registered es = [] := by
  rw [registered, List.filterMap_eq_nil_iff]
  intro e he
  have exhausted := List.all_eq_true.mp finished e he
  cases e with
  | text r => rfl
  | pageBreak | command => simp [Event.isExhausted] at exhausted

/-- Texts shown completely are no commands. -/
theorem registered_dropWhile (t : CommandTable σ) (es : List Event) :
    t.registered (es.dropWhile Event.isExhausted) = t.registered es := by
  have dropped := t.registered_of_isFinished (List.all_takeWhile (p := Event.isExhausted) (l := es))
  calc t.registered (es.dropWhile Event.isExhausted)
      = t.registered (es.takeWhile Event.isExhausted) ++
          t.registered (es.dropWhile Event.isExhausted) := by rw [dropped, List.nil_append]
    _ = t.registered es := by rw [← registered_append, List.takeWhile_append_dropWhile]

theorem visitsOf_eq (t : CommandTable σ) (c : Command) (display : String) :
    t.visitsOf c display = visitsOfCalls ((t.registered [.command c]).map (·, display)) := by
  cases known : t.contains c.name <;> simp [visitsOf, registered, handled?, visitsOfCalls, known]

end CommandTable

theorem ReadOn.registered_eq (on : ReadOn es left) : table.registered left = table.registered es := by
  cases on <;> rfl

theorem visitsOfCalls_append (first second : List (Command × String)) :
    visitsOfCalls (first ++ second) = visitsOfCalls first ++ visitsOfCalls second :=
  List.flatMap_append

namespace Queue

theorem stop_append_ahead (q : Queue σ) : q.stop ++ q.ahead = q.events := by
  unfold stop ahead
  cases q.active with
  | true => rfl
  | false => cases q.events <;> rfl

variable {q p : Queue (σ × List Visit)} {stops : List (Queue (σ × List Visit))} {n : Nat}

/-- The queue comes past one event, and the handler of its command is called. -/
theorem Delivers.pass (h : q.Delivers table script) (ha : q.active = true) {e : Event}
    (first : q.events.dropWhile Event.isExhausted = e :: es)
    (log : p.host.2 = q.host.2 ++ visitsOfCalls ((table.registered [e]).map (·, q.display)))
    (behind : table.registered p.ahead = table.registered es) : p.Delivers table script := by
  obtain ⟨calls, before, owed⟩ := h
  refine ⟨calls ++ (table.registered [e]).map (·, q.display), ?_, ?_⟩
  · rw [log, before, visitsOfCalls_append]
  · have called : (table.registered [e]).map (Prod.fst ∘ (·, q.display)) = table.registered [e] :=
      List.map_id' _
    calc (calls ++ (table.registered [e]).map (·, q.display)).map Prod.fst ++
          table.registered p.ahead
        = calls.map Prod.fst ++ (table.registered [e] ++ table.registered es) := by
          rw [List.map_append, List.map_map, called, behind, List.append_assoc]
      _ = calls.map Prod.fst ++ table.registered q.ahead := by
          rw [← table.registered_cons, ← first, table.registered_dropWhile, ahead, if_pos ha]
      _ = table.registered script := owed

theorem Delivers.works (h : q.Delivers table script) (ha : q.active = true)
    (work : Works table.logged q p) : p.Delivers table script := by
  cases work with
  | reveal first => exact h.pass ha first (List.append_nil _).symm rfl
  | arrive first => exact h.pass ha first (List.append_nil _).symm rfl
  | proceed first =>
    refine h.pass ha first ?_ rfl
    rw [CommandTable.invoke_logged, CommandTable.visitsOf_eq]
  | halt first =>
    refine h.pass ha first ?_ rfl
    rw [CommandTable.invoke_logged, CommandTable.visitsOf_eq]

theorem Delivers.settled_iff : q.settled.Delivers table script ↔ q.Delivers table script := by
  cases ha : q.active with
  | false => rw [settled_of_inactive ha]
  | true =>
    have same : table.registered q.settled.ahead = table.registered q.ahead := by
      simp only [settled_of_active ha, ahead, ha, if_true, CommandTable.registered_dropWhile]
    rw [Delivers, Delivers, same, settled_host]

/-- All along the path, what is called and what is ahead are the commands of the script. -/
theorem Leads.delivers (path : Leads table.logged n q stops p) (h : q.Delivers table script) :
    p.Delivers table script := by
  induction path with
  | here same => exact Delivers.settled_iff.mp (same ▸ Delivers.settled_iff.mpr h)
  | @leave n q p stops ha _ ih =>
    apply ih
    obtain ⟨calls, log, owed⟩ := h
    rw [ahead, ha] at owed
    exact ⟨calls, log, owed⟩
  | work ha hf _ ih => exact ih (h.works ha (works_runHead table.logged ha hf))

end Queue
end

namespace PageReader

variable (table : CommandTable σ)

theorem plays_play (script : List Event) (host : σ) (confirms : List Bool) :
    (play table ⟨{ events := script, host }, false⟩ confirms).queue.Plays table script := by
  rw [queue_play]
  exact (Queue.plays_of_active (Remains.refl script) rfl).moves _

theorem delivers_play (script : List Event) (host : σ) (confirms : List Bool) :
    ∃ calls, visits table ⟨{ events := script, host }, false⟩ confirms = visitsOfCalls calls ∧
      calls.map Prod.fst ++
        table.registered (play table ⟨{ events := script, host }, false⟩ confirms).queue.ahead =
          table.registered script := by
  rw [← queue_play_logging]
  obtain ⟨n, path⟩ :=
    leads_play table.logged (logging ⟨{ events := script, host }, false⟩) confirms
  exact path.delivers ⟨[], rfl, rfl⟩

/-- Every command is delivered exactly once and in order, whenever the script is confirmed. The
script falls into what the queue has passed and what it has left, up to the reading point of the
first text left. The calls made are those for the commands passed that have a handler, in their
order, and for the one the queue has stopped at if it is one; each handler is prepared and at once
run. A script that is closed has had all of its commands called. -/
theorem commands_delivered_once (script : List Event) (host : σ) (confirms : List Bool) :
    let start : PageReader σ := ⟨{ events := script, host }, false⟩
    let r := start.play table confirms
    ∃ passed left calls, script = passed ++ left ∧ ReadOn left r.queue.events ∧
      start.visits table confirms = visitsOfCalls calls ∧
      calls.map Prod.fst = table.registered (passed ++ r.queue.stop) ∧
      (r.closed = true → calls.map Prod.fst = table.registered script) := by
  intro start r
  -- The calls are counted from what is ahead, which is cut off both sides at the end.
  obtain ⟨left, ⟨passed, parts⟩, on⟩ := (plays_play table script host confirms).left
  obtain ⟨calls, log, owed⟩ := delivers_play table script host confirms
  refine ⟨passed, left, calls, parts.symm, on, log, ?_, ?_⟩
  · have cut : table.registered script =
        table.registered (passed ++ r.queue.stop) ++ table.registered r.queue.ahead := by
      rw [← parts, table.registered_append, ← on.registered_eq, ← Queue.stop_append_ahead r.queue]
      simp only [table.registered_append, List.append_assoc]
    exact List.append_cancel_right (owed.trans cut)
  · intro closed
    obtain ⟨active, finished⟩ := ended_play table (r := start) rfl confirms closed
    have none_ahead : table.registered r.queue.ahead = [] := by
      rw [Queue.ahead, if_pos active]
      exact table.registered_of_isFinished finished
    rw [none_ahead, List.append_nil] at owed
    exact owed

end PageReader
end Dialogue.Playback
