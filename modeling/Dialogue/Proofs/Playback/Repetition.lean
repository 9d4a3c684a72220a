import Dialogue.Proofs.Playback.Closing
import Dialogue.Proofs.Playback.Units
import Dialogue.Proofs.Playback.Visits

/-! A flush as a loop of units of work. The loop does one unit after another until the queue stops
or the last unit finds no event left. It has one outcome, the one of the flush, and the events that
it passes tell how many units it takes. -/
namespace Dialogue.Playback

def Event.isCommand : Event → Bool
  | .command _ => true
  | .text _ | .pageBreak => false

/-- The units of work that events take to be passed. -/
def unitsOf (es : List Event) : Nat := (pendingText es).length + es.countP Event.isCommand

namespace Queue

variable (table : CommandTable σ)

/-- So many units of work are done while the queue is active, up to one that finds no event. -/
inductive Repeats (table : CommandTable σ) : Nat → Queue σ → Status × Queue σ → Prop
  | stops {q : Queue σ} (ha : q.active = false) : Repeats table 0 q (.running, q)
  | ends {q p : Queue σ} (ha : q.active = true) (last : q.runHead table = (.finished, p)) :
      Repeats table 1 q (.finished, p)
  | again {n : Nat} {q p : Queue σ} {outcome : Status × Queue σ} (ha : q.active = true)
      (unit : q.runHead table = (.running, p)) (rest : Repeats table n p outcome) :
      Repeats table (n + 1) q outcome

/-- Events are passed, their commands proceeding, from a display and a host to another. -/
inductive Passes (table : CommandTable σ) : String → σ → List Event → String → σ → Prop
  | nil {display : String} {host : σ} : Passes table display host [] display host
  | text {display display' : String} {host host' : σ} {r : Reveal} {es : List Event}
      (rest : Passes table (display ++ String.ofList r.pending) host es display' host') :
      Passes table display host (.text r :: es) display' host'
  | command {display display' : String} {host host' : σ} {c : Command} {es : List Event}
      (flow : (table.invoke c host display).flow = .proceed)
      (rest : Passes table (table.invoke c host display).display (table.invoke c host display).host
        es display' host') :
      Passes table display host (.command c :: es) display' host'

/-- What becomes of a queue at events that it cannot pass. -/
inductive Halts (table : CommandTable σ) (display : String) (host : σ) :
    List Event → Status × Queue σ → Prop
  | finished : Halts table display host [] (.finished, ⟨[], true, display, host⟩)
  | pageBreak {es : List Event} :
      Halts table display host (.pageBreak :: es)
        (.running, ⟨.pageBreak :: es, false, display, host⟩)
  | command {c : Command} {es : List Event} (flow : (table.invoke c host display).flow = .halt) :
      Halts table display host (.command c :: es)
        (.running, ⟨.command c :: es, false, (table.invoke c host display).display,
          (table.invoke c host display).host⟩)

end Queue

theorem pendingText_append (first second : List Event) :
    pendingText (first ++ second) = pendingText first ++ pendingText second := by
  induction first with
  | nil => rfl
  | cons e es ih =>
    cases e with
    | text r => simp only [List.cons_append, pendingText, ih, List.append_assoc]
    | pageBreak | command => exact ih

theorem unitsOf_append (first second : List Event) :
    unitsOf (first ++ second) = unitsOf first + unitsOf second := by
  rw [unitsOf, unitsOf, unitsOf, pendingText_append, List.length_append, List.countP_append]
  omega

@[simp] theorem unitsOf_text (r : Reveal) (es : List Event) :
    unitsOf (.text r :: es) = r.pending.length + unitsOf es := by
  simp [unitsOf, pendingText, Event.isCommand, Nat.add_assoc]

@[simp] theorem unitsOf_command (c : Command) (es : List Event) :
    unitsOf (.command c :: es) = unitsOf es + 1 := by
  rw [unitsOf, List.countP_cons_of_pos rfl, ← Nat.add_assoc]
  rfl

/-- Texts shown completely take no units. -/
theorem unitsOf_dropWhile (es : List Event) :
    unitsOf (es.dropWhile Event.isExhausted) = unitsOf es := by
  refine apply_dropWhile_isExhausted ?_ es
  intro r es none_left
  rw [unitsOf_text, none_left, List.length_nil, Nat.zero_add]

namespace Queue

variable {table : CommandTable σ} {q : Queue σ} {n m : Nat} {outcome other : Status × Queue σ}
  {display : String} {host : σ} {es : List Event}

/-- The loop has one outcome. -/
theorem Repeats.unique (first : Repeats table n q outcome) (second : Repeats table m q other) :
    n = m ∧ outcome = other := by
  -- A unit has one result, so the second loop has to go the way of the first.
  induction first generalizing m with
  | stops ha =>
    cases second with
    | stops => exact ⟨rfl, rfl⟩
    | ends ha' | again ha' => simp [ha] at ha'
  | ends ha last =>
    cases second with
    | stops ha' => simp [ha] at ha'
    | ends _ last' => exact ⟨rfl, last.symm.trans last'⟩
    | again _ unit' => simp [last] at unit'
  | again ha unit _ ih =>
    cases second with
    | stops ha' => simp [ha] at ha'
    | ends _ last' => simp [unit] at last'
    | again _ unit' rest' =>
      obtain ⟨-, rfl⟩ := Prod.mk.inj (unit.symm.trans unit')
      obtain ⟨same, outcome⟩ := ih rest'
      exact ⟨congrArg (· + 1) same, outcome⟩

theorem Halts.events_eq (halts : Halts table display host es outcome) : outcome.2.events = es := by
  cases halts <;> rfl

/-- A flush passes events up to one that it cannot pass. -/
theorem passes_flushEvents (table : CommandTable σ) (display : String) (host : σ)
    (es : List Event) :
    ∃ passed rest display' host', es = passed ++ rest ∧
      Passes table display host passed display' host' ∧
      Halts table display' host' rest (flushEvents table display host es) := by
  fun_induction flushEvents table display host es with
  | case1 display host => exact ⟨[], [], display, host, rfl, .nil, .finished⟩
  | case2 display host r es ih =>
    obtain ⟨passed, rest, display', host', rfl, passes, halts⟩ := ih
    exact ⟨.text r :: passed, rest, display', host', rfl, .text passes, halts⟩
  | case3 display host es => exact ⟨[], _, display, host, rfl, .nil, .pageBreak⟩
  | case4 display host c es reply flow ih =>
    obtain ⟨passed, rest, display', host', rfl, passes, halts⟩ := ih
    exact ⟨.command c :: passed, rest, display', host', rfl, .command flow passes, halts⟩
  | case5 display host c es reply flow => exact ⟨[], _, display, host, rfl, .nil, .command flow⟩

/-- An active queue is flushed by one unit of work more than what is passed takes. -/
theorem repeats_flush (table : CommandTable σ) {q : Queue σ} (ha : q.active = true) :
    ∃ n, Repeats table (n + 1) q (q.flush table) ∧
      unitsOf q.events = n + unitsOf (q.flush table).2.events := by
  cases hf : q.isFinished with
  | true =>
    have none_left := unitsOf_dropWhile q.events
    rw [(dropWhile_eq_nil_iff q).mpr hf] at none_left
    rw [flush_of_isFinished table ha hf]
    exact ⟨0, .ends ha (runHead_of_isFinished table ha hf), by rw [← none_left]; rfl⟩
  | false =>
    have running : q.runHead table = (.running, (q.runHead table).2) :=
      Prod.ext (runHead_of_not_isFinished table hf) rfl
    have works : Works table q (q.runHead table).2 := works_runHead table ha hf
    rw [← flush_runHead table ha hf, ← unitsOf_dropWhile q.events]
    -- A unit that stops the queue is the last one; after any other the loop goes on.
    cases halted : (q.runHead table).2.active with
    | false =>
      rw [flush_of_inactive table halted]
      refine ⟨0, .again ha running (.stops halted), ?_⟩
      generalize (q.runHead table).2 = p at works halted
      cases works with
      | arrive first | halt first => rw [first, Nat.zero_add]
      | reveal | proceed => contradiction
    | true =>
      obtain ⟨n, repeats, units⟩ := repeats_flush table halted
      refine ⟨n + 1, .again ha running repeats, ?_⟩
      rw [Nat.add_right_comm, ← units]
      generalize (q.runHead table).2 = p at works halted
      cases works with
      | reveal first next =>
        rw [first, unitsOf_text, unitsOf_text, Reveal.pending_of_next? next, List.length_cons]
        omega
      | proceed first => rw [first, unitsOf_command]
      | arrive | halt => contradiction
termination_by q.work
decreasing_by exact work_runHead table ha hf

theorem repeats_of_inactive (ha : q.active = false) :
    Repeats table n q outcome ↔ n = 0 ∧ outcome = q.flush table := by
  rw [flush_of_inactive table ha]
  constructor
  · intro repeats
    exact repeats.unique (.stops ha)
  · rintro ⟨rfl, rfl⟩
    exact .stops ha

/-- The units of a flush of an active queue are those that the events passed take, and one more. -/
theorem repeats_of_passes {passed rest : List Event} (ha : q.active = true)
    (parts : q.events = passed ++ rest) (left : (q.flush table).2.events = rest) :
    Repeats table n q outcome ↔ n = unitsOf passed + 1 ∧ outcome = q.flush table := by
  obtain ⟨units, repeats, counted⟩ := repeats_flush table ha
  rw [parts, left, unitsOf_append] at counted
  have same : units = unitsOf passed := Nat.add_right_cancel counted.symm
  subst same
  constructor
  · intro other
    exact other.unique repeats
  · rintro ⟨rfl, rfl⟩
    exact repeats

theorem flush_eq_running_iff (table : CommandTable σ) (q : Queue σ) :
    (q.flush table).1 = .running ↔ (q.flush table).2.active = false := by
  cases ha : q.active with
  | false => simp [flush_of_inactive table ha, ha]
  | true =>
    obtain ⟨status, active, -⟩ | ⟨status, halted⟩ := flush_ends table ha
    · simp [status, active]
    · simp [status, halted]

/-- A flush is the loop of units of work, and the loop comes to its end. Whatever the handlers do,
the loop has one outcome: the status and the queue of the flush, with the same calls if they are
logged. Of an inactive queue it does nothing. Of an active queue it passes events, all of whose
commands proceed, up to the end of the script or to an event that stops it; that takes a unit for
each character to be shown, one for each command, and one more. The flush reports that no event is
left where the last unit does, and else the queue is inactive. -/
theorem flush_repeats_units (table : CommandTable σ) (q : Queue σ) :
    (∃ calls : Nat,
      (∀ n outcome, Repeats table n q outcome ↔ n = calls ∧ outcome = q.flush table) ∧
      (∀ log n outcome, Repeats table.logged n (q.mapHost (·, log)) outcome ↔
        n = calls ∧ outcome = (q.mapHost (·, log)).flush table.logged) ∧
      (q.active = false → calls = 0) ∧
      (q.active = true → ∃ passed rest display host, q.events = passed ++ rest ∧
        Passes table q.display q.host passed display host ∧
        Halts table display host rest (q.flush table) ∧
        calls = 1 + (pendingText passed).length + passed.countP Event.isCommand)) ∧
    ((q.flush table).1 = .running ↔ (q.flush table).2.active = false) := by
  refine ⟨?_, flush_eq_running_iff table q⟩
  cases ha : q.active with
  | false =>
    refine ⟨0, ?_, ?_, fun _ => rfl, by simp⟩
    · intro n outcome
      exact repeats_of_inactive ha
    · intro log n outcome
      exact repeats_of_inactive ha
  | true =>
    obtain ⟨passed, rest, display, host, parts, passes, halts⟩ :=
      passes_flushEvents table q.display q.host q.events
    have flushed : q.flush table = flushEvents table q.display q.host q.events := if_pos ha
    rw [← flushed] at halts
    refine ⟨unitsOf passed + 1, ?_, ?_, by simp, fun _ => ?_⟩
    · intro n outcome
      exact repeats_of_passes ha parts halts.events_eq
    · intro log n outcome
      -- Logging the calls changes nothing that is counted.
      have logged :
          ((q.mapHost (·, log)).flush table.logged).2.events = (q.flush table).2.events := by
        have plain := flush_mapHost table.logged_follows (q.mapHost (·, log))
        exact (congrArg (·.2.events) plain).symm
      exact repeats_of_passes ha parts (logged.trans halts.events_eq)
    · refine ⟨passed, rest, display, host, parts, passes, halts, ?_⟩
      rw [unitsOf]
      omega

end Queue
end Dialogue.Playback
