import Dialogue.Proofs.Playback.Flush
import Dialogue.Proofs.Playback.Moves
import Dialogue.Proofs.Playback.Units

/-! What is left of a script, whatever is done to the queue that plays it, heads dropped before they
are played included. The events left are the last ones of the script, and only of the first of them
a part may be shown; and a queue that has stopped stands at what it can stop at. -/
namespace Dialogue.Playback

/-- A text at the same reading point or at a later one. -/
structure Reveal.ReadOn (before after : Reveal) : Prop where
  runes : after.runes = before.runes
  cursor : before.cursor ≤ after.cursor
  within : after.cursor ≤ after.runes.length

/-- The same events, of which the first may be read on where it is a text. -/
inductive ReadOn : List Event → List Event → Prop
  | untouched (es : List Event) : ReadOn es es
  | text {before after : Reveal} (on : before.ReadOn after) (es : List Event) :
      ReadOn (.text before :: es) (.text after :: es)

/-- What can be left of a script: the end of it, read on. -/
def Remains (script left : List Event) : Prop := ∃ rest, rest <:+ script ∧ ReadOn rest left

/-- What a queue can stop at: a page break, or a command that a handler is registered for. -/
def Event.IsStop (table : CommandTable σ) : Event → Prop
  | .text _ => False
  | .pageBreak => True
  | .command c => table.contains c.name = true

theorem Reveal.readOn_of_next? {r r' : Reveal} {c : Char} (next : r.next? = some (c, r')) :
    r.ReadOn r' := by
  have pending := pending_of_next? next
  have same := runes_of_next? next
  have lengths := congrArg List.length same
  rw [runes, runes, pending] at lengths
  simp only [List.length_append, List.length_cons, String.length_toList] at lengths
  exact {
    runes := same
    cursor := by unfold cursor; omega
    within := by rw [runes, List.length_append, String.length_toList, cursor]; omega }

theorem Reveal.ReadOn.trans {first second third : Reveal} (h : first.ReadOn second)
    (on : second.ReadOn third) : first.ReadOn third where
  runes := on.runes.trans h.runes
  cursor := h.cursor.trans on.cursor
  within := on.within

namespace Remains

variable {script left : List Event}

theorem refl (script : List Event) : Remains script script :=
  ⟨script, List.suffix_rfl, .untouched script⟩

/-- Behind the first event nothing is shown. -/
theorem suffix {later : List Event} (h : Remains script left) (behind : later <:+ left) :
    Remains script later := by
  obtain ⟨rest, last, on⟩ := h
  cases on with
  | untouched => exact ⟨later, behind.trans last, .untouched later⟩
  | @text before after on es =>
    obtain rfl | inside := List.suffix_cons_iff.mp behind
    · exact ⟨_, last, .text on es⟩
    · have whole : later <:+ .text before :: es := inside.trans (List.suffix_cons _ es)
      exact ⟨later, whole.trans last, .untouched later⟩

theorem reveal {r r' : Reveal} {es : List Event} (h : Remains script (.text r :: es))
    (on : r.ReadOn r') : Remains script (.text r' :: es) := by
  obtain ⟨rest, last, read⟩ := h
  cases read with
  | untouched => exact ⟨_, last, .text on es⟩
  | text before => exact ⟨_, last, .text (before.trans on) es⟩

end Remains

theorem Event.IsStop.isExhausted {table : CommandTable σ} {e : Event} (stop : e.IsStop table) :
    e.isExhausted = false := by
  cases e with
  | text r => exact False.elim stop
  | pageBreak | command => rfl

/-- Only a handler can stop a queue. -/
theorem CommandTable.contains_of_halt {table : CommandTable σ} {c : Command} {host : σ}
    {display : String} (halts : (table.invoke c host display).flow = .halt) :
    table.contains c.name = true := by
  unfold invoke at halts
  unfold contains
  cases found : table.find? c.name with
  | none => simp [found] at halts
  | some handler => rfl

namespace Queue

/-- A queue that plays a script: what it holds is left of the script, and where it has stopped it
stands at a stop. -/
structure Plays (table : CommandTable σ) (script : List Event) (q : Queue σ) : Prop where
  left : Remains script q.events
  stopped : q.active = false → ∃ stop rest, q.events = stop :: rest ∧ stop.IsStop table

variable {table : CommandTable σ} {script : List Event} {q p : Queue σ}

theorem plays_of_active (left : Remains script q.events) (ha : q.active = true) :
    q.Plays table script where
  left := left
  stopped := fun stopped => absurd (ha.symm.trans stopped) (by simp)

namespace Plays

/-- Texts shown completely are dropped from the front. -/
theorem front (h : q.Plays table script) :
    Remains script (q.events.dropWhile Event.isExhausted) :=
  h.left.suffix (List.dropWhile_suffix _)

theorem works (h : q.Plays table script) (work : Works table q p) : p.Plays table script := by
  have front := h.front
  cases work with
  | reveal first next =>
    rw [first] at front
    exact plays_of_active (front.reveal (Reveal.readOn_of_next? next)) rfl
  | @arrive es first =>
    rw [first] at front
    exact ⟨front, fun _ => ⟨.pageBreak, es, rfl, trivial⟩⟩
  | @proceed c es first =>
    rw [first] at front
    exact plays_of_active (front.suffix (List.suffix_cons _ es)) rfl
  | @halt c es first flow =>
    rw [first] at front
    exact ⟨front, fun _ => ⟨.command c, es, rfl, CommandTable.contains_of_halt flow⟩⟩

theorem runHead (h : q.Plays table script) : (q.runHead table).2.Plays table script := by
  cases ha : q.active with
  | false =>
    rw [runHead_of_inactive table ha]
    exact h
  | true =>
    cases hf : q.isFinished with
    | true =>
      rw [runHead_of_isFinished table ha hf]
      exact plays_of_active (h.left.suffix (List.nil_suffix)) ha
    | false => exact h.works (works_runHead table ha hf)

theorem pop (h : q.Plays table script) : q.pop.2.Plays table script :=
  plays_of_active (h.left.suffix (List.tail_suffix _)) rfl

theorem move (h : q.Plays table script) (m : Move) : (q.move table m).Plays table script := by
  cases m with
  | run => exact h.runHead
  | flush => exact flush_keeps table (fun _ => runHead) h
  | pop => exact h.pop

theorem moves (h : q.Plays table script) (ms : List Move) :
    (q.moves table ms).Plays table script := by
  induction ms generalizing q with
  | nil => exact h
  | cons m ms ih => exact ih (h.move m)

/-- A queue that has stopped has something left to do. -/
theorem not_isFinished (h : q.Plays table script) (ha : q.active = false) :
    q.isFinished = false := by
  obtain ⟨stop, rest, first, stops⟩ := h.stopped ha
  rw [isFinished, first, List.all_cons, stops.isExhausted, Bool.false_and]

end Plays

/-- A queue keeps to its script, in whatever order it is worked, flushed and popped. What it holds
is the end of the script, with no event but the first read on. Where it has stopped it stands at a
page break or a command with a handler, so it is not finished, and neither work nor a flush changes
anything. Work on a running queue reports the end exactly if only texts shown completely are left,
and drops those. Dropping the head reports the end exactly if nothing is left, and takes the display
away only with a page break. -/
theorem moves_keep_to_script (table : CommandTable σ) (script : List Event) (host : σ)
    (ms : List Move) :
    let q := Queue.moves table { events := script, host } ms
    Remains script q.events ∧
    (q.active = false →
      (∃ stop rest, q.events = stop :: rest ∧ stop.IsStop table) ∧ q.isFinished = false ∧
        q.runHead table = (.running, q) ∧ q.flush table = (.running, q)) ∧
    (q.active = true →
      ((q.runHead table).1 = .finished ↔ q.isFinished = true) ∧
        (q.isFinished = true → (q.runHead table).2 = { q with events := [] })) ∧
    (q.pop.1 = .finished ↔ q.pop.2.events = []) ∧
    q.pop.2 = ⟨q.events.tail, true, if q.events.head? = some .pageBreak then "" else q.display,
      q.host⟩ := by
  intro q
  have plays : q.Plays table script := (plays_of_active (Remains.refl script) rfl).moves ms
  refine ⟨plays.left, ?_, ?_, ?_, rfl⟩
  · intro stopped
    exact ⟨plays.stopped stopped, plays.not_isFinished stopped,
      runHead_of_inactive table stopped, flush_of_inactive table stopped⟩
  · intro running
    constructor
    · rw [runHead_eq_finished_iff]
      simp [running]
    · intro finished
      rw [runHead_of_isFinished table running finished]
  · simp only [Queue.pop]
    cases q.events.tail <;> simp

end Queue
end Dialogue.Playback
