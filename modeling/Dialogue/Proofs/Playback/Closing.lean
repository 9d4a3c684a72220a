import Dialogue.Proofs.Playback.Confirms
import Dialogue.Proofs.Playback.Press

/-! Reading a script to its end. What one frame can do is told by cases, each with the work it takes
off; so the frames that do something are bounded before the script is played, and no press is lost
on the way to the close. -/
namespace Dialogue.Playback

variable (table : CommandTable σ)

/-- The actions of a script read to its end: each page is turned, and the last one closed, with at
most one skip before it. -/
inductive Reading : List PageAction → Prop
  | close : Reading [.finished]
  | skipClose : Reading [.skipped, .finished]
  | turn {rest : List PageAction} (later : Reading rest) : Reading (.advance :: rest)
  | skipTurn {rest : List PageAction} (later : Reading rest) :
      Reading (.skipped :: .advance :: rest)

/-- A skip can come before what does not start with one. -/
theorem Reading.skip {word : List PageAction} (reading : Reading word)
    (fresh : word.head? ≠ some .skipped) : Reading (.skipped :: word) := by
  cases reading with
  | close => exact .skipClose
  | turn later => exact .skipTurn later
  | skipClose | skipTurn => contradiction

/-- The characters of the texts that are still to be shown. -/
def pendingText : List Event → List Char
  | [] => []
  | .text r :: es => r.pending ++ pendingText es
  | .pageBreak :: es | .command _ :: es => pendingText es

theorem eventsWork_eq (es : List Event) :
    eventsWork es = (pendingText es).length + 2 * es.length := by
  induction es with
  | nil => rfl
  | cons e es ih =>
    rw [eventsWork_cons, ih, List.length_cons]
    cases e with
    | text r =>
      rw [pendingText, List.length_append, Event.pendingChars, Reveal.remaining]
      omega
    | pageBreak | command c =>
      rw [pendingText, Event.pendingChars]
      omega

namespace Queue

theorem work_runHead_le (q : Queue σ) : (q.runHead table).2.work ≤ q.work := by
  cases ha : q.active with
  | false => rw [runHead_of_inactive table ha]
  | true =>
    cases hf : q.isFinished with
    | true =>
      rw [runHead_of_isFinished table ha hf]
      simp [work]
    | false => exact Nat.le_of_lt (work_runHead table ha hf)

/-- A flush does units of work, so it adds none. -/
theorem work_flush_le (q : Queue σ) : (q.flush table).2.work ≤ q.work := by
  refine flush_keeps table (P := fun p => p.work ≤ q.work) ?_ (Nat.le_refl _)
  intro p within
  exact (work_runHead_le table p).trans within

theorem work_flush_lt {q : Queue σ} (ha : q.active = true) (hf : q.isFinished = false) :
    (q.flush table).2.work < q.work := by
  rw [← flush_runHead table ha hf]
  exact (work_flush_le table _).trans_lt (work_runHead table ha hf)

end Queue

namespace PageReader

/-- Whether only a press can bring the reader on: at a stop of the script, or behind all of it. -/
def needsPress (r : PageReader σ) : Bool := r.isWaiting || r.queue.isFinished

/-- Whether there is something to do in a frame. -/
def isBusy (r : PageReader σ) (confirm : Bool) : Bool := !r.closed && (confirm || !r.needsPress)

/-- The frames that are possible on an open script. -/
inductive Does (r : PageReader σ) : Bool → Option PageAction × PageReader σ → Prop
  | waits (stopped : r.needsPress = true) : Does r false (none, r)
  | works {q : Queue σ} (running : r.needsPress = false) (spent : q.work + 1 < r.work) :
      Does r false (none, ⟨q, false⟩)
  | skips {q : Queue σ} (running : r.needsPress = false) (spent : q.work + 1 < r.work)
      (stopped : needsPress ⟨q, false⟩ = true) : Does r true (some .skipped, ⟨q, false⟩)
  | turns {q : Queue σ} (spent : q.work + 1 < r.work) : Does r true (some .advance, ⟨q, false⟩)
  | closes {q : Queue σ} (spent : q.work < r.work) : Does r true (some .finished, ⟨q, true⟩)

variable {table} {r : PageReader σ} {confirm : Bool} {after : Option PageAction × PageReader σ}

theorem does_turnPage {q : Queue σ} (ha : q.active = false) (within : q.work + 1 ≤ r.work) :
    Does r true (turnPage q) := by
  have work := work_turnPage ha
  obtain turned | closed := turnPage_ends q
  · rw [turned] at work ⊢
    exact .turns (lt_of_lt_of_le work within)
  · rw [closed] at work ⊢
    exact .closes (lt_of_lt_of_le work within)

theorem does_press {q : Queue σ} (ha : q.active = true) (hf : q.isFinished = false) :
    Does ⟨q, false⟩ true (press table q) := by
  have spent : (q.flush table).2.work < q.work := Queue.work_flush_lt table ha hf
  by_cases grown : (q.flush table).2.display.utf8ByteSize ≠ q.display.utf8ByteSize
  · rw [press_of_size_ne grown]
    apply Does.skips
    · simp [needsPress, isWaiting, ha, hf]
    · exact Nat.succ_lt_succ spent
    · obtain ⟨-, -, none_left⟩ | ⟨-, stopped⟩ := Queue.flush_ends table ha
      · simp [needsPress, Queue.isFinished, none_left]
      · simp [needsPress, isWaiting, stopped]
  · rw [press_of_size_eq (Decidable.not_not.mp grown)]
    obtain ⟨status, -⟩ | ⟨status, stopped⟩ := Queue.flush_ends table ha
    · rw [status]
      exact .closes (Nat.lt_succ_of_lt spent)
    · rw [status]
      exact does_turnPage stopped (Nat.succ_le_succ (Nat.le_of_lt spent))

theorem does_tick (hc : r.closed = false) (confirm : Bool) :
    Does r confirm (r.tick table confirm) := by
  obtain ⟨q, closed⟩ := r
  subst hc
  cases ha : q.active with
  | false =>
    have stopped : needsPress (⟨q, false⟩ : PageReader σ) = true := by
      simp [needsPress, isWaiting, ha]
    cases confirm with
    | false => simpa [tick, ha] using Does.waits stopped
    | true =>
      have turned : Does ⟨q, false⟩ true (turnPage q) := does_turnPage ha (Nat.le_refl _)
      simpa [tick, ha] using turned
  | true =>
    cases hf : q.isFinished with
    | true =>
      have stopped : needsPress (⟨q, false⟩ : PageReader σ) = true := by
        simp [needsPress, hf]
      cases confirm with
      | false => simpa [tick, ha, hf] using Does.waits stopped
      | true => simpa [tick, ha, hf, close] using Does.closes (Nat.lt_succ_self _)
    | false =>
      cases confirm with
      | false =>
        have running : needsPress (⟨q, false⟩ : PageReader σ) = false := by
          simp [needsPress, isWaiting, ha, hf]
        have spent := Queue.work_runHead table ha hf
        simpa [tick, ha, hf] using Does.works running (Nat.succ_lt_succ spent)
      | true =>
        rw [tick_press rfl ha hf]
        exact does_press ha hf

theorem Does.action_eq_finished_iff (does : Does r confirm after) (opened : r.closed = false) :
    after.1 = some .finished ↔ after.2.closed = true := by
  cases does with
  | waits => simp [opened]
  | works | skips | turns | closes => simp

/-- A press is never lost. -/
theorem Does.action_ne_none (does : Does r true after) : after.1 ≠ none := by
  cases does <;> simp

/-- Without a press nothing is skipped, turned or closed. -/
theorem Does.action_eq_none (does : Does r false after) : after.1 = none := by
  cases does <;> rfl

theorem Does.work_lt (does : Does r confirm after) (busy : r.isBusy confirm = true) :
    after.2.work < r.work := by
  cases does with
  | waits stopped => simp [isBusy, stopped] at busy
  | works _ spent | skips _ spent | turns spent | closes spent => exact spent

theorem tick_of_not_isBusy (idle : r.isBusy confirm = false) : r.tick table confirm = (none, r) := by
  cases hc : r.closed with
  | true => exact tick_of_closed table hc confirm
  | false =>
    have does : Does r confirm (r.tick table confirm) := does_tick hc confirm
    obtain ⟨rfl, stopped⟩ : confirm = false ∧ r.needsPress = true := by
      simpa [isBusy, hc] using idle
    generalize r.tick table false = after at does
    cases does with
    | waits => rfl
    | works running => simp [running] at stopped

theorem work_tick_lt (busy : r.isBusy confirm = true) : (r.tick table confirm).2.work < r.work := by
  have opened : r.closed = false := by simp_all [isBusy]
  exact (does_tick opened confirm).work_lt busy

variable (table)

/-- The actions of a run. -/
def actions (r : PageReader σ) : List Bool → List PageAction
  | [] => []
  | confirm :: confirms =>
    (r.tick table confirm).1.toList ++ actions (r.tick table confirm).2 confirms

/-- How many frames of a run have something to do. -/
def busyFrames (r : PageReader σ) : List Bool → Nat
  | [] => 0
  | confirm :: confirms =>
    (if r.isBusy confirm then 1 else 0) + busyFrames (r.tick table confirm).2 confirms

theorem actions_of_closed (closed : r.closed = true) (confirms : List Bool) :
    r.actions table confirms = [] := by
  induction confirms with
  | nil => rfl
  | cons confirm confirms ih => rw [actions, tick_of_closed table closed, ih]; rfl

theorem play_of_closed (closed : r.closed = true) (confirms : List Bool) :
    r.play table confirms = r := by
  induction confirms with
  | nil => rfl
  | cons confirm confirms ih => rw [play_cons, tick_of_closed table closed, ih]

/-- What is still to come can be read on to the end, and starts with no skip where the page is shown
to its stop. -/
theorem exists_reading (opened : r.closed = false) (confirms : List Bool) :
    ∃ word, Reading word ∧ r.actions table confirms <+: word ∧
      (r.needsPress = true → word.head? ≠ some .skipped) := by
  induction confirms generalizing r with
  | nil => exact ⟨[.finished], .close, List.nil_prefix, fun _ => by simp⟩
  | cons confirm confirms ih =>
    have does : Does r confirm (r.tick table confirm) := does_tick opened confirm
    rw [actions]
    generalize r.tick table confirm = after at does
    cases does with
    | waits => exact ih opened
    | @works q running =>
      obtain ⟨word, reading, begins, -⟩ := ih (r := ⟨q, false⟩) rfl
      exact ⟨word, reading, begins, by simp [running]⟩
    | @skips q running _ stopped =>
      obtain ⟨word, reading, begins, fresh⟩ := ih (r := ⟨q, false⟩) rfl
      refine ⟨_, reading.skip (fresh stopped), ?_, by simp [running]⟩
      exact (List.prefix_cons_inj _).mpr begins
    | @turns q =>
      obtain ⟨word, reading, begins, -⟩ := ih (r := ⟨q, false⟩) rfl
      exact ⟨_, .turn reading, (List.prefix_cons_inj _).mpr begins, fun _ => by simp⟩
    | @closes q =>
      rw [actions_of_closed table (r := ⟨q, true⟩) rfl]
      exact ⟨_, .close, List.prefix_refl _, fun _ => by simp⟩

/-- Every busy frame of a run takes work off. -/
theorem busyFrames_add_work_le (r : PageReader σ) (confirms : List Bool) :
    r.busyFrames table confirms + (r.play table confirms).work ≤ r.work := by
  induction confirms generalizing r with
  | nil => exact Nat.le_of_eq (Nat.zero_add _)
  | cons confirm confirms ih =>
    have later := ih (r.tick table confirm).2
    rw [busyFrames, play_cons]
    cases busy : r.isBusy confirm with
    | true =>
      have spent : (r.tick table confirm).2.work < r.work := work_tick_lt busy
      simp only [if_true]
      omega
    | false =>
      rw [tick_of_not_isBusy busy] at later ⊢
      simpa using later

/-- On an open script every press is a busy frame. -/
theorem count_le_busyFrames (r : PageReader σ) (confirms : List Bool)
    (opened : (r.play table confirms).closed = false) :
    confirms.count true ≤ r.busyFrames table confirms := by
  induction confirms generalizing r with
  | nil => exact Nat.le_refl _
  | cons confirm confirms ih =>
    have later := ih (r.tick table confirm).2 opened
    have hc : r.closed = false := by
      rw [← Bool.not_eq_true]
      intro closed
      rw [play_of_closed table closed] at opened
      simp [closed] at opened
    rw [busyFrames, List.count_cons]
    cases confirm with
    | false => simpa using Nat.le_add_left_of_le later
    | true =>
      have busy : r.isBusy true = true := by simp [isBusy, hc]
      simp only [busy, beq_self_eq_true, if_true]
      omega

theorem ended_play {r : PageReader σ} (opened : r.closed = false) (confirms : List Bool)
    (closed : (r.play table confirms).closed = true) :
    (r.play table confirms).queue.active = true ∧
      (r.play table confirms).queue.isFinished = true :=
  Queue.next?_eq_none_iff.mp (next?_play table (by simp [opened]) closed)

theorem work_pos_of_open (opened : r.closed = false) : 0 < r.work := by
  simp [work, opened]

/-- Reading a script comes to an end. Its actions are the beginning of a reading: pages turned, then
the script closed, at most one skip before each. A frame without a press is no action, a press on an
open script always is one, and the script is closed by its last action, with nothing left to play
and nothing left to happen. Each frame that has something to do takes at least a unit off the work,
which is known from the events; so there are no more such frames, and as many of them, or as many
presses, close the script. -/
theorem play_closes (events : List Event) (host : σ) (confirms : List Bool) :
    let start : PageReader σ := ⟨{ events, host }, false⟩
    let r := start.play table confirms
    let bound := (pendingText events).length + 2 * events.length + 1
    (∃ word, Reading word ∧ start.actions table confirms <+: word) ∧
    (r.tick table false).1 = none ∧
    (r.closed = false → (r.tick table true).1 ≠ none) ∧
    (∀ confirm, (r.tick table confirm).1 = some .finished ↔
      r.closed = false ∧ (r.tick table confirm).2.closed = true) ∧
    (r.closed = true → r.queue.active = true ∧ r.queue.isFinished = true ∧
      ∀ confirm, r.tick table confirm = (none, r)) ∧
    (∀ confirm, if r.isBusy confirm then (r.tick table confirm).2.work < r.work
      else r.tick table confirm = (none, r)) ∧
    start.busyFrames table confirms + r.work ≤ bound ∧
    (bound ≤ start.busyFrames table confirms → r.closed = true) ∧
    (bound ≤ confirms.count true → r.closed = true) := by
  intro start r bound
  have within : start.busyFrames table confirms + r.work ≤ bound := by
    have spent := busyFrames_add_work_le table start confirms
    have total : start.work = bound := congrArg (· + 1) (eventsWork_eq events)
    exact total ▸ spent
  have closes : bound ≤ start.busyFrames table confirms → r.closed = true := by
    intro enough
    rw [← Bool.not_eq_false]
    intro opened
    have left := work_pos_of_open opened
    omega
  refine ⟨?_, ?_, ?_, ?_, ?_, ?_, within, closes, ?_⟩
  · obtain ⟨word, reading, begins, -⟩ := exists_reading table (r := start) rfl confirms
    exact ⟨word, reading, begins⟩
  · cases hc : r.closed with
    | true => rw [tick_of_closed table hc]
    | false => exact (does_tick hc false).action_eq_none
  · intro opened
    exact (does_tick opened true).action_ne_none
  · intro confirm
    cases hc : r.closed with
    | true => simp [tick_of_closed table hc]
    | false => simpa using (does_tick hc confirm).action_eq_finished_iff hc
  · intro closed
    obtain ⟨active, finished⟩ := ended_play table (r := start) rfl confirms closed
    exact ⟨active, finished, tick_of_closed table closed⟩
  · intro confirm
    split
    · next busy => exact work_tick_lt busy
    · next idle => exact tick_of_not_isBusy (Bool.eq_false_iff.mpr idle)
  · intro presses
    rw [← Bool.not_eq_false]
    intro opened
    have busy := count_le_busyFrames table start confirms opened
    exact absurd (closes (presses.trans busy)) (by simp [opened])

end PageReader
end Dialogue.Playback
