import Dialogue.Proofs.Playback.Conservation
import Dialogue.Terminal.Run

/-! What a round of a player does. Between two rounds the key is up and everything on display is
written. Away from the stops a round does a unit of work and writes what it adds; at a stop it
leaves the page, unless a press was asked for and came too soon. -/
namespace Dialogue.Terminal.Player

open Playback

/-- What the commands of a terminal come to: a line break. -/
def stock : List (String × Stock) := [(newlineCommand, .insert "\n")]

theorem commands_eq_ofStock : commands = .ofStock stock := rfl

theorem halts_stock (c : Command) : halts stock c = false := by
  unfold halts stock? stock
  rw [List.find?_cons]
  split <;> simp

structure Ready (options : PlayOptions) (p : Player) : Prop where
  opened : p.pages.closed = false
  halted : p.pages.queue.Halted stock
  printed : p.printed = p.pages.display.utf8ByteSize
  released : p.edge.wasPressed = false
  debounce : p.edge.debounce = options.debounce

/-- What is still to be written of each page. -/
def owed (r : PageReader Unit) : List String :=
  if r.closed then [] else (pagesOf r.queue.events).map (textOf stock Reveal.pending)

/-- The input has been seen to end after a demand is met. -/
def endedAfter (demand : Demand) (lines : List String) (p : Player) : Bool :=
  p.inputEnded || (demand = .line && lines.isEmpty)

variable {options : PlayOptions} {lines : List String} {p : Player}

inductive Outcome (options : PlayOptions) (lines : List String) (p : Player) :
    List Effect → Player → Prop
  | shows {added : String} {p' : Player} (away : p.demand options = .nothing)
      (work : p.pages.queue.Works commands p'.pages.queue)
      (shown : p'.pages.display = p.pages.display ++ added)
      (owed : owed p.pages = (owed p'.pages).modifyHead (added ++ ·))
      (report : p'.report = ⟨p.report.pages, p.report.chars + added.length⟩)
      (input : p'.inputEnded = p.inputEnded) (ready : Ready options p') :
      Outcome options lines p (.write added :: sleepFor (frameDelay options added.toList)) p'
  | refuses {p' : Player} {rest : List String} (asked : p.demand options = .line)
      (debounced : options.debounce ≠ 0) (owed : owed p.pages = "" :: rest)
      (pages : p'.pages = p.pages) (report : p'.report = p.report)
      (input : p'.inputEnded = p.endedAfter .line lines) (ready : Ready options p') :
      Outcome options lines p
        ([.write prompt, .write ""] ++ sleepFor (frameDelay options [])) p'
  | leaves {p' : Player} (stopped : p.demand options ≠ .nothing)
      (report : p'.report = ⟨p.report.pages + 1, p.report.chars⟩)
      (input : p'.inputEnded = p.endedAfter (p.demand options) lines)
      (owed : owed p.pages = "" :: owed p'.pages)
      (pages : p'.pages.closed = true ∨ Ready options p') :
      Outcome options lines p
        (Demand.effects (p.demand options) ++ [.write "", .write "\n"]) p'

theorem owed_of_closed {r : PageReader Unit} (closed : r.closed = true) : owed r = [] := by
  simp [owed, closed]

theorem owed_of_open {r : PageReader Unit} (opened : r.closed = false) :
    owed r = (pagesOf r.queue.events).map (textOf stock Reveal.pending) := by
  simp [owed, opened]

theorem demand_eq_nothing_iff : p.demand options = .nothing ↔ p.atStop = false := by
  unfold demand
  cases p.atStop with
  | false => simp
  | true => cases options.auto || p.inputEnded <;> simp

/-- Once everything on display is written, what comes to it is what is written next. -/
theorem gained_append (written : p.printed = p.pages.display.utf8ByteSize) (added : String) :
    p.gained (p.pages.display ++ added) =
      (added.toList, (p.pages.display ++ added).utf8ByteSize) := by
  have kept : ¬ (p.pages.display ++ added).utf8ByteSize < p.printed := by
    rw [written, String.utf8ByteSize_append]
    omega
  simp only [gained, if_neg kept]
  rw [written, Text.suffixFrom_append]

theorem gained_empty (p : Player) : p.gained "" = ([], 0) := by
  simp [gained, Text.suffixFrom]

theorem frame_of_tick_none (options : PlayOptions) {pages : PageReader Unit} {confirm : Bool}
    {chars : List Char} {printed : Nat} (tick : p.pages.tick commands confirm = (none, pages))
    (fresh : p.gained pages.display = (chars, printed)) :
    p.frame options confirm =
      (.write (String.ofList chars) :: sleepFor (frameDelay options chars),
        { p with
          pages, printed
          report := { p.report with chars := p.report.chars + chars.length } }) := by
  simp only [frame, tick, fresh]

theorem frame_of_tick_leaves (options : PlayOptions) {pages : PageReader Unit}
    {action : PageAction} {confirm : Bool} {printed : Nat}
    (tick : p.pages.tick commands confirm = (some action, pages))
    (leaves : action ≠ .skipped) (fresh : p.gained pages.display = ([], printed)) :
    p.frame options confirm =
      ([.write "", .write "\n"],
        { p with pages, printed, report := ⟨p.report.pages + 1, p.report.chars⟩ }) := by
  cases action with
  | skipped => contradiction
  | advance | finished => simp [frame, tick, fresh]

/-- Away from the stops the queue is active and has work left. -/
theorem Ready.running (ready : Ready options p) (away : p.atStop = false) :
    p.pages.queue.active = true ∧ p.pages.queue.isFinished = false := by
  simpa [atStop, PageReader.isWaiting, ready.opened] using away

theorem round_shows (ready : Ready options p) (away : p.demand options = .nothing) (now : Nat) :
    Outcome options lines p (p.round options now lines).1 (p.round options now lines).2 := by
  obtain ⟨ha, hf⟩ := ready.running (demand_eq_nothing_iff.mp away)
  have work : p.pages.queue.Works (.ofStock stock) (p.pages.queue.runHead commands).2 :=
    commands_eq_ofStock ▸ Queue.works_runHead commands ha hf
  obtain ⟨added, shown, cuts⟩ := work.moves_text
  have tick : p.pages.tick commands false =
      (none, { p.pages with queue := (p.pages.queue.runHead commands).2 }) := by
    simp [PageReader.tick, ready.opened, ha, hf]
  have fresh : (p.release now).gained (p.pages.queue.runHead commands).2.display =
      (added.toList, (p.pages.queue.runHead commands).2.display.utf8ByteSize) := by
    rw [shown]
    exact gained_append ready.printed added
  have framed := frame_of_tick_none (p := p.release now) options tick fresh
  simp only [round, away, meet, Demand.effects, List.nil_append, framed, String.ofList_toList]
  refine .shows away work shown ?_ rfl rfl ?_
  · simpa [owed, ready.opened] using cuts _ (cuts_pagesOf stock)
  · exact ⟨ready.opened, work.halted, rfl, rfl, ready.debounce⟩

/-- What a press at a stop makes of a queue: it goes past a page break, to the page behind it or to
the end, or it ends a script of which all is shown. -/
inductive Turns (q : Queue Unit) : PageAction → PageReader Unit → Prop
  | page {e : Event} {es : List Event} (ha : q.active = false)
      (first : q.events = .pageBreak :: e :: es) :
      Turns q .advance ⟨⟨e :: es, true, "", q.host⟩, false⟩
  | lastPage (ha : q.active = false) (first : q.events = [.pageBreak]) :
      Turns q .finished ⟨⟨[], true, "", q.host⟩, true⟩
  | script (ha : q.active = true) (hf : q.isFinished = true) : Turns q .finished ⟨q, true⟩

theorem exists_turns (ready : Ready options p) (stopped : p.atStop = true) :
    ∃ action pages, p.pages.tick commands true = (some action, pages) ∧
      Turns p.pages.queue action pages := by
  have hc := ready.opened
  cases ha : p.pages.queue.active with
  | false =>
    obtain ⟨e, es, first, rfl | ⟨c, rfl, stops⟩⟩ := ready.halted ha
    · cases es with
      | nil =>
        refine ⟨.finished, _, ?_, .lastPage ha first⟩
        simp [PageReader.tick, PageReader.turnPage, PageReader.close, Queue.pop, hc, ha, first]
      | cons x xs =>
        refine ⟨.advance, _, ?_, .page ha first⟩
        simp [PageReader.tick, PageReader.turnPage, Queue.pop, hc, ha, first]
    · simp [halts_stock] at stops
  | true =>
    have hf : p.pages.queue.isFinished = true := by
      simpa [atStop, PageReader.isWaiting, ha] using stopped
    refine ⟨.finished, _, ?_, .script ha hf⟩
    simp [PageReader.tick, PageReader.close, hc, ha, hf]

/-- A press at a stop leaves the page, which is complete: at a page break for the page behind it if
there is one, else for good. -/
theorem tick_leaves (ready : Ready options p) (stopped : p.atStop = true) :
    ∃ action pages, p.pages.tick commands true = (some action, pages) ∧ action ≠ .skipped ∧
      p.gained pages.display = ([], pages.display.utf8ByteSize) ∧
      owed p.pages = "" :: owed pages ∧
      (pages.closed = true ∨ pages.closed = false ∧ pages.queue.active = true) := by
  obtain ⟨action, pages, tick, turns⟩ := exists_turns ready stopped
  rw [owed_of_open ready.opened]
  refine ⟨action, pages, tick, ?_⟩
  cases turns with
  | page _ first =>
    refine ⟨by simp, gained_empty p, ?_, .inr ⟨rfl, rfl⟩⟩
    simp [owed, first, pagesOf_pageBreak]
  | lastPage _ first =>
    refine ⟨by simp, gained_empty p, ?_, .inl rfl⟩
    simp [owed, first]
  | script _ hf =>
    refine ⟨by simp, ?_, ?_, .inl rfl⟩
    · simpa [PageReader.display] using gained_append ready.printed ""
    · have cut := (cuts_pagesOf stock).dropWhile p.pages.queue.events
      rw [(Queue.dropWhile_eq_nil_iff p.pages.queue).mpr hf] at cut
      simp [owed, ← cut]

/-- Without a press nothing happens at a stop. -/
theorem tick_waits (ready : Ready options p) (stopped : p.atStop = true) :
    p.pages.tick commands false = (none, p.pages) := by
  cases ha : p.pages.queue.active with
  | false => simp [PageReader.tick, ready.opened, ha]
  | true =>
    have hf : p.pages.queue.isFinished = true := by
      simpa [atStop, PageReader.isWaiting, ha] using stopped
    simp [PageReader.tick, ready.opened, ha, hf]

/-- Meeting a demand leaves the key up, and changes nothing but what is known of key and input. -/
theorem meet_eq (p : Player) (demand : Demand) (lines : List String) (now : Nat) :
    ∃ edge, (p.meet demand lines.isEmpty now).2 =
        { p with edge, inputEnded := p.endedAfter demand lines } ∧
      edge.debounce = p.edge.debounce ∧ (p.edge.wasPressed = false → edge.wasPressed = false) := by
  cases demand with
  | nothing =>
    exact ⟨(p.edge.poll false now).2, by simp [meet, release, endedAfter], rfl, fun _ => rfl⟩
  | line =>
    refine ⟨((p.edge.poll true now).2.poll false now).2, by simp [meet, press, endedAfter], ?_,
      fun _ => rfl⟩
    unfold ConfirmEdge.poll
    split <;> rfl
  | time millis => exact ⟨p.edge, by simp [meet, endedAfter], rfl, id⟩

/-- A press counts where presses need no distance. -/
theorem poll_of_debounce_zero {e : ConfirmEdge} (released : e.wasPressed = false)
    (instant : e.debounce = 0) (now : Nat) : (e.poll true now).1 = true := by
  have soon : e.isTooSoon now = false := by
    unfold ConfirmEdge.isTooSoon
    split <;> simp [instant]
  simp [ConfirmEdge.poll, released, soon]

theorem atStop_of_demand_ne (stopped : p.demand options ≠ .nothing) : p.atStop = true := by
  rw [← Bool.not_eq_false]
  exact mt demand_eq_nothing_iff.mpr stopped

theorem round_leaves (ready : Ready options p) (stopped : p.demand options ≠ .nothing) {now : Nat}
    (confirmed : (p.meet (p.demand options) lines.isEmpty now).1 = true) :
    Outcome options lines p (p.round options now lines).1 (p.round options now lines).2 := by
  obtain ⟨action, pages, tick, other, fresh, owed, left⟩ :=
    tick_leaves ready (atStop_of_demand_ne stopped)
  obtain ⟨edge, met, debounce, released⟩ := meet_eq p (p.demand options) lines now
  have framed := frame_of_tick_leaves
    (p := { p with edge, inputEnded := p.endedAfter (p.demand options) lines })
    options tick other fresh
  simp only [round, confirmed, met, framed]
  refine .leaves stopped rfl rfl owed ?_
  obtain closed | ⟨opened, active⟩ := left
  · exact .inl closed
  · exact .inr ⟨opened, fun halted => absurd (active.symm.trans halted) (by simp), rfl,
      released ready.released, debounce.trans ready.debounce⟩

theorem round_refuses (ready : Ready options p) (stopped : p.demand options ≠ .nothing) {now : Nat}
    (refused : (p.meet (p.demand options) lines.isEmpty now).1 = false) :
    Outcome options lines p (p.round options now lines).1 (p.round options now lines).2 := by
  have asked : p.demand options = .line := by
    cases hd : p.demand options with
    | nothing => contradiction
    | line => rfl
    | time millis => simp [hd, meet] at refused
  rw [asked] at refused
  have debounced : options.debounce ≠ 0 := by
    intro instant
    have fired := poll_of_debounce_zero ready.released (ready.debounce.trans instant) now
    simp [meet, press, fired] at refused
  obtain ⟨-, pages, -, -, -, owed, -⟩ := tick_leaves ready (atStop_of_demand_ne stopped)
  obtain ⟨edge, met, debounce, released⟩ := meet_eq p .line lines now
  have waits := tick_waits ready (atStop_of_demand_ne stopped)
  have fresh := gained_append ready.printed ""
  rw [String.append_empty] at fresh
  have framed := frame_of_tick_none
    (p := { p with edge, inputEnded := p.endedAfter .line lines })
    options waits fresh
  simp only [round, asked, refused, met, framed]
  refine .refuses asked debounced owed rfl rfl rfl ?_
  exact ⟨ready.opened, ready.halted, rfl, released ready.released, debounce.trans ready.debounce⟩

theorem round_outcome (ready : Ready options p) (now : Nat) :
    Outcome options lines p (p.round options now lines).1 (p.round options now lines).2 := by
  by_cases away : p.demand options = .nothing
  · exact round_shows ready away now
  · cases confirm : (p.meet (p.demand options) lines.isEmpty now).1 with
    | true => exact round_leaves ready away confirm
    | false => exact round_refuses ready away confirm

theorem Outcome.next {effects : List Effect} {p' : Player}
    (outcome : Outcome options lines p effects p') :
    p'.pages.closed = true ∨ Ready options p' := by
  cases outcome with
  | shows _ _ _ _ _ _ ready => exact .inr ready
  | refuses _ _ _ _ _ _ ready => exact .inr ready
  | leaves _ _ _ _ next => exact next

end Dialogue.Terminal.Player
