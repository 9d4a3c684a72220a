import Dialogue.Proofs.Terminal.Output

/-! How long a player sleeps where pages are turned without asking. Every event of a script has its
time, and so has the stop at the end of a page. What is left of that in a script is the sleeps of a
player that are still to come. -/
namespace Dialogue.Terminal

open Playback

variable (options : PlayOptions) (part : Reveal → List Char)

/-- The time after a character. -/
def charSleep (c : Char) : Nat :=
  max (options.typewriter.charDelay + options.typewriter.extraDelayAfter c) options.frameInterval

/-- The times after the frames of an event, if `part` of a text counts. -/
def eventSleeps : Event → List Nat
  | .text r => (part r).map (charSleep options)
  | .pageBreak => []
  | .command c =>
    if c.name = newlineCommand then
      [max (options.typewriter.charDelay + options.typewriter.newlineDelay) options.frameInterval]
    else [options.frameInterval]

/-- The times of a page: those of its events, one for a page break at its end, and the stop. -/
def pageSleeps (broken : Bool) (page : List Event) : List Nat :=
  page.flatMap (eventSleeps options part) ++
    (if broken then [options.frameInterval] else []) ++ [options.typewriter.autoCompleteDelay]

/-- The times of a script. As many of its pages as there are page breaks end in one. -/
def scriptSleeps (es : List Event) : List Nat :=
  (pagesOf es).zipIdx.flatMap fun (page, i) =>
    pageSleeps options part (decide (i < es.count .pageBreak)) page

section
variable {options part}

theorem scriptSleeps_nil :
    scriptSleeps options part [] = [options.typewriter.autoCompleteDelay] := by
  simp [scriptSleeps, pageSleeps]

theorem scriptSleeps_cons {e : Event} (h : e ≠ .pageBreak) (es : List Event) :
    scriptSleeps options part (e :: es) =
      eventSleeps options part e ++ scriptSleeps options part es := by
  obtain ⟨first, rest, pages⟩ := exists_pagesOf es
  have breaks : (e :: es).count .pageBreak = es.count .pageBreak := List.count_cons_of_ne h
  rw [scriptSleeps, scriptSleeps, breaks, pagesOf_cons h, pages]
  simp [pageSleeps]

theorem scriptSleeps_lastBreak :
    scriptSleeps options part [.pageBreak] =
      [options.frameInterval, options.typewriter.autoCompleteDelay] := by
  simp [scriptSleeps, pageSleeps]

theorem scriptSleeps_pageBreak {es : List Event} (h : es ≠ []) :
    scriptSleeps options part (.pageBreak :: es) =
      options.frameInterval :: options.typewriter.autoCompleteDelay ::
        scriptSleeps options part es := by
  rw [scriptSleeps, scriptSleeps, pagesOf_pageBreak h, List.count_cons_self, List.zipIdx_cons,
    List.zipIdx_succ, List.flatMap_cons, List.flatMap_map]
  simp [pageSleeps]

/-- Of a fresh script all of the text is pending. -/
theorem scriptSleeps_of_fresh {es : List Event} (fresh : ∀ e ∈ es, e.Fresh) :
    scriptSleeps options Reveal.pending es = scriptSleeps options Reveal.runes es := by
  induction es with
  | nil => rw [scriptSleeps_nil, scriptSleeps_nil]
  | cons e es ih =>
    obtain ⟨first, rest⟩ := List.forall_mem_cons.mp fresh
    cases e with
    | text r =>
      have none_shown : r.shown = "" := String.isEmpty_iff.mp first
      have all_pending : r.runes = r.pending := by simp [Reveal.runes, none_shown]
      rw [scriptSleeps_cons (by simp), scriptSleeps_cons (by simp), ih rest, eventSleeps,
        eventSleeps, all_pending]
    | pageBreak =>
      by_cases last : es = []
      · rw [last, scriptSleeps_lastBreak, scriptSleeps_lastBreak]
      · rw [scriptSleeps_pageBreak last, scriptSleeps_pageBreak last, ih rest]
    | command c =>
      rw [scriptSleeps_cons (by simp), scriptSleeps_cons (by simp), ih rest, eventSleeps,
        eventSleeps]

/-- Texts shown completely take no time. -/
theorem scriptSleeps_dropWhile (es : List Event) :
    scriptSleeps options Reveal.pending (es.dropWhile Event.isExhausted) =
      scriptSleeps options Reveal.pending es := by
  refine apply_dropWhile_isExhausted ?_ es
  intro r es none_left
  rw [scriptSleeps_cons (by simp), eventSleeps, none_left]
  rfl

end

namespace Player

/-- The times of a queue that are still to come. At a page break the one for coming to it is
over. -/
def queueSleeps (options : PlayOptions) (q : Queue Unit) : List Nat :=
  if q.active then scriptSleeps options Reveal.pending q.events
  else (scriptSleeps options Reveal.pending q.events).tail

def sleepsLeft (options : PlayOptions) (r : PageReader Unit) : List Nat :=
  if r.closed then [] else queueSleeps options r.queue

variable {options : PlayOptions} {lines : List String} {p p' : Player} {q q' : Queue Unit}
  {added : String}

theorem frameDelay_nil (options : PlayOptions) : frameDelay options [] = options.frameInterval :=
  Nat.zero_max _

theorem inserted_stock (c : Command) :
    inserted stock c = if c.name = newlineCommand then "\n" else "" :=
  (eventText_eq_shows (.command c)).symm

/-- A unit of work takes the time of what it shows. -/
theorem queueSleeps_works (work : Queue.Works (.ofStock stock) q q')
    (shown : q'.display = q.display ++ added) :
    scriptSleeps options Reveal.pending q.events =
      frameDelay options added.toList :: queueSleeps options q' := by
  rw [← scriptSleeps_dropWhile]
  cases work with
  | @reveal r r' c es first next =>
    have one : String.singleton c = added :=
      (String.append_right_inj _).mp (String.append_singleton.trans shown)
    rw [first, scriptSleeps_cons (by simp), eventSleeps, Reveal.pending_of_next? next,
      ← one, String.toList_singleton, queueSleeps, if_pos rfl, scriptSleeps_cons (by simp),
      eventSleeps]
    rfl
  | @arrive es first =>
    have nothing : added = "" := String.append_eq_left_iff.mp shown.symm
    rw [first, nothing, String.toList_empty, frameDelay_nil, queueSleeps, if_neg Bool.false_ne_true]
    by_cases last : es = []
    · rw [last, scriptSleeps_lastBreak, List.tail_cons]
    · rw [scriptSleeps_pageBreak last, List.tail_cons]
  | @proceed c es first flow =>
    have inserts : inserted stock c = added := by
      rw [CommandTable.invoke_ofStock] at shown
      exact (String.append_right_inj _).mp shown
    rw [first, scriptSleeps_cons (by simp), ← inserts, inserted_stock, queueSleeps, if_pos rfl,
      eventSleeps]
    split
    · rfl
    · rw [String.toList_empty, frameDelay_nil, List.singleton_append]
  | halt first flow =>
    rw [CommandTable.invoke_ofStock_eq_halt_iff, halts_stock] at flow
    contradiction

/-- At a stop the time of the stop is still to come, and then what is left once it is passed. -/
theorem queueSleeps_turns {action : PageAction} {pages : PageReader Unit}
    (turns : Turns q action pages) :
    queueSleeps options q = options.typewriter.autoCompleteDelay :: sleepsLeft options pages := by
  cases turns with
  | page ha first =>
    rw [queueSleeps, ha, first, scriptSleeps_pageBreak (List.cons_ne_nil _ _)]
    rfl
  | lastPage ha first =>
    rw [queueSleeps, ha, first, scriptSleeps_lastBreak]
    rfl
  | script ha hf =>
    rw [queueSleeps, if_pos ha, ← scriptSleeps_dropWhile, (Queue.dropWhile_eq_nil_iff q).mpr hf,
      scriptSleeps_nil]
    rfl

theorem sleepsLeft_of_open {r : PageReader Unit} (opened : r.closed = false) :
    sleepsLeft options r = queueSleeps options r.queue := by
  rw [sleepsLeft, opened]
  rfl

@[simp] theorem sleeps_append (first second : List Effect) :
    sleeps (first ++ second) = sleeps first ++ sleeps second :=
  List.filterMap_append

@[simp] theorem sleeps_write (text : String) (effects : List Effect) :
    sleeps (.write text :: effects) = sleeps effects := rfl

@[simp] theorem sleeps_nil : sleeps [] = [] := rfl

/-- Only times that are not zero are slept. -/
@[simp] theorem sleeps_sleepFor (millis : Nat) :
    sleeps (sleepFor millis) = [millis].filter (· ≠ 0) := by
  by_cases instant : millis = 0 <;> simp [sleepFor, instant, sleeps]

/-- A round sleeps through the first of what is left. -/
theorem sleeps_round (ready : Ready options p) (auto : options.auto = true) (now : Nat) :
    sleeps (p.round options now lines).1 ++
        (sleepsLeft options (p.round options now lines).2.pages).filter (· ≠ 0) =
      (sleepsLeft options p.pages).filter (· ≠ 0) := by
  have outcome : Outcome options lines p _ _ := round_outcome ready now
  rw [sleepsLeft_of_open ready.opened]
  cases stopped : p.atStop with
  | false =>
    have away : p.demand options = .nothing := demand_eq_nothing_iff.mpr stopped
    have left : queueSleeps options p.pages.queue =
        scriptSleeps options Reveal.pending p.pages.queue.events :=
      if_pos (ready.running stopped).left
    generalize (p.round options now lines).1 = effects at outcome
    generalize (p.round options now lines).2 = p' at outcome
    cases outcome with
    | shows _ work shown _ _ _ ready' =>
      rw [sleepsLeft_of_open ready'.opened, left, queueSleeps_works work shown, sleeps_write,
        sleeps_sleepFor, ← List.filter_append]
      rfl
    | refuses asked => simp [away] at asked
    | leaves stops => exact absurd away stops
  | true =>
    have timed : p.demand options = .time options.typewriter.autoCompleteDelay := by
      simp [demand, stopped, auto]
    obtain ⟨action, pages, tick, turns⟩ := exists_turns ready stopped
    have turned : (p.round options now lines).2.pages = pages := by
      simp [round, timed, meet, frame_pages, tick]
    rw [turned, queueSleeps_turns turns]
    generalize (p.round options now lines).1 = effects at outcome
    generalize (p.round options now lines).2 = p' at outcome
    cases outcome with
    | shows away => simp [timed] at away
    | refuses asked => simp [timed] at asked
    | leaves =>
      rw [timed, sleeps_append, Demand.effects, sleeps_sleepFor, sleeps_write, sleeps_write,
        sleeps_nil, List.append_nil, ← List.filter_append]
      rfl

theorem sleeps_run (auto : options.auto = true) (lines : List String) (clock : Nat → Nat → Nat)
    (rounds slept : Nat) (ready : p.pages.closed = true ∨ Ready options p) :
    sleeps (p.run options clock rounds slept lines).1 =
      (sleepsLeft options p.pages).filter (· ≠ 0) := by
  -- What is left gets shorter from its front with every round, and is used up when all is closed.
  fun_induction run options clock rounds slept lines p with
  | case1 rounds slept lines p closed => simp [sleepsLeft, closed]
  | case2 rounds slept lines p opened round rest ih =>
    have ready := ready.resolve_left opened
    have outcome : Outcome options lines p round.1 round.2 := round_outcome ready _
    rw [sleeps_append, ih outcome.next]
    exact sleeps_round ready auto (clock rounds slept)

end Player

/-- Where pages are turned without asking, a player sleeps as long as the script asks for, page by
page and event by event, whatever the input is: after each character its delay and what it adds, and
at least as long as a frame; after a line break likewise, and after any other command and on coming
to a page break as long as a frame; and at the end of each page, until it is turned. Times that are
zero are left out. -/
theorem auto_play_sleeps (settings : Settings) {source : List Char} {events : List Event}
    (compiled : compile settings.checker.marker source = .ok events) {options : PlayOptions}
    (auto : options.auto = true) (clock : Nat → Nat → Nat) (input : String) :
    ∃ queue, queueOf settings source = .ok queue ∧
      sleeps (play queue options clock input).1 =
        (scriptSleeps options Reveal.runes events).filter (· ≠ 0) := by
  refine ⟨{ events, host := () }, by rw [queueOf, compiled]; rfl, ?_⟩
  rw [← scriptSleeps_of_fresh (fresh_of_compile compiled)]
  exact Player.sleeps_run auto (inputLines input) clock 0 0 (.inr (ready_start events options))

theorem auto_play_sleeps_two_pages :
    let source := "あ。[r][se][p]い".toList
    let events : List Event := [.text (.ofText "あ。"), .command ⟨newlineCommand, .empty⟩,
      .command ⟨"se", .empty⟩, .pageBreak, .text (.ofText "い")]
    let options : PlayOptions := ⟨.default, 16, 0, true⟩
    compile Settings.default.checker.marker source = .ok events ∧ options.auto = true ∧
      ∃ queue, queueOf Settings.default source = .ok queue ∧
        sleeps (play queue options (fun _ _ => 0) "").1 =
          [50, 450, 300, 16, 16, 1500, 50, 1500] := by
  intro source events options
  have compiled : compile Settings.default.checker.marker source = .ok events := by
    decide +kernel
  have auto : options.auto = true := rfl
  obtain ⟨queue, made, slept⟩ :=
    auto_play_sleeps Settings.default compiled auto (fun _ _ => 0) ""
  exact ⟨compiled, auto, queue, made, slept.trans (by decide)⟩

end Dialogue.Terminal
