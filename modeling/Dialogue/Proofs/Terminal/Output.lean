import Dialogue.Proofs.Terminal.Rounds
import Mathlib.Algebra.GroupWithZero.Nat

/-! What a player writes until the script is closed. The pages come in their order, each with the
prompts of the stop at its end and a newline. How many prompts there are depends on the input: none
where pages are turned without asking, and never more than there are lines to be read and one for
the end of the input. -/
namespace Dialogue.Terminal

open Playback

/-- What an event of a script shows in a terminal. -/
def eventText : Event → String
  | .text r => String.ofList r.runes
  | .pageBreak => ""
  | .command c => if c.name = newlineCommand then "\n" else ""

def pageText (page : List Event) : String := String.join (page.map eventText)

/-- A page with `prompts` prompts at its end. -/
def pageOutput (text : String) (prompts : Nat) : String :=
  text ++ String.join (List.replicate prompts Player.prompt) ++ "\n"

/-- The pages `texts` with as many prompts each. -/
def output (texts : List String) (prompts : List Nat) : String :=
  String.join (List.zipWith pageOutput texts prompts)

theorem eventText_eq_shows (e : Event) : eventText e = e.shows Player.stock Reveal.runes := by
  cases e with
  | text | pageBreak => rfl
  | command c =>
    by_cases hn : c.name = newlineCommand
    · simp [eventText, Event.shows, inserted, stock?, Player.stock, hn]
    · simp [eventText, Event.shows, inserted, stock?, Player.stock, hn, Ne.symm hn]

theorem pageText_eq_textOf (page : List Event) :
    pageText page = textOf Player.stock Reveal.runes page := by
  unfold pageText textOf
  rw [List.map_congr_left fun e _ => eventText_eq_shows e]

@[simp] theorem written_append (first second : List Effect) :
    written (first ++ second) = written first ++ written second := by
  simp [written]

@[simp] theorem written_write (text : String) (effects : List Effect) :
    written (.write text :: effects) = text ++ written effects := by
  simp [written]

@[simp] theorem written_sleepFor (millis : Nat) : written (Player.sleepFor millis) = "" := by
  unfold Player.sleepFor
  split <;> rfl

namespace Player

/-- How many prompts the input allows for. -/
def promptsLeft (options : PlayOptions) (lines : List String) (p : Player) : Nat :=
  if options.auto || p.inputEnded then 0 else lines.length + 1

/-- The prompts of the pages where every press counts: one each while the input lasts. -/
def evenPrompts (pages allowed : Nat) : List Nat :=
  (List.range pages).map fun i => if i < allowed then 1 else 0

theorem promptsLeft_of_time {options : PlayOptions} {lines : List String} {p : Player}
    {millis : Nat} (timed : p.demand options = .time millis) : promptsLeft options lines p = 0 := by
  unfold demand at timed
  unfold promptsLeft
  split at timed
  · contradiction
  · split at timed
    · next unasked => rw [if_pos unasked]
    · contradiction

theorem evenPrompts_succ (pages allowed : Nat) :
    evenPrompts (pages + 1) (allowed + 1) = 1 :: evenPrompts pages allowed := by
  simp [evenPrompts, List.range_succ_eq_map]

theorem evenPrompts_zero (pages : Nat) :
    evenPrompts (pages + 1) 0 = 0 :: evenPrompts pages 0 := by
  simp [evenPrompts, List.range_succ_eq_map, Function.comp_def]

variable {options : PlayOptions} {lines : List String} {p p' : Player}
  {effects : List Effect} {report : PlayReport} {prompts : List Nat}

/-- A run from `p` writes what is owed, with `prompts` prompts for each page. -/
structure Plays (options : PlayOptions) (lines : List String) (p : Player)
    (effects : List Effect) (report : PlayReport) (prompts : List Nat) : Prop where
  length : prompts.length = (owed p.pages).length
  written : written effects = output (owed p.pages) prompts
  report : report = ⟨p.report.pages + (owed p.pages).length,
    p.report.chars + ((owed p.pages).map String.length).sum⟩
  sum_le : prompts.sum ≤ promptsLeft options lines p
  even : options.debounce = 0 →
    prompts = evenPrompts (owed p.pages).length (promptsLeft options lines p)

/-- A run from a player that still owes a page writes prompts for it. -/
theorem Plays.exists_cons (plays : Plays options lines p effects report prompts)
    {first : String} {rest : List String} (owed : owed p.pages = first :: rest) :
    ∃ prompt more, prompts = prompt :: more := by
  apply List.exists_cons_of_length_pos
  rw [plays.length, owed]
  exact Nat.succ_pos _

/-- The prompt of a demand. -/
def promptsOf (demand : Demand) : Nat := if demand = .line then 1 else 0

theorem written_effects (demand : Demand) :
    written (Demand.effects demand) = String.join (List.replicate (promptsOf demand) prompt) := by
  cases demand with
  | nothing => rfl
  | line => simp [Demand.effects, promptsOf, written]
  | time millis => simp [Demand.effects, promptsOf]

/-- Meeting a demand uses up the prompt it is made with. -/
theorem promptsLeft_eq (input : p'.inputEnded = p.endedAfter (p.demand options) lines)
    (stopped : p.demand options ≠ .nothing) :
    promptsLeft options lines p =
      promptsOf (p.demand options) +
        promptsLeft options (linesAfter (p.demand options) lines) p' := by
  have atStop := atStop_of_demand_ne stopped
  cases ht : options.auto || p.inputEnded with
  | true =>
    have hd : p.demand options = .time options.typewriter.autoCompleteDelay := by
      simp [demand, atStop, ht]
    rw [hd] at input ⊢
    have kept : p'.inputEnded = p.inputEnded := by simpa [endedAfter] using input
    simp [promptsLeft, promptsOf, kept, ht]
  | false =>
    have hd : p.demand options = .line := by simp [demand, atStop, ht]
    rw [hd] at input ⊢
    obtain ⟨asks, unended⟩ := Bool.or_eq_false_iff.mp ht
    cases lines with
    | nil => simp [promptsLeft, promptsOf, asks, unended, input, endedAfter]
    | cons line rest =>
      simp [promptsLeft, promptsOf, asks, unended, input, endedAfter, linesAfter]
      omega

/-- What is written first is a part of the first page. -/
theorem Plays.shows {added : String} {millis : Nat} {first : String} {rest : List String}
    (plays : Plays options lines p' effects report prompts)
    (before : owed p'.pages = first :: rest) (owed : owed p.pages = (added ++ first) :: rest)
    (told : p'.report = ⟨p.report.pages, p.report.chars + added.length⟩)
    (input : p'.inputEnded = p.inputEnded) :
    Plays options lines p (.write added :: sleepFor millis ++ effects) report prompts := by
  obtain ⟨prompt, more, rfl⟩ := plays.exists_cons before
  have allowed : promptsLeft options lines p = promptsLeft options lines p' := by
    simp [promptsLeft, input]
  refine ⟨?_, ?_, ?_, ?_, ?_⟩
  · rw [plays.length, owed, before]
    rfl
  · rw [List.cons_append, written_write, written_append, written_sleepFor, plays.written, owed,
      before]
    simp [output, pageOutput, String.append_assoc]
  · rw [plays.report, owed, before, told]
    simp [Nat.add_assoc]
  · rw [allowed]
    exact plays.sum_le
  · rw [allowed, owed]
    simpa [before] using plays.even

/-- A press that comes too soon adds a prompt to the page. -/
theorem Plays.refuses {millis first : Nat} {more : List Nat} {rest : List String}
    (plays : Plays options lines.tail p' effects report (first :: more))
    (asked : p.demand options = .line) (debounced : options.debounce ≠ 0)
    (owed : owed p.pages = "" :: rest) (pages : p'.pages = p.pages) (told : p'.report = p.report)
    (input : p'.inputEnded = p.endedAfter .line lines) :
    Plays options lines p ([.write prompt, .write ""] ++ sleepFor millis ++ effects) report
      ((first + 1) :: more) := by
  have allowed : promptsLeft options lines p = 1 + promptsLeft options lines.tail p' := by
    rw [promptsLeft_eq (asked ▸ input) (by simp [asked]), asked]
    rfl
  refine ⟨?_, ?_, ?_, ?_, ?_⟩
  · rw [← pages, ← plays.length]
    rfl
  · simp [plays.written, pages, owed, output, pageOutput, List.replicate_succ, String.append_assoc]
  · rw [plays.report, pages, told]
  · have sum_le := plays.sum_le
    rw [List.sum_cons] at sum_le ⊢
    omega
  · intro instant
    contradiction

/-- A page that is left has the prompt of its demand and a newline. -/
theorem Plays.leaves
    (plays : Plays options (linesAfter (p.demand options) lines) p' effects report prompts)
    (stopped : p.demand options ≠ .nothing) (owed : owed p.pages = "" :: owed p'.pages)
    (told : p'.report = ⟨p.report.pages + 1, p.report.chars⟩)
    (input : p'.inputEnded = p.endedAfter (p.demand options) lines) :
    Plays options lines p
      (Demand.effects (p.demand options) ++ [.write "", .write "\n"] ++ effects) report
      (promptsOf (p.demand options) :: prompts) := by
  have allowed := promptsLeft_eq input stopped
  refine ⟨?_, ?_, ?_, ?_, ?_⟩
  · simp [plays.length, owed]
  · simp [written_effects, plays.written, owed, output, pageOutput, String.append_assoc]
  · rw [plays.report, owed, told]
    simp [Nat.add_assoc, Nat.add_comm]
  · have sum_le := plays.sum_le
    rw [List.sum_cons, allowed]
    omega
  · intro instant
    rw [plays.even instant, owed, allowed, List.length_cons]
    cases hd : p.demand options with
    | nothing => contradiction
    | line => rw [promptsOf, if_pos rfl, Nat.add_comm 1, evenPrompts_succ, linesAfter]
    | time millis =>
      rw [promptsLeft_of_time hd] at allowed
      have none_left := (Nat.add_eq_zero_iff.mp allowed.symm).2
      rw [hd] at none_left
      rw [none_left]
      exact (evenPrompts_zero _).symm

/-- What a round does, with what the run does after it. -/
theorem Outcome.plays {first : List Effect} (outcome : Outcome options lines p first p')
    (later : p'.pages.closed = true ∨ Ready options p' →
      ∃ prompts, Plays options (linesAfter (p.demand options) lines) p' effects report prompts) :
    ∃ prompts, Plays options lines p (first ++ effects) report prompts := by
  cases outcome with
  | @shows added p' away work shown owed told input ready =>
    obtain ⟨prompts, plays⟩ := later (.inr ready)
    obtain ⟨page, rest, pages⟩ := exists_pagesOf p'.pages.queue.events
    have before := owed_of_open ready.opened
    rw [pages, List.map_cons] at before
    rw [before, List.modifyHead_cons] at owed
    rw [away] at plays
    exact ⟨prompts, plays.shows before owed told input⟩
  | @refuses p' rest asked debounced owed pages told input ready =>
    obtain ⟨prompts, plays⟩ := later (.inr ready)
    obtain ⟨prompt, more, rfl⟩ := plays.exists_cons (pages ▸ owed)
    rw [asked] at plays
    exact ⟨_, plays.refuses asked debounced owed pages told input⟩
  | leaves stopped told input owed next =>
    obtain ⟨prompts, plays⟩ := later next
    exact ⟨_, plays.leaves stopped owed told input⟩

/-- Once the script is closed nothing is owed and nothing is written. -/
theorem plays_closed (closed : p.pages.closed = true) : Plays options lines p [] p.report [] := by
  have none_owed := owed_of_closed closed
  refine ⟨?_, ?_, ?_, ?_, ?_⟩
  · simp [none_owed]
  · rw [none_owed]
    rfl
  · simp [none_owed]
  · exact Nat.zero_le _
  · intro _
    rw [none_owed]
    rfl

theorem exists_plays (lines : List String) (clock : Nat → Nat → Nat) (rounds slept : Nat)
    (ready : p.pages.closed = true ∨ Ready options p) :
    ∃ prompts, Plays options lines p (p.run options clock rounds slept lines).1
      (p.run options clock rounds slept lines).2 prompts := by
  -- A player is closed or ready before every round, whatever the clock has shown so far.
  fun_induction run options clock rounds slept lines p with
  | case1 rounds slept lines p closed => exact ⟨[], plays_closed closed⟩
  | case2 rounds slept lines p opened round rest ih =>
    have ready := ready.resolve_left opened
    exact (round_outcome ready (clock rounds slept)).plays ih

end Player

/-- A player that is started owes the whole of the script. -/
theorem owed_start {events : List Event} (fresh : ∀ e ∈ events, e.Fresh) (options : PlayOptions) :
    Player.owed (Player.start { events, host := () } options).pages =
      (pagesOf events).map pageText := by
  rw [Player.owed_of_open rfl, Player.start, pageTexts_of_fresh Player.stock fresh]
  exact List.map_congr_left fun page _ => (pageText_eq_textOf page).symm

theorem ready_start (events : List Event) (options : PlayOptions) :
    Player.Ready options (Player.start { events, host := () } options) :=
  ⟨rfl, fun halted => absurd halted Bool.noConfusion, rfl, rfl, rfl⟩

/-- Playing a script in a terminal writes its pages in their order, each with its prompts and a
newline, and counts them and their characters. Where pages are turned without asking there are no
prompts; else there are at most as many as lines of input and one more, and if every press counts
they are one for each page up to that number. -/
theorem play_writes_script (settings : Settings) {source : List Char} {events : List Event}
    (compiled : compile settings.checker.marker source = .ok events) (options : PlayOptions)
    (clock : Nat → Nat → Nat) (input : String) :
    ∃ queue, queueOf settings source = .ok queue ∧
      let texts := (pagesOf events).map pageText
      let allowed := (inputLines input).length + 1
      let played := play queue options clock input
      ∃ prompts : List Nat, prompts.length = texts.length ∧
        written played.1 = output texts prompts ∧
        played.2 = ⟨texts.length, (texts.map String.length).sum⟩ ∧
        (options.auto = true → ∀ count ∈ prompts, count = 0) ∧
        (options.auto = false → prompts.sum ≤ allowed ∧
          (options.debounce = 0 →
            ∀ i, (h : i < prompts.length) → prompts[i] = if i < allowed then 1 else 0)) := by
  have fresh := fresh_of_compile compiled
  refine ⟨{ events, host := () }, by rw [queueOf, compiled]; rfl, ?_⟩
  intro texts allowed played
  obtain ⟨prompts, plays⟩ := Player.exists_plays (inputLines input) clock 0 0
    (.inr (ready_start events options))
  obtain ⟨length, written, report, sum_le, even⟩ := plays
  rw [owed_start fresh] at length written report even
  refine ⟨prompts, length, written, ?_, ?_, ?_⟩
  · exact report.trans (by simp [Player.start, texts])
  · intro auto count mem
    have none_allowed : Player.promptsLeft options (inputLines input)
        (Player.start { events, host := () } options) = 0 := by simp [Player.promptsLeft, auto]
    rw [none_allowed, Nat.le_zero, List.sum_eq_zero_iff_forall_eq_nat] at sum_le
    exact sum_le count mem
  · intro asks
    have all_allowed : Player.promptsLeft options (inputLines input)
        (Player.start { events, host := () } options) = allowed := by
      simp [Player.promptsLeft, asks, Player.start, allowed]
    rw [all_allowed] at sum_le even
    refine ⟨sum_le, ?_⟩
    intro instant i h
    simp [even instant, Player.evenPrompts]

theorem play_writes_two_pages :
    let events : List Event := [.text (.ofText "a"), .command ⟨newlineCommand, .empty⟩, .pageBreak,
      .text (.ofText "b")]
    let options : PlayOptions := ⟨.default, 16, 0, false⟩
    compile Settings.default.checker.marker "a[r][p]b".toList = .ok events ∧
      ∃ queue, queueOf Settings.default "a[r][p]b".toList = .ok queue ∧
        written (play queue options (fun _ _ => 0) "\n").1 = "a\n ▼\nb ▼\n" := by
  intro events options
  have compiled : compile Settings.default.checker.marker "a[r][p]b".toList = .ok events := by
    decide +kernel
  obtain ⟨queue, made, prompts, length, shown, -, -, asks⟩ :=
    play_writes_script Settings.default compiled options (fun _ _ => 0) "\n"
  obtain ⟨first, second, rfl⟩ := List.length_eq_two.mp (length.trans (by decide : _ = 2))
  have allowed : (inputLines "\n").length + 1 = 2 := by decide
  have each := (asks rfl).2 rfl
  have one : first = 1 := (each 0 (by simp)).trans (by rw [allowed]; rfl)
  have other : second = 1 := (each 1 (by simp)).trans (by rw [allowed]; rfl)
  rw [one, other] at shown
  exact ⟨compiled, queue, made, shown.trans (by decide)⟩

end Dialogue.Terminal
