import Dialogue.Playback.Work
import Dialogue.Terminal.Player

/-! Playing a script to its end. The input and the readings of the clock are given beforehand. -/
namespace Dialogue.Terminal.Player

open Playback

/-- What remains to be done: work on the pages, lines to be read, and seeing the input end. -/
def work (p : Player) (lines : List String) : Nat :=
  p.pages.work + lines.length + if p.inputEnded then 0 else 1

/-- The lines left after a demand is met. -/
def linesAfter (demand : Demand) (lines : List String) : List String :=
  match demand with
  | .line => lines.tail
  | .nothing | .time _ => lines

/-- One round: the demand, then the frame. -/
def round (options : PlayOptions) (now : Nat) (lines : List String) (p : Player) :
    List Effect × Player :=
  let demand := p.demand options
  let (confirm, p) := p.meet demand lines.isEmpty now
  let (effects, p) := p.frame options confirm
  (Demand.effects demand ++ effects, p)

theorem tick_false_of_atStop {r : PageReader Unit} (h : r.isWaiting || r.queue.isFinished) :
    (r.tick commands false).2 = r := by
  unfold PageReader.tick
  simp only [PageReader.isWaiting] at h
  cases r.closed <;> cases ha : r.queue.active <;> cases hf : r.queue.isFinished <;> simp_all

/-- Every round brings the end nearer. -/
theorem work_round (options : PlayOptions) (now : Nat) (lines : List String) {p : Player}
    (h : p.pages.closed = false) :
    (p.round options now lines).2.work (linesAfter (p.demand options) lines) < p.work lines := by
  unfold round
  simp only
  cases hs : p.atStop with
  | false =>
    have hd : p.demand options = .nothing := by simp [demand, hs]
    have := @PageReader.work_tick_of_atStop _ commands p.pages false h
      (by simp_all [atStop]) (by simp)
    simp [hd, meet, release, linesAfter, work, frame_pages, frame_inputEnded]
    omega
  | true =>
    cases ht : options.auto || p.inputEnded with
    | true =>
      have hd : p.demand options = .time options.typewriter.autoCompleteDelay := by
        simp_all [demand]
      have := @PageReader.work_tick_of_atStop _ commands p.pages true h
        (by simp) (by simpa [atStop] using hs)
      simp [hd, meet, linesAfter, work, frame_pages, frame_inputEnded]
      omega
    | false =>
      have hd : p.demand options = .line := by simp_all [demand]
      have hi : p.inputEnded = false := by simp_all
      simp only [hd, meet, linesAfter, press, work, frame_pages, frame_inputEnded, hi]
      have hle : ∀ confirm, (p.pages.tick commands confirm).2.work ≤ p.pages.work := by
        intro confirm
        cases confirm with
        | true =>
          exact Nat.le_of_lt (PageReader.work_tick_of_atStop commands h (by simp)
            (by simpa [atStop] using hs))
        | false =>
          exact Nat.le_of_eq
            (congrArg PageReader.work (tick_false_of_atStop (by simpa [atStop] using hs)))
      have := hle (p.edge.poll true now).1
      cases lines with
      | nil =>
        simp only [List.isEmpty_nil, Bool.or_true, List.tail_nil, List.length_nil, if_true,
          Bool.false_eq_true, if_false]
        omega
      | cons l ls =>
        simp only [List.isEmpty_cons, Bool.or_false, List.tail_cons, List.length_cons,
          Bool.false_eq_true, if_false]
        omega

/-- The time that effects take by themselves. -/
def sleepTime : List Effect → Nat
  | [] => 0
  | .sleep millis :: effects => millis + sleepTime effects
  | .write _ :: effects => sleepTime effects

/-- What a terminal sees until the script is closed, and the report. The clock shows `clock n t` when
it is read in round `n`, after `t` milliseconds of sleep. -/
def run (options : PlayOptions) (clock : Nat → Nat → Nat) (rounds slept : Nat)
    (lines : List String) (p : Player) : List Effect × PlayReport :=
  if _open : p.pages.closed then ([], p.report)
  else
    let round := p.round options (clock rounds slept) lines
    let rest := run options clock (rounds + 1) (slept + sleepTime round.1)
      (linesAfter (p.demand options) lines) round.2
    (round.1 ++ rest.1, rest.2)
termination_by p.work lines
decreasing_by exact work_round _ _ _ (Bool.not_eq_true _ ▸ _open)

end Dialogue.Terminal.Player

namespace Dialogue.Terminal

open Playback

/-- The lines of an input; the last one need not end in a newline. -/
def inputLines (input : String) : List String :=
  let lines := (input.toList.splitOn '\n').map String.ofList
  if lines.getLast? = some "" then lines.dropLast else lines

def written (effects : List Effect) : String :=
  String.join (effects.filterMap fun | .write text => some text | .sleep _ => none)

def sleeps (effects : List Effect) : List Nat :=
  effects.filterMap fun | .sleep millis => some millis | .write _ => none

def play (queue : Queue Unit) (options : PlayOptions) (clock : Nat → Nat → Nat) (input : String) :
    List Effect × PlayReport :=
  (Player.start queue options).run options clock 0 0 (inputLines input)

end Dialogue.Terminal
