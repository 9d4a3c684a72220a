import Dialogue.Playback.PageReader

/-! What the frames of a reader do to its queue: moves that anyone who holds a queue can make, in
the order they are made. The frames of a run are its confirms, one for each. -/
namespace Dialogue.Playback

variable (table : CommandTable σ)

inductive Move
  /-- A unit of work at the head. -/
  | run
  /-- The rest of the page at once. -/
  | flush
  /-- Dropping the head. -/
  | pop
  deriving DecidableEq, Repr

namespace Queue

def move (q : Queue σ) : Move → Queue σ
  | .run => (q.runHead table).2
  | .flush => (q.flush table).2
  | .pop => q.pop.2

def moves (q : Queue σ) (ms : List Move) : Queue σ := ms.foldl (move table) q

/-- The queues whose head is dropped on the way, as they are when it is. -/
def popped (q : Queue σ) : List Move → List (Queue σ)
  | [] => []
  | .pop :: ms => q :: popped (q.move table .pop) ms
  | m :: ms => popped (q.move table m) ms

theorem moves_append (q : Queue σ) (ms ns : List Move) :
    q.moves table (ms ++ ns) = (q.moves table ms).moves table ns :=
  List.foldl_append

theorem popped_append (q : Queue σ) (ms ns : List Move) :
    q.popped table (ms ++ ns) = q.popped table ms ++ (q.moves table ms).popped table ns := by
  induction ms generalizing q with
  | nil => rfl
  | cons m ms ih =>
    have rest := ih (q.move table m)
    cases m with
    | run | flush => exact rest
    | pop => exact congrArg (q :: ·) rest

end Queue

namespace PageReader

/-- The moves of one frame. -/
def movesOf (r : PageReader σ) (confirm : Bool) : List Move :=
  if r.closed then []
  else if !r.queue.active then if confirm then [.pop] else []
  else if r.queue.isFinished then []
  else if !confirm then [.run]
  else
    let (status, flushed) := r.queue.flush table
    if flushed.display.utf8ByteSize ≠ r.queue.display.utf8ByteSize then [.flush]
    else
      match status with
      | .finished => [.flush]
      | .running => [.flush, .pop]

/-- The reader after a frame for each of `confirms`. -/
def play (r : PageReader σ) (confirms : List Bool) : PageReader σ :=
  confirms.foldl (fun r confirm => (r.tick table confirm).2) r

/-- The moves of a run. -/
def moves (r : PageReader σ) : List Bool → List Move
  | [] => []
  | confirm :: confirms => r.movesOf table confirm ++ moves (r.tick table confirm).2 confirms

/-- The queues whose head is dropped in a run, as they are when it is. -/
def turns (r : PageReader σ) (confirms : List Bool) : List (Queue σ) :=
  r.queue.popped table (r.moves table confirms)

theorem play_cons (r : PageReader σ) (confirm : Bool) (confirms : List Bool) :
    r.play table (confirm :: confirms) = (r.tick table confirm).2.play table confirms := rfl

theorem play_append (r : PageReader σ) (first second : List Bool) :
    r.play table (first ++ second) = (r.play table first).play table second :=
  List.foldl_append

theorem queue_turnPage (q : Queue σ) : (turnPage q).2.queue = q.pop.2 := by
  unfold turnPage
  cases q.pop with
  | mk status p => cases status <;> rfl

/-- A frame does nothing to the queue but its moves. -/
theorem queue_tick (r : PageReader σ) (confirm : Bool) :
    (r.tick table confirm).2.queue = r.queue.moves table (r.movesOf table confirm) := by
  unfold tick movesOf press
  cases r.closed with
  | true => rfl
  | false =>
    cases r.queue.active with
    | false =>
      cases confirm with
      | false => rfl
      | true => exact queue_turnPage r.queue
    | true =>
      cases r.queue.isFinished <;> cases confirm
      · rfl
      · simp only [Bool.not_true, Bool.false_eq_true, if_false, if_true]
        split
        · rfl
        · cases (r.queue.flush table).1 with
          | finished => rfl
          | running => exact queue_turnPage _
      · rfl
      · rfl

theorem queue_play (r : PageReader σ) (confirms : List Bool) :
    (r.play table confirms).queue = r.queue.moves table (r.moves table confirms) := by
  induction confirms generalizing r with
  | nil => rfl
  | cons confirm confirms ih =>
    rw [play_cons, ih, queue_tick, moves, Queue.moves_append]

theorem turns_cons (r : PageReader σ) (confirm : Bool) (confirms : List Bool) :
    r.turns table (confirm :: confirms) =
      r.queue.popped table (r.movesOf table confirm) ++
        (r.tick table confirm).2.turns table confirms := by
  rw [turns, moves, Queue.popped_append, ← queue_tick, turns]

theorem tick_of_closed {r : PageReader σ} (h : r.closed = true) (confirm : Bool) :
    r.tick table confirm = (none, r) := by
  simp [tick, h]

end PageReader

end Dialogue.Playback
