import Mathlib.Data.List.DropRight
import Dialogue.Playback.Work

/-! The path of a queue that is played one unit of work at a time and goes past every stop. No
confirm enters it: from an inactive queue the next point drops the head, from an active queue with
work left it does a unit of it, and an active queue without work is the end. -/
namespace Dialogue.Playback.Queue

variable {table : CommandTable σ} {q p e : Queue σ} {stops : List (Queue σ)} {n m : Nat}

/-- The queue without the texts shown completely in front of it. An inactive queue has none: it
stands at a page break or a command. -/
def settled (q : Queue σ) : Queue σ :=
  if q.active then { q with events := q.events.dropWhile Event.isExhausted } else q

def next? (table : CommandTable σ) (q : Queue σ) : Option (Queue σ) :=
  if !q.active then some q.pop.2
  else if q.isFinished then none
  else some (q.runHead table).2

/-- The `n`th point of the path from a queue, if the path is that long. -/
def point (table : CommandTable σ) : Nat → Queue σ → Option (Queue σ)
  | 0, q => some q
  | n + 1, q => (q.next? table).bind (point table n)

/-- Whether the `n`th point of the path from `q` is `p`, texts shown completely apart. -/
def At (table : CommandTable σ) (q : Queue σ) (n : Nat) (p : Queue σ) : Prop :=
  ∃ e, point table n q = some e ∧ e.settled = p.settled

@[simp] theorem settled_active (q : Queue σ) : q.settled.active = q.active := by
  unfold settled
  split <;> rfl

@[simp] theorem settled_display (q : Queue σ) : q.settled.display = q.display := by
  unfold settled
  split <;> rfl

@[simp] theorem settled_host (q : Queue σ) : q.settled.host = q.host := by
  unfold settled
  split <;> rfl

theorem settled_of_active (h : q.active = true) :
    q.settled = { q with events := q.events.dropWhile Event.isExhausted } := by
  rw [settled, if_pos h]

theorem settled_of_inactive (h : q.active = false) : q.settled = q := by
  rw [settled, h]
  rfl

theorem runHead_settled (table : CommandTable σ) (h : q.active = true) :
    q.settled.runHead table = q.runHead table := by
  simp only [settled_of_active h, runHead, List.dropWhile_idempotent, h, Bool.not_true,
    Bool.false_eq_true, if_false]

/-- The texts shown completely make no difference to what comes next. -/
theorem next?_settled (table : CommandTable σ) (q : Queue σ) :
    q.settled.next? table = q.next? table := by
  cases h : q.active with
  | false => rw [settled_of_inactive h]
  | true =>
    have finished : q.settled.isFinished = q.isFinished := by
      simp only [settled_of_active h, isFinished, List.all_eq_not_any_not, List.any_dropWhile,
        Bool.not_not]
    simp only [next?, settled_active, h, finished, runHead_settled table h, Bool.not_true,
      Bool.false_eq_true, if_false]

theorem next?_congr (table : CommandTable σ) (h : q.settled = p.settled) :
    q.next? table = p.next? table := by
  rw [← next?_settled table q, h, next?_settled table p]

theorem next?_eq_none_iff :
    q.next? table = none ↔ q.active = true ∧ q.isFinished = true := by
  unfold next?
  cases q.active <;> cases q.isFinished <;> simp

theorem point_congr (h : q.settled = p.settled) (hp : point table n p = some e) :
    ∃ e', point table n q = some e' ∧ e'.settled = e.settled := by
  cases n with
  | zero => exact ⟨q, rfl, by rw [h, Option.some.inj hp]⟩
  | succ n =>
    rw [point, ← next?_congr table h] at hp
    exact ⟨e, hp, rfl⟩

theorem point_add (table : CommandTable σ) (n m : Nat) (q : Queue σ) :
    point table (n + m) q = (point table n q).bind (point table m) := by
  induction n generalizing q with
  | zero => rw [Nat.zero_add, point, Option.bind_some]
  | succ n ih =>
    rw [Nat.succ_add, point, point, Option.bind_assoc]
    exact congrArg _ (funext ih)

theorem At.trans (first : At table q n p) (second : At table p m e) : At table q (n + m) e := by
  obtain ⟨p', hp, same⟩ := first
  obtain ⟨e', he, last⟩ := second
  obtain ⟨e'', he', settled⟩ := point_congr same he
  exact ⟨e'', by rw [point_add, hp, Option.bind_some, he'], settled.trans last⟩

/-- Going `n` points on along the path, with the stops that are left behind on the way. -/
inductive Leads (table : CommandTable σ) : Nat → Queue σ → List (Queue σ) → Queue σ → Prop
  | here {q p : Queue σ} (h : q.settled = p.settled) : Leads table 0 q [] p
  | leave {n : Nat} {q p : Queue σ} {stops : List (Queue σ)} (ha : q.active = false)
      (rest : Leads table n q.pop.2 stops p) : Leads table (n + 1) q (q :: stops) p
  | work {n : Nat} {q p : Queue σ} {stops : List (Queue σ)} (ha : q.active = true)
      (hf : q.isFinished = false) (rest : Leads table n (q.runHead table).2 stops p) :
      Leads table (n + 1) q stops p

namespace Leads

theorem of_settled {r : Queue σ} (h : q.settled = r.settled) (path : Leads table n r stops p) :
    Leads table n q stops p := by
  cases path with
  | here hp => exact .here (h.trans hp)
  | leave ha rest =>
    have hq : q.active = false := by rw [← settled_active q, h, settled_active, ha]
    rw [settled_of_inactive hq, settled_of_inactive ha] at h
    subst h
    exact .leave ha rest
  | work ha hf rest =>
    have hq : q.active = true := by rw [← settled_active q, h, settled_active, ha]
    have finished : q.isFinished = false := by
      rw [← Bool.not_eq_true]
      intro hall
      have stuck : q.next? table = none := next?_eq_none_iff.mpr ⟨hq, hall⟩
      rw [next?_congr table h] at stuck
      simp [next?, ha, hf] at stuck
    rw [← runHead_settled table ha, ← h, runHead_settled table hq] at rest
    exact .work hq finished rest

theorem trans {r : Queue σ} {more : List (Queue σ)} (first : Leads table n q stops p)
    (second : Leads table m p more r) : Leads table (n + m) q (stops ++ more) r := by
  induction first with
  | here h =>
    rw [Nat.zero_add]
    exact second.of_settled h
  | leave ha _ ih =>
    rw [Nat.succ_add]
    exact .leave ha (ih second)
  | work ha hf _ ih =>
    rw [Nat.succ_add]
    exact .work ha hf (ih second)

theorem reaches (path : Leads table n q stops p) : At table q n p := by
  induction path with
  | here h => exact ⟨_, rfl, h⟩
  | leave ha rest ih =>
    obtain ⟨e, he, hs⟩ := ih
    exact ⟨e, by simp [point, next?, ha, he], hs⟩
  | work ha hf rest ih =>
    obtain ⟨e, he, hs⟩ := ih
    exact ⟨e, by simp [point, next?, ha, hf, he], hs⟩

/-- The path has one end, and the stops before it are fixed. -/
theorem unique {r : Queue σ} {others : List (Queue σ)} (first : Leads table n q stops p)
    (hp : p.next? table = none) (second : Leads table m q others r) (hr : r.next? table = none) :
    stops = others ∧ p.settled = r.settled := by
  induction first generalizing m others with
  | here h =>
    have stuck := (next?_congr table h).trans hp
    obtain ⟨ha, hf⟩ := next?_eq_none_iff.mp stuck
    cases second with
    | here h' => exact ⟨rfl, h.symm.trans h'⟩
    | leave ha' _ => simp [ha] at ha'
    | work _ hf' _ => simp [hf] at hf'
  | leave ha rest ih =>
    cases second with
    | here h' =>
      have stuck := (next?_congr table h').trans hr
      simp [next?, ha] at stuck
    | leave _ rest' =>
      obtain ⟨same, settled⟩ := ih hp rest'
      exact ⟨congrArg _ same, settled⟩
    | work ha' _ _ => simp [ha] at ha'
  | work ha hf rest ih =>
    cases second with
    | here h' =>
      have stuck := (next?_congr table h').trans hr
      simp [next?, ha, hf] at stuck
    | leave ha' _ => simp [ha] at ha'
    | work _ _ rest' => exact ih hp rest'

end Leads

end Dialogue.Playback.Queue
