import Mathlib.Data.List.Induction
import Dialogue.Proofs.Playback.ConfirmKey

/-! Which presses are fresh. Of the moments at which the key goes down the first counts, and then
each that is far enough behind the last one that counted. The rule is about all that went by; of
that the detector keeps whether the key was down and when a press was fresh last, and this is enough
to follow the rule, also where the clock goes back. -/
namespace Dialogue.Playback

/-- The key at a moment. -/
structure KeyReading where
  pressed : Bool
  time : Nat
  deriving DecidableEq, Repr

/-- A reading of the key, and whether it was taken for a fresh press. -/
structure Poll extends KeyReading where
  fired : Bool
  deriving DecidableEq, Repr

/-- What `P` says holds of every poll behind those before it. -/
def Throughout (P : List Poll → Poll → Prop) (polls : List Poll) : Prop :=
  ∀ past p rest, polls = past ++ p :: rest → P past p

/-- The key goes down: it was up at the last of the polls `past`, or there was none. -/
def Rises (past : List Poll) (r : KeyReading) : Prop :=
  r.pressed = true ∧ ∀ last ∈ past.getLast?, last.pressed = false

/-- The key has never gone down. -/
def NeverRises (polls : List Poll) : Prop :=
  Throughout (fun past p => ¬ Rises past p.toKeyReading) polls

/-- The last poll that fired. -/
def lastFired? (past : List Poll) : Option Poll := (past.filter Poll.fired).getLast?

/-- The key goes down for the first time, or far enough behind the last poll that fired. Where the
clock has gone back no time lies between. -/
def Due (debounce : Nat) (past : List Poll) (r : KeyReading) : Prop :=
  Rises past r ∧ (NeverRises past ∨ ∃ last ∈ lastFired? past, debounce ≤ r.time - last.time)

/-- The polls that fire are exactly those that are due. -/
def Greedy (debounce : Nat) (polls : List Poll) : Prop :=
  Throughout (fun past p => p.fired = true ↔ Due debounce past p.toKeyReading) polls

/-- How the polls that fire lie among all polls: apart by a release and by the debounce time, none
while the key is held, and only so many in any span of time. -/
structure Debounced (debounce : Nat) (polls : List Poll) : Prop where
  released : ∀ past p between q rest, polls = past ++ p :: (between ++ q :: rest) →
    p.fired = true → q.fired = true → ∃ b ∈ between, b.pressed = false
  apart : polls.Pairwise fun p q =>
    p.fired = true → q.fired = true → debounce ≤ q.time - p.time
  held : ∀ past p stretch rest, polls = past ++ p :: (stretch ++ rest) → p.pressed = true →
    (∀ q ∈ stretch, q.pressed = true) → ∀ q ∈ stretch, q.fired = false
  sparse : 0 < debounce → ∀ since span,
    (polls.filter Poll.fired).countP (fun p => since ≤ p.time ∧ p.time ≤ since + span) ≤
      span / debounce + 1

namespace ConfirmEdge

/-- What the detector makes of one reading after the other. -/
def polls (e : ConfirmEdge) : List KeyReading → List Poll
  | [] => []
  | r :: rs => ⟨r, (e.poll r.pressed r.time).1⟩ :: (e.poll r.pressed r.time).2.polls rs

end ConfirmEdge

section
variable {P : List Poll → Poll → Prop} {debounce : Nat} {past polls others : List Poll} {p : Poll}

theorem throughout_nil : Throughout P [] := by
  intro past p rest same
  simp at same

theorem throughout_concat : Throughout P (polls ++ [p]) ↔ Throughout P polls ∧ P polls p := by
  constructor
  · intro all
    refine ⟨?_, all polls p [] rfl⟩
    rintro past q rest rfl
    exact all past q (rest ++ [p]) (by simp)
  · rintro ⟨earlier, last⟩ past q rest same
    obtain rfl | ⟨rest, z, rfl⟩ := rest.eq_nil_or_concat'
    · obtain ⟨rfl, ending⟩ := List.append_inj' same rfl
      obtain rfl := List.singleton_inj.mp ending
      exact last
    · rw [← List.cons_append, ← List.append_assoc] at same
      exact earlier past q rest (List.append_inj_left' same rfl)

theorem lastFired?_concat (past : List Poll) (p : Poll) :
    lastFired? (past ++ [p]) = if p.fired = true then some p else lastFired? past := by
  unfold lastFired?
  rw [List.filter_append]
  split
  · next fired => rw [List.filter_cons_of_pos fired, List.filter_nil, List.getLast?_concat]
  · next silent => rw [List.filter_cons_of_neg silent, List.filter_nil, List.append_nil]

namespace Greedy

/-- The key has gone down exactly if some poll has fired, since it fires the first time. -/
theorem neverRises_iff (greedy : Greedy debounce past) :
    NeverRises past ↔ lastFired? past = none := by
  induction past using List.reverseRecOn with
  | nil => exact iff_of_true throughout_nil rfl
  | append_singleton past p ih =>
    -- With a poll more, either it fires, and then the key goes down at it, or nothing changes.
    obtain ⟨earlier, fires_iff⟩ := throughout_concat.mp greedy
    rw [NeverRises, throughout_concat, ← NeverRises, lastFired?_concat]
    split
    · next fired =>
      have rises := (fires_iff.mp fired).1
      simp [rises]
    · next silent =>
      rw [← ih earlier, and_iff_left_iff_imp]
      intro never rises
      exact silent (fires_iff.mpr ⟨rises, .inl never⟩)

theorem due_iff (greedy : Greedy debounce past) (r : KeyReading) :
    Due debounce past r ↔
      Rises past r ∧ ∀ last ∈ lastFired? past, debounce ≤ r.time - last.time := by
  rw [Due, greedy.neverRises_iff]
  cases lastFired? past <;> simp

theorem fired_iff (greedy : Greedy debounce polls) {rest : List Poll}
    (split : polls = past ++ p :: rest) :
    p.fired = true ↔
      Rises past p.toKeyReading ∧ ∀ last ∈ lastFired? past, debounce ≤ p.time - last.time := by
  have rule : p.fired = true ↔ Due debounce past p.toKeyReading := greedy past p rest split
  have earlier : Greedy debounce past := by
    rintro past' q rest' rfl
    exact greedy past' q (rest' ++ p :: rest) (by simp [split])
  exact rule.trans (earlier.due_iff _)

/-- A poll right behind one at which the key was down does not fire. -/
theorem held (greedy : Greedy debounce polls) {stretch rest : List Poll}
    (split : polls = past ++ p :: (stretch ++ rest)) (down : p.pressed = true)
    (held : ∀ q ∈ stretch, q.pressed = true) : ∀ q ∈ stretch, q.fired = false := by
  intro q mem
  obtain ⟨before, after, rfl⟩ := List.append_of_mem mem
  rw [List.append_assoc, List.cons_append, ← List.cons_append, ← List.append_assoc] at split
  rw [← Bool.not_eq_true, greedy.fired_iff split]
  rintro ⟨⟨-, up⟩, -⟩
  have last_down : (before.getLast?.getD p).pressed = true := by
    cases last : before.getLast? with
    | none => exact down
    | some b => exact held b (by simp [List.mem_of_getLast? last])
  have last_up := up (before.getLast?.getD p) (by simp [List.getLast?_append, List.getLast?_cons])
  exact absurd last_down (by simp [last_up])

theorem released (greedy : Greedy debounce polls) {between rest : List Poll} {q : Poll}
    (split : polls = past ++ p :: (between ++ q :: rest)) (fired : p.fired = true)
    (fired' : q.fired = true) : ∃ b ∈ between, b.pressed = false := by
  by_contra! held
  have down := ((greedy.fired_iff split).mp fired).1.1
  have split' : polls = (past ++ p :: between) ++ q :: rest := by simp [split]
  have down' := ((greedy.fired_iff split').mp fired').1.1
  have all_down : ∀ b ∈ between ++ [q], b.pressed = true := by
    intro b mem
    rcases List.mem_append.mp mem with inner | last
    · simpa using held b inner
    · exact List.mem_singleton.mp last ▸ down'
  have longer : polls = past ++ p :: ((between ++ [q]) ++ rest) := by simp [split]
  have silent := greedy.held longer down all_down q (by simp)
  exact absurd fired' (by simp [silent])

/-- The debounce time lies between any two polls that fire, as it lies between one and the next. -/
theorem apart (greedy : Greedy debounce polls) :
    (polls.filter Poll.fired).Pairwise fun p q => debounce ≤ q.time - p.time := by
  induction polls using List.reverseRecOn with
  | nil => exact .nil
  | append_singleton polls p ih =>
    have earlier := ih (throughout_concat.mp greedy).1
    rw [List.filter_append]
    apply List.pairwise_append.mpr
    refine ⟨earlier, (List.pairwise_singleton _ p).filter _, ?_⟩
    intro q mem p' mem'
    obtain ⟨last_one, fired⟩ := List.mem_filter.mp mem'
    obtain rfl := List.mem_singleton.mp last_one
    have split : polls ++ [p'] = polls ++ p' :: [] := rfl
    have behind := ((greedy.fired_iff split).mp fired).2
    obtain none_fired | ⟨firsts, last, parts⟩ := (polls.filter Poll.fired).eq_nil_or_concat'
    · simp [none_fired] at mem
    · have since_last := behind last (by simp [lastFired?, parts])
      rw [parts] at earlier mem
      rcases List.mem_append.mp mem with first | same
      · have until_last := (List.pairwise_append.mp earlier).2.2 q first last (by simp)
        omega
      · rwa [List.mem_singleton.mp same]

/-- The rule leaves no choice. -/
theorem unique (greedy : Greedy debounce polls) (greedy' : Greedy debounce others)
    (same : polls.map Poll.toKeyReading = others.map Poll.toKeyReading) : polls = others := by
  induction polls using List.reverseRecOn generalizing others with
  | nil => exact (List.map_eq_nil_iff.mp same.symm).symm
  | append_singleton polls p ih =>
    obtain rfl | ⟨others, q, rfl⟩ := others.eq_nil_or_concat'
    · simp at same
    · rw [List.map_append, List.map_append] at same
      obtain ⟨earlier, last⟩ := List.append_inj' same rfl
      obtain ⟨greedy, fires_iff⟩ := throughout_concat.mp greedy
      obtain ⟨greedy', fires_iff'⟩ := throughout_concat.mp greedy'
      obtain rfl := ih greedy greedy' earlier
      have reading : p.toKeyReading = q.toKeyReading := List.singleton_inj.mp last
      have fired : p.fired = q.fired := by
        rw [Bool.eq_iff_iff, fires_iff, fires_iff', reading]
      obtain ⟨r, f⟩ := p
      obtain ⟨r', f'⟩ := q
      obtain rfl : r = r' := reading
      obtain rfl : f = f' := fired
      rfl

end Greedy

/-- Times that are apart by a gap fill a span. -/
theorem length_mul_le_of_apart {gap since upto : Nat} {times : List Nat}
    (apart : times.Pairwise fun a b => a + gap ≤ b) (within : ∀ t ∈ times, since ≤ t ∧ t ≤ upto)
    (forward : since ≤ upto + gap) : since + times.length * gap ≤ upto + gap := by
  induction times generalizing since with
  | nil => simpa using forward
  | cons t times ih =>
    obtain ⟨later, apart⟩ := List.pairwise_cons.mp apart
    obtain ⟨⟨from_start, to_end⟩, within⟩ := List.forall_mem_cons.mp within
    have rest := ih apart (fun s mem => ⟨later s mem, (within s mem).2⟩) (by omega)
    rw [List.length_cons, Nat.add_mul, Nat.one_mul]
    omega

theorem Greedy.sparse (greedy : Greedy debounce polls) (positive : 0 < debounce)
    (since span : Nat) :
    (polls.filter Poll.fired).countP (fun p => since ≤ p.time ∧ p.time ≤ since + span) ≤
      span / debounce + 1 := by
  let times := ((polls.filter Poll.fired).filter
    fun p => since ≤ p.time ∧ p.time ≤ since + span).map (·.time)
  have apart : times.Pairwise fun a b => a + debounce ≤ b := by
    refine List.pairwise_map.mpr ((greedy.apart.filter _).imp ?_)
    intro p q gap
    omega
  have within : ∀ t ∈ times, since ≤ t ∧ t ≤ since + span := by
    simp only [times, List.forall_mem_map, List.mem_filter, decide_eq_true_eq]
    exact fun p mem => mem.2
  have filled := length_mul_le_of_apart apart within (by omega)
  have count : times.length * debounce ≤ span + debounce := by omega
  rw [List.countP_eq_length_filter, ← Nat.add_div_right span positive,
    Nat.le_div_iff_mul_le positive]
  simpa [times] using count

theorem Greedy.debounced (greedy : Greedy debounce polls) : Debounced debounce polls where
  released _ _ _ _ _ split := greedy.released split
  apart := List.pairwise_filter.mp greedy.apart
  held _ _ _ _ split := greedy.held split
  sparse := greedy.sparse

end

namespace ConfirmEdge

variable {e : ConfirmEdge} {past : List Poll}

/-- What the detector keeps of the polls that went by. -/
structure Recalls (e : ConfirmEdge) (past : List Poll) : Prop where
  wasPressed : e.wasPressed = past.getLast?.any (·.pressed)
  lastFired : e.lastFired = (lastFired? past).map (·.time)

/-- What it keeps tells whether a reading is due. -/
theorem Recalls.fires_iff (recalls : e.Recalls past) (greedy : Greedy e.debounce past)
    (r : KeyReading) : (e.poll r.pressed r.time).1 = true ↔ Due e.debounce past r := by
  have up : e.wasPressed = false ↔ ∀ last ∈ past.getLast?, last.pressed = false := by
    rw [recalls.wasPressed]
    cases past.getLast? <;> simp
  have late : e.isTooSoon r.time = false ↔
      ∀ last ∈ lastFired? past, e.debounce ≤ r.time - last.time := by
    rw [isTooSoon, recalls.lastFired]
    cases lastFired? past <;> simp
  rw [ConfirmEdge.fires_iff, greedy.due_iff, Rises, up, late, and_assoc]

theorem Recalls.poll (recalls : e.Recalls past) (r : KeyReading) :
    (e.poll r.pressed r.time).2.Recalls (past ++ [⟨r, (e.poll r.pressed r.time).1⟩]) where
  wasPressed := by simp
  lastFired := by
    rw [lastFired_poll, lastFired?_concat, recalls.lastFired]
    split <;> rfl

theorem Recalls.greedy_polls (recalls : e.Recalls past) (greedy : Greedy e.debounce past)
    (readings : List KeyReading) : Greedy e.debounce (past ++ e.polls readings) := by
  -- The polls already made grow with every reading, as the rule for the next one is about them.
  induction readings generalizing e past with
  | nil => rwa [polls, List.append_nil]
  | cons r rs ih =>
    have next : Greedy e.debounce (past ++ [⟨r, (e.poll r.pressed r.time).1⟩]) :=
      throughout_concat.mpr ⟨greedy, recalls.fires_iff greedy r⟩
    have rest := ih (recalls.poll r) (by rwa [debounce_poll])
    rwa [debounce_poll, List.append_assoc] at rest

theorem readings_polls (e : ConfirmEdge) (readings : List KeyReading) :
    (e.polls readings).map Poll.toKeyReading = readings := by
  induction readings generalizing e with
  | nil => rfl
  | cons r rs ih => rw [polls, List.map_cons, ih]

/-- A new detector takes presses greedily, whatever the clock does: of all records of some readings,
that of the polls made is the one in which those fire that are due. So there is a release and the
debounce time between any two polls that fire; a press that came too soon is not told of later while
the key is held; and in a span of time there are no more than the debounce time allows. A detector
that has been reset goes on like a new one. -/
theorem fires_greedily (debounce : Nat) (readings : List KeyReading) :
    let fresh : ConfirmEdge := { debounce := debounce }
    (∀ record, record = fresh.polls readings ↔
      record.map Poll.toKeyReading = readings ∧ Greedy debounce record) ∧
    Debounced debounce (fresh.polls readings) ∧
    ∀ used : ConfirmEdge, used.debounce = debounce →
      used.reset.polls readings = fresh.polls readings := by
  intro fresh
  have recalls : fresh.Recalls [] := ⟨rfl, rfl⟩
  have greedy : Greedy debounce (fresh.polls readings) :=
    recalls.greedy_polls throughout_nil readings
  refine ⟨?_, greedy.debounced, ?_⟩
  · intro record
    constructor
    · rintro rfl
      exact ⟨fresh.readings_polls readings, greedy⟩
    · rintro ⟨same, chosen⟩
      exact chosen.unique greedy (same.trans (fresh.readings_polls readings).symm)
  · rintro used rfl
    rfl

/-- A press that comes too soon does not count when the key is still held later on, and neither does
one after the clock has gone back. -/
theorem fires_greedily_past_bounces :
    let readings : List KeyReading := [⟨true, 100⟩, ⟨false, 110⟩, ⟨true, 200⟩, ⟨true, 300⟩,
      ⟨false, 310⟩, ⟨true, 40⟩, ⟨false, 50⟩, ⟨true, 250⟩]
    let used : ConfirmEdge := ⟨150, true, some 90⟩
    let polls := used.reset.polls readings
    used.debounce = 150 ∧ 0 < 150 ∧
      polls.map Poll.fired = [true, false, false, false, false, false, false, true] ∧
      (polls.filter Poll.fired).countP (fun p => 100 ≤ p.time ∧ p.time ≤ 100 + 200) ≤ 2 := by
  intro readings used polls
  obtain ⟨-, debounced, reset⟩ := fires_greedily 150 readings
  have same : polls = ConfirmEdge.polls { debounce := 150 } readings := reset used rfl
  refine ⟨rfl, by decide, by decide, ?_⟩
  rw [same]
  exact debounced.sparse (by decide) 100 200

end ConfirmEdge
end Dialogue.Playback
