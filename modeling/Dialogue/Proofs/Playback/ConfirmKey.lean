import Dialogue.Playback.ConfirmEdge
import Dialogue.Proofs.Playback.Closing
import Dialogue.Proofs.Typewriter.Frames

/-! One press of the confirm key is at most one action. The key is read once in every frame, and only
a fresh press is handed on, to a page reader or a message box. Fresh presses are apart by a release
and by the debounce time; and neither of the two listeners acts on anything else, unless messages
dismiss themselves. -/
namespace Dialogue.Playback

open Typewriter (MessageBox MessageAction)

namespace ConfirmEdge

variable (e : ConfirmEdge) (pressed : Bool) (now : Nat)

@[simp] theorem wasPressed_poll : (e.poll pressed now).2.wasPressed = pressed := by
  unfold poll
  split
  · next fires =>
    simp only [Bool.and_eq_true] at fires
    exact fires.1.1.symm
  · rfl

@[simp] theorem debounce_poll : (e.poll pressed now).2.debounce = e.debounce := by
  unfold poll
  split <;> rfl

theorem fires_iff :
    (e.poll pressed now).1 = true ↔
      pressed = true ∧ e.wasPressed = false ∧ e.isTooSoon now = false := by
  unfold poll
  split <;> simp_all

theorem lastFired_poll :
    (e.poll pressed now).2.lastFired =
      if (e.poll pressed now).1 = true then some now else e.lastFired := by
  unfold poll
  split <;> simp

end ConfirmEdge

/-- Something that listens to the key. In a frame it is told whether there is a fresh press and what
time it is, and acts or does not; between frames it can be served with what `ι` names. -/
structure Listener (σ ι α : Type) where
  tick : σ → Bool → Nat → Option α × σ
  serve : σ → ι → Nat → σ

def pageListener (table : CommandTable σ) : Listener (PageReader σ) Empty PageAction where
  tick r confirm _ := r.tick table confirm
  serve r _ _ := r

/-- A message box is served with messages. -/
def messageListener : Listener MessageBox String MessageAction where
  tick b confirm now := ((b.tick confirm now).action, (b.tick confirm now).box)
  serve := MessageBox.present

/-- What a host does with a key and a listener. -/
inductive HostStep (ι : Type)
  | wait (time : Nat)
  | serve (item : ι)
  /-- A frame, in which the key is down or not. -/
  | frame (pressed : Bool)
  deriving DecidableEq, Repr

/-- A frame that went by. -/
structure Beat (α : Type) where
  pressed : Bool
  time : Nat
  /-- Whether there was a fresh press. -/
  fired : Bool
  action : Option α
  deriving DecidableEq, Repr

def Beat.acts (b : Beat α) : Bool := b.action.isSome

/-- The frames of a run. -/
def Listener.beats (l : Listener σ ι α) (s : σ) (e : ConfirmEdge) (now : Nat) :
    List (HostStep ι) → List (Beat α)
  | [] => []
  | .wait time :: steps => l.beats s e (now + time) steps
  | .serve item :: steps => l.beats (l.serve s item now) e now steps
  | .frame pressed :: steps =>
    let key := e.poll pressed now
    let answer := l.tick s key.1 now
    ⟨pressed, now, key.1, answer.1⟩ :: l.beats answer.2 key.2 now steps

/-- Of the frames that count there is none while the key is up, at most one in each stretch in which
it is held, and the debounce time between any two. -/
structure OncePerPress (debounce : Nat) (counts : Beat α → Bool) (beats : List (Beat α)) :
    Prop where
  released : ∀ b ∈ beats, b.pressed = false → counts b = false
  held : ∀ stretch, stretch <:+: beats → (∀ b ∈ stretch, b.pressed = true) →
    stretch.countP counts ≤ 1
  apart : beats.Pairwise fun a b =>
    counts a = true → counts b = true → a.time + debounce ≤ b.time

/-- Whether a listener acts on fresh presses only, as long as what `P` says holds of it. -/
structure Listener.ActsOnPresses (l : Listener σ ι α) (P : σ → Prop) : Prop where
  quiet : ∀ s now, P s → (l.tick s false now).1 = none
  tick : ∀ s confirm now, P s → P (l.tick s confirm now).2
  serve : ∀ s item now, P s → P (l.serve s item now)

namespace OncePerPress

variable {debounce : Nat} {p q : Beat α → Bool} {beats : List (Beat α)}

theorem mono (h : OncePerPress debounce q beats) (fewer : ∀ b ∈ beats, p b = true → q b = true) :
    OncePerPress debounce p beats where
  released := by
    intro b hb up
    rw [← Bool.not_eq_true]
    intro counts
    simpa [h.released b hb up] using fewer b hb counts
  held := by
    intro stretch inside down
    have le : stretch.countP p ≤ stretch.countP q :=
      List.countP_mono_left fun b hb => fewer b (inside.subset hb)
    exact le.trans (h.held stretch inside down)
  apart := by
    refine h.apart.imp_of_mem ?_
    intro a b ha hb apart counts_a counts_b
    exact apart (fewer a ha counts_a) (fewer b hb counts_b)

theorem cons {b : Beat α} (h : OncePerPress debounce q beats)
    (released : b.pressed = false → q b = false)
    (held : q b = true → ∀ stretch, stretch <+: beats → (∀ c ∈ stretch, c.pressed = true) →
      stretch.countP q = 0)
    (apart : q b = true → ∀ c ∈ beats, q c = true → b.time + debounce ≤ c.time) :
    OncePerPress debounce q (b :: beats) where
  released := List.forall_mem_cons.mpr ⟨released, h.released⟩
  held := by
    intro stretch inside down
    obtain front | later := List.infix_cons_iff.mp inside
    · obtain rfl | ⟨rest, rfl, begins⟩ := List.prefix_cons_iff.mp front
      · exact Nat.zero_le 1
      · have down_later := (List.forall_mem_cons.mp down).2
        cases counts : q b with
        | true => simp [counts, held counts rest begins down_later]
        | false => simpa [List.countP_cons, counts] using h.held rest begins.isInfix down_later
    · exact h.held stretch later down
  apart := List.pairwise_cons.mpr ⟨fun c hc counts => apart counts c hc, h.apart⟩

end OncePerPress

namespace Listener

variable (l : Listener σ ι α) {s : σ} {e : ConfirmEdge} {now : Nat} {steps : List (HostStep ι)}

theorem beats_frame (s : σ) (e : ConfirmEdge) (now : Nat) (pressed : Bool)
    (steps : List (HostStep ι)) :
    l.beats s e now (.frame pressed :: steps) =
      ⟨pressed, now, (e.poll pressed now).1, (l.tick s (e.poll pressed now).1 now).1⟩ ::
        l.beats (l.tick s (e.poll pressed now).1 now).2 (e.poll pressed now).2 now steps := rfl

/-- A press that has been read is not read again while the key is held. -/
theorem countP_fired_of_held (down : e.wasPressed = true) {stretch : List (Beat α)}
    (begins : stretch <+: l.beats s e now steps) (held : ∀ b ∈ stretch, b.pressed = true) :
    stretch.countP Beat.fired = 0 := by
  induction steps generalizing s e now stretch with
  | nil => rw [List.prefix_nil.mp begins]; rfl
  | cons step steps ih =>
    cases step with
    | wait | serve => exact ih down begins held
    | frame pressed =>
      rw [beats_frame] at begins
      obtain rfl | ⟨rest, rfl, begins_later⟩ := List.prefix_cons_iff.mp begins
      · rfl
      · obtain ⟨down_now, down_later⟩ := List.forall_mem_cons.mp held
        have stale : (e.poll pressed now).1 = false := by
          simp [← Bool.not_eq_true, ConfirmEdge.fires_iff, down]
        have later := ih ((e.wasPressed_poll pressed now).trans down_now) begins_later down_later
        simp [stale, later]

/-- No fresh press comes sooner after another than the debounce time. -/
theorem le_time_of_fired {last : Nat} (fired : e.lastFired = some last) (past : last ≤ now) :
    ∀ b ∈ l.beats s e now steps, b.fired = true → last + e.debounce ≤ b.time := by
  induction steps generalizing s e now last with
  | nil => simp [beats]
  | cons step steps ih =>
    cases step with
    | wait time => exact ih fired (past.trans (Nat.le_add_right now time))
    | serve item => exact ih fired past
    | frame pressed =>
      have next := e.lastFired_poll pressed now
      rw [beats_frame]
      refine List.forall_mem_cons.mpr ⟨?_, ?_⟩
      · intro fires
        have late : ¬ now - last < e.debounce := by
          simpa [ConfirmEdge.isTooSoon, fired] using ((e.fires_iff pressed now).mp fires).2.2
        simp only
        omega
      · intro b hb counts
        cases fires : (e.poll pressed now).1 with
        | true =>
          rw [fires, if_pos rfl] at next
          have later := ih next (Nat.le_refl now) b hb counts
          rw [ConfirmEdge.debounce_poll] at later
          omega
        | false =>
          rw [fires, if_neg (by simp), fired] at next
          have later := ih next past b hb counts
          rwa [ConfirmEdge.debounce_poll] at later

/-- Each press is fresh at most once. -/
theorem fired_once (s : σ) (e : ConfirmEdge) (now : Nat) (steps : List (HostStep ι)) :
    OncePerPress e.debounce Beat.fired (l.beats s e now steps) := by
  -- Of all that went by, the detector knows whether the key was down and when a press was fresh
  -- last; after a fresh press these two keep the rest of the run apart from it.
  induction steps generalizing s e now with
  | nil =>
    exact {
      released := by simp [beats]
      held := by
        intro stretch inside _
        rw [List.infix_nil.mp inside]
        exact Nat.zero_le 1
      apart := .nil }
  | cons step steps ih =>
    cases step with
    | wait time => exact ih s e (now + time)
    | serve item => exact ih (l.serve s item now) e now
    | frame pressed =>
      have later := ih (l.tick s (e.poll pressed now).1 now).2 (e.poll pressed now).2 now
      rw [ConfirmEdge.debounce_poll] at later
      rw [beats_frame]
      apply later.cons
      · rintro rfl
        simp [← Bool.not_eq_true, ConfirmEdge.fires_iff]
      · intro fires stretch begins down
        have pressed_now := ((e.fires_iff pressed now).mp fires).1
        exact l.countP_fired_of_held ((e.wasPressed_poll pressed now).trans pressed_now) begins down
      · intro fires c hc counts
        have fresh := e.lastFired_poll pressed now
        rw [if_pos fires] at fresh
        have late := l.le_time_of_fired fresh (Nat.le_refl now) c hc counts
        rwa [ConfirmEdge.debounce_poll] at late

variable {l} {P : σ → Prop}

theorem ActsOnPresses.fired_of_acts (h : l.ActsOnPresses P) (initial : P s) :
    ∀ b ∈ l.beats s e now steps, b.acts = true → b.fired = true := by
  induction steps generalizing s e now with
  | nil => simp [beats]
  | cons step steps ih =>
    cases step with
    | wait time => exact ih initial
    | serve item => exact ih (h.serve s item now initial)
    | frame pressed =>
      rw [beats_frame]
      refine List.forall_mem_cons.mpr ⟨?_, ih (h.tick s _ now initial)⟩
      intro acts
      rw [← Bool.not_eq_false]
      intro stale
      simp only [Beat.acts] at acts stale
      simp [stale, h.quiet s now initial] at acts

theorem ActsOnPresses.acts_once (h : l.ActsOnPresses P) (initial : P s) (e : ConfirmEdge)
    (now : Nat) (steps : List (HostStep ι)) :
    OncePerPress e.debounce Beat.acts (l.beats s e now steps) :=
  (l.fired_once s e now steps).mono (h.fired_of_acts initial)

end Listener

theorem pages_actOnPresses (table : CommandTable σ) :
    (pageListener table).ActsOnPresses fun _ => True where
  quiet := by
    intro r _ _
    cases hc : r.closed with
    | true => exact congrArg Prod.fst (PageReader.tick_of_closed table hc false)
    | false => exact (PageReader.does_tick hc false).action_eq_none
  tick := fun _ _ _ _ => trivial
  serve := fun _ _ _ _ => trivial

theorem messages_actOnPresses :
    messageListener.ActsOnPresses fun b => b.typewriter.config.autoComplete = false where
  quiet := by
    intro b now manual
    exact (MessageBox.does_tick b false now).action_eq_none manual
  tick := by
    intro b confirm now manual
    exact (MessageBox.does_tick b confirm now).config ▸ manual
  serve := fun _ _ _ manual => manual

/-- One press of the key is at most one action, of a page reader over any script and of a message box
whose messages stay until they are dismissed, presented whenever. There is no action in a frame in
which the key is up, at most one from the time it goes down to the time it goes up, and two actions
are never closer than the debounce time. -/
theorem one_action_per_press (e : ConfirmEdge) (now : Nat) :
    (∀ (table : CommandTable σ) (r : PageReader σ) steps,
      OncePerPress e.debounce Beat.acts ((pageListener table).beats r e now steps)) ∧
    ∀ b : MessageBox, b.typewriter.config.autoComplete = false → ∀ steps,
      OncePerPress e.debounce Beat.acts (messageListener.beats b e now steps) := by
  constructor
  · intro table r steps
    exact (pages_actOnPresses table).acts_once trivial e now steps
  · intro b manual steps
    exact messages_actOnPresses.acts_once manual e now steps

/-- A key that is held skips a message and does not dismiss it. -/
theorem held_key_skips_once :
    let b : MessageBox := ⟨{ config := .default }, false⟩
    let steps : List (HostStep String) := [.serve "ab", .wait 60, .frame true, .wait 500,
      .frame true, .wait 16, .frame false, .wait 16, .frame true]
    let beats := messageListener.beats b {} 0 steps
    b.typewriter.config.autoComplete = false ∧
      beats.map Beat.action = [some .skipped, none, none, some .advance] ∧
      OncePerPress defaultDebounce Beat.acts beats := by
  intro b steps beats
  have manual : b.typewriter.config.autoComplete = false := rfl
  obtain ⟨-, messages⟩ := one_action_per_press (σ := Unit) {} 0
  exact ⟨manual, by decide, messages b manual steps⟩

end Dialogue.Playback
