import Dialogue.Playback.ConfirmEdge
import Dialogue.Proofs.Typewriter.Stages

/-! Clocks that are apart. Typewriters, message boxes and the confirm key compare the times that they
are told only with each other. So under a clock that is ahead by the same time all along they do the
same and show the same, operation by operation. -/
namespace Dialogue

section Simulation

variable {σ ι ω : Type} (step : σ → ι → σ) (look : σ → ι → ω)

/-- What is seen of a run, operation by operation. -/
def observe (s : σ) : List ι → List ω
  | [] => []
  | o :: os => look s o :: observe (step s o) os

/-- What is seen is the same where states stay alike under operations that correspond. -/
theorem observe_map (Alike : σ → σ → Prop) {f : ι → ι}
    (looks : ∀ s s' o, Alike s s' → look s' (f o) = look s o)
    (steps : ∀ s s' o, Alike s s' → Alike (step s o) (step s' (f o))) {s s' : σ}
    (alike : Alike s s') (os : List ι) :
    observe step look s' (os.map f) = observe step look s os := by
  induction os generalizing s s' with
  | nil => rfl
  | cons o os ih =>
    rw [List.map_cons, observe, observe, looks s s' o alike, ih (steps s s' o alike)]

end Simulation

namespace Typewriter

/-- The typewriter with all its times later by `d`. -/
def ahead (t : Typewriter) (d : Nat) : Typewriter :=
  { t with
    startedAt := t.startedAt + d
    revealedAt := t.revealedAt + d
    completedAt := t.completedAt.map (· + d) }

def Reaction.ahead (r : Reaction) (d : Nat) : Reaction :=
  { r with typewriter := r.typewriter.ahead d }

variable (t : Typewriter) (now d : Nat)

theorem Reaction.ahead_ite {p : Prop} [Decidable p] (r r' : Reaction) :
    (if p then r else r').ahead d = if p then r.ahead d else r'.ahead d :=
  apply_ite (Reaction.ahead · d) ..

theorem update_ahead : (t.ahead d).update (now + d) = (t.update now).ahead d := by
  have waited : now + d - (t.ahead d).revealedAt = now - t.revealedAt := Nat.add_sub_add_right ..
  unfold update
  rw [Reaction.ahead_ite, waited]
  refine if_congr Iff.rfl rfl ?_
  obtain ⟨config, text, chars, shown, index, pending⟩ := t
  cases pending with
  | nil => rfl
  | cons c rest =>
    dsimp only
    rw [Reaction.ahead_ite, Reaction.ahead_ite]
    rfl

theorem skip_ahead : (t.ahead d).skip (now + d) = (t.skip now).ahead d := by
  rw [skip, skip, Reaction.ahead_ite]
  rfl

theorem pause_ahead : (t.ahead d).pause = t.pause.ahead d := by
  rw [pause, pause, Reaction.ahead_ite]
  rfl

theorem resume_ahead : (t.ahead d).resume (now + d) = (t.resume now).ahead d := by
  rw [resume, resume, Reaction.ahead_ite]
  rfl

theorem elapsed_ahead : (t.ahead d).elapsed (now + d) = t.elapsed now := by
  unfold elapsed
  simp only [ahead]
  cases t.state with
  | idle => rfl
  | complete => cases t.completedAt <;> simp [Nat.add_sub_add_right]
  | typing | paused => exact Nat.add_sub_add_right ..

theorem timeSinceComplete_ahead :
    (t.ahead d).timeSinceComplete (now + d) = t.timeSinceComplete now := by
  cases completed : t.completedAt <;>
    simp [timeSinceComplete, ahead, completed, Nat.add_sub_add_right]

/-- The same operation under a clock that is ahead by `d`. -/
def Operation.ahead (d : Nat) : Operation → Operation
  | .clock now => .clock (now + d)
  | o => o

/-- Typewriters that are used alike under clocks that are `d` apart. One that has no text yet keeps
no time of its own: its times are zero under every clock. -/
inductive Alike (d : Nat) : Typewriter → Typewriter → Prop
  | blank (config : Config) : Alike d { config } { config }
  | used (t : Typewriter) : Alike d t (t.ahead d)

/-- Reactions that are the same under clocks that are `d` apart. -/
structure Reaction.Alike (d : Nat) (r r' : Reaction) : Prop where
  effective : r'.effective = r.effective
  signals : r'.signals = r.signals
  typewriter : r.typewriter.Alike d r'.typewriter

variable {t d} {t' : Typewriter}

theorem Reaction.Alike.of_eq_ahead {r r' : Reaction} (h : r' = r.ahead d) : r.Alike d r' := by
  subst h
  exact ⟨rfl, rfl, .used r.typewriter⟩

/-- No operation compares a time with anything but another time of the same clock. -/
theorem Alike.operate (alike : Alike d t t') (now : Nat) (o : Operation) :
    (t.operate now o).Alike d (t'.operate (now + d) (o.ahead d)) := by
  cases alike with
  | blank config =>
    cases o with
    | start text => exact ⟨rfl, rfl, .used _⟩
    | reset | update | skip | pause | resume | clock => exact ⟨rfl, rfl, .blank config⟩
  | used =>
    cases o with
    | start text => exact ⟨rfl, rfl, .used _⟩
    | reset => exact ⟨rfl, rfl, .blank t.config⟩
    | clock => exact ⟨rfl, rfl, .used t⟩
    | update => exact .of_eq_ahead (update_ahead t now d)
    | skip => exact .of_eq_ahead (skip_ahead t now d)
    | pause => exact .of_eq_ahead (pause_ahead t d)
    | resume => exact .of_eq_ahead (resume_ahead t now d)

/-- What a typewriter tells of itself at a time. -/
structure Sight where
  state : State
  text : String
  shown : String
  index : Nat
  elapsed : Nat
  sinceComplete : Option Nat

def sight (t : Typewriter) (now : Nat) : Sight where
  state := t.state
  text := t.text
  shown := t.shown
  index := t.index
  elapsed := t.elapsed now
  sinceComplete := t.timeSinceComplete now

theorem Alike.sight_eq (alike : Alike d t t') (now : Nat) :
    t'.sight (now + d) = t.sight now := by
  cases alike with
  | blank => rfl
  | used =>
    rw [sight, elapsed_ahead, timeSinceComplete_ahead]
    rfl

namespace Session

/-- What an operation gives back and reports, and what is to be seen after it. -/
def look (s : Session) (o : Operation) : Bool × List Signal × Sight :=
  let reaction := s.typewriter.operate s.now o
  (reaction.effective, reaction.signals, (s.step o).typewriter.sight (s.step o).now)

/-- Sessions that are alike, the clock of the second ahead by `d`. -/
structure Alike (d : Nat) (s s' : Session) : Prop where
  typewriter : s.typewriter.Alike d s'.typewriter
  now : s'.now = s.now + d

variable {s s' : Session}

theorem Alike.step (alike : Alike d s s') (o : Operation) :
    Alike d (s.step o) (s'.step (o.ahead d)) where
  typewriter := by
    rw [typewriter_step, typewriter_step, alike.now]
    exact (alike.typewriter.operate s.now o).typewriter
  now := by
    cases o with
    | clock => rfl
    | start | update | skip | pause | resume | reset => exact alike.now

theorem Alike.look_eq (alike : Alike d s s') (o : Operation) :
    s'.look (o.ahead d) = s.look o := by
  have reactions := alike.typewriter.operate s.now o
  have after := alike.step o
  simp only [look]
  rw [after.now, after.typewriter.sight_eq, alike.now, reactions.effective, reactions.signals]

/-- What is seen of a session. -/
def observed : Session → List Operation → List (Bool × List Signal × Sight) := observe step look

theorem Alike.observed_eq (alike : Alike d s s') (os : List Operation) :
    s'.observed (os.map (·.ahead d)) = s.observed os :=
  observe_map Session.step look (Alike d) (fun _ _ o h => h.look_eq o) (fun _ _ o h => h.step o)
    alike os

end Session

namespace MessageBox

variable (b : MessageBox) (now d : Nat)

def ahead : MessageBox := { b with typewriter := b.typewriter.ahead d }

def Frame.ahead (f : Frame) : Frame := { f with box := f.box.ahead d }

theorem Frame.ahead_ite {p : Prop} [Decidable p] (f f' : Frame) :
    (if p then f else f').ahead d = if p then f.ahead d else f'.ahead d :=
  apply_ite (Frame.ahead d) ..

theorem autoAdvanceDue_ahead (t : Typewriter) :
    autoAdvanceDue (t.ahead d) (now + d) = autoAdvanceDue t now := by
  rw [autoAdvanceDue, timeSinceComplete_ahead]
  rfl

theorem tick_ahead (confirm : Bool) :
    (b.ahead d).tick confirm (now + d) = (b.tick confirm now).ahead d := by
  have skipped : (b.ahead d).typewriter.skip (now + d) = _ := skip_ahead b.typewriter now d
  have updated : (b.ahead d).typewriter.update (now + d) = _ := update_ahead b.typewriter now d
  have due := autoAdvanceDue_ahead now d (b.typewriter.update now).typewriter
  simp only [tick, Frame.ahead_ite, skipped, updated, Reaction.ahead, due]
  rfl

def Operation.ahead (d : Nat) : Operation → Operation
  | .clock now => .clock (now + d)
  | o => o

/-- Message boxes that are used alike under clocks that are `d` apart. -/
structure Alike (d : Nat) (b b' : MessageBox) : Prop where
  typewriter : b.typewriter.Alike d b'.typewriter
  dismissed : b'.dismissed = b.dismissed

structure Frame.Alike (d : Nat) (f f' : Frame) : Prop where
  action : f'.action = f.action
  signals : f'.signals = f.signals
  box : f.box.Alike d f'.box

variable {b d} {b' : MessageBox}

theorem Alike.tick (alike : Alike d b b') (confirm : Bool) (now : Nat) :
    (b.tick confirm now).Alike d (b'.tick confirm (now + d)) := by
  obtain ⟨t, off⟩ := b
  obtain ⟨t', off'⟩ := b'
  obtain ⟨(typewriter : t.Alike d t'), (same : off' = off)⟩ := alike
  subst same
  cases typewriter with
  | blank config =>
    have rests (now : Nat) : MessageBox.tick ⟨{ config }, off'⟩ confirm now = ⟨none, [], _⟩ :=
      if_pos (by simp [isIdle])
    rw [rests, rests]
    exact ⟨rfl, rfl, .blank config, rfl⟩
  | used =>
    have shifted : MessageBox.tick ⟨t.ahead d, off'⟩ confirm (now + d) = _ :=
      tick_ahead ⟨t, off'⟩ now d confirm
    rw [shifted]
    exact ⟨rfl, rfl, .used _, rfl⟩

theorem Alike.operate (alike : Alike d b b') (now : Nat) (o : Operation) :
    (b.operate now o).Alike d (b'.operate (now + d) (o.ahead d)) := by
  cases o with
  | present text =>
    refine ⟨rfl, rfl, ?_, rfl⟩
    exact (alike.typewriter.operate now (.start text)).typewriter
  | tick confirm => exact alike.tick confirm now
  | clock => exact ⟨rfl, rfl, alike⟩

namespace Session

def look (s : Session) (o : Operation) :
    Option MessageAction × List MessageSignal × Bool × Sight :=
  let frame := s.box.operate s.now o
  (frame.action, frame.signals, frame.box.dismissed,
    frame.box.typewriter.sight (s.step o).now)

structure Alike (d : Nat) (s s' : Session) : Prop where
  box : s.box.Alike d s'.box
  now : s'.now = s.now + d

variable {s s' : Session}

theorem Alike.step (alike : Alike d s s') (o : Operation) :
    Alike d (s.step o) (s'.step (o.ahead d)) where
  box := by
    simp only [Session.step]
    rw [alike.now]
    exact (alike.box.operate s.now o).box
  now := by
    cases o with
    | clock => rfl
    | present | tick => exact alike.now

theorem Alike.look_eq (alike : Alike d s s') (o : Operation) :
    s'.look (o.ahead d) = s.look o := by
  have frames := alike.box.operate s.now o
  simp only [look]
  rw [(alike.step o).now, alike.now, frames.box.typewriter.sight_eq, frames.action,
    frames.signals, frames.box.dismissed]

def observed : Session → List Operation →
    List (Option MessageAction × List MessageSignal × Bool × Sight) :=
  observe step look

theorem Alike.observed_eq (alike : Alike d s s') (os : List Operation) :
    s'.observed (os.map (·.ahead d)) = s.observed os :=
  observe_map Session.step look (Alike d) (fun _ _ o h => h.look_eq o) (fun _ _ o h => h.step o)
    alike os

end Session
end MessageBox
end Typewriter

namespace Playback.ConfirmEdge

inductive Operation
  | poll (pressed : Bool) (now : Nat)
  | reset
  deriving DecidableEq, Repr

/-- What an operation does, and what a poll says. -/
def operate (e : ConfirmEdge) : Operation → Option Bool × ConfirmEdge
  | .poll pressed now => (some (e.poll pressed now).1, (e.poll pressed now).2)
  | .reset => (none, e.reset)

def Operation.ahead (d : Nat) : Operation → Operation
  | .poll pressed now => .poll pressed (now + d)
  | .reset => .reset

/-- The key with the time of its last press later by `d`. -/
def ahead (e : ConfirmEdge) (d : Nat) : ConfirmEdge :=
  { e with lastFired := e.lastFired.map (· + d) }

variable (e : ConfirmEdge) (d : Nat)

theorem isTooSoon_ahead (now : Nat) : (e.ahead d).isTooSoon (now + d) = e.isTooSoon now := by
  cases fired : e.lastFired <;> simp [isTooSoon, ahead, fired, Nat.add_sub_add_right]

theorem wasPressed_ahead : (e.ahead d).wasPressed = e.wasPressed := rfl

theorem poll_ahead (pressed : Bool) (now : Nat) :
    (e.ahead d).poll pressed (now + d) =
      ((e.poll pressed now).1, (e.poll pressed now).2.ahead d) := by
  simp only [poll, isTooSoon_ahead, wasPressed_ahead]
  split <;> rfl

theorem operate_ahead (o : Operation) :
    (e.ahead d).operate (o.ahead d) = ((e.operate o).1, (e.operate o).2.ahead d) := by
  cases o with
  | poll pressed now =>
    simp only [operate, Operation.ahead]
    rw [poll_ahead]
  | reset => rfl

/-- What the polls of a run say. -/
def observed : ConfirmEdge → List Operation → List (Option Bool) :=
  observe (fun e o => (e.operate o).2) (fun e o => (e.operate o).1)

theorem observed_ahead (os : List Operation) :
    (e.ahead d).observed (os.map (·.ahead d)) = e.observed os := by
  refine observe_map _ _ (fun e e' => e' = e.ahead d) ?_ ?_ rfl os
  all_goals
    rintro e _ o rfl
    rw [operate_ahead]

end Playback.ConfirmEdge

open Typewriter Playback

/-- Only differences of times matter. From their initial states, a typewriter, a message box and the
confirm key give back, report and show the same at every operation under a clock that is ahead by
`d` all along. -/
theorem observed_clock_ahead (config : Typewriter.Config) (debounce now d : Nat) :
    (∀ os, (Typewriter.Session.fresh config (now + d)).observed (os.map (·.ahead d)) =
      (Typewriter.Session.fresh config now).observed os) ∧
    (∀ os, (MessageBox.Session.start { config } (now + d)).observed (os.map (·.ahead d)) =
      (MessageBox.Session.start { config } now).observed os) ∧
    ∀ os, ({ debounce } : ConfirmEdge).observed (os.map (·.ahead d)) =
      ({ debounce } : ConfirmEdge).observed os := by
  refine ⟨?_, ?_, ?_⟩
  · exact Typewriter.Session.Alike.observed_eq ⟨.blank config, rfl⟩
  · exact MessageBox.Session.Alike.observed_eq ⟨⟨.blank config, rfl⟩, rfl⟩
  · exact ConfirmEdge.observed_ahead { debounce } d

end Dialogue
