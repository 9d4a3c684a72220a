import Dialogue.Typewriter.Basic

/-! A typewriter in use: operations in any order, between which its clock is set to anything. -/
namespace Dialogue.Typewriter

inductive Operation
  | start (text : String)
  | update
  | skip
  | pause
  | resume
  | reset
  /-- The clock is set to `now`. -/
  | clock (now : Nat)
  deriving DecidableEq, Repr

/-- Whether an operation goes on with the text that is being typed. -/
def Operation.Continues : Operation → Prop
  | .start _ | .reset => False
  | .update | .skip | .pause | .resume | .clock _ => True

def operate (t : Typewriter) (now : Nat) : Operation → Reaction
  | .start text => ⟨true, [], t.start text now⟩
  | .update => t.update now
  | .skip => t.skip now
  | .pause => t.pause
  | .resume => t.resume now
  | .reset => ⟨true, [], t.reset⟩
  | .clock _ => t.ignore

/-- What an operation that goes on with a text can do to it. -/
inductive Does (t : Typewriter) (now : Nat) : Operation → Reaction → Prop
  | ignores (o : Operation) : Does t now o t.ignore
  | completes (typing : t.state = .typing) (none_left : t.pending = []) :
      Does t now .update ⟨false, [.complete], t.finish now⟩
  | reveals {c : Char} {rest : List Char} (typing : t.state = .typing)
      (next : t.pending = c :: rest) (more : rest ≠ [])
      (due : t.requiredDelay ≤ now - t.revealedAt) :
      Does t now .update ⟨true, [.char c], t.reveal c rest now⟩
  | revealsLast {c : Char} (typing : t.state = .typing) (next : t.pending = [c])
      (due : t.requiredDelay ≤ now - t.revealedAt) :
      Does t now .update ⟨true, [.char c, .complete], (t.reveal c [] now).finish now⟩
  | skips (typing : t.state = .typing) (enabled : t.config.skipEnabled = true) :
      Does t now .skip ⟨true, [.skip, .complete],
        { t with shown := t.text, index := t.chars.length, pending := [] }.finish now⟩
  | pauses (typing : t.state = .typing) (enabled : t.config.pauseEnabled = true) :
      Does t now .pause ⟨true, [], { t with state := .paused }⟩
  | resumes (paused : t.state = .paused) (enabled : t.config.pauseEnabled = true) :
      Does t now .resume ⟨true, [], { t with state := .typing, revealedAt := now }⟩

theorem does_update (t : Typewriter) (now : Nat) : Does t now .update (t.update now) := by
  unfold update
  split
  · exact .ignores .update
  · next moving =>
    have typing : t.state = .typing := Decidable.not_not.mp moving
    split
    · next none_left => exact .completes typing none_left
    · next c rest next =>
      split
      · exact .ignores .update
      · next enough =>
        have due : t.requiredDelay ≤ now - t.revealedAt := Nat.not_lt.mp enough
        cases rest with
        | nil => exact .revealsLast typing next due
        | cons d rest => exact .reveals typing next (List.cons_ne_nil d rest) due

theorem does_operate (t : Typewriter) (now : Nat) {o : Operation} (continues : o.Continues) :
    Does t now o (t.operate now o) := by
  cases o with
  | start | reset => exact False.elim continues
  | update => exact does_update t now
  | skip =>
    simp only [operate, skip]
    split
    · next h => exact .skips h.1 h.2
    · exact .ignores .skip
  | pause =>
    simp only [operate, pause]
    split
    · next h => exact .pauses h.1 h.2
    · exact .ignores .pause
  | resume =>
    simp only [operate, resume]
    split
    · next h => exact .resumes h.1 h.2
    · exact .ignores .resume
  | clock now => exact .ignores (.clock now)

theorem Does.config_eq {t : Typewriter} {now : Nat} {o : Operation} {reaction : Reaction}
    (does : Does t now o reaction) : reaction.typewriter.config = t.config := by
  cases does <;> rfl

/-- A typewriter with its clock. -/
structure Session where
  typewriter : Typewriter
  now : Nat := 0

namespace Session

def step (s : Session) (o : Operation) : Session where
  typewriter := (s.typewriter.operate s.now o).typewriter
  now := match o with
    | .clock now => now
    | _ => s.now

def run (s : Session) (os : List Operation) : Session := os.foldl step s

/-- The operations of a run, each with what it did. -/
def history (s : Session) : List Operation → List (Operation × Reaction)
  | [] => []
  | o :: os => (o, s.typewriter.operate s.now o) :: (s.step o).history os

/-- What is reported in a run. -/
def signals (s : Session) (os : List Operation) : List Signal :=
  (s.history os).flatMap fun (_, reaction) => reaction.signals

@[simp] theorem typewriter_step (s : Session) (o : Operation) :
    (s.step o).typewriter = (s.typewriter.operate s.now o).typewriter := rfl

theorem run_append (s : Session) (first second : List Operation) :
    s.run (first ++ second) = (s.run first).run second :=
  List.foldl_append

/-- A session on a typewriter that has not been used. -/
def fresh (config : Config) (now : Nat) : Session := ⟨{ config }, now⟩

def elapsed (s : Session) : Nat := s.typewriter.elapsed s.now

/-- What each of the operations `allowed` keeps, a session of them keeps. -/
theorem run_keeps {P : Typewriter → Prop} {allowed : Operation → Prop}
    (keeps : ∀ t now o, allowed o → P t → P (t.operate now o).typewriter) {s : Session}
    (initial : P s.typewriter) {os : List Operation} (all : ∀ o ∈ os, allowed o) :
    P (s.run os).typewriter := by
  induction os generalizing s with
  | nil => exact initial
  | cons o os ih =>
    obtain ⟨first, rest⟩ := List.forall_mem_cons.mp all
    exact ih (s := s.step o) (keeps _ _ o first initial) rest

end Session

end Dialogue.Typewriter
