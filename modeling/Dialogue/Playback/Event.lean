import Dialogue.Script.Parse

/-! What a program does when it is played: it shows texts character by character, calls commands of
the host and stops at page breaks. One command name, the marker, stands for a page break. -/
namespace Dialogue.Playback

open Script

/-- A text at its reading point. -/
structure Reveal where
  shown : String
  pending : List Char
  deriving DecidableEq, Repr

namespace Reveal

def ofText (text : String) : Reveal := ⟨"", text.toList⟩

def next? (r : Reveal) : Option (Char × Reveal) :=
  match r.pending with
  | [] => none
  | c :: cs => some (c, ⟨r.shown.push c, cs⟩)

/-- The whole text, shown or not. -/
def runes (r : Reveal) : List Char := r.shown.toList ++ r.pending

def cursor (r : Reveal) : Nat := r.shown.length

def remaining (r : Reveal) : Nat := r.pending.length

def isExhausted (r : Reveal) : Bool := r.pending.isEmpty

/-- Whether nothing has been shown yet. -/
def isFresh (r : Reveal) : Bool := r.shown.isEmpty

theorem runes_of_next? {r r' : Reveal} {c : Char} (h : r.next? = some (c, r')) :
    r'.runes = r.runes := by
  unfold next? at h
  split at h
  · simp at h
  · next hp =>
    simp only [Option.some.injEq, Prod.mk.injEq] at h
    simp [← h.2, runes, hp]

end Reveal

/-- A command as the host sees it. -/
structure Command where
  name : String
  params : Params
  deriving DecidableEq

inductive Event
  | text (reveal : Reveal)
  | pageBreak
  | command (command : Command)
  deriving DecidableEq

/-- Only a text can be exhausted. -/
def Event.isExhausted : Event → Bool
  | .text r => r.isExhausted
  | .pageBreak | .command _ => false

/-- What makes no difference of a text that is shown completely makes none of several in front of a
script. -/
theorem apply_dropWhile_isExhausted {f : List Event → α}
    (unnoticed : ∀ r es, r.pending = [] → f (.text r :: es) = f es) (es : List Event) :
    f (es.dropWhile Event.isExhausted) = f es := by
  induction es with
  | nil => rfl
  | cons e es ih =>
    rw [List.dropWhile_cons]
    split
    · next exhausted =>
      cases e with
      | text r => exact ih.trans (unnoticed r es (List.isEmpty_iff.mp exhausted)).symm
      | pageBreak | command => contradiction
    · rfl

def defaultMarker : String := "p"

/-- The name under which hosts register the line break. -/
def newlineCommand : String := "r"

/-- An empty text leaves nothing to do. -/
def eventOf (marker : String) : Expression → Option Event
  | .text value => if value.isEmpty then none else some (.text (.ofText value))
  | .command name params =>
    if name = marker then some .pageBreak else some (.command ⟨name, params⟩)

def eventsOf (marker : String) (p : Program) : List Event :=
  p.expressions.filterMap (eventOf marker)

def compile (marker : String) (source : List Char) : Except CompileError (List Event) :=
  (parse source).strict.map (eventsOf marker)

end Dialogue.Playback
