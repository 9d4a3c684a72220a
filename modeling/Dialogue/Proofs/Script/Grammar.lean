import Dialogue.Script.Parse
import Dialogue.Proofs.Script.Scanning
import Mathlib.Data.List.Chain

/-! The grammar of scripts, told over characters and without the scanner. A script is a list of
phrases: running texts, of which no two stand side by side, and commands, whose blanks are free
except in front of the first parameter. What a script says, and which of its parameters are
repeated, is read off its phrases. -/
namespace Dialogue.Script

/-- Only separators. -/
def IsBlank (cs : List Char) : Prop := ∀ c ∈ cs, isSeparator c = true

/-- A parameter as it is written, `key = "value"`, with the blanks in front of each of its parts. -/
structure WrittenParam where
  lead : List Char
  key : List Char
  beforeEqual : List Char
  afterEqual : List Char
  value : List Char

namespace WrittenParam

/-- What is written up to the opening quote of the value. -/
def beforeValue (w : WrittenParam) : List Char :=
  w.lead ++ w.key ++ w.beforeEqual ++ '=' :: w.afterEqual

def chars (w : WrittenParam) : List Char := w.beforeValue ++ '"' :: w.value ++ ['"']

def entry (w : WrittenParam) : String × String := (String.ofList w.key, String.ofList w.value)

structure WellFormed (w : WrittenParam) : Prop where
  lead : IsBlank w.lead
  key : IsRun isNameChar w.key
  beforeEqual : IsBlank w.beforeEqual
  afterEqual : IsBlank w.afterEqual
  value : '"' ∉ w.value

end WrittenParam

inductive Phrase
  | text (run : List Char)
  /-- The opening bracket is followed by `lead`, the closing one preceded by `trail`. -/
  | command (lead name : List Char) (params : List WrittenParam) (trail : List Char)

/-- A value written for a parameter, at the place of its opening quote. -/
structure Assignment where
  key : String
  value : String
  position : Position

def assignments (p : Position) : List WrittenParam → List Assignment
  | [] => []
  | w :: ws =>
    ⟨String.ofList w.key, String.ofList w.value, p.after w.beforeValue⟩ ::
      assignments (p.after w.chars) ws

/-- One remark for every key that was written before in the same command. -/
def repeats (command : String) (seen : List String) : List Assignment → List Warning
  | [] => []
  | a :: as =>
    let rest := repeats command (a.key :: seen) as
    if a.key ∈ seen then .duplicateParam command a.key a.position :: rest else rest

namespace Phrase

def chars : Phrase → List Char
  | .text run => run
  | .command lead name params trail =>
    '[' :: lead ++ name ++ params.flatMap WrittenParam.chars ++ trail ++ [']']

def IsText : Phrase → Prop
  | .text _ => True
  | .command .. => False

def WellFormed : Phrase → Prop
  | .text run => IsRun isPlain run
  | .command lead name params trail =>
    IsBlank lead ∧ IsRun isNameChar name ∧ (∀ w ∈ params, w.WellFormed) ∧
      (∀ w ∈ params.head?, w.lead ≠ []) ∧ IsBlank trail

/-- What the phrase says when it starts at `p`. -/
def statement (p : Position) : Phrase → Statement
  | .text run => ⟨.text (String.ofList run), p⟩
  | .command _ name params _ =>
    ⟨.command (String.ofList name) (.ofList (params.map WrittenParam.entry)), p⟩

def warnings (p : Position) : Phrase → List Warning
  | .text _ => []
  | .command lead name params _ =>
    repeats (String.ofList name) [] (assignments (p.after ('[' :: lead ++ name)) params)

/-- The phrases make up a script. Texts are as long as they can be. -/
structure Spelled (xs : List Phrase) : Prop where
  wellFormed : ∀ x ∈ xs, x.WellFormed
  maximal : xs.IsChain fun x y => ¬ (x.IsText ∧ y.IsText)

/-- Each phrase at the place of its first character. -/
def places (p : Position) : List Phrase → List (Position × Phrase)
  | [] => []
  | x :: xs => (p, x) :: places (p.after x.chars) xs

end Phrase
end Dialogue.Script
