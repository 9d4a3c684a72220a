import Dialogue.Text.Blank

/-! The pace of a typewriter, in whole milliseconds: a delay before every character, and more of it
after punctuation and at line ends. -/
namespace Dialogue.Typewriter

structure Config where
  charDelay : Nat
  punctuationDelay : Nat
  commaDelay : Nat
  newlineDelay : Nat
  skipEnabled : Bool
  pauseEnabled : Bool
  autoComplete : Bool
  autoCompleteDelay : Nat
  deriving DecidableEq, Repr

/-- How a character slows down the one after it. -/
inductive PauseClass
  | sentenceEnd
  | comma
  | newline
  | none
  deriving DecidableEq, Repr

def PauseClass.of : Char → PauseClass
  | '.' | '!' | '?' | '。' | '！' | '？' | '…' | '‥' => .sentenceEnd
  | ',' | ';' | ':' | '、' | '，' | '；' | '：' => .comma
  | '\n' => .newline
  | _ => .none

/-- What `c` adds to the delay of the character after it. -/
def Config.extraDelayAfter (config : Config) (c : Char) : Nat :=
  match PauseClass.of c with
  | .sentenceEnd => config.punctuationDelay
  | .comma => config.commaDelay
  | .newline => config.newlineDelay
  | .none => 0

inductive Preset
  | instant
  | fast
  | normal
  | slow
  | dramatic
  deriving DecidableEq, Repr

namespace Preset

def all : List Preset := [.instant, .fast, .normal, .slow, .dramatic]

def name : Preset → String
  | .instant => "instant"
  | .fast => "fast"
  | .normal => "normal"
  | .slow => "slow"
  | .dramatic => "dramatic"

/-- A preset that sets the four delays. -/
def paced (char punctuation comma newline : Nat) : Config where
  charDelay := char
  punctuationDelay := punctuation
  commaDelay := comma
  newlineDelay := newline
  skipEnabled := true
  pauseEnabled := true
  autoComplete := false
  autoCompleteDelay := 1500

def config : Preset → Config
  | .instant => paced 0 0 0 0
  | .fast => paced 20 200 100 100
  | .normal => paced 50 400 200 250
  | .slow => paced 100 600 300 400
  | .dramatic => paced 150 1000 500 700

/-- Blanks around a name and the case of Latin letters do not matter. -/
def ofName? (name : String) : Option Preset :=
  let wanted := (Text.trim name.toList).map Char.toLower
  all.find? fun preset => preset.name.toList = wanted

theorem ofName?_name (preset : Preset) : ofName? preset.name = some preset := by
  cases preset <;> decide

end Preset

def Config.default : Config := Preset.normal.config

end Dialogue.Typewriter
