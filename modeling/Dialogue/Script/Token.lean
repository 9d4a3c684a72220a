import Dialogue.Script.Position
import Dialogue.Text.Alphabetic

/-! The words of a script. Outside brackets a script is running text; between brackets it is names,
equal signs and quoted strings, with blanks that separate them. -/
namespace Dialogue.Script

inductive TokenKind
  | bracketOpen
  | bracketClose
  | equal
  | string
  | ident
  | text
  | endOfInput
  | illegal
  deriving DecidableEq, Repr

/-- How messages call a kind of token. -/
def TokenKind.describe : TokenKind → String
  | .bracketOpen => "'['"
  | .bracketClose => "']'"
  | .equal => "'='"
  | .string => "string"
  | .ident => "identifier"
  | .text => "text"
  | .endOfInput => "end-of-input"
  | .illegal => "illegal"

inductive Token
  | bracketOpen
  | bracketClose
  | equal
  | string (content : String)
  | ident (name : String)
  | text (content : String)
  /-- A string whose closing quote is missing; it reaches to the end of the script. -/
  | openString (content : String)
  /-- A character that has no meaning between brackets. -/
  | illegal (char : Char)
  deriving DecidableEq, Repr

namespace Token

def kind : Token → TokenKind
  | .bracketOpen => .bracketOpen
  | .bracketClose => .bracketClose
  | .equal => .equal
  | .string _ => .string
  | .ident _ => .ident
  | .text _ => .text
  | .openString _ | .illegal _ => .illegal

/-- The characters of the script that the token covers. -/
def span : Token → List Char
  | .bracketOpen => ['[']
  | .bracketClose => [']']
  | .equal => ['=']
  | .string s => '"' :: s.toList ++ ['"']
  | .ident s | .text s => s.toList
  | .openString s => '"' :: s.toList
  | .illegal c => [c]

/-- The text that stands for the token in messages: a closed string is shown without its quotes. -/
def literal : Token → String
  | .string s => s
  | t => String.ofList t.span

def isBracket : Token → Bool
  | .bracketOpen | .bracketClose => true
  | _ => false

/-- Whether reading goes on between brackets after the token. -/
def staysInside (t : Token) (inside : Bool) : Bool :=
  match t with
  | .bracketOpen => true
  | .bracketClose => false
  | _ => inside

end Token

structure Lexeme where
  token : Token
  position : Position
  deriving DecidableEq, Repr

/-- Characters of command names and parameter names. -/
def isNameChar (c : Char) : Bool := Text.isAlphabetic c || c == '_'

/-- Characters of running text. -/
def isPlain (c : Char) : Bool := c != '[' && c != ']'

/-- Characters that separate tokens between brackets. -/
def isSeparator (c : Char) : Bool := c == ' ' || c == '\t' || c == '\r' || c == '\n'

theorem isNameChar_bracketOpen : isNameChar '[' = false := by decide
theorem isNameChar_bracketClose : isNameChar ']' = false := by decide
theorem isNameChar_equal : isNameChar '=' = false := by decide
theorem isNameChar_quote : isNameChar '"' = false := by decide

theorem isNameChar_of_isSeparator {c : Char} (h : isSeparator c) : isNameChar c = false := by
  simp only [isSeparator, Bool.or_eq_true, beq_iff_eq] at h
  rcases h with ((rfl | rfl) | rfl) | rfl <;> decide

end Dialogue.Script
