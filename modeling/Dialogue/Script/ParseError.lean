import Dialogue.Script.Token

/-! What can be wrong with a script, where, and in which words it is told. -/
namespace Dialogue.Script

inductive ParseError.Cause
  /-- No statement starts with this token. -/
  | noStatement (token : Token)
  | missingCommandName
  | missingEquals (command param : String)
  | missingValue (command param : String)
  | unterminatedCommand (command : String)
  | unterminatedString
  /-- Neither a parameter nor the end of the command. -/
  | unexpectedToken (found : TokenKind)
  | illegalCharacter (char : Char)
  deriving DecidableEq, Repr

structure ParseError where
  cause : ParseError.Cause
  position : Position
  deriving DecidableEq, Repr

namespace ParseError

/-- What may stand where an unexpected token was found. -/
def expectedInCommand : String := "parameter name or `]`"

def message (e : ParseError) : String :=
  match e.cause with
  | .noStatement t => s!"no prefix parse function for {t.kind.describe} token '{t.literal}'"
  | .missingCommandName => "missing command name after `[`"
  | .missingEquals command param =>
    s!"missing `=` after identifier '{param}' inside command '{command}'"
  | .missingValue command param =>
    s!"missing string value after `=` for '{param}' inside command '{command}'"
  | .unterminatedCommand command => s!"unterminated command '{command}', expected `]`"
  | .unterminatedString => "unterminated string literal"
  | .unexpectedToken found =>
    s!"expected {expectedInCommand} inside command, found {found.describe}"
  | .illegalCharacter c => s!"illegal character '{c}' inside command"

def render (e : ParseError) : String := s!"{e.position.render}: {e.message}"

end ParseError

/-- A remark that does not keep a script from being used. -/
structure Warning where
  position : Position
  message : String
  deriving DecidableEq, Repr

def Warning.render (w : Warning) : String := s!"{w.position.render}: {w.message}"

/-- The parameter `key` was given before in the same command; its value is given at `p`. -/
def Warning.duplicateParam (command key : String) (p : Position) : Warning :=
  ⟨p, s!"duplicate parameter '{key}' in command '{command}', last value wins"⟩

/-- The errors that keep a script from being used, in reading order. -/
structure CompileError where
  errors : List ParseError
  deriving DecidableEq, Repr

def CompileError.render (e : CompileError) : String :=
  s!"{e.errors.length} parse error(s)" ++ String.join (e.errors.map fun x => "\n  " ++ x.render)

end Dialogue.Script
