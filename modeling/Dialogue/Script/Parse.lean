import Dialogue.Script.ParseError
import Dialogue.Script.Program
import Dialogue.Script.Segment

/-! Reading a program. Every segment of a script gives one statement or one error; a command is a
name, then parameters written `key="value"`, then its closing bracket, and the first token that
breaks this form decides the error. -/
namespace Dialogue.Script

/-- What one segment gives, with the remarks made on the way. -/
structure Item where
  outcome : Except ParseError Statement
  warnings : List Warning

/-- The place of the next token of a command, or of what stops it. -/
def nextPosition (ending : Ending) : List Lexeme → Position
  | [] => ending.position
  | l :: _ => l.position

/-- The parameters of the command `name`, opened at `start`, given those already read. -/
def readParams (start : Position) (name : String) (ending : Ending) (seen : Params) :
    List Lexeme → Except ParseError Params × List Warning
  | [] =>
    match ending with
    | .closed _ => (.ok seen, [])
    | .reopened p => (.error ⟨.unexpectedToken .bracketOpen, p⟩, [])
    | .endOfInput _ => (.error ⟨.unterminatedCommand name, start⟩, [])
  | ⟨.ident key, _⟩ :: ⟨.equal, _⟩ :: ⟨.string value, p⟩ :: ls =>
    let (result, warnings) := readParams start name ending (seen.insert key value) ls
    (result, if seen.contains key then .duplicateParam name key p :: warnings else warnings)
  | ⟨.ident _, _⟩ :: ⟨.equal, _⟩ :: ⟨.openString _, p⟩ :: _ => (.error ⟨.unterminatedString, p⟩, [])
  | ⟨.ident key, _⟩ :: ⟨.equal, _⟩ :: ls =>
    (.error ⟨.missingValue name key, nextPosition ending ls⟩, [])
  | ⟨.ident key, _⟩ :: ls => (.error ⟨.missingEquals name key, nextPosition ending ls⟩, [])
  | ⟨.openString _, p⟩ :: _ => (.error ⟨.unterminatedString, p⟩, [])
  | ⟨.illegal c, p⟩ :: _ => (.error ⟨.illegalCharacter c, p⟩, [])
  | ⟨t, p⟩ :: _ => (.error ⟨.unexpectedToken t.kind, p⟩, [])

/-- The command opened at `start`. Where the script ends right after the bracket, the bracket is
blamed. -/
def readCommand (start : Position) (body : List Lexeme) (ending : Ending) : Item :=
  match body with
  | ⟨.ident name, _⟩ :: ls =>
    let (result, warnings) := readParams start name ending .empty ls
    ⟨result.map fun params => ⟨.command name params, start⟩, warnings⟩
  | ⟨_, p⟩ :: _ => ⟨.error ⟨.missingCommandName, p⟩, []⟩
  | [] =>
    match ending with
    | .closed p | .reopened p => ⟨.error ⟨.missingCommandName, p⟩, []⟩
    | .endOfInput _ => ⟨.error ⟨.missingCommandName, start⟩, []⟩

def Segment.read : Segment → Item
  | .text content p => ⟨.ok ⟨.text content, p⟩, []⟩
  | .stray t p => ⟨.error ⟨.noStatement t, p⟩, []⟩
  | .command p body ending => readCommand p body ending

/-- A script read to its end: what could be read, and what was wrong with the rest. -/
structure Parsed where
  items : List Item

namespace Parsed

def statements (r : Parsed) : List Statement := r.items.filterMap (·.outcome.toOption)

def program (r : Parsed) : Program := ⟨r.statements⟩

def errors (r : Parsed) : List ParseError :=
  r.items.filterMap fun i => match i.outcome with
    | .error e => some e
    | .ok _ => none

def warnings (r : Parsed) : List Warning := r.items.flatMap (·.warnings)

/-- The program, if nothing was wrong. -/
def strict (r : Parsed) : Except CompileError Program :=
  if r.errors.isEmpty then .ok r.program else .error ⟨r.errors⟩

end Parsed

def parse (source : List Char) : Parsed :=
  ⟨(segments (endPosition source) (tokens source)).map Segment.read⟩

end Dialogue.Script
