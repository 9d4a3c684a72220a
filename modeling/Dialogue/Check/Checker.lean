import Dialogue.Check.Diagnostic
import Dialogue.Playback.Event
import Dialogue.Text.Lines
import Dialogue.Text.Suffix

/-! Checking scripts without playing them: syntax, repeated parameters, commands that no handler
knows, and text after the last page break. -/
namespace Dialogue.Check

open Script

/-- What a host tells its checker: the page break marker and the commands it handles. -/
structure Config where
  marker : String
  knownCommands : List String
  deriving DecidableEq, Repr

def Config.default : Config := ⟨Playback.defaultMarker, [Playback.newlineCommand]⟩

structure Checker where
  marker : String := Playback.defaultMarker
  knownCommands : List String := []
  deriving DecidableEq, Repr

namespace Checker

def ofConfig (config : Config) : Checker := ⟨config.marker, config.knownCommands⟩

def isKnown (c : Checker) (name : String) : Bool := c.knownCommands.contains name

def unknownCommand (script name : String) (p : Position) : Diagnostic where
  level := .warn
  script := script
  position := some p
  message := s!"unknown command '{name}'"
  detail := some s!"no handler is registered for '{name}', it will be skipped"

def openText (c : Checker) (script : String) (p : Position) : Diagnostic where
  level := .info
  script := script
  position := some p
  message := s!"text after the last page break is not followed by [{c.marker}]"

/-- The warnings about commands that are neither known nor the marker. -/
def unknownCommands (c : Checker) (script : String) (program : Program) : List Diagnostic :=
  program.statements.filterMap fun s =>
    match s.expression with
    | .text _ => none
    | .command name _ =>
      if name = c.marker || c.isKnown name then none
      else some (unknownCommand script name s.position)

def isBlankText (value : String) : Bool := value.toList.all Text.isBlank

/-- The place of the first text with a visible character since the last page break, after
`statement`, if `earlier` is that place before it. -/
def openTextAfter (marker : String) (earlier : Option Position) (s : Statement) :
    Option Position :=
  match s.expression with
  | .command name _ => if name = marker then none else earlier
  | .text value => if earlier.isNone && !isBlankText value then some s.position else earlier

/-- What can be said of a program alone. -/
def analyze (c : Checker) (script : String) (program : Program) : Report :=
  let leftOpen := (program.statements.foldl (openTextAfter c.marker) none).toList
  ⟨c.unknownCommands script program ++ leftOpen.map (c.openText script)⟩

/-- The text of an error without its place, which a finding has apart; the whole text if it did not
begin with the place. -/
def messageOf (e : ParseError) : String :=
  (Text.behind? (e.position.render ++ ": ") e.render).getD e.render

/-- Every error begins with its place, so its message is left. -/
@[simp] theorem messageOf_eq_message (e : ParseError) : messageOf e = e.message := by
  have placed : e.render = e.position.render ++ ": " ++ e.message := rfl
  rw [messageOf, placed, Text.behind?_append, Option.getD_some]

def ofParseError (script : String) (source : List Char) (e : ParseError) : Diagnostic where
  level := .error
  script := script
  position := some e.position
  message := messageOf e
  detail := (Text.line? e.position.line source).map String.ofList

def ofWarning (script : String) (w : Warning) : Diagnostic where
  level := .warn
  script := script
  position := some w.position
  message := w.message

/-- All findings about a script, by place. -/
def check (c : Checker) (script : String) (source : List Char) : Report :=
  let parsed := parse source
  Report.sort
    ⟨parsed.errors.map (ofParseError script source) ++ parsed.warnings.map (ofWarning script) ++
      (c.analyze script parsed.program).diagnostics⟩

end Checker
end Dialogue.Check
