import Dialogue.Json.Value
import Dialogue.Playback.Event
import Dialogue.Text.Quoted

/-! Programs and events written out for inspection: on one line each, or as JSON. -/
namespace Dialogue

namespace Script

def Params.inspect (ps : Params) : String :=
  let entry := fun (e : String × String) => Text.quote e.1 ++ ": " ++ Text.quote e.2
  "\x7b" ++ ", ".intercalate (ps.entries.map entry) ++ "\x7d"

def Params.toValue (ps : Params) : Json.Value :=
  .object (ps.entries.map fun (key, value) => (key, .string value))

def Expression.toValue : Expression → Json.Value
  | .text value => .object [("TextLiteral", .object [("value", .string value)])]
  | .command name params =>
    .object [("CommandLiteral", .object [("name", .string name), ("params", params.toValue)])]

def Position.toValue (p : Position) : Json.Value :=
  .object [("column", .natural p.column), ("line", .natural p.line)]

def Statement.toValue (s : Statement) : Json.Value :=
  .object [("expression", s.expression.toValue), ("position", s.position.toValue)]

end Script

namespace Playback

def Reveal.inspect (r : Reveal) : String :=
  "TextReveal \x7b runes: " ++ Text.quoteList Text.quoteChar r.runes ++
    s!", cursor: {r.cursor}" ++ " \x7d"

def Command.inspect (c : Command) : String :=
  "OpaqueCommand \x7b name: " ++ Text.quote c.name ++ ", params: " ++ c.params.inspect ++ " \x7d"

def Event.inspect : Event → String
  | .text r => "TextReveal(" ++ r.inspect ++ ")"
  | .pageBreak => "PageBreak"
  | .command c => "Command(" ++ c.inspect ++ ")"

def Event.toValue : Event → Json.Value
  | .text r =>
    .object [("TextReveal", .object [
      ("cursor", .natural r.cursor),
      ("runes", .array (r.runes.map fun c => .string c.toString))])]
  | .pageBreak => .string "PageBreak"
  | .command c =>
    .object [("Command", .object [("name", .string c.name), ("params", c.params.toValue)])]

end Playback
end Dialogue
