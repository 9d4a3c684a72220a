import Dialogue.Check.Diagnostic

/-! What a tool leaves: an exit code, what it told, and a file it wrote. -/
namespace Dialogue.Tool

structure Outcome where
  code : Nat := 0
  stdout : String := ""
  stderr : String := ""
  /-- The path and the content of the file that was written. -/
  written : Option (String × String) := none
  deriving DecidableEq, Repr

def line (text : String) : String := text ++ "\n"

/-- The findings of a report, a line each or more. -/
def reportLines (r : Check.Report) : String :=
  String.join (r.diagnostics.map fun d => line d.render)

end Dialogue.Tool
