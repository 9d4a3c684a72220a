import Dialogue.Script.Position

/-! Findings about scripts: how grave, about which script, where, and what. -/
namespace Dialogue.Check

open Script (Position)

inductive Level
  | info
  | warn
  | error
  deriving DecidableEq, Repr

namespace Level

def describe : Level → String
  | .info => "INFO"
  | .warn => "WARN"
  | .error => "ERROR"

def rank : Level → Nat
  | .info => 0
  | .warn => 1
  | .error => 2

end Level

structure Diagnostic where
  level : Level
  script : String
  position : Option Position := none
  message : String
  detail : Option String := none
  deriving DecidableEq, Repr

namespace Diagnostic

def render (d : Diagnostic) : String :=
  let place := match d.position with
    | none => ""
    | some p => ":" ++ p.render
  let detail := match d.detail with
    | none => ""
    | some text => "\n  | " ++ text
  s!"[{d.level.describe}] {d.script}{place}: {d.message}{detail}"

/-- The order of a report: by place, and findings without a place last. -/
def le (a b : Diagnostic) : Bool :=
  match a.position, b.position with
  | some p, some q => p.le q
  | some _, none => true
  | none, some _ => false
  | none, none => true

end Diagnostic

/-- Findings in the order in which they are told. -/
structure Report where
  diagnostics : List Diagnostic
  deriving DecidableEq, Repr

namespace Report

def empty : Report := ⟨[]⟩

def push (r : Report) (d : Diagnostic) : Report := ⟨r.diagnostics ++ [d]⟩

def merge (r s : Report) : Report := ⟨r.diagnostics ++ s.diagnostics⟩

def count (r : Report) (level : Level) : Nat := r.diagnostics.countP (·.level = level)

def errorCount (r : Report) : Nat := r.count .error

def warnCount (r : Report) : Nat := r.count .warn

def infoCount (r : Report) : Nat := r.count .info

def hasErrors (r : Report) : Bool := 0 < r.errorCount

def size (r : Report) : Nat := r.diagnostics.length

def isEmpty (r : Report) : Bool := r.diagnostics.isEmpty

/-- The findings at least as grave as `level`. -/
def atLeast (r : Report) (level : Level) : List Diagnostic :=
  r.diagnostics.filter fun d => level.rank ≤ d.level.rank

/-- By place; findings at one place keep their order. -/
def sort (r : Report) : Report := ⟨r.diagnostics.mergeSort Diagnostic.le⟩

end Report
end Dialogue.Check
