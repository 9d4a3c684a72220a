import Dialogue.Script.Params
import Dialogue.Script.Token

/-! Programs: what a script says, in reading order, and how it is written back. -/
namespace Dialogue.Script

inductive Expression
  | text (value : String)
  | command (name : String) (params : Params)
  deriving DecidableEq, Inhabited

/-- A parameter as it stands in a command, after the blank that separates it. -/
def renderParam (param : String × String) : String :=
  " " ++ param.1 ++ "=\"" ++ param.2 ++ "\""

/-- Values are written as they are: a quote inside a value has no written form. -/
def Expression.render : Expression → String
  | .text value => value
  | .command name params => "[" ++ name ++ String.join (params.entries.map renderParam) ++ "]"

structure Statement where
  expression : Expression
  position : Position
  deriving DecidableEq, Inhabited

structure Program where
  statements : List Statement
  deriving DecidableEq, Inhabited

namespace Program

def size (p : Program) : Nat := p.statements.length

def isEmpty (p : Program) : Bool := p.statements.isEmpty

def expressions (p : Program) : List Expression := p.statements.map (·.expression)

def render (p : Program) : String := String.join (p.expressions.map Expression.render)

end Program
end Dialogue.Script
