import Dialogue.Text.Quoted

/-! JSON values to be written, and their text on several lines, indented by two spaces a level. -/
namespace Dialogue.Json

inductive Value
  | bool (value : Bool)
  | natural (value : Nat)
  | string (value : String)
  | array (items : List Value)
  | object (members : List (String × Value))

namespace Value

def hexDigit (n : Nat) : Char := if n < 10 then Char.ofNat (48 + n) else Char.ofNat (87 + n)

/-- Only quotes, backslashes and controls are escaped. -/
def escapeChar (c : Char) : List Char :=
  match c with
  | '"' => ['\\', '"']
  | '\\' => ['\\', '\\']
  | '\x08' => ['\\', 'b']
  | '\x0c' => ['\\', 'f']
  | '\n' => ['\\', 'n']
  | '\r' => ['\\', 'r']
  | '\t' => ['\\', 't']
  | c =>
    if c.val < 0x20 then ['\\', 'u', '0', '0', hexDigit (c.toNat / 16), hexDigit (c.toNat % 16)]
    else [c]

def quoted (s : String) : List Char := '"' :: s.toList.flatMap escapeChar ++ ['"']

def indent (level : Nat) : List Char := '\n' :: List.replicate (2 * level) ' '

mutual

/-- The text of a value that stands at the given level of indentation. -/
def chars (level : Nat) : Value → List Char
  | .bool b => (if b then "true" else "false").toList
  | .natural n => (toString n).toList
  | .string s => quoted s
  | .array [] => ['[', ']']
  | .array items => '[' :: itemChars level items ++ indent level ++ [']']
  | .object [] => ['\x7b', '\x7d']
  | .object members => '\x7b' :: memberChars level members ++ indent level ++ ['\x7d']

def itemChars (level : Nat) : List Value → List Char
  | [] => []
  | [v] => indent (level + 1) ++ v.chars (level + 1)
  | v :: vs => indent (level + 1) ++ v.chars (level + 1) ++ [','] ++ itemChars level vs

def memberChars (level : Nat) : List (String × Value) → List Char
  | [] => []
  | [(k, v)] => indent (level + 1) ++ quoted k ++ [':', ' '] ++ v.chars (level + 1)
  | (k, v) :: ms =>
    indent (level + 1) ++ quoted k ++ [':', ' '] ++ v.chars (level + 1) ++ [','] ++
      memberChars level ms

end

def render (v : Value) : String := String.ofList (v.chars 0)

end Value
end Dialogue.Json
