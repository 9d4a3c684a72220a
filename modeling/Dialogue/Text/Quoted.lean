import Dialogue.Text.Printable

/-! Text quoted for inspection. The enclosing mark, the backslash and the common controls are
escaped by a backslash; what cannot be shown on its own is written by its code point. -/
namespace Dialogue.Text

/-- One character inside quotation by `mark`. -/
def escapeChar (mark c : Char) : String :=
  match c with
  | '\x00' => "\\0"
  | '\t' => "\\t"
  | '\r' => "\\r"
  | '\n' => "\\n"
  | '\\' => "\\\\"
  | c =>
    if c = mark then "\\".push c
    else if isExtending c || !isPrintable c then
      "\\u\x7b" ++ String.ofList (Nat.toDigits 16 c.toNat) ++ "\x7d"
    else c.toString

def quoteChar (c : Char) : String := "'" ++ escapeChar '\'' c ++ "'"

def quote (s : String) : String :=
  s.toList.foldl (fun out c => out ++ escapeChar '"' c) "\"" ++ "\""

/-- Items between brackets, separated by a comma and a space. -/
def quoteList (item : α → String) (items : List α) : String :=
  "[" ++ ", ".intercalate (items.map item) ++ "]"

end Dialogue.Text
