import Dialogue.Json.Number

/-! Words of a JSON text. Reading them never fails: where the text is not JSON, a last word says
so. -/
namespace Dialogue.Json

inductive Token
  | braceOpen
  | braceClose
  | bracketOpen
  | bracketClose
  | colon
  | comma
  | null
  | bool (value : Bool)
  /-- No value if the number is too great for a double. -/
  | number (value : Option Number)
  /-- No value if the string holds half of a surrogate pair. -/
  | string (value : Option String)
  /-- Here the text stops being JSON. -/
  | broken
  deriving DecidableEq, Repr

def isSpace (c : Char) : Bool := c == ' ' || c == '\t' || c == '\n' || c == '\r'

def isDigit (c : Char) : Bool := '0' ≤ c && c ≤ '9'

def hexValue? (c : Char) : Option Nat :=
  if isDigit c then some (c.toNat - '0'.toNat)
  else if 'a' ≤ c && c ≤ 'f' then some (c.toNat - 'a'.toNat + 10)
  else if 'A' ≤ c && c ≤ 'F' then some (c.toNat - 'A'.toNat + 10)
  else none

def hex4? (a b c d : Char) : Option Nat := do
  return ((← hexValue? a) * 16 + (← hexValue? b)) * 256 + (← hexValue? c) * 16 + (← hexValue? d)

def escapeValue? : Char → Option Char
  | '"' => some '"'
  | '\\' => some '\\'
  | '/' => some '/'
  | 'b' => some '\x08'
  | 'f' => some '\x0c'
  | 'n' => some '\n'
  | 'r' => some '\r'
  | 't' => some '\t'
  | _ => none

/-- A character of a string, or a 16-bit unit written by its number. -/
inductive Piece
  | char (c : Char)
  | unit (n : Nat)
  deriving DecidableEq, Repr

/-- The inside of a string, behind its opening quote, and what follows the closing one. -/
def scanString : List Char → Option (List Piece × List Char)
  | [] => none
  | '"' :: cs => some ([], cs)
  | '\\' :: 'u' :: a :: b :: c :: d :: cs => do
    let n ← hex4? a b c d
    let (pieces, rest) ← scanString cs
    return (.unit n :: pieces, rest)
  | '\\' :: e :: cs => do
    let c ← escapeValue? e
    let (pieces, rest) ← scanString cs
    return (.char c :: pieces, rest)
  | c :: cs =>
    if c.val < 0x20 || c = '\\' then none
    else do
      let (pieces, rest) ← scanString cs
      return (.char c :: pieces, rest)

/-- The characters that pieces stand for; units of a surrogate pair must stand together. -/
def joinPieces? : List Piece → Option (List Char)
  | [] => some []
  | .char c :: ps => (joinPieces? ps).map (c :: ·)
  | .unit hi :: .unit lo :: ps =>
    if 0xD800 ≤ hi && hi < 0xDC00 then
      if 0xDC00 ≤ lo && lo < 0xE000 then
        (joinPieces? ps).map (Char.ofNat (0x10000 + (hi - 0xD800) * 0x400 + (lo - 0xDC00)) :: ·)
      else none
    else if 0xDC00 ≤ hi && hi < 0xE000 then none
    else (joinPieces? (.unit lo :: ps)).map (Char.ofNat hi :: ·)
  | .unit n :: ps =>
    if 0xD800 ≤ n && n < 0xE000 then none else (joinPieces? ps).map (Char.ofNat n :: ·)

/-- The exponent of a number, if one is written; none if it is written without digits. -/
def scanExponent (cs : List Char) : Option (Option (Bool × List Char) × List Char) :=
  match cs with
  | e :: cs =>
    if e = 'e' || e = 'E' then
      let (isNegative, cs) := match cs with
        | '+' :: rest => (false, rest)
        | '-' :: rest => (true, rest)
        | rest => (false, rest)
      if (cs.takeWhile isDigit).isEmpty then none
      else some (some (isNegative, cs.takeWhile isDigit), cs.dropWhile isDigit)
    else some (none, e :: cs)
  | [] => some (none, [])

/-- The fraction of a number, if one is written; none if it is written without digits. -/
def scanFraction (cs : List Char) : Option (List Char × List Char) :=
  match cs with
  | '.' :: cs =>
    if (cs.takeWhile isDigit).isEmpty then none
    else some (cs.takeWhile isDigit, cs.dropWhile isDigit)
  | cs => some ([], cs)

/-- A number behind its sign. Only a zero standing alone starts with a zero. -/
def scanNumber (isNegative : Bool) (cs : List Char) : Option (Literal × List Char) := do
  let integer := cs.takeWhile isDigit
  if integer.isEmpty || (integer.head? = some '0' && 1 < integer.length) then none
  let (fraction, cs) ← scanFraction (cs.dropWhile isDigit)
  let (exponent, cs) ← scanExponent cs
  return (⟨isNegative, integer, fraction, exponent⟩, cs)

def stringToken (pieces : List Piece) : Token :=
  .string ((joinPieces? pieces).map String.ofList)

/-- The word that starts with `c`, and what follows it. -/
def scanToken (c : Char) (cs : List Char) : Option (Token × List Char) :=
  match c with
  | '\x7b' => some (.braceOpen, cs)
  | '\x7d' => some (.braceClose, cs)
  | '[' => some (.bracketOpen, cs)
  | ']' => some (.bracketClose, cs)
  | ':' => some (.colon, cs)
  | ',' => some (.comma, cs)
  | '"' => (scanString cs).map fun (pieces, rest) => (stringToken pieces, rest)
  | '-' => (scanNumber true cs).map fun (l, rest) => (.number l.value?, rest)
  | 'n' => match cs with
    | 'u' :: 'l' :: 'l' :: rest => some (.null, rest)
    | _ => none
  | 't' => match cs with
    | 'r' :: 'u' :: 'e' :: rest => some (.bool true, rest)
    | _ => none
  | 'f' => match cs with
    | 'a' :: 'l' :: 's' :: 'e' :: rest => some (.bool false, rest)
    | _ => none
  | c =>
    if isDigit c then (scanNumber false (c :: cs)).map fun (l, rest) => (.number l.value?, rest)
    else none

/-- The words of a text, given how many characters of it may still be read. -/
def tokensWithin : Nat → List Char → List Token
  | 0, _ => []
  | fuel + 1, cs =>
    match cs.dropWhile isSpace with
    | [] => []
    | c :: cs =>
      match scanToken c cs with
      | none => [.broken]
      | some (t, rest) => t :: tokensWithin fuel rest

/-- Every word takes at least one character, so the length of the text is enough. -/
def tokens (cs : List Char) : List Token := tokensWithin cs.length cs

end Dialogue.Json
