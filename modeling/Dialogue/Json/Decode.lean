import Dialogue.Json.Tree
import Dialogue.Text.Quoted

/-! Reading typed values from JSON. The first fault in the order of the text decides: a value of the
wrong type stands before whatever is malformed behind it. -/
namespace Dialogue.Json

inductive Fault
  /-- The text is not JSON. -/
  | malformed
  | invalidType (found expected : String)
  | invalidValue (found expected : String)
  | duplicateField (name : String)
  deriving DecidableEq, Repr

def Fault.message : Fault → String
  | .malformed => "syntax"
  | .invalidType found expected => s!"invalid type: {found}, expected {expected}"
  | .invalidValue found expected => s!"invalid value: {found}, expected {expected}"
  | .duplicateField name => s!"duplicate field `{name}`"

def Number.describe : Number → String
  | .natural n => s!"integer `{n}`"
  | .negative n => s!"integer `{n}`"
  | .double bits => "floating point `" ++ renderDouble bits ++ "`"

namespace Tree

/-- How messages call a value, where there is one. Arrays and objects are known by their first
character. -/
def describe? : Tree → Option String
  | .null => some "null"
  | .bool b => some s!"boolean `{b}`"
  | .number n => n.map Number.describe
  | .string s => s.map fun s => "string " ++ Text.quote s
  | .array .. => some "sequence"
  | .object .. => some "map"
  | .broken => none

/-- The fault of a value that is not of the expected type. -/
def mismatch (t : Tree) (expected : String) : Fault :=
  match t.describe? with
  | some found => .invalidType found expected
  | none => .malformed

/-- A whole number of 64 bits. -/
def asNatural (t : Tree) : Except Fault Nat :=
  match t with
  | .number (some (.natural n)) => .ok n
  | .number (some (.negative n)) => .error (.invalidValue (Number.negative n).describe "u64")
  | t => .error (t.mismatch "u64")

def asBool (t : Tree) : Except Fault Bool :=
  match t with
  | .bool b => .ok b
  | t => .error (t.mismatch "a boolean")

def asString (t : Tree) : Except Fault String :=
  match t with
  | .string (some s) => .ok s
  | t => .error (t.mismatch "a string")

def requireClosed (closed : Bool) : Except Fault Unit :=
  if closed then .ok () else .error .malformed

def asStrings (t : Tree) : Except Fault (List String) :=
  match t with
  | .array items closed => do
    let strings ← items.mapM asString
    requireClosed closed
    return strings
  | t => .error (t.mismatch "a sequence")

mutual

/-- Whether the value is JSON to its end, whatever it holds. -/
def isWhole : Tree → Bool
  | .array items closed => allWhole items && closed
  | .object members closed => allMembersWhole members && closed
  | .broken => false
  | _ => true

def allWhole : List Tree → Bool
  | [] => true
  | t :: ts => t.isWhole && allWhole ts

def allMembersWhole : List (Option String × Tree) → Bool
  | [] => true
  | (_, t) :: ms => t.isWhole && allMembersWhole ms

end

mutual

/-- Whether the value can be kept: it is whole, its strings and numbers have values, and its arrays
and objects are at most `depth` deep. -/
def isStorable (depth : Nat) : Tree → Bool
  | .array items closed => 0 < depth && allStorable (depth - 1) items && closed
  | .object members closed => 0 < depth && allMembersStorable (depth - 1) members && closed
  | .number n => n.isSome
  | .string s => s.isSome
  | .null | .bool _ => true
  | .broken => false

def allStorable (depth : Nat) : List Tree → Bool
  | [] => true
  | t :: ts => t.isStorable depth && allStorable depth ts

def allMembersStorable (depth : Nat) : List (Option String × Tree) → Bool
  | [] => true
  | (key, t) :: ms => key.isSome && t.isStorable depth && allMembersStorable depth ms

end

/-- Passes over a value that nothing is made of. -/
def skip (t : Tree) : Except Fault Unit := if t.isWhole then .ok () else .error .malformed

end Tree

/-- Reads the members of an object in turn into a draft. -/
def readMembers (assign : δ → String → Tree → Except Fault δ) (draft : δ) :
    List (Option String × Tree) → Except Fault δ
  | [] => .ok draft
  | (none, _) :: _ => .error .malformed
  | (some key, value) :: ms => do readMembers assign (← assign draft key value) ms

/-- Reads a record given by an object, or by an array that holds its fields in order. -/
def readRecord (expected : String) (fields : List String)
    (assign : δ → String → Tree → Except Fault δ) (draft : δ) (t : Tree) : Except Fault δ :=
  match t with
  | .object members closed => do
    let result ← readMembers assign draft members
    Tree.requireClosed closed
    return result
  | .array items closed => do
    let named := (fields.zip items).map fun (field, item) => (some field, item)
    let result ← readMembers assign draft named
    Tree.requireClosed (closed && items.length ≤ fields.length)
    return result
  | t => .error (t.mismatch expected)

/-- Reads a text that is to hold one value and nothing behind it. -/
def readText (read : Tree → Except Fault α) (text : List Char) : Except Fault α := do
  let document := Document.ofText text
  let result ← read document.tree
  Tree.requireClosed document.ended
  return result

end Dialogue.Json
