import Dialogue.Json.Codec

/-! The codec of the tools. Members are taken in the order of the text: a member whose name is a field
of the record sets it, a second member of the name is a fault, and a member of another name is passed
over. A record that holds another one keeps such members and makes the inner record of them once the
object has come to its end. -/
namespace Dialogue.Json

/-- The field of the name. -/
def field? (fields : List (Field ρ)) (name : String) : Option (Field ρ) :=
  fields.find? (·.name = name)

/-- What the members met so far make of their fields, under the names of these. -/
abbrev Found (ρ : Type) := List (String × (ρ → ρ))

namespace Found

/-- A field that may be given once. -/
def add (found : Found ρ) (f : Field ρ) (value : Tree) : Except Fault (Found ρ) :=
  if (found.lookup f.name).isSome then .error (.duplicateField f.name)
  else (f.read value).map fun change => (f.name, change) :: found

def assign (fields : List (Field ρ)) (found : Found ρ) (key : String) (value : Tree) :
    Except Fault (Found ρ) :=
  match field? fields key with
  | some f => found.add f value
  | none => do
    value.skip
    return found

/-- Sets the fields as their members say, or to their defaults. -/
def complete (found : Found ρ) (fields : List (Field ρ)) (base : ρ) : ρ :=
  fields.foldl (fun r f => (found.lookup f.name).getD f.absent r) base

end Found

namespace Record

def read (r : Record ρ) (t : Tree) : Except Fault ρ := do
  let found ← readRecord r.title (r.fields.map (·.name)) (Found.assign r.fields) [] t
  return found.complete r.fields r.base

def write (r : Record ρ) (value : ρ) : List (String × Value) :=
  r.fields.map fun f => (f.name, f.write value)

end Record

/-- How deep a value may be that is kept. -/
def greatestDepth : Nat := 126

def Tree.keep (t : Tree) : Except Fault Tree :=
  if t.isStorable greatestDepth then .ok t else .error .malformed

/-- What the members met so far make of their fields, and the members that are no own field. -/
structure Gathered (ρ : Type) where
  found : Found ρ := []
  others : List (Option String × Tree) := []

def Gathered.assign (fields : List (Field ρ)) (g : Gathered ρ) (key : String) (value : Tree) :
    Except Fault (Gathered ρ) :=
  match field? fields key with
  | some f => return { g with found := ← g.found.add f value }
  | none => return { g with others := g.others ++ [(some key, ← value.keep)] }

namespace Enclosing

def read (e : Enclosing ρ σ) (t : Tree) : Except Fault ρ :=
  match t with
  | .object members closed => do
    let g ← readMembers (Gathered.assign e.own) {} members
    Tree.requireClosed closed
    let inner ← e.inner.read (.object g.others true)
    return e.set inner (g.found.complete e.own e.base)
  | t => .error (t.mismatch e.title)

def write (e : Enclosing ρ σ) (value : ρ) : List (String × Value) :=
  e.before.map (fun f => (f.name, f.write value)) ++ e.inner.write (e.get value) ++
    e.after.map (fun f => (f.name, f.write value))

end Enclosing

def Codec.standard : Codec where
  toText := Value.render
  ofText := readText
  natural := ⟨.natural, Tree.asNatural⟩
  flag := ⟨.bool, Tree.asBool⟩
  string := ⟨.string, Tree.asString⟩
  strings := ⟨fun ss => .array (ss.map .string), Tree.asStrings⟩
  record r := ⟨fun value => .object (r.write value), r.read⟩
  enclosing e := ⟨fun value => .object (e.write value), e.read⟩
  keep := Tree.keep

end Dialogue.Json
