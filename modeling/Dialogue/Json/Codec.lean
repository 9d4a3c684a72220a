import Dialogue.Json.Decode
import Dialogue.Json.Value

/-! What values are written as JSON and read from it with. A program says which records it has, with
the names and the defaults of their fields; how records are written and read is up to a codec. -/
namespace Dialogue.Json

/-- How values of a type are written, and how they are read. -/
structure Coding (α : Type) where
  write : α → Value
  read : Tree → Except Fault α

/-- Values that are written as those of another type, and made of those read. -/
def Coding.via (coding : Coding α) (write : β → α) (read : α → β) : Coding β where
  write b := coding.write (write b)
  read t := (coding.read t).map read

/-- A field of the records `ρ`. -/
structure Field (ρ : Type) where
  name : String
  write : ρ → Value
  /-- The field set to what stands in a text. -/
  read : Tree → Except Fault (ρ → ρ)
  /-- The field set to its default. -/
  absent : ρ → ρ

def Field.of (name : String) (coding : Coding α) (get : ρ → α) (set : α → ρ → ρ) (default : α) :
    Field ρ where
  name := name
  write r := coding.write (get r)
  read t := (coding.read t).map set
  absent := set default

/-- What members of an object the fields of a record are. -/
structure Record (ρ : Type) where
  /-- How messages call the record. -/
  title : String
  /-- Where setting the fields begins. -/
  base : ρ
  fields : List (Field ρ)
  distinct : (fields.map (·.name)).Nodup

/-- A record that holds another one, whose fields stand among its own. -/
structure Enclosing (ρ σ : Type) where
  title : String
  base : ρ
  before : List (Field ρ)
  inner : Record σ
  get : ρ → σ
  set : σ → ρ → ρ
  after : List (Field ρ)
  distinct : ((before ++ after).map (·.name) ++ inner.fields.map (·.name)).Nodup

/-- The fields that are not those of the inner record. -/
def Enclosing.own (e : Enclosing ρ σ) : List (Field ρ) := e.before ++ e.after

structure Codec where
  /-- The text of a value, laid out on several lines. -/
  toText : Value → String
  /-- Reads a text that is to hold one value and nothing behind it. -/
  ofText : {α : Type} → (Tree → Except Fault α) → List Char → Except Fault α
  /-- Whole numbers of 64 bits. -/
  natural : Coding Nat
  flag : Coding Bool
  string : Coding String
  strings : Coding (List String)
  record : {ρ : Type} → Record ρ → Coding ρ
  enclosing : {ρ σ : Type} → Enclosing ρ σ → Coding ρ
  /-- Keeps a value that is read only later, as a field of an inner record or as none. -/
  keep : Tree → Except Fault Tree

/-- What a text holds, whatever is made of it. -/
def Codec.Holds (c : Codec) (text : List Char) (t : Tree) : Prop := c.ofText .ok text = .ok t

end Dialogue.Json
