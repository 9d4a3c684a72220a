import Dialogue.Json.Token

/-! JSON texts as trees, also where they are not JSON to their end: what comes before the first
fault is kept in its place, and the fault is marked where it stands. So a reader that walks a tree
in the order of the text meets the same thing first as one that reads the text. -/
namespace Dialogue.Json

inductive Tree
  | null
  | bool (value : Bool)
  | number (value : Option Number)
  | string (value : Option String)
  /-- Open if the text stops being JSON between its items. -/
  | array (items : List Tree) (closed : Bool)
  /-- Open if the text stops being JSON between its members. -/
  | object (members : List (Option String × Tree)) (closed : Bool)
  /-- Here a value should stand. -/
  | broken

namespace Tree

/-- What was read, and the words behind it unless a fault was met on the way. -/
abbrev Reading (α : Type) (ts : List Token) := α × Option { rest : List Token // rest.length < ts.length }

mutual

/-- The value at the head of `ts`. -/
def read (ts : List Token) : Reading Tree ts :=
  match ts with
  | .null :: ts => (.null, some ⟨ts, by simp only [List.length_cons]; omega⟩)
  | .bool b :: ts => (.bool b, some ⟨ts, by simp only [List.length_cons]; omega⟩)
  | .number n :: ts => (.number n, some ⟨ts, by simp only [List.length_cons]; omega⟩)
  | .string s :: ts => (.string s, some ⟨ts, by simp only [List.length_cons]; omega⟩)
  | .bracketOpen :: .bracketClose :: ts => (.array [] true, some ⟨ts, by simp only [List.length_cons]; omega⟩)
  | .bracketOpen :: ts =>
    match readItems ts with
    | (items, none) => (.array items false, none)
    | (items, some ⟨rest, h⟩) => (.array items true, some ⟨rest, by simp only [List.length_cons]; omega⟩)
  | .braceOpen :: .braceClose :: ts => (.object [] true, some ⟨ts, by simp only [List.length_cons]; omega⟩)
  | .braceOpen :: ts =>
    match readMembers ts with
    | (members, none) => (.object members false, none)
    | (members, some ⟨rest, h⟩) => (.object members true, some ⟨rest, by simp only [List.length_cons]; omega⟩)
  | _ => (.broken, none)
termination_by (ts.length, 0)

/-- The items of an array up to its end; at least one stands here. -/
def readItems (ts : List Token) : Reading (List Tree) ts :=
  match read ts with
  | (item, some ⟨.bracketClose :: rest, h⟩) => ([item], some ⟨rest, by simp only [List.length_cons] at h; omega⟩)
  | (item, some ⟨.comma :: rest, h⟩) =>
    match readItems rest with
    | (items, none) => (item :: items, none)
    | (items, some ⟨rest', h'⟩) => (item :: items, some ⟨rest', by simp only [List.length_cons] at h; omega⟩)
  | (item, _) => ([item], none)
termination_by (ts.length, 1)
decreasing_by
  · exact Prod.Lex.right _ (by omega)
  · exact Prod.Lex.left _ _ (by simp only [List.length_cons] at h; omega)

/-- The members of an object up to its end; at least one stands here. -/
def readMembers (ts : List Token) : Reading (List (Option String × Tree)) ts :=
  match ts with
  | .string key :: .colon :: ts =>
    match read ts with
    | (value, some ⟨.braceClose :: rest, h⟩) =>
      ([(key, value)], some ⟨rest, by simp only [List.length_cons] at h ⊢; omega⟩)
    | (value, some ⟨.comma :: rest, h⟩) =>
      match readMembers rest with
      | (members, none) => ((key, value) :: members, none)
      | (members, some ⟨rest', h'⟩) =>
        ((key, value) :: members, some ⟨rest', by simp only [List.length_cons] at h ⊢; omega⟩)
    | (value, _) => ([(key, value)], none)
  | .string key :: _ => ([(key, .broken)], none)
  | _ => ([], none)
termination_by (ts.length, 1)
decreasing_by
  · exact Prod.Lex.left _ _ (by simp only [List.length_cons]; omega)
  · exact Prod.Lex.left _ _ (by simp only [List.length_cons] at h ⊢; omega)

end

end Tree

/-- A text read as one value, and whether nothing but spaces follows it. -/
structure Document where
  tree : Tree
  ended : Bool

def Document.ofText (text : List Char) : Document :=
  match Tree.read (tokens text) with
  | (tree, some ⟨[], _⟩) => ⟨tree, true⟩
  | (tree, _) => ⟨tree, false⟩

end Dialogue.Json
