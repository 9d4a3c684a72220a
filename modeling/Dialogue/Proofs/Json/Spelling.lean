import Dialogue.Json.Codec

/-! The texts that stand for a value by the grammar of JSON: blanks may stand between any two words, and
a character of a string may be escaped. Also the tree that says what a value is. Nothing here knows how
texts are read or written. -/
namespace Dialogue.Json

/-- Characters that may stand between words. -/
def IsBlank (c : Char) : Prop := c = ' ' ∨ c = '\t' ∨ c = '\n' ∨ c = '\r'

def Blanks (cs : List Char) : Prop := ∀ c ∈ cs, IsBlank c

/-- A text of the form `P` with blanks around it. -/
def Around (P : List Char → Prop) (text : List Char) : Prop :=
  ∃ front body back, text = front ++ body ++ back ∧ Blanks front ∧ P body ∧ Blanks back

/-- The letters behind a backslash, and what they stand for. -/
def shortEscapes : List (Char × Char) :=
  [('"', '"'), ('\\', '\\'), ('/', '/'), ('b', '\x08'), ('f', '\x0c'), ('n', '\n'), ('r', '\r'),
    ('t', '\t')]

/-- A hexadecimal digit, small or great. -/
def IsHex (c : Char) (n : Nat) : Prop :=
  "0123456789abcdef".toList[n]? = some c ∨ "0123456789ABCDEF".toList[n]? = some c

/-- Four hexadecimal digits for a 16-bit unit. -/
inductive IsUnit : List Char → Nat → Prop
  | digits : IsHex a w → IsHex b x → IsHex c y → IsHex d z →
      IsUnit [a, b, c, d] (((w * 16 + x) * 16 + y) * 16 + z)

/-- How the characters of a string may be written between its quotes: as they are unless they are
quotes, backslashes or controls, with a short escape, by number, or by the numbers of a surrogate
pair. -/
inductive Escapes : List Char → List Char → Prop
  | nil : Escapes [] []
  | plain {c : Char} : 0x20 ≤ c.toNat → c ≠ '"' → c ≠ '\\' → Escapes text cs →
      Escapes (c :: text) (c :: cs)
  | short : (e, c) ∈ shortEscapes → Escapes text cs → Escapes ('\\' :: e :: text) (c :: cs)
  | unit {c : Char} : IsUnit digits c.toNat → Escapes text cs →
      Escapes ('\\' :: 'u' :: (digits ++ text)) (c :: cs)
  | pair {c : Char} : IsUnit high hi → IsUnit low lo → 0xD800 ≤ hi → hi < 0xDC00 → 0xDC00 ≤ lo →
      lo < 0xE000 → c.toNat = 0x10000 + (hi - 0xD800) * 0x400 + (lo - 0xDC00) → Escapes text cs →
      Escapes ('\\' :: 'u' :: (high ++ '\\' :: 'u' :: (low ++ text))) (c :: cs)

def StringSpelling (s : String) (text : List Char) : Prop :=
  ∃ inside, text = '"' :: inside ++ ['"'] ∧ Escapes inside s.toList

namespace Value

mutual

/-- The texts that stand for a value, from its first character to its last. -/
def Spelling : Value → List Char → Prop
  | .bool b, text => text = (if b then "true" else "false").toList
  | .natural n, text => text = Nat.toDigits 10 n
  | .string s, text => StringSpelling s text
  | .array items, text => ∃ inside, text = '[' :: inside ++ [']'] ∧ ItemsSpelling items inside
  | .object members, text =>
    ∃ inside, text = '\x7b' :: inside ++ ['\x7d'] ∧ MembersSpelling members inside

/-- What stands between the brackets of an array. -/
def ItemsSpelling : List Value → List Char → Prop
  | [], text => Blanks text
  | [v], text => Around (fun cs => v.Spelling cs) text
  | v :: w :: vs, text =>
    ∃ first later, text = first ++ ',' :: later ∧ Around (fun cs => v.Spelling cs) first ∧
      ItemsSpelling (w :: vs) later

/-- What stands between the braces of an object. -/
def MembersSpelling : List (String × Value) → List Char → Prop
  | [], text => Blanks text
  | [(key, v)], text =>
    ∃ name value, text = name ++ ':' :: value ∧ Around (StringSpelling key) name ∧
      Around (fun cs => v.Spelling cs) value
  | (key, v) :: m :: ms, text =>
    ∃ name value later, text = name ++ ':' :: (value ++ ',' :: later) ∧
      Around (StringSpelling key) name ∧ Around (fun cs => v.Spelling cs) value ∧
      MembersSpelling (m :: ms) later

end

/-- The texts that hold the value and nothing behind it. -/
def Spells (text : List Char) (v : Value) : Prop := Around v.Spelling text

mutual

/-- The tree that says what a value is. -/
def tree : Value → Tree
  | .bool b => .bool b
  | .natural n => .number (some (.natural n))
  | .string s => .string (some s)
  | .array items => .array (itemTrees items) true
  | .object members => .object (memberTrees members) true

def itemTrees : List Value → List Tree
  | [] => []
  | v :: vs => v.tree :: itemTrees vs

def memberTrees : List (String × Value) → List (Option String × Tree)
  | [] => []
  | (key, v) :: ms => (some key, v.tree) :: memberTrees ms

end

mutual

/-- No natural number in the value has more than 64 bits. -/
def Fits : Value → Prop
  | .bool _ | .string _ => True
  | .natural n => n < naturalBound
  | .array items => ItemsFit items
  | .object members => MembersFit members

def ItemsFit : List Value → Prop
  | [] => True
  | v :: vs => v.Fits ∧ ItemsFit vs

def MembersFit : List (String × Value) → Prop
  | [] => True
  | (_, v) :: ms => v.Fits ∧ MembersFit ms

end

theorem itemTrees_map {f : α → Value} {xs : List α} :
    itemTrees (xs.map f) = xs.map fun x => (f x).tree := by
  induction xs with
  | nil => rfl
  | cons x xs ih => simp [itemTrees, ih]

theorem memberTrees_eq_map {ms : List (String × Value)} :
    memberTrees ms = ms.map fun m => (some m.1, m.2.tree) := by
  induction ms with
  | nil => rfl
  | cons m ms ih => simp [memberTrees, ih]

theorem memberTrees_append (ms ms' : List (String × Value)) :
    memberTrees (ms ++ ms') = memberTrees ms ++ memberTrees ms' := by
  simp [memberTrees_eq_map]

theorem itemsFit_iff {vs : List Value} : ItemsFit vs ↔ ∀ v ∈ vs, v.Fits := by
  induction vs with
  | nil => simp [ItemsFit]
  | cons v vs ih => simp [ItemsFit, ih]

theorem membersFit_iff {ms : List (String × Value)} : MembersFit ms ↔ ∀ m ∈ ms, m.2.Fits := by
  induction ms with
  | nil => simp [MembersFit]
  | cons m ms ih => simp [MembersFit, ih]

mutual

theorem isWhole_tree : (v : Value) → v.tree.isWhole = true
  | .bool _ | .natural _ | .string _ => rfl
  | .array items => by rw [tree, Tree.isWhole, allWhole_itemTrees items, Bool.and_true]
  | .object members => by rw [tree, Tree.isWhole, allMembersWhole_memberTrees members, Bool.and_true]

theorem allWhole_itemTrees : (vs : List Value) → Tree.allWhole (itemTrees vs) = true
  | [] => rfl
  | v :: vs => by rw [itemTrees, Tree.allWhole, isWhole_tree v, allWhole_itemTrees vs, Bool.and_true]

theorem allMembersWhole_memberTrees : (ms : List (String × Value)) →
    Tree.allMembersWhole (memberTrees ms) = true
  | [] => rfl
  | (_, v) :: ms => by
    rw [memberTrees, Tree.allMembersWhole, isWhole_tree v, allMembersWhole_memberTrees ms,
      Bool.and_true]

end

end Value
end Dialogue.Json
