/-! What stands behind the beginning of a text, where the beginning is given, and where its size is,
in bytes of UTF-8: then it is what a growing text has gained. -/
namespace Dialogue.Text

/-- What stands behind `front`, if the text begins with it. -/
def behind? (front s : String) : Option String :=
  if front.toList <+: s.toList then some (String.ofList (s.toList.drop front.length)) else none

theorem behind?_append (front rest : String) : behind? front (front ++ rest) = some rest := by
  have begins : front.toList <+: (front ++ rest).toList :=
    ⟨rest.toList, String.toList_append.symm⟩
  have left : (front ++ rest).toList.drop front.length = rest.toList := by
    rw [String.toList_append, ← String.length_toList, List.drop_left]
  rw [behind?, if_pos begins, left, String.ofList_toList]

def dropBytes : Nat → List Char → List Char
  | _, [] => []
  | 0, cs => cs
  | n, c :: cs => dropBytes (n - c.utf8Size) cs

/-- What stands behind the first `bytes` bytes. -/
def suffixFrom (bytes : Nat) (s : String) : List Char :=
  if s.utf8ByteSize ≤ bytes then [] else dropBytes bytes s.toList

theorem dropBytes_zero (cs : List Char) : dropBytes 0 cs = cs := by
  cases cs <;> rfl

/-- The size of a text is the number of bytes to drop to get behind it. -/
theorem dropBytes_append (s : String) (rest : List Char) :
    dropBytes s.utf8ByteSize (s.toList ++ rest) = rest := by
  suffices h : ∀ cs : List Char, dropBytes (String.ofList cs).utf8ByteSize (cs ++ rest) = rest by
    simpa using h s.toList
  intro cs
  induction cs with
  | nil => exact dropBytes_zero rest
  | cons c cs ih =>
    have hc : (String.ofList (c :: cs)).utf8ByteSize =
        c.utf8Size + (String.ofList cs).utf8ByteSize := by
      rw [show c :: cs = [c] ++ cs from rfl, String.ofList_append, String.utf8ByteSize_append]
      simp
    have hp := c.utf8Size_pos
    obtain ⟨n, hn⟩ : ∃ n, c.utf8Size + (String.ofList cs).utf8ByteSize = n + 1 :=
      ⟨_, (Nat.succ_pred_eq_of_pos (by omega)).symm⟩
    rw [hc, hn, List.cons_append, dropBytes, ← hn, Nat.add_sub_cancel_left]
    exact ih
    all_goals simp

/-- What a text has gained since is what has come behind it. -/
theorem suffixFrom_append (s added : String) :
    suffixFrom s.utf8ByteSize (s ++ added) = added.toList := by
  unfold suffixFrom
  rw [String.utf8ByteSize_append, String.toList_append, dropBytes_append]
  split
  · next none_gained =>
    have empty : added = "" := String.utf8ByteSize_eq_zero_iff.mp (by omega)
    rw [empty]
    rfl
  · rfl

end Dialogue.Text
