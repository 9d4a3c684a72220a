import Dialogue.Proofs.Json.Spelling
import Dialogue.Proofs.Script.Scanning

/-! Words of a JSON text, one by one. The bound on the characters never tells, so a text is its first
word and the words of the rest. Of a string, however it is spelled, and of a natural number the first
word has the value. -/
namespace Dialogue.Json

open Script (StopsAt takeWhile_run dropWhile_run)

variable {cs rest : List Char}

section Suffixes

theorem scanString_suffix {ps : List Piece} (read : scanString cs = some (ps, rest)) :
    rest <:+ cs := by
  induction cs using scanString.induct generalizing ps with
  | case1 => simp [scanString] at read
  | case2 cs =>
    obtain ⟨-, rfl⟩ := by simpa [scanString] using read
    exact List.suffix_cons '"' cs
  | case3 a b c d cs ih =>
    simp only [scanString, bind, Option.bind_eq_some_iff] at read
    obtain ⟨n, -, ⟨ps', rest'⟩, inner, same⟩ := read
    obtain ⟨-, rfl⟩ := by simpa using same
    exact (ih inner).trans (List.suffix_append ['\\', 'u', a, b, c, d] cs)
  | case4 e cs other ih =>
    rw [scanString.eq_4 _ _ other] at read
    simp only [bind, Option.bind_eq_some_iff] at read
    obtain ⟨n, -, ⟨ps', rest'⟩, inner, same⟩ := read
    obtain ⟨-, rfl⟩ := by simpa using same
    exact (ih inner).trans (List.suffix_append ['\\', e] cs)
  | case5 c cs quote numbered escaped barred =>
    rw [scanString.eq_5 _ _ quote numbered escaped, if_pos barred] at read
    contradiction
  | case6 c cs quote numbered escaped plain ih =>
    rw [scanString.eq_5 _ _ quote numbered escaped, if_neg plain] at read
    obtain ⟨⟨ps', rest'⟩, inner, same⟩ := Option.bind_eq_some_iff.mp read
    obtain ⟨-, rfl⟩ := by simpa using same
    exact (ih inner).trans (List.suffix_cons c cs)

theorem scanExponent_suffix {e : Option (Bool × List Char)}
    (read : scanExponent cs = some (e, rest)) : rest <:+ cs := by
  unfold scanExponent at read
  split at read
  · next c cs =>
    split at read
    · split at read
      next signed =>
      split at read
      · contradiction
      · obtain ⟨-, rfl⟩ := by simpa using read
        refine ((List.dropWhile_suffix isDigit).trans ?_).trans (List.suffix_cons c cs)
        split at signed
        all_goals
          obtain ⟨-, rfl⟩ := Prod.mk.inj signed
        · exact List.suffix_cons _ _
        · exact List.suffix_cons _ _
        · exact List.suffix_rfl
    · obtain ⟨-, rfl⟩ := by simpa using read
      exact List.suffix_rfl
  · obtain ⟨-, rfl⟩ := by simpa using read
    exact List.suffix_rfl

theorem scanFraction_suffix {ds : List Char} (read : scanFraction cs = some (ds, rest)) :
    rest <:+ cs := by
  unfold scanFraction at read
  split at read
  · split at read
    · contradiction
    · obtain ⟨-, rfl⟩ := by simpa using read
      exact (List.dropWhile_suffix isDigit).trans (List.suffix_cons _ _)
  · obtain ⟨-, rfl⟩ := by simpa using read
    exact List.suffix_rfl

theorem scanNumber_suffix {isNegative : Bool} {l : Literal}
    (read : scanNumber isNegative cs = some (l, rest)) : rest <:+ cs.dropWhile isDigit := by
  simp only [scanNumber] at read
  split at read
  · contradiction
  · obtain ⟨⟨_, cs₁⟩, fraction, read⟩ := Option.bind_eq_some_iff.mp read
    obtain ⟨⟨_, cs₂⟩, exponent, same⟩ := Option.bind_eq_some_iff.mp read
    obtain ⟨-, rfl⟩ := by simpa using same
    exact (scanExponent_suffix exponent).trans (scanFraction_suffix fraction)

theorem scanToken_suffix {c : Char} {t : Token} (read : scanToken c cs = some (t, rest)) :
    rest <:+ cs := by
  unfold scanToken at read
  split at read
  case h_7 =>
    obtain ⟨⟨ps, rest'⟩, inner, same⟩ := Option.map_eq_some_iff.mp read
    obtain ⟨-, rfl⟩ := Prod.mk.inj same
    exact scanString_suffix inner
  case h_8 =>
    obtain ⟨⟨l, rest'⟩, inner, same⟩ := Option.map_eq_some_iff.mp read
    obtain ⟨-, rfl⟩ := Prod.mk.inj same
    exact (scanNumber_suffix inner).trans (List.dropWhile_suffix isDigit)
  case h_9 | h_10 | h_11 =>
    split at read
    · obtain ⟨-, rfl⟩ := by simpa using read
      first
      | exact List.suffix_append ['u', 'l', 'l'] _
      | exact List.suffix_append ['r', 'u', 'e'] _
      | exact List.suffix_append ['a', 'l', 's', 'e'] _
    · contradiction
  case h_12 =>
    split at read
    · next digit =>
      obtain ⟨⟨l, rest'⟩, inner, same⟩ := Option.map_eq_some_iff.mp read
      obtain ⟨-, rfl⟩ := Prod.mk.inj same
      have behind := scanNumber_suffix inner
      rw [List.dropWhile_cons_of_pos digit] at behind
      exact behind.trans (List.dropWhile_suffix isDigit)
    · contradiction
  all_goals
    obtain ⟨-, rfl⟩ := by simpa using read
    exact List.suffix_rfl

end Suffixes

/-- Any two bounds that are enough give the same words: they have the same first word, and are enough
for the rest. -/
theorem tokensWithin_congr {m n : Nat} (enough : cs.length ≤ m) (enough' : cs.length ≤ n) :
    tokensWithin m cs = tokensWithin n cs := by
  induction m generalizing cs n with
  | zero =>
    obtain rfl := List.eq_nil_of_length_eq_zero (Nat.le_zero.mp enough)
    cases n <;> rfl
  | succ m ih =>
    cases n with
    | zero =>
      obtain rfl := List.eq_nil_of_length_eq_zero (Nat.le_zero.mp enough')
      rfl
    | succ n =>
      have shorter := (List.dropWhile_suffix isSpace (l := cs)).length_le
      simp only [tokensWithin]
      split
      · rfl
      · next c cs' behind =>
        rw [behind, List.length_cons] at shorter
        split
        · rfl
        · next t rest word =>
          have word := (scanToken_suffix word).length_le
          rw [ih (by omega) (show rest.length ≤ n by omega)]

theorem tokensWithin_eq_tokens {n : Nat} (enough : cs.length ≤ n) :
    tokensWithin n cs = tokens cs :=
  tokensWithin_congr enough (Nat.le_refl cs.length)

theorem tokens_space {c : Char} (space : isSpace c = true) : tokens (c :: cs) = tokens cs := by
  rw [tokens, ← tokensWithin_eq_tokens (Nat.le_succ cs.length), List.length_cons, tokensWithin,
    tokensWithin, List.dropWhile_cons_of_pos space]

theorem tokens_word (c : Char) (cs : List Char) {t : Token} (solid : isSpace c = false)
    (word : scanToken c cs = some (t, rest)) : tokens (c :: cs) = t :: tokens rest := by
  rw [tokens, List.length_cons, tokensWithin, List.dropWhile_cons_of_neg (by simp [solid])]
  simp only [word, tokensWithin_eq_tokens (scanToken_suffix word).length_le]

theorem tokens_spaces {front : List Char} (spaces : ∀ c ∈ front, isSpace c = true) :
    tokens (front ++ cs) = tokens cs := by
  induction front with
  | nil => rfl
  | cons c front ih =>
    obtain ⟨space, spaces⟩ := List.forall_mem_cons.mp spaces
    rw [List.cons_append, tokens_space space, ih spaces]

section Strings

/-- A piece that stands for one character, whatever comes behind it. -/
def Piece.Means (p : Piece) (c : Char) : Prop :=
  ∀ ps, joinPieces? (p :: ps) = (joinPieces? ps).map (c :: ·)

theorem Piece.char_means (c : Char) : (Piece.char c).Means c := fun _ => rfl

theorem Piece.unit_means (c : Char) : (Piece.unit c.toNat).Means c := by
  intro ps
  -- No character lies among the halves of surrogate pairs.
  have valid : c.toNat < 0xD800 ∨ 0xE000 ≤ c.toNat := by
    rcases c.valid with low | ⟨high, -⟩
    · exact .inl low
    · exact .inr high
  have high : ¬ (0xD800 ≤ c.toNat ∧ c.toNat < 0xDC00) := by omega
  have low : ¬ (0xDC00 ≤ c.toNat ∧ c.toNat < 0xE000) := by omega
  have half : ¬ (0xD800 ≤ c.toNat ∧ c.toNat < 0xE000) := by omega
  rcases ps with - | ⟨p, ps⟩
  · simp [joinPieces?, half]
  · cases p with
    | char d => simp [joinPieces?, half]
    | unit n => simp [joinPieces?, high, low]

theorem joinPieces?_pair {hi lo : Nat} {c : Char} (ps : List Piece) (above : 0xD800 ≤ hi)
    (below : hi < 0xDC00) (above' : 0xDC00 ≤ lo) (below' : lo < 0xE000)
    (value : c.toNat = 0x10000 + (hi - 0xD800) * 0x400 + (lo - 0xDC00)) :
    joinPieces? (.unit hi :: .unit lo :: ps) = (joinPieces? ps).map (c :: ·) := by
  simp [joinPieces?, above, below, above', below', ← value]

theorem hexValue?_of_isHex {c : Char} {n : Nat} (hex : IsHex c n) : hexValue? c = some n := by
  have small : ∀ n < 16, "0123456789abcdef".toList[n]?.bind hexValue? = some n := by decide
  have great : ∀ n < 16, "0123456789ABCDEF".toList[n]?.bind hexValue? = some n := by decide
  rcases hex with digit | digit
  · have bound := (List.getElem?_eq_some_iff.mp digit).1
    have value := small n bound
    rwa [digit, Option.bind_some] at value
  · have bound := (List.getElem?_eq_some_iff.mp digit).1
    have value := great n bound
    rwa [digit, Option.bind_some] at value

theorem IsUnit.hex4?_eq {digits : List Char} {n : Nat} (unit : IsUnit digits n) :
    ∃ a b c d, digits = [a, b, c, d] ∧ hex4? a b c d = some n := by
  cases unit with
  | @digits a w b x c y d z ha hb hc hd =>
    refine ⟨a, b, c, d, rfl, ?_⟩
    rw [hex4?, hexValue?_of_isHex ha, hexValue?_of_isHex hb, hexValue?_of_isHex hc,
      hexValue?_of_isHex hd]
    change some _ = some _
    congr 1
    omega

theorem escapeValue?_of_short {e c : Char} (short : (e, c) ∈ shortEscapes) :
    escapeValue? e = some c ∧ e ≠ 'u' := by
  have all : ∀ pair ∈ shortEscapes, escapeValue? pair.1 = some pair.2 ∧ pair.1 ≠ 'u' := by decide
  exact all (e, c) short

theorem scanString_unit {digits : List Char} {n : Nat} (unit : IsUnit digits n) (cs : List Char) :
    scanString ('\\' :: 'u' :: (digits ++ cs)) =
      (scanString cs).map fun (ps, rest) => (.unit n :: ps, rest) := by
  obtain ⟨a, b, c, d, rfl, value⟩ := unit.hex4?_eq
  simp only [List.cons_append, List.nil_append, scanString, value]
  cases scanString cs <;> rfl

theorem scanString_short {e c : Char} (short : (e, c) ∈ shortEscapes) (cs : List Char) :
    scanString ('\\' :: e :: cs) = (scanString cs).map fun (ps, rest) => (.char c :: ps, rest) := by
  obtain ⟨value, other⟩ := escapeValue?_of_short short
  rw [scanString.eq_4 _ _ (by simp [other]), value]
  cases scanString cs <;> rfl

theorem scanString_plain {c : Char} (printed : 0x20 ≤ c.toNat) (quote : c ≠ '"')
    (backslash : c ≠ '\\') (cs : List Char) :
    scanString (c :: cs) = (scanString cs).map fun (ps, rest) => (.char c :: ps, rest) := by
  have control : ¬ c.val < 0x20 := Nat.not_lt.mpr printed
  rw [scanString.eq_5 _ _ quote (by simp [backslash]) (by simp [backslash]),
    if_neg (by simp [control, backslash])]
  cases scanString cs <;> rfl

/-- The pieces of a string, however its characters are written, are joined to these characters. -/
theorem Escapes.scanString {text cs : List Char} (escapes : Escapes text cs) :
    ∃ ps, joinPieces? ps = some cs ∧
      ∀ rest, Json.scanString (text ++ '"' :: rest) = some (ps, rest) := by
  induction escapes with
  | nil => exact ⟨[], rfl, fun rest => rfl⟩
  | @plain _ _ c printed quote backslash _ ih =>
    obtain ⟨ps, joined, scanned⟩ := ih
    refine ⟨.char c :: ps, by rw [Piece.char_means, joined]; rfl, fun rest => ?_⟩
    rw [List.cons_append, scanString_plain printed quote backslash, scanned]
    rfl
  | @short _ c _ _ short _ ih =>
    obtain ⟨ps, joined, scanned⟩ := ih
    refine ⟨.char c :: ps, by rw [Piece.char_means, joined]; rfl, fun rest => ?_⟩
    rw [List.cons_append, List.cons_append, scanString_short short, scanned]
    rfl
  | @unit _ _ _ c unit _ ih =>
    obtain ⟨ps, joined, scanned⟩ := ih
    refine ⟨.unit c.toNat :: ps, by rw [Piece.unit_means, joined]; rfl, fun rest => ?_⟩
    rw [List.cons_append, List.cons_append, List.append_assoc, scanString_unit unit, scanned]
    rfl
  | @pair _ hi _ lo _ _ c high low above below above' below' value _ ih =>
    obtain ⟨ps, joined, scanned⟩ := ih
    refine ⟨.unit hi :: .unit lo :: ps, ?_, fun rest => ?_⟩
    · rw [joinPieces?_pair ps above below above' below' value, joined]
      rfl
    · simp only [List.cons_append, List.append_assoc, scanString_unit high, scanString_unit low,
        scanned]
      rfl

theorem StringSpelling.scanToken {s : String} {text : List Char} (spelling : StringSpelling s text) :
    ∃ inside, text = '"' :: inside ∧
      ∀ rest, Json.scanToken '"' (inside ++ rest) = some (.string (some s), rest) := by
  obtain ⟨inside, rfl, escapes⟩ := spelling
  obtain ⟨ps, joined, scanned⟩ := escapes.scanString
  refine ⟨inside ++ ['"'], rfl, fun rest => ?_⟩
  rw [List.append_assoc, List.singleton_append]
  simp only [Json.scanToken, scanned, stringToken, joined, Option.map_some, String.ofList_toList]

end Strings

section Numbers

/-- A number does not go on here. -/
def NumberEnds (rest : List Char) : Prop :=
  ∀ c ∈ rest.head?, isDigit c = false ∧ c ≠ '.' ∧ c ≠ 'e' ∧ c ≠ 'E'

theorem scanFraction_of_ends (ends : NumberEnds rest) : scanFraction rest = some ([], rest) := by
  unfold scanFraction
  split
  · exact absurd rfl (ends '.' rfl).2.1
  · rfl

theorem scanExponent_of_ends (ends : NumberEnds rest) : scanExponent rest = some (none, rest) := by
  unfold scanExponent
  split
  · next c cs =>
    obtain ⟨-, -, small, great⟩ := ends c rfl
    simp [small, great]
  · rfl

theorem absorb_eq_ofDigitChars {digits : List Char} {value : Nat}
    (fits : Nat.ofDigitChars 10 digits value < naturalBound) :
    absorb value digits = (Nat.ofDigitChars 10 digits value, digits.length) := by
  induction digits generalizing value with
  | nil => rfl
  | cons c digits ih =>
    rw [Nat.ofDigitChars_cons] at fits ⊢
    have first : 10 * value + digitValue c < naturalBound := by
      rw [Nat.ofDigitChars_eq_ofDigitChars_zero] at fits
      have scaled := Nat.le_mul_of_pos_left (10 * value + digitValue c)
        (Nat.pow_pos (by decide) : 0 < 10 ^ digits.length)
      unfold digitValue at scaled ⊢
      omega
    rw [absorb, if_neg (by omega), digitValue, ih fits]
    rfl

theorem isDigit_of_mem_digits {n : Nat} {c : Char} (mem : c ∈ Nat.toDigits 10 n) :
    isDigit c = true := by
  have digit := Nat.isDigit_of_mem_toDigits (by decide) (by decide) mem
  simp only [Char.isDigit, Bool.and_eq_true, decide_eq_true_eq] at digit
  simp only [isDigit, Bool.and_eq_true, decide_eq_true_eq]
  exact digit

theorem isSpace_of_isDigit {c : Char} (digit : isDigit c = true) : isSpace c = false := by
  rw [isSpace]
  simp only [Bool.or_eq_false_iff, beq_eq_false_iff_ne]
  refine ⟨⟨⟨?_, ?_⟩, ?_⟩, ?_⟩
  all_goals
    rintro rfl
    contradiction

/-- Only zero is written with a zero in front. -/
theorem head?_toDigits {n : Nat} (positive : 0 < n) : (Nat.toDigits 10 n).head? ≠ some '0' := by
  induction n using Nat.strongRecOn with
  | _ n ih =>
    rcases Nat.lt_or_ge n 10 with small | great
    · rw [Nat.toDigits_of_lt_base small]
      have all : ∀ n < 10, 0 < n → [Nat.digitChar n].head? ≠ some '0' := by decide
      exact all n small positive
    · have front := ih (n / 10) (by omega) (by omega)
      rw [Nat.toDigits_of_base_le (by decide) great]
      obtain ⟨c, cs, digits⟩ := List.exists_cons_of_ne_nil (@Nat.toDigits_ne_nil (n / 10) 10)
      rw [digits] at front ⊢
      exact front

theorem scanNumber_digits (n : Nat) (ends : NumberEnds rest) :
    scanNumber false (Nat.toDigits 10 n ++ rest) =
      some (⟨false, Nat.toDigits 10 n, [], none⟩, rest) := by
  have inside : ∀ c ∈ Nat.toDigits 10 n, isDigit c = true := fun c => isDigit_of_mem_digits
  have stops : StopsAt isDigit rest := fun c head => (ends c head).1
  have leading : ¬ ((Nat.toDigits 10 n).head? = some '0' ∧ 1 < (Nat.toDigits 10 n).length) := by
    rintro ⟨zero, long⟩
    rcases Nat.eq_zero_or_pos n with rfl | positive
    · simp at long
    · exact head?_toDigits positive zero
  have digits : (Nat.toDigits 10 n).isEmpty = false := by simp [Nat.toDigits_ne_nil]
  simp only [scanNumber, takeWhile_run inside stops, dropWhile_run inside stops]
  rw [if_neg (by simp only [digits]; simpa using leading)]
  simp [scanFraction_of_ends ends, scanExponent_of_ends ends]

theorem value?_digits {n : Nat} (fits : n < naturalBound) :
    (⟨false, Nat.toDigits 10 n, [], none⟩ : Literal).value? = some (.natural n) := by
  have value : Nat.ofDigitChars 10 (Nat.toDigits 10 n) 0 = n :=
    Nat.ofDigitChars_toDigits (by decide) (by decide)
  have fits : Nat.ofDigitChars 10 (Nat.toDigits 10 n) 0 < naturalBound := by rwa [value]
  have taken := absorb_eq_ofDigitChars fits
  simp [Literal.value?, taken, value]

theorem scanToken_digit {c : Char} (digit : isDigit c = true) :
    scanToken c cs = (scanNumber false (c :: cs)).map fun (l, rest) => (.number l.value?, rest) := by
  unfold scanToken
  split
  case h_12 => rw [if_pos digit]
  all_goals contradiction

theorem scanToken_natural {n : Nat} (fits : n < naturalBound) (ends : NumberEnds rest) :
    ∃ c cs, Nat.toDigits 10 n = c :: cs ∧ isDigit c = true ∧
      scanToken c (cs ++ rest) = some (.number (some (.natural n)), rest) := by
  obtain ⟨c, cs, digits⟩ := List.exists_cons_of_ne_nil (@Nat.toDigits_ne_nil n 10)
  have digit : isDigit c = true := isDigit_of_mem_digits (n := n) (by simp [digits])
  have scanned := scanNumber_digits n ends
  rw [digits, List.cons_append, ← digits] at scanned
  refine ⟨c, cs, digits, digit, ?_⟩
  simp only [scanToken_digit digit, scanned, Option.map_some, value?_digits fits]

end Numbers
end Dialogue.Json
