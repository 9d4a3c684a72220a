import Dialogue.Proofs.Json.Lexing
import Dialogue.Proofs.Json.Words

/-! Texts of values, read and written. The words of a text that stands for a value are those of its tree,
wherever the blanks are, and the text that a value is written as stands for it, at every level of
indentation. -/
namespace Dialogue.Json

variable {text rest : List Char}

section Blanks

theorem IsBlank.isSpace {c : Char} (blank : IsBlank c) : isSpace c = true := by
  rcases blank with rfl | rfl | rfl | rfl <;> decide

theorem tokens_blanks (blanks : Blanks text) : tokens (text ++ rest) = tokens rest :=
  tokens_spaces fun c mem => (blanks c mem).isSpace

theorem NumberEnds.of_blanks (blanks : Blanks text) (ends : NumberEnds rest) :
    NumberEnds (text ++ rest) := by
  cases text with
  | nil => exact ends
  | cons c text =>
    rintro d ⟨⟩
    rcases blanks c List.mem_cons_self with rfl | rfl | rfl | rfl <;> decide

theorem numberEnds_comma : NumberEnds (',' :: rest) := by
  rintro c ⟨⟩
  decide

theorem numberEnds_bracket : NumberEnds (']' :: rest) := by
  rintro c ⟨⟩
  decide

theorem numberEnds_brace : NumberEnds ('\x7d' :: rest) := by
  rintro c ⟨⟩
  decide

theorem numberEnds_colon : NumberEnds (':' :: rest) := by
  rintro c ⟨⟩
  decide

/-- Blanks around a text of known words have none. -/
theorem Around.tokens {P : List Char → Prop} {ws : List Token} (around : Around P text)
    (words : ∀ body rest, P body → NumberEnds rest →
      Json.tokens (body ++ rest) = ws ++ Json.tokens rest) (ends : NumberEnds rest) :
    Json.tokens (text ++ rest) = ws ++ Json.tokens rest := by
  obtain ⟨front, body, back, rfl, blanks, spelled, blanks'⟩ := around
  rw [List.append_assoc, List.append_assoc, tokens_blanks blanks,
    words body (back ++ rest) spelled (ends.of_blanks blanks'), tokens_blanks blanks']

end Blanks

theorem StringSpelling.tokens {s : String} (spelled : StringSpelling s text) (rest : List Char) :
    Json.tokens (text ++ rest) = [.string (some s)] ++ Json.tokens rest := by
  obtain ⟨inside, rfl, scanned⟩ := spelled.scanToken
  exact tokens_word _ _ (by decide) (scanned rest)

/-- The name of a member, with what stands between it and the value. -/
theorem tokens_member {key : String} {name : List Char} (named : Around (StringSpelling key) name)
    (rest : List Char) :
    tokens (name ++ ':' :: rest) = .string (some key) :: .colon :: tokens rest := by
  rw [named.tokens (fun body rest spelled _ => spelled.tokens rest) numberEnds_colon,
    tokens_word _ _ (by decide) rfl]
  rfl

namespace Value

mutual

theorem tokens_spelling : (v : Value) → v.Fits → (text rest : List Char) → v.Spelling text →
    NumberEnds rest → tokens (text ++ rest) = v.tree.words ++ tokens rest
  | .bool true, _, _, rest, rfl, _ => tokens_word _ _ (by decide) rfl
  | .bool false, _, _, rest, rfl, _ => tokens_word _ _ (by decide) rfl
  | .natural n, fits, _, rest, rfl, ends => by
    obtain ⟨c, cs, digits, digit, word⟩ := scanToken_natural fits ends
    rw [digits, List.cons_append]
    exact tokens_word c (cs ++ rest) (isSpace_of_isDigit digit) word
  | .string s, _, _, rest, spelled, _ => spelled.tokens rest
  | .array items, fits, _, rest, ⟨inside, same, spelled⟩, _ => by
    have later := tokens_itemsSpelling items fits inside rest spelled
    rw [same, List.append_assoc, List.cons_append, tokens_word _ _ (by decide) rfl,
      List.singleton_append, later]
    rfl
  | .object members, fits, _, rest, ⟨inside, same, spelled⟩, _ => by
    have later := tokens_membersSpelling members fits inside rest spelled
    rw [same, List.append_assoc, List.cons_append, tokens_word _ _ (by decide) rfl,
      List.singleton_append, later]
    rfl

theorem tokens_itemsSpelling : (vs : List Value) → ItemsFit vs → (text rest : List Char) →
    ItemsSpelling vs text →
      tokens (text ++ ']' :: rest) = Tree.itemWords (itemTrees vs) ++ tokens rest
  | [], _, text, rest, blanks => by
    rw [tokens_blanks blanks, tokens_word _ _ (by decide) rfl]
    rfl
  | [v], fits, text, rest, spelled => by
    have value := spelled.tokens (tokens_spelling v fits.1) (@numberEnds_bracket rest)
    rw [value, tokens_word _ _ (by decide) rfl]
    simp [itemTrees, Tree.itemWords]
  | v :: w :: vs, fits, text, rest, ⟨first, later, same, spelled, spelled'⟩ => by
    have items := tokens_itemsSpelling (w :: vs) fits.2 later rest spelled'
    have value := spelled.tokens (tokens_spelling v fits.1) (@numberEnds_comma (later ++ ']' :: rest))
    rw [tokens_word _ _ (by decide) rfl, items] at value
    rw [same, List.append_assoc, List.cons_append, value]
    simp [itemTrees, Tree.itemWords]

theorem tokens_membersSpelling : (ms : List (String × Value)) → MembersFit ms →
    (text rest : List Char) → MembersSpelling ms text →
      tokens (text ++ '\x7d' :: rest) = Tree.memberWords (memberTrees ms) ++ tokens rest
  | [], _, text, rest, blanks => by
    rw [tokens_blanks blanks, tokens_word _ _ (by decide) rfl]
    rfl
  | [(key, v)], fits, text, rest, ⟨name, value, same, named, spelled⟩ => by
    have value := spelled.tokens (tokens_spelling v fits.1) (@numberEnds_brace rest)
    rw [same, List.append_assoc, List.cons_append, tokens_member named, value,
      tokens_word _ _ (by decide) rfl]
    simp [memberTrees, Tree.memberWords]
  | (key, v) :: m :: ms, fits, text, rest, ⟨name, value, later, same, named, spelled, spelled'⟩ => by
    have members := tokens_membersSpelling (m :: ms) fits.2 later rest spelled'
    have value := spelled.tokens (tokens_spelling v fits.1)
      (@numberEnds_comma (later ++ '\x7d' :: rest))
    rw [tokens_word _ _ (by decide) rfl, members] at value
    rw [same, List.append_assoc, List.cons_append, tokens_member named, List.append_assoc,
      List.cons_append, value]
    simp [memberTrees, Tree.memberWords]

end

/-- A text that stands for a value holds its tree and nothing behind it. -/
theorem ofText_of_spells {v : Value} (fits : v.Fits) (spelled : v.Spells text) :
    Document.ofText text = ⟨v.tree, true⟩ := by
  have words := spelled.tokens (tokens_spelling v fits) (show NumberEnds [] by simp [NumberEnds])
  rw [List.append_nil] at words
  exact Document.ofText_of_words v.isWhole_tree (by simpa [tokens, tokensWithin] using words)

section Written

theorem isHex_hexDigit : ∀ n < 16, IsHex (hexDigit n) n := by
  have all : ∀ n < 16, "0123456789abcdef".toList[n]? = some (hexDigit n) := by decide
  exact fun n small => .inl (all n small)

theorem escapes_cons (c : Char) {cs : List Char} (escapes : Escapes text cs) :
    Escapes (escapeChar c ++ text) (c :: cs) := by
  unfold escapeChar
  split
  case h_8 quote backslash _ _ _ _ _ =>
    split
    · next control =>
      have bound : c.toNat < 32 := control
      have zero : IsHex '0' 0 := isHex_hexDigit 0 (by decide)
      have unit := IsUnit.digits zero zero (isHex_hexDigit (c.toNat / 16) (by omega))
        (isHex_hexDigit (c.toNat % 16) (by omega))
      have value : (((0 * 16 + 0) * 16 + c.toNat / 16) * 16 + c.toNat % 16) = c.toNat := by omega
      rw [value] at unit
      exact .unit unit escapes
    · next printed => exact .plain (Nat.not_lt.mp printed) quote backslash escapes
  all_goals exact .short (by decide) escapes

theorem stringSpelling_quoted (s : String) : StringSpelling s (quoted s) := by
  refine ⟨s.toList.flatMap escapeChar, rfl, ?_⟩
  induction s.toList with
  | nil => exact .nil
  | cons c cs ih =>
    rw [List.flatMap_cons]
    exact escapes_cons c ih

theorem blanks_indent (level : Nat) : Blanks (indent level) := by
  intro c mem
  rcases List.mem_cons.mp mem with rfl | mem
  · exact .inr (.inr (.inl rfl))
  · exact .inl (List.eq_of_mem_replicate mem)

theorem blanks_nil : Blanks [] := fun _ mem => absurd mem List.not_mem_nil

mutual

/-- What a value is written as stands for it. -/
theorem spelling_chars : (v : Value) → (level : Nat) → v.Spelling (v.chars level)
  | .bool _, _ => rfl
  | .natural _, _ => Nat.toList_repr
  | .string s, _ => stringSpelling_quoted s
  | .array [], _ => ⟨[], rfl, blanks_nil⟩
  | .array (v :: vs), level =>
    ⟨itemChars level (v :: vs) ++ indent level, rfl, itemsSpelling_chars (v :: vs) (by simp) level⟩
  | .object [], _ => ⟨[], rfl, blanks_nil⟩
  | .object (m :: ms), level =>
    ⟨memberChars level (m :: ms) ++ indent level, rfl,
      membersSpelling_chars (m :: ms) (by simp) level⟩

theorem itemsSpelling_chars : (vs : List Value) → vs ≠ [] → (level : Nat) →
    ItemsSpelling vs (itemChars level vs ++ indent level)
  | [], filled, _ => absurd rfl filled
  | [v], _, level =>
    ⟨indent (level + 1), v.chars (level + 1), indent level, rfl, blanks_indent _,
      spelling_chars v (level + 1), blanks_indent _⟩
  | v :: w :: vs, _, level => by
    refine ⟨indent (level + 1) ++ v.chars (level + 1), itemChars level (w :: vs) ++ indent level,
      ?_, ⟨indent (level + 1), v.chars (level + 1), [], ?_, blanks_indent _,
        spelling_chars v (level + 1), blanks_nil⟩, itemsSpelling_chars (w :: vs) (by simp) level⟩
    · simp [itemChars]
    · simp

theorem membersSpelling_chars : (ms : List (String × Value)) → ms ≠ [] → (level : Nat) →
    MembersSpelling ms (memberChars level ms ++ indent level)
  | [], filled, _ => absurd rfl filled
  | [(key, v)], _, level => by
    refine ⟨indent (level + 1) ++ quoted key, ' ' :: v.chars (level + 1) ++ indent level, ?_,
      ⟨indent (level + 1), quoted key, [], ?_, blanks_indent _, stringSpelling_quoted key,
        blanks_nil⟩,
      ⟨[' '], v.chars (level + 1), indent level, rfl, ?_, spelling_chars v (level + 1),
        blanks_indent _⟩⟩
    · simp [memberChars]
    · simp
    · simp [Blanks, IsBlank]
  | (key, v) :: m :: ms, _, level => by
    refine ⟨indent (level + 1) ++ quoted key, ' ' :: v.chars (level + 1),
      memberChars level (m :: ms) ++ indent level, ?_,
      ⟨indent (level + 1), quoted key, [], ?_, blanks_indent _, stringSpelling_quoted key,
        blanks_nil⟩,
      ⟨[' '], v.chars (level + 1), [], ?_, ?_, spelling_chars v (level + 1), blanks_nil⟩,
      membersSpelling_chars (m :: ms) (by simp) level⟩
    · simp [memberChars]
    · simp
    · simp
    · simp [Blanks, IsBlank]

end

theorem spells_render (v : Value) : v.Spells v.render.toList := by
  refine ⟨[], v.chars 0, [], ?_, blanks_nil, spelling_chars v 0, blanks_nil⟩
  rw [render, String.toList_ofList, List.nil_append, List.append_nil]

end Written

end Value
end Dialogue.Json
