import Dialogue.Json.Decode

/-! The words a tree is written with, and the reader's way back from them. Of a tree that is JSON to
its end the reader takes up exactly its words, whatever follows them, and only of such trees it comes
to the end. -/
namespace Dialogue.Json
namespace Tree

mutual

/-- The words of a value. -/
def words : Tree → List Token
  | .null => [.null]
  | .bool b => [.bool b]
  | .number n => [.number n]
  | .string s => [.string s]
  | .array items _ => .bracketOpen :: itemWords items
  | .object members _ => .braceOpen :: memberWords members
  | .broken => [.broken]

/-- The words of an array behind its opening bracket. -/
def itemWords : List Tree → List Token
  | [] => [.bracketClose]
  | [t] => t.words ++ [.bracketClose]
  | t :: u :: ts => t.words ++ .comma :: itemWords (u :: ts)

/-- The words of an object behind its opening brace. -/
def memberWords : List (Option String × Tree) → List Token
  | [] => [.braceClose]
  | [(key, t)] => .string key :: .colon :: t.words ++ [.braceClose]
  | (key, t) :: m :: ms => .string key :: .colon :: t.words ++ .comma :: memberWords (m :: ms)

end

/-- At the head of `ts` stands the value `t`, and `rest` follows it. -/
def Takes (ts : List Token) (t : Tree) (rest : List Token) : Prop :=
  ∃ shorter, read ts = (t, some ⟨rest, shorter⟩)

/-- Likewise for the items of an array, with the bracket that closes it. -/
def TakesItems (ts : List Token) (items : List Tree) (rest : List Token) : Prop :=
  ∃ shorter, readItems ts = (items, some ⟨rest, shorter⟩)

/-- Likewise for the members of an object, with the brace that closes it. -/
def TakesMembers (ts : List Token) (members : List (Option String × Tree)) (rest : List Token) :
    Prop :=
  ∃ shorter, readMembers ts = (members, some ⟨rest, shorter⟩)

variable {ts rest rest' : List Token} {t : Tree}

theorem TakesItems.array {items : List Tree} (takes : TakesItems ts items rest) :
    Takes (.bracketOpen :: ts) (.array items true) rest := by
  obtain ⟨shorter, takes⟩ := takes
  refine ⟨by simp only [List.length_cons]; omega, ?_⟩
  rcases ts with - | ⟨t, ts⟩
  · exact absurd shorter (Nat.not_lt_zero _)
  · cases t
    case bracketClose =>
      rw [readItems, read] at takes
      · simp at takes
      all_goals simp
    all_goals
      rw [read, takes]
      simp

theorem TakesMembers.object {members : List (Option String × Tree)}
    (takes : TakesMembers ts members rest) :
    Takes (.braceOpen :: ts) (.object members true) rest := by
  obtain ⟨shorter, takes⟩ := takes
  refine ⟨by simp only [List.length_cons]; omega, ?_⟩
  rcases ts with - | ⟨t, ts⟩
  · exact absurd shorter (Nat.not_lt_zero _)
  · cases t
    case braceClose => simp [readMembers] at takes
    all_goals
      rw [read, takes]
      simp

theorem Takes.lastItem (takes : Takes ts t (.bracketClose :: rest)) : TakesItems ts [t] rest := by
  obtain ⟨shorter, takes⟩ := takes
  simp only [List.length_cons] at shorter
  exact ⟨by omega, by rw [readItems, takes]⟩

theorem Takes.consItem {items : List Tree} (takes : Takes ts t (.comma :: rest'))
    (more : TakesItems rest' items rest) : TakesItems ts (t :: items) rest := by
  obtain ⟨shorter, takes⟩ := takes
  obtain ⟨shorter', more⟩ := more
  simp only [List.length_cons] at shorter
  exact ⟨by omega, by rw [readItems, takes]; simp only [more]⟩

theorem Takes.lastMember (key : Option String) (takes : Takes ts t (.braceClose :: rest)) :
    TakesMembers (.string key :: .colon :: ts) [(key, t)] rest := by
  obtain ⟨shorter, takes⟩ := takes
  simp only [List.length_cons] at shorter
  exact ⟨by simp only [List.length_cons]; omega, by rw [readMembers, takes]⟩

theorem Takes.consMember (key : Option String) {members : List (Option String × Tree)}
    (takes : Takes ts t (.comma :: rest')) (more : TakesMembers rest' members rest) :
    TakesMembers (.string key :: .colon :: ts) ((key, t) :: members) rest := by
  obtain ⟨shorter, takes⟩ := takes
  obtain ⟨shorter', more⟩ := more
  simp only [List.length_cons] at shorter
  exact ⟨by simp only [List.length_cons]; omega, by rw [readMembers, takes]; simp only [more]⟩

mutual

/-- The reader takes up a whole value's words, and leaves what follows them. -/
theorem takes_words : (t : Tree) → t.isWhole = true → (rest : List Token) →
    Takes (t.words ++ rest) t rest
  | .null, _, _ | .bool _, _, _ | .number _, _, _ | .string _, _, _ =>
    ⟨by simp [words], by simp [words, read]⟩
  | .array [] closed, whole, rest => by
    obtain rfl : closed = true := by simpa [isWhole, allWhole] using whole
    exact ⟨by simp only [words, itemWords, List.cons_append, List.nil_append, List.length_cons]
              omega, by simp [words, itemWords, read]⟩
  | .array (t :: ts) closed, whole, rest => by
    rw [isWhole, Bool.and_eq_true] at whole
    rw [words, List.cons_append, whole.2]
    exact (takesItems_words (t :: ts) (List.cons_ne_nil t ts) whole.1 rest).array
  | .object [] closed, whole, rest => by
    obtain rfl : closed = true := by simpa [isWhole, allMembersWhole] using whole
    exact ⟨by simp only [words, memberWords, List.cons_append, List.nil_append, List.length_cons]
              omega, by simp [words, memberWords, read]⟩
  | .object (m :: ms) closed, whole, rest => by
    rw [isWhole, Bool.and_eq_true] at whole
    rw [words, List.cons_append, whole.2]
    exact (takesMembers_words (m :: ms) (List.cons_ne_nil m ms) whole.1 rest).object

theorem takesItems_words : (ts : List Tree) → ts ≠ [] → allWhole ts = true →
    (rest : List Token) → TakesItems (itemWords ts ++ rest) ts rest
  | [], filled, _, _ => absurd rfl filled
  | [t], _, whole, rest => by
    simp only [allWhole, Bool.and_eq_true] at whole
    have takes := takes_words t whole.1 (.bracketClose :: rest)
    simpa [itemWords] using takes.lastItem
  | t :: u :: ts, _, whole, rest => by
    rw [allWhole, Bool.and_eq_true] at whole
    have more := takesItems_words (u :: ts) (List.cons_ne_nil u ts) whole.2 rest
    have takes := takes_words t whole.1 (.comma :: (itemWords (u :: ts) ++ rest))
    simpa [itemWords] using takes.consItem more

theorem takesMembers_words : (ms : List (Option String × Tree)) → ms ≠ [] →
    allMembersWhole ms = true → (rest : List Token) → TakesMembers (memberWords ms ++ rest) ms rest
  | [], filled, _, _ => absurd rfl filled
  | [(key, t)], _, whole, rest => by
    simp only [allMembersWhole, Bool.and_eq_true] at whole
    have takes := takes_words t whole.1 (.braceClose :: rest)
    simpa [memberWords] using takes.lastMember key
  | (key, t) :: m :: ms, _, whole, rest => by
    rw [allMembersWhole, Bool.and_eq_true] at whole
    have more := takesMembers_words (m :: ms) (List.cons_ne_nil m ms) whole.2 rest
    have takes := takes_words t whole.1 (.comma :: (memberWords (m :: ms) ++ rest))
    simpa [memberWords] using takes.consMember key more

end

/-- What is read without a fault is JSON to its end. The cases are those of the three readers, each by
what stands at the head and what follows the value there. -/
theorem whole_of_reads : (∀ ts, (read ts).2.isSome = true → (read ts).1.isWhole = true) ∧
    (∀ ts, (readMembers ts).2.isSome = true → allMembersWhole (readMembers ts).1 = true) ∧
    (∀ ts, (readItems ts).2.isSome = true → allWhole (readItems ts).1 = true) := by
  apply read.mutual_induct
  case case1 | case2 | case3 | case4 => simp [read, isWhole]
  case case5 | case8 => simp [read, isWhole, allWhole, allMembersWhole]
  case case6 =>
    intro ts other items reads _
    rw [read.eq_6 _ other, reads]
    rintro ⟨⟩
  case case7 =>
    intro ts other items rest h reads ih _
    rw [reads] at ih
    rw [read.eq_6 _ other, reads]
    simpa [isWhole] using ih rfl
  case case9 =>
    intro ts other members reads _
    rw [read.eq_8 _ other, reads]
    rintro ⟨⟩
  case case10 =>
    intro ts other members rest h reads ih _
    rw [reads] at ih
    rw [read.eq_8 _ other, reads]
    simpa [isWhole] using ih rfl
  case case11 =>
    intro ts _ _ _ _ _ _ _ _
    unfold read
    split <;> simp_all
  case case12 =>
    intro key ts value rest h reads ih _
    rw [reads] at ih
    rw [readMembers, reads]
    simpa [allMembersWhole] using ih rfl
  case case13 =>
    intro key ts value rest h reads members more _ _
    rw [readMembers, reads]
    simp [more]
  case case14 =>
    intro key ts value rest h reads members rest' h' more ih ih' _
    rw [reads] at ih
    rw [more] at ih'
    rw [readMembers, reads]
    simpa [more, allMembersWhole] using ⟨ih rfl, ih' rfl⟩
  case case15 =>
    intro key ts value behind noClose noComma reads _
    rw [readMembers, reads]
    cases behind <;> simp_all
  case case16 =>
    intro key tail other
    rw [readMembers.eq_2 _ _ other]
    rintro ⟨⟩
  case case17 =>
    intro ts _ _
    unfold readMembers
    split <;> simp_all
  case case18 =>
    intro ts item rest h reads ih _
    rw [reads] at ih
    rw [readItems, reads]
    simpa [allWhole] using ih rfl
  case case19 =>
    intro ts item rest h reads items more _ _
    rw [readItems, reads]
    simp [more]
  case case20 =>
    intro ts item rest h reads items rest' h' more ih ih' _
    rw [reads] at ih
    rw [more] at ih'
    rw [readItems, reads]
    simpa [more, allWhole] using ⟨ih rfl, ih' rfl⟩
  case case21 =>
    intro ts item behind noClose noComma reads _
    rw [readItems, reads]
    cases behind <;> simp_all
end Tree

theorem Document.isWhole_of_ended {text : List Char} (ended : (ofText text).ended = true) :
    (ofText text).tree.isWhole = true := by
  unfold ofText at ended ⊢
  split at ended
  · next tree _ reads =>
    have whole := Tree.whole_of_reads.1 (tokens text)
    rw [reads] at whole
    exact whole rfl
  · contradiction

/-- A text with the words of a whole tree holds that tree and nothing behind it. -/
theorem Document.ofText_of_words {text : List Char} {t : Tree} (whole : t.isWhole = true)
    (words : tokens text = t.words) : Document.ofText text = ⟨t, true⟩ := by
  have takes := t.takes_words whole []
  rw [List.append_nil, ← words] at takes
  obtain ⟨shorter, takes⟩ := takes
  rw [ofText, takes]

end Dialogue.Json
