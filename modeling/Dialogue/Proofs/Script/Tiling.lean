import Dialogue.Proofs.Script.Scanning
import Mathlib.Data.List.Chain
import Mathlib.Data.List.DropRight

/-! Tokens tile their script. Each covers characters of its own, one token behind the other, and
what no token covers is separators between brackets. A place is counted on the characters in front
of it: the newlines give its line, and what stands behind the last of them its column. -/
namespace Dialogue.Script

/-- The place behind `front`. -/
def Position.counted (front : List Char) : Position :=
  ⟨1 + front.count '\n', 1 + (front.rtakeWhile (· != '\n')).length⟩

theorem Position.start_after (cs : List Char) : Position.start.after cs = .counted cs := by
  induction cs using List.reverseRecOn with
  | nil => rfl
  | append_singleton cs c ih =>
    rw [after_append, ih, after_cons, after_nil, advance]
    unfold counted
    split
    · next newline =>
      subst newline
      rw [List.count_append, List.rtakeWhile_concat_neg _ _ _ (by decide)]
      rfl
    · next other =>
      rw [List.count_append, List.rtakeWhile_concat_pos _ _ _ (by simpa using other)]
      simp [other, Nat.add_assoc]

/-- Behind these tokens a command is open: no closing bracket follows the last opening one. -/
def InCommand (ls : List Lexeme) : Prop :=
  ∃ before p after, ls = before ++ ⟨.bracketOpen, p⟩ :: after ∧
    ∀ l ∈ after, l.token ≠ .bracketClose

theorem not_inCommand_nil : ¬ InCommand [] := by
  rintro ⟨before, p, after, same, -⟩
  simp at same

theorem inCommand_concat {ls : List Lexeme} {l : Lexeme} :
    InCommand (ls ++ [l]) ↔ l.token = .bracketOpen ∨ InCommand ls ∧ l.token ≠ .bracketClose := by
  constructor
  · rintro ⟨before, p, after, same, unclosed⟩
    rcases List.eq_nil_or_concat' after with rfl | ⟨inner, last, rfl⟩
    · obtain ⟨-, opening⟩ := List.append_inj' same rfl
      obtain rfl := List.singleton_inj.1 opening
      exact .inl rfl
    · rw [← List.cons_append, ← List.append_assoc] at same
      obtain ⟨rfl, ending⟩ := List.append_inj' same rfl
      obtain rfl := List.singleton_inj.1 ending
      refine .inr ⟨⟨before, p, inner, rfl, ?_⟩, unclosed l (by simp)⟩
      intro m mem
      exact unclosed m (by simp [mem])
  · rintro (opening | ⟨⟨before, p, after, rfl, unclosed⟩, inner⟩)
    · obtain ⟨t, p⟩ := l
      obtain rfl : t = .bracketOpen := opening
      exact ⟨ls, p, [], rfl, by simp⟩
    · refine ⟨before, p, after ++ [l], by simp, ?_⟩
      intro m mem
      rcases List.mem_append.1 mem with earlier | last
      · exact unclosed m earlier
      · exact List.mem_singleton.1 last ▸ inner

namespace Token

theorem staysInside_iff {t : Token} {inside : Bool} :
    t.staysInside inside = true ↔ t = .bracketOpen ∨ inside = true ∧ t ≠ .bracketClose := by
  cases t <;> simp [staysInside]

theorem span_of_string {t : Token} (h : t.kind = .string) :
    t.span = '"' :: t.literal.toList ++ ['"'] := by
  cases t with
  | string s => rfl
  | _ => contradiction

theorem span_eq_literal {t : Token} (h : t.kind ≠ .string) : t.span = t.literal.toList := by
  cases t with
  | string s => contradiction
  | _ => exact String.toList_ofList.symm

theorem kind_ne_endOfInput (t : Token) : t.kind ≠ .endOfInput := by
  cases t <;> exact TokenKind.noConfusion

variable {inside : Bool} {rest : List Char} {t : Token}

theorem Fits.ident (fits : t.Fits inside rest) (h : t.kind = .ident) :
    IsRun isNameChar t.span ∧ StopsAt isNameChar rest := by
  cases t with
  | ident s => exact fits.2
  | _ => contradiction

theorem Fits.text (fits : t.Fits inside rest) (h : t.kind = .text) :
    inside = false ∧ IsRun isPlain t.span ∧ StopsAt isPlain rest := by
  cases t with
  | text s => exact fits
  | _ => contradiction

/-- A name character at the end of a token is followed by none. -/
theorem Fits.edge (fits : t.Fits inside rest) {c : Char} (last : c ∈ t.span.getLast?)
    (name : isNameChar c = true) : StopsAt isNameChar rest := by
  cases t with
  | ident s => exact fits.2.2
  | text s =>
    intro d head
    have bracket := fits.2.2 d head
    simp only [isPlain, Bool.and_eq_false_iff, bne_eq_false_iff_eq] at bracket
    rcases bracket with rfl | rfl
    · exact isNameChar_bracketOpen
    · exact isNameChar_bracketClose
  | openString s =>
    rw [fits.2.2]
    rintro d ⟨⟩
  | bracketOpen | bracketClose | equal =>
    obtain rfl := Option.some.inj last
    exact absurd name (by decide)
  | string s =>
    rw [span, List.getLast?_concat] at last
    obtain rfl := Option.some.inj last
    exact absurd name (by decide)
  | illegal d =>
    obtain rfl := Option.some.inj last
    exact absurd name (by simp [fits.2.2.2.2.1])

end Token

/-- A token, the characters it covers, and those that are passed over in front of it. -/
structure Tile where
  gap : List Char
  span : List Char
  lexeme : Lexeme

namespace Tile

def chars (tile : Tile) : List Char := tile.gap ++ tile.span

/-- The characters of the script in front of the span of `tile`. -/
def front (before : List Tile) (tile : Tile) : List Char := before.flatMap chars ++ tile.gap

/-- How a tile lies in a script, behind the tiles `before` and in front of the characters `rest`. -/
structure Lies (before : List Tile) (tile : Tile) (rest : List Char) : Prop where
  position : tile.lexeme.position = .counted (front before tile)
  skipped : ∀ c ∈ tile.gap, isSeparator c = true ∧ InCommand (before.map lexeme)
  nonempty : tile.span ≠ []
  quoted : tile.lexeme.token.kind = .string →
    tile.span = '"' :: tile.lexeme.token.literal.toList ++ ['"']
  literal : tile.lexeme.token.kind ≠ .string → tile.span = tile.lexeme.token.literal.toList
  text : tile.lexeme.token.kind = .text →
    ¬ InCommand (before.map lexeme) ∧ '[' ∉ tile.span ∧ ']' ∉ tile.span
  name : tile.lexeme.token.kind = .ident → (∀ c ∈ tile.span, isNameChar c = true) ∧
    (∀ c ∈ (front before tile).getLast?, isNameChar c = false) ∧
    ∀ c ∈ rest.head?, isNameChar c = false

end Tile

/-- What is told of the place that is read: of a token, or of the end of the script. -/
structure Answer where
  kind : TokenKind
  literal : String
  position : Position
  deriving DecidableEq, Repr

def Lexeme.answer (l : Lexeme) : Answer := ⟨l.token.kind, l.token.literal, l.position⟩

def Lexeme.tile (gap : List Char) (l : Lexeme) : Tile := ⟨gap, l.token.span, l⟩

namespace Scanner

/-- One request for a token. At the end of the script every request is answered by the end. -/
def request (s : Scanner) : Answer × Scanner :=
  match s.next? with
  | some (l, s') => (l.answer, s')
  | none => (⟨.endOfInput, "", s.settle.position⟩, s.settle)

/-- The answers to `n` requests. -/
def answers : Nat → Scanner → List Answer
  | 0, _ => []
  | n + 1, s => s.request.1 :: answers n s.request.2

/-- The scanner goes on behind the tiles `before`: it is where they end, it reads a command if they
leave one open, and it does not go on with a name that they end with. -/
structure Follows (s : Scanner) (before : List Tile) : Prop where
  position : s.position = .counted (before.flatMap Tile.chars)
  mode : s.inside = true ↔ InCommand (before.map Tile.lexeme)
  edge : ∀ c ∈ (before.flatMap Tile.chars).getLast?, isNameChar c = true →
    StopsAt isNameChar s.rest

theorem follows_ofSource (source : List Char) : (ofSource source).Follows [] := by
  constructor
  · rfl
  · simp [ofSource, not_inCommand_nil]
  · rintro c ⟨⟩

variable {s s' : Scanner} {gap : List Char} {l : Lexeme} {before : List Tile}

theorem Reads.position_eq (reads : s.Reads gap l s') (follows : s.Follows before) :
    l.position = .counted (Tile.front before (l.tile gap)) := by
  rw [reads.start, follows.position, ← Position.start_after, ← Position.after_append,
    Position.start_after]
  rfl

theorem Reads.inside_iff (reads : s.Reads gap l s') {ls : List Lexeme}
    (mode : s.inside = true ↔ InCommand ls) : s'.inside = true ↔ InCommand (ls ++ [l]) := by
  rw [reads.mode, Token.staysInside_iff, mode, inCommand_concat]

theorem Reads.follows (reads : s.Reads gap l s') (follows : s.Follows before) :
    s'.Follows (before ++ [l.tile gap]) := by
  have covered : (before ++ [l.tile gap]).flatMap Tile.chars =
      Tile.front before (l.tile gap) ++ l.token.span := by
    simp [Tile.front, Tile.chars, Lexeme.tile]
  constructor
  · rw [reads.stop, reads.position_eq follows, ← Position.start_after, ← Position.after_append,
      Position.start_after, covered]
  · rw [List.map_append]
    exact reads.inside_iff follows.mode
  · intro c last
    rw [covered, List.getLast?_append_of_ne_nil _ (span_ne_nil reads.fits)] at last
    exact reads.fits.edge last

/-- A name that is read goes on with nothing in front of it. -/
theorem Reads.name_starts (reads : s.Reads gap l s') (follows : s.Follows before)
    (ident : l.token.kind = .ident) :
    ∀ c ∈ (Tile.front before (l.tile gap)).getLast?, isNameChar c = false := by
  intro c last
  rcases List.eq_nil_or_concat' gap with rfl | ⟨skipped, d, rfl⟩
  · rw [Tile.front, Lexeme.tile, List.append_nil] at last
    -- Had the token before ended with a name character, it would have gone on.
    by_contra within
    have stops := follows.edge c last (by simpa using within)
    rw [reads.covers, List.nil_append] at stops
    exact not_isRun_of_stopsAt stops (reads.fits.ident ident).1
  · rw [Tile.front, Lexeme.tile, ← List.append_assoc, List.getLast?_concat] at last
    obtain rfl := Option.some.inj last
    exact isNameChar_of_isSeparator (reads.skips _ (by simp)).2

theorem Reads.lies (reads : s.Reads gap l s') (follows : s.Follows before) :
    (l.tile gap).Lies before s'.rest := by
  constructor
  · exact reads.position_eq follows
  · intro c skipped
    obtain ⟨inside, separator⟩ := reads.skips c skipped
    exact ⟨separator, follows.mode.1 inside⟩
  · exact span_ne_nil reads.fits
  · exact Token.span_of_string
  · exact Token.span_eq_literal
  · intro text
    obtain ⟨outside, ⟨-, plain⟩, -⟩ := reads.fits.text text
    refine ⟨?_, ?_, ?_⟩
    · rw [← follows.mode, outside]
      decide
    · intro bracket
      exact absurd (plain _ bracket) (by decide)
    · intro bracket
      exact absurd (plain _ bracket) (by decide)
  · intro ident
    obtain ⟨⟨-, all⟩, stops⟩ := reads.fits.ident ident
    exact ⟨all, reads.name_starts follows ident, stops⟩

/-- The tokens behind the tiles `before` make tiles of what the scanner has in front of it. -/
theorem Scans.tiles {ls : List Lexeme} (scans : s.Scans ls) (follows : s.Follows before) :
    ∃ (tiles : List Tile) (trail : List Char), tiles.map Tile.lexeme = ls ∧
      tiles.flatMap Tile.chars ++ trail = s.rest ∧
      (∀ between tile after, tiles = between ++ tile :: after →
        tile.Lies (before ++ between) (after.flatMap Tile.chars ++ trail)) ∧
      ∀ c ∈ trail, isSeparator c = true ∧ InCommand ((before ++ tiles).map Tile.lexeme) := by
  induction scans generalizing before with
  | @done s atEnd =>
    refine ⟨[], s.rest, rfl, rfl, ?_, ?_⟩
    · intro between tile after same
      simp at same
    · intro c left
      obtain ⟨inside, separator⟩ := atEnd c left
      rw [List.append_nil]
      exact ⟨separator, follows.mode.1 inside⟩
  | @read s gap l s' ls reads scans ih =>
    obtain ⟨tiles, trail, lexemes, chars, lies, skipped⟩ := ih (reads.follows follows)
    refine ⟨l.tile gap :: tiles, trail, ?_, ?_, ?_, ?_⟩
    · rw [List.map_cons, lexemes]
      rfl
    · rw [reads.covers, ← chars]
      simp [Tile.chars, Lexeme.tile]
    · intro between tile after same
      -- The tile just read, or one of those behind it.
      cases between with
      | nil =>
        obtain ⟨rfl, rfl⟩ := List.cons.inj same
        rw [List.append_nil, chars]
        exact reads.lies follows
      | cons first between =>
        obtain ⟨rfl, later⟩ := List.cons.inj same
        have behind := lies between tile after later
        rwa [List.append_assoc] at behind
    · intro c left
      have behind := skipped c left
      rwa [List.append_assoc] at behind

/-- Behind a text stands a bracket or nothing, so no second text. -/
theorem Scans.texts_apart {ls : List Lexeme} (scans : s.Scans ls) :
    ls.IsChain fun l m => ¬ (l.token.kind = .text ∧ m.token.kind = .text) := by
  induction scans with
  | done => exact .nil
  | @read s gap l s' ls reads scans ih =>
    refine List.isChain_cons.2 ⟨?_, ih⟩
    rintro m next ⟨text, text'⟩
    obtain ⟨ls, rfl⟩ := List.head?_eq_some_iff.1 next
    obtain ⟨gap', s'', reads', -⟩ := scans.head
    obtain ⟨-, -, stops⟩ := reads.fits.text text
    obtain ⟨outside, run, -⟩ := reads'.fits.text text'
    rw [reads'.covers, reads'.gap_eq_nil outside, List.nil_append] at stops
    exact not_isRun_of_stopsAt stops run

theorem Scans.length_le {ls : List Lexeme} (scans : s.Scans ls) : ls.length ≤ s.rest.length := by
  induction scans with
  | done => exact Nat.zero_le _
  | @read s gap l s' ls reads _ ih =>
    have covers := congrArg List.length reads.covers
    have nonempty := List.length_pos_iff.2 (span_ne_nil reads.fits)
    simp only [List.length_append, List.length_cons] at covers ⊢
    omega

theorem Reads.endPosition_eq (reads : s.Reads gap l s') : s'.endPosition = s.endPosition := by
  rw [endPosition, endPosition, reads.stop, reads.start, reads.covers, Position.after_append,
    Position.after_append]

/-- At the end of the script, settling passes over all that is left. -/
theorem AtEnd.settle_eq (atEnd : s.AtEnd) : s.settle = ⟨[], s.endPosition, s.inside⟩ := by
  have nothing : s.inside = true → StopsAt isSeparator [] := by
    rintro - c ⟨⟩
  have settled := settle_of_gap (p := s.position) atEnd nothing
  rwa [List.append_nil] at settled

theorem answers_of_atEnd (atEnd : s.AtEnd) (n : Nat) :
    s.answers n = List.replicate n ⟨.endOfInput, "", s.endPosition⟩ := by
  induction n generalizing s with
  | zero => rfl
  | succ n ih =>
    have ended : s.request = (⟨.endOfInput, "", s.endPosition⟩, ⟨[], s.endPosition, s.inside⟩) := by
      rw [request, next?_eq_none_iff.2 atEnd, atEnd.settle_eq]
    have still : AtEnd ⟨[], s.endPosition, s.inside⟩ := by
      rintro c ⟨⟩
    rw [answers, ended, ih still]
    rfl

/-- The tokens are told one after the other, and from then on the end of the script. -/
theorem Scans.answers_eq {ls : List Lexeme} (scans : s.Scans ls) (n : Nat) :
    s.answers (ls.length + n) =
      ls.map Lexeme.answer ++ List.replicate n ⟨.endOfInput, "", s.endPosition⟩ := by
  induction scans with
  | done atEnd =>
    rw [List.length_nil, Nat.zero_add]
    exact answers_of_atEnd atEnd n
  | @read s gap l s' ls reads _ ih =>
    have told : s.request = (l.answer, s') := by
      rw [request, next?_eq_some_iff.2 ⟨gap, reads⟩]
    rw [List.length_cons, Nat.add_right_comm, answers, told, ih, reads.endPosition_eq]
    rfl

end Scanner

/-- The tokens of a script cover it tile by tile, up to blanks in a command that is left open, and
are what repeated requests are answered with before the end of the script is. -/
theorem tokens_tile (source : List Char) :
    (∃ (tiles : List Tile) (trail : List Char), tiles.map Tile.lexeme = tokens source ∧
      tiles.flatMap Tile.chars ++ trail = source ∧
      (∀ before tile after, tiles = before ++ tile :: after →
        tile.Lies before (after.flatMap Tile.chars ++ trail)) ∧
      ∀ c ∈ trail, isSeparator c = true ∧ InCommand (tokens source)) ∧
    ((tokens source).IsChain fun l m => ¬ (l.token.kind = .text ∧ m.token.kind = .text)) ∧
    (tokens source).length ≤ source.length ∧
    (∀ l ∈ tokens source, l.token.kind ≠ .endOfInput) ∧
    ∀ n, (Scanner.ofSource source).answers ((tokens source).length + n) =
      (tokens source).map Lexeme.answer ++
        List.replicate n ⟨.endOfInput, "", .counted source⟩ := by
  have scans := Scanner.scans_tokens (.ofSource source)
  refine ⟨?_, scans.texts_apart, scans.length_le, fun l _ => l.token.kind_ne_endOfInput, ?_⟩
  · obtain ⟨tiles, trail, lexemes, chars, lies, skipped⟩ :=
      scans.tiles (Scanner.follows_ofSource source)
    refine ⟨tiles, trail, lexemes, chars, lies, ?_⟩
    intro c left
    rw [tokens, ← lexemes]
    exact skipped c left
  · intro n
    rw [← Position.start_after]
    exact scans.answers_eq n

end Dialogue.Script
