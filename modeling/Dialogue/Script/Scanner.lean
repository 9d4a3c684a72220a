import Dialogue.Script.Token

/-! Reading a script token by token. Every character is covered by exactly one token, except the
separators skipped between brackets, so reading cannot fail. -/
namespace Dialogue.Script

/-- The token that starts with `c`, and what follows it. -/
def scan (inside : Bool) (c : Char) (cs : List Char) : Token × List Char :=
  if c = '[' then (.bracketOpen, cs)
  else if c = ']' then (.bracketClose, cs)
  else if !inside then (.text (String.ofList (c :: cs.takeWhile isPlain)), cs.dropWhile isPlain)
  else if c = '=' then (.equal, cs)
  else if c = '"' then
    match cs.dropWhile (· != '"') with
    | [] => (.openString (String.ofList cs), [])
    | _ :: rest => (.string (String.ofList (cs.takeWhile (· != '"'))), rest)
  else if isNameChar c then
    (.ident (String.ofList (c :: cs.takeWhile isNameChar)), cs.dropWhile isNameChar)
  else (.illegal c, cs)

theorem head_of_dropWhile {p : Char → Bool} {cs rest : List Char} {c : Char}
    (h : cs.dropWhile p = c :: rest) : p c = false := by
  have := List.head?_dropWhile_not p cs
  simp_all

/-- A token covers the characters up to where reading goes on. -/
theorem span_scan (inside : Bool) (c : Char) (cs : List Char) :
    (scan inside c cs).1.span ++ (scan inside c cs).2 = c :: cs := by
  unfold scan
  split
  · simp_all [Token.span]
  split
  · simp_all [Token.span]
  split
  · simp [Token.span, List.takeWhile_append_dropWhile]
  split
  · simp_all [Token.span]
  split
  · split
    · simp_all [Token.span]
    · next d rest h =>
      have hd : d = '"' := by simpa using head_of_dropWhile h
      subst hd
      have := List.takeWhile_append_dropWhile (p := (· != '"')) (l := cs)
      simp_all [Token.span]
  split
  · simp [Token.span, List.takeWhile_append_dropWhile]
  · simp [Token.span]

theorem Token.length_span_pos (inside : Bool) (c : Char) (cs : List Char) :
    0 < (scan inside c cs).1.span.length := by
  unfold scan
  split
  · simp [Token.span]
  split
  · simp [Token.span]
  split
  · simp [Token.span]
  split
  · simp [Token.span]
  split
  · split <;> simp [Token.span]
  split <;> simp [Token.span]

structure Scanner where
  rest : List Char
  position : Position
  inside : Bool
  deriving DecidableEq, Repr

namespace Scanner

def ofSource (source : List Char) : Scanner := ⟨source, .start, false⟩

/-- Between brackets, the separators before the next token are passed over. -/
def settle (s : Scanner) : Scanner :=
  if s.inside then
    ⟨s.rest.dropWhile isSeparator, s.position.after (s.rest.takeWhile isSeparator), true⟩
  else s

/-- The token that starts right here, and the scanner behind it. -/
def read? (s : Scanner) : Option (Lexeme × Scanner) :=
  match s.rest with
  | [] => none
  | c :: cs =>
    match scan s.inside c cs with
    | (token, rest) =>
      some (⟨token, s.position⟩, ⟨rest, s.position.after token.span, token.staysInside s.inside⟩)

/-- The next token, and the scanner behind it; none at the end of the script. -/
def next? (s : Scanner) : Option (Lexeme × Scanner) := s.settle.read?

/-- Where the script ends. -/
def endPosition (s : Scanner) : Position := s.position.after s.rest

theorem length_rest_settle (s : Scanner) : s.settle.rest.length ≤ s.rest.length := by
  unfold settle
  split
  · exact (List.dropWhile_suffix _).length_le
  · exact Nat.le_refl _

theorem length_rest_of_read? {s s' : Scanner} {l : Lexeme} (h : s.read? = some (l, s')) :
    s'.rest.length < s.rest.length := by
  unfold read? at h
  split at h
  · simp at h
  · next c cs hc =>
    have hl := congrArg List.length (span_scan s.inside c cs)
    have hp := Token.length_span_pos s.inside c cs
    simp only [Option.some.injEq, Prod.mk.injEq] at h
    simp only [List.length_append, List.length_cons] at hl
    rw [← h.2, hc, List.length_cons]
    simp only
    omega

theorem length_rest_of_next? {s s' : Scanner} {l : Lexeme} (h : s.next? = some (l, s')) :
    s'.rest.length < s.rest.length :=
  Nat.lt_of_lt_of_le (length_rest_of_read? h) s.length_rest_settle

/-- All tokens up to the end of the script. -/
def tokens (s : Scanner) : List Lexeme :=
  match _read : s.next? with
  | none => []
  | some (l, s') => l :: s'.tokens
termination_by s.rest.length
decreasing_by exact length_rest_of_next? _read

end Scanner

/-- The tokens of a script. -/
def tokens (source : List Char) : List Lexeme := (Scanner.ofSource source).tokens

/-- Where a script ends. -/
def endPosition (source : List Char) : Position := Position.start.after source

end Dialogue.Script
