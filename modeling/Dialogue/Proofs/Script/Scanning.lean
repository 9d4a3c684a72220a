import Dialogue.Script.Scanner

/-! Scanning judgments. Which token stands at a place is told by the characters it covers and by
what follows them, so that a longest run is never cut short; the scanner reads exactly these
tokens. -/
namespace Dialogue.Script

variable {α : Type}

/-- The first element of `rest`, if there is one, is outside of the class. -/
def StopsAt (p : α → Bool) (rest : List α) : Prop :=
  ∀ c, rest.head? = some c → p c = false

/-- A non-empty run of one class. -/
def IsRun (p : Char → Bool) (run : List Char) : Prop := run ≠ [] ∧ ∀ c ∈ run, p c = true

theorem takeWhile_run {p : α → Bool} {run rest : List α} (inside : ∀ c ∈ run, p c = true)
    (stops : StopsAt p rest) : (run ++ rest).takeWhile p = run := by
  rw [List.takeWhile_append_of_pos inside]
  cases rest with
  | nil => simp
  | cons c cs => simp [stops c rfl]

theorem dropWhile_run {p : α → Bool} {run rest : List α} (inside : ∀ c ∈ run, p c = true)
    (stops : StopsAt p rest) : (run ++ rest).dropWhile p = rest := by
  have split := List.takeWhile_append_dropWhile (p := p) (l := run ++ rest)
  rw [takeWhile_run inside stops] at split
  exact List.append_cancel_left split

theorem stopsAt_dropWhile (p : α → Bool) (cs : List α) : StopsAt p (cs.dropWhile p) := by
  intro c hc
  have := List.head?_dropWhile_not p cs
  rw [hc] at this
  exact this

theorem of_mem_takeWhile {p : α → Bool} {cs : List α} {c : α}
    (h : c ∈ cs.takeWhile p) : p c = true :=
  List.all_eq_true.1 List.all_takeWhile c h

/-- What a class stops at does not begin with a run of it. -/
theorem not_isRun_of_stopsAt {p : Char → Bool} {run rest : List Char}
    (stops : StopsAt p (run ++ rest)) : ¬ IsRun p run := by
  rintro ⟨nonempty, all⟩
  obtain ⟨c, cs, rfl⟩ := List.exists_cons_of_ne_nil nonempty
  have outside : p c = false := stops c rfl
  have inside : p c = true := all c List.mem_cons_self
  exact absurd inside (by simp [outside])

/-- The characters that a token may cover, between brackets or outside, in front of `rest`. -/
def Token.Fits (inside : Bool) (rest : List Char) : Token → Prop
  | .bracketOpen | .bracketClose => True
  | .equal => inside = true
  | .string s => inside = true ∧ ∀ c ∈ s.toList, (c != '"') = true
  | .ident s => inside = true ∧ IsRun isNameChar s.toList ∧ StopsAt isNameChar rest
  | .text s => inside = false ∧ IsRun isPlain s.toList ∧ StopsAt isPlain rest
  | .openString s => inside = true ∧ (∀ c ∈ s.toList, (c != '"') = true) ∧ rest = []
  | .illegal c => inside = true ∧ isPlain c = true ∧ c ≠ '=' ∧ c ≠ '"' ∧
      isNameChar c = false ∧ isSeparator c = false

theorem isPlain_iff {c : Char} : isPlain c = true ↔ c ≠ '[' ∧ c ≠ ']' := by
  simp [isPlain]

theorem fits_scan (inside : Bool) (c : Char) (cs : List Char)
    (h : inside = true → isSeparator c = false) :
    (scan inside c cs).1.Fits inside (scan inside c cs).2 := by
  unfold scan
  split
  · trivial
  split
  · trivial
  next hopen hclose =>
  split
  · next outside =>
    refine ⟨by simpa using outside, ⟨?_, ?_⟩, stopsAt_dropWhile _ _⟩
    · simp
    · intro d hd
      rcases List.mem_cons.1 (String.toList_ofList ▸ hd) with rfl | hd
      · exact isPlain_iff.2 ⟨hopen, hclose⟩
      · exact of_mem_takeWhile hd
  next outside =>
  have hin : inside = true := by simpa using outside
  split
  · exact hin
  next hequal =>
  split
  · next hquote =>
    split
    · next closed =>
      refine ⟨hin, fun d hd => ?_, rfl⟩
      have all := List.takeWhile_append_dropWhile (p := (· != '"')) (l := cs)
      rw [closed, List.append_nil] at all
      rw [String.toList_ofList, ← all] at hd
      exact of_mem_takeWhile (p := (· != '"')) hd
    · refine ⟨hin, fun d hd => ?_⟩
      rw [String.toList_ofList] at hd
      exact of_mem_takeWhile (p := (· != '"')) hd
  next hquote =>
  split
  · next hname =>
    refine ⟨hin, ⟨?_, ?_⟩, stopsAt_dropWhile _ _⟩
    · simp
    · intro d hd
      rcases List.mem_cons.1 (String.toList_ofList ▸ hd) with rfl | hd
      · exact hname
      · exact of_mem_takeWhile hd
  · next hname =>
    exact ⟨hin, isPlain_iff.2 ⟨hopen, hclose⟩, hequal, hquote, by simpa using hname, h hin⟩

/-- Of the tokens that could start here only one fits. -/
theorem scan_of_fits {inside : Bool} {c : Char} {cs rest : List Char} {t : Token}
    (covers : t.span ++ rest = c :: cs) (fits : t.Fits inside rest) :
    scan inside c cs = (t, rest) := by
  have plain : ∀ d, isPlain d = true → d ≠ '[' ∧ d ≠ ']' := fun d => isPlain_iff.1
  cases t with
  | bracketOpen =>
    obtain ⟨rfl, rfl⟩ := List.cons.inj covers
    simp [scan]
  | bracketClose =>
    obtain ⟨rfl, rfl⟩ := List.cons.inj covers
    simp [scan]
  | equal =>
    obtain ⟨rfl, rfl⟩ := List.cons.inj covers
    obtain rfl : inside = true := fits
    simp [scan]
  | string s =>
    obtain ⟨rfl, noQuote⟩ := fits
    obtain ⟨rfl, rfl⟩ := List.cons.inj covers
    have stops : StopsAt (· != '"') ('"' :: rest) := by
      rintro d ⟨⟩
      decide
    simp [scan, dropWhile_run noQuote stops, takeWhile_run noQuote stops]
  | ident s =>
    obtain ⟨rfl, ⟨nonempty, all⟩, stops⟩ := fits
    obtain ⟨d, ds, hs⟩ := List.exists_cons_of_ne_nil nonempty
    simp only [Token.span, hs, List.cons_append] at covers
    obtain ⟨rfl, rfl⟩ := List.cons.inj covers
    rw [hs] at all
    have hd : isNameChar d = true := all d (by simp)
    have tail : ∀ c ∈ ds, isNameChar c = true := fun c hc => all c (by simp [hc])
    have hne : ∀ e, isNameChar e = false → d ≠ e := by
      rintro e he rfl
      exact absurd hd (by simp [he])
    simp [scan, hne _ isNameChar_bracketOpen, hne _ isNameChar_bracketClose,
      hne _ isNameChar_equal, hne _ isNameChar_quote, hd, takeWhile_run tail stops,
      dropWhile_run tail stops, ← hs]
  | text s =>
    obtain ⟨rfl, ⟨nonempty, all⟩, stops⟩ := fits
    obtain ⟨d, ds, hs⟩ := List.exists_cons_of_ne_nil nonempty
    simp only [Token.span, hs, List.cons_append] at covers
    obtain ⟨rfl, rfl⟩ := List.cons.inj covers
    rw [hs] at all
    have tail : ∀ c ∈ ds, isPlain c = true := fun c hc => all c (by simp [hc])
    simp [scan, plain d (all d (by simp)), takeWhile_run tail stops, dropWhile_run tail stops,
      ← hs]
  | openString s =>
    obtain ⟨rfl, noQuote, rfl⟩ := fits
    obtain ⟨rfl, rfl⟩ := List.cons.inj covers
    have stops : StopsAt (· != '"') [] := by rintro d ⟨⟩
    have drop := dropWhile_run noQuote stops
    simp only [List.append_nil] at drop
    simp [scan, drop]
  | illegal d =>
    obtain ⟨rfl, hplain, hequal, hquote, hname, _⟩ := fits
    obtain ⟨rfl, rfl⟩ := List.cons.inj covers
    simp [scan, plain d hplain, hequal, hquote, hname]

namespace Scanner

/-- The scanner `s` passes over `gap`, reads the lexeme `l` and goes on as `s'`. -/
structure Reads (s : Scanner) (gap : List Char) (l : Lexeme) (s' : Scanner) : Prop where
  skips : ∀ c ∈ gap, s.inside = true ∧ isSeparator c = true
  covers : s.rest = gap ++ (l.token.span ++ s'.rest)
  fits : l.token.Fits s.inside s'.rest
  start : l.position = s.position.after gap
  stop : s'.position = l.position.after l.token.span
  mode : s'.inside = l.token.staysInside s.inside

/-- All that is left is passed over. -/
def AtEnd (s : Scanner) : Prop := ∀ c ∈ s.rest, s.inside = true ∧ isSeparator c = true

theorem AtEnd.rest_eq_nil {s : Scanner} (atEnd : s.AtEnd) (outside : s.inside = false) :
    s.rest = [] :=
  List.eq_nil_iff_forall_not_mem.2 fun c hc => absurd (atEnd c hc).1 (by simp [outside])

theorem Reads.gap_eq_nil {s s' : Scanner} {gap : List Char} {l : Lexeme}
    (reads : s.Reads gap l s') (outside : s.inside = false) : gap = [] :=
  List.eq_nil_iff_forall_not_mem.2 fun c hc => absurd (reads.skips c hc).1 (by simp [outside])

theorem settle_eq (s : Scanner) : ∃ gap, (∀ c ∈ gap, s.inside = true ∧ isSeparator c = true) ∧
    s.rest = gap ++ s.settle.rest ∧ s.settle.position = s.position.after gap ∧
    s.settle.inside = s.inside ∧ (s.inside = true → StopsAt isSeparator s.settle.rest) := by
  unfold settle
  split
  · next inside =>
    refine ⟨s.rest.takeWhile isSeparator, fun c hc => ⟨inside, of_mem_takeWhile hc⟩, ?_, rfl,
      inside.symm, fun _ => stopsAt_dropWhile _ _⟩
    exact List.takeWhile_append_dropWhile.symm
  · next outside =>
    exact ⟨[], by simp, rfl, rfl, rfl, fun inside => absurd inside outside⟩

/-- A gap that cannot be longer is passed over as a whole. -/
theorem settle_of_gap {gap rest : List Char} {p : Position} {inside : Bool}
    (skips : ∀ c ∈ gap, inside = true ∧ isSeparator c = true)
    (stops : inside = true → StopsAt isSeparator rest) :
    settle ⟨gap ++ rest, p, inside⟩ = ⟨rest, p.after gap, inside⟩ := by
  cases inside with
  | false =>
    have empty : gap = [] := List.eq_nil_iff_forall_not_mem.2 fun c hc => by simpa using skips c hc
    simp [settle, empty]
  | true =>
    have separators : ∀ c ∈ gap, isSeparator c = true := fun c hc => (skips c hc).2
    simp [settle, takeWhile_run separators (stops rfl), dropWhile_run separators (stops rfl)]

/-- No token that fits between brackets begins with a separator. -/
theorem stopsAt_span {inside : Bool} {rest : List Char} {t : Token} (fits : t.Fits inside rest)
    (h : inside = true) : StopsAt isSeparator (t.span ++ rest) := by
  subst h
  intro c hc
  cases t with
  | bracketOpen | bracketClose | equal | string _ | openString _ =>
    obtain rfl := Option.some.inj hc
    decide
  | ident s =>
    obtain ⟨_, ⟨nonempty, all⟩, _⟩ := fits
    obtain ⟨d, ds, hs⟩ := List.exists_cons_of_ne_nil nonempty
    simp only [Token.span, hs, List.cons_append, List.head?_cons, Option.some.injEq] at hc
    subst hc
    have name : isNameChar d = true := all d (by simp [hs])
    cases separator : isSeparator d with
    | false => rfl
    | true => simp [isNameChar_of_isSeparator separator] at name
  | text s => exact absurd fits.1 (by simp)
  | illegal d =>
    obtain rfl := Option.some.inj hc
    exact fits.2.2.2.2.2

theorem span_ne_nil {inside : Bool} {rest : List Char} {t : Token} (fits : t.Fits inside rest) :
    t.span ≠ [] := by
  cases t with
  | ident s => exact fits.2.1.1
  | text s => exact fits.2.1.1
  | _ => simp [Token.span]

theorem next?_eq_none_iff {s : Scanner} : s.next? = none ↔ s.AtEnd := by
  obtain ⟨gap, skips, covers, _, _, stops⟩ := s.settle_eq
  have none_iff : s.next? = none ↔ s.settle.rest = [] := by
    unfold next? read?
    split <;> simp_all
  rw [none_iff, AtEnd, covers]
  constructor
  · intro nothing
    rw [nothing, List.append_nil]
    exact skips
  · intro all
    cases rest : s.settle.rest with
    | nil => rfl
    | cons c cs =>
      have ⟨inside, separator⟩ := all c (by simp [rest])
      have := stops inside c (by simp [rest])
      rw [separator] at this
      exact absurd this (by decide)

/-- The scanner reads exactly the token that fits. -/
theorem next?_eq_some_iff {s s' : Scanner} {l : Lexeme} :
    s.next? = some (l, s') ↔ ∃ gap, s.Reads gap l s' := by
  constructor
  · intro read
    obtain ⟨gap, skips, covers, position, mode, stops⟩ := s.settle_eq
    unfold next? read? at read
    split at read
    · contradiction
    · next c cs rest =>
      have fits := fits_scan s.settle.inside c cs fun inside =>
        stops (mode ▸ inside) c (by simp [rest])
      have span := span_scan s.settle.inside c cs
      simp only [Option.some.injEq, Prod.mk.injEq] at read
      obtain ⟨rfl, rfl⟩ := read
      rw [mode] at fits span
      exact ⟨gap, skips, by rw [covers, rest, mode, span], mode ▸ fits, position, rfl, by rw [mode]⟩
  · rintro ⟨gap, skips, covers, fits, start, stop, mode⟩
    obtain ⟨rest, position, inside⟩ := s
    obtain ⟨c, cs, hc⟩ := List.exists_cons_of_ne_nil
      (List.append_ne_nil_of_left_ne_nil (span_ne_nil fits) s'.rest)
    simp only at covers fits
    have settled := settle_of_gap (p := position) skips (stopsAt_span fits)
    rw [next?, covers, settled, read?, hc]
    simp only [scan_of_fits hc fits, ← start, ← stop, ← mode]

/-- The tokens that are read from `s` up to the end of the script. -/
inductive Scans : Scanner → List Lexeme → Prop where
  | done {s} : s.AtEnd → Scans s []
  | read {s gap l s' ls} : s.Reads gap l s' → Scans s' ls → Scans s (l :: ls)

theorem scans_tokens (s : Scanner) : s.Scans s.tokens := by
  rw [tokens]
  split
  · next none => exact .done (next?_eq_none_iff.1 none)
  · next l s' some =>
    obtain ⟨gap, reads⟩ := next?_eq_some_iff.1 some
    exact .read reads s'.scans_tokens
termination_by s.rest.length
decreasing_by exact length_rest_of_next? ‹_›

theorem Scans.tokens_eq {s : Scanner} {ls : List Lexeme} (scans : s.Scans ls) : s.tokens = ls := by
  induction scans with
  | done atEnd =>
    rw [tokens, next?_eq_none_iff.2 atEnd]
  | read reads _ ih =>
    rw [tokens, next?_eq_some_iff.2 ⟨_, reads⟩]
    simp only [ih]

theorem Scans.head {s : Scanner} {l : Lexeme} {ls : List Lexeme} (scans : s.Scans (l :: ls)) :
    ∃ gap s', s.Reads gap l s' ∧ s'.Scans ls := by
  cases scans with
  | read reads scans => exact ⟨_, _, reads, scans⟩

theorem scans_iff {s : Scanner} {ls : List Lexeme} : s.Scans ls ↔ s.tokens = ls :=
  ⟨Scans.tokens_eq, fun h => h ▸ s.scans_tokens⟩

end Scanner
end Dialogue.Script
