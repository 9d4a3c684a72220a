import Dialogue.Proofs.Script.Command
import Dialogue.Proofs.Script.Segments

/-! Scripts of the grammar are read phrase by phrase, whatever blanks they are written with. -/
namespace Dialogue.Script

namespace Scanner

/-- A token that fits is read, whatever is passed over in front of it. -/
theorem Scans.token {ls : List Lexeme} (inside : Bool) (gap rest : List Char) (p : Position)
    (t : Token) (skips : ∀ c ∈ gap, inside = true ∧ isSeparator c = true) (fits : t.Fits inside rest)
    (later : Scans ⟨rest, p.after (gap ++ t.span), t.staysInside inside⟩ ls) :
    Scans ⟨gap ++ (t.span ++ rest), p, inside⟩ (⟨t, p.after gap⟩ :: ls) :=
  .read ⟨skips, rfl, fits, rfl, Position.after_append _ _ _, rfl⟩ later

end Scanner

open Scanner

theorem IsBlank.skips {cs : List Char} (blank : IsBlank cs) :
    ∀ c ∈ cs, true = true ∧ isSeparator c = true :=
  fun c hc => ⟨rfl, blank c hc⟩

/-- Behind a name, blanks or a delimiter end it. -/
theorem stopsAt_blank {cs rest : List Char} (blank : IsBlank cs)
    (stops : StopsAt isNameChar rest) : StopsAt isNameChar (cs ++ rest) := by
  cases cs with
  | nil => exact stops
  | cons c cs =>
    rintro d ⟨⟩
    exact isNameChar_of_isSeparator (blank _ (by simp))

theorem stopsAt_equal (rest : List Char) : StopsAt isNameChar ('=' :: rest) := by
  rintro c ⟨⟩
  exact isNameChar_equal

theorem stopsAt_close (rest : List Char) : StopsAt isNameChar (']' :: rest) := by
  rintro c ⟨⟩
  exact isNameChar_bracketClose

theorem noQuote_of_not_mem {value : List Char} (h : '"' ∉ value) :
    ∀ c ∈ (String.ofList value).toList, (c != '"') = true := by
  intro c hc
  rw [String.toList_ofList] at hc
  have : c ≠ '"' := fun same => h (same ▸ hc)
  simpa using this

theorem isRun_ofList {p : Char → Bool} {run : List Char} (h : IsRun p run) :
    IsRun p (String.ofList run).toList := by
  rwa [String.toList_ofList]

theorem paramsOf_assignments (p : Position) (ws : List WrittenParam) :
    paramsOf (assignments p ws) = .ofList (ws.map WrittenParam.entry) := by
  have entries : (assignments p ws).map (fun a => (a.key, a.value)) = ws.map WrittenParam.entry := by
    induction ws generalizing p with
    | nil => rfl
    | cons w ws ih => simp [assignments, WrittenParam.entry, ih]
  rw [paramsOf, entries]

theorem scans_param {w : WrittenParam} (wf : w.WellFormed) {p : Position} {rest : List Char}
    {ls : List Lexeme} (later : Scans ⟨rest, p.after w.chars, true⟩ ls) :
    ∃ q r, Scans ⟨w.chars ++ rest, p, true⟩
      (⟨.ident (String.ofList w.key), q⟩ :: ⟨.equal, r⟩ ::
        ⟨.string (String.ofList w.value), p.after w.beforeValue⟩ :: ls) := by
  have string := Scans.token true w.afterEqual rest
    (p.after (w.lead ++ w.key ++ w.beforeEqual ++ ['='])) (.string (String.ofList w.value))
    wf.afterEqual.skips ⟨rfl, noQuote_of_not_mem wf.value⟩
    (by simpa [← Position.after_append, WrittenParam.chars, WrittenParam.beforeValue, Token.span,
      Token.staysInside] using later)
  have equal := Scans.token true w.beforeEqual _ (p.after (w.lead ++ w.key)) .equal
    wf.beforeEqual.skips rfl
    (by simpa [← Position.after_append, Token.span, Token.staysInside] using string)
  have ident := Scans.token true w.lead _ p (.ident (String.ofList w.key)) wf.lead.skips
    ⟨rfl, isRun_ofList wf.key, stopsAt_blank wf.beforeEqual (stopsAt_equal _)⟩
    (by simpa [Token.span, Token.staysInside] using equal)
  refine ⟨p.after w.lead, p.after (w.lead ++ w.key ++ w.beforeEqual), ?_⟩
  simpa [WrittenParam.chars, WrittenParam.beforeValue, Token.span, ← Position.after_append]
    using ident

theorem scans_params {ws : List WrittenParam} (wf : ∀ w ∈ ws, w.WellFormed) {p : Position}
    {rest : List Char} {ls : List Lexeme}
    (later : Scans ⟨rest, p.after (ws.flatMap WrittenParam.chars), true⟩ ls) :
    ∃ body, Assigns body (assignments p ws) ∧
      Scans ⟨ws.flatMap WrittenParam.chars ++ rest, p, true⟩ (body ++ ls) := by
  induction ws generalizing p with
  | nil => exact ⟨[], .nil, later⟩
  | cons w ws ih =>
    rw [List.flatMap_cons, Position.after_append] at later
    obtain ⟨body, assigns, scans⟩ := ih (fun w hw => wf w (by simp [hw])) later
    obtain ⟨q, r, param⟩ := scans_param (wf w (by simp)) scans
    rw [← List.append_assoc, ← List.flatMap_cons] at param
    exact ⟨_, .cons assigns, param⟩

/-- A command that is written down is read up to its closing bracket. -/
theorem scans_command {lead name trail rest : List Char} {params : List WrittenParam}
    (wf : (Phrase.command lead name params trail).WellFormed) {p : Position} {ls : List Lexeme}
    (later : Scans ⟨rest, p.after (Phrase.command lead name params trail).chars, false⟩ ls) :
    ∃ q body r, Assigns body (assignments (p.after ('[' :: lead ++ name)) params) ∧
      Scans ⟨(Phrase.command lead name params trail).chars ++ rest, p, false⟩
        (⟨.bracketOpen, p⟩ :: (⟨.ident (String.ofList name), q⟩ :: body ++
          ⟨.bracketClose, r⟩ :: ls)) := by
  obtain ⟨blank, run, params_wf, first, trailing⟩ := wf
  have close := Scans.token true trail rest
    (p.after ('[' :: lead ++ name ++ params.flatMap WrittenParam.chars)) .bracketClose
    trailing.skips trivial
    (by simpa [← Position.after_append, Phrase.chars, Token.span, Token.staysInside] using later)
  rw [Position.after_append] at close
  obtain ⟨body, assigns, scans⟩ := scans_params params_wf close
  have stops : StopsAt isNameChar (params.flatMap WrittenParam.chars ++ (trail ++ ']' :: rest)) := by
    cases params with
    | nil =>
      rw [List.flatMap_nil, List.nil_append]
      exact stopsAt_blank trailing (stopsAt_close rest)
    | cons w ws =>
      obtain ⟨c, cs, hc⟩ := List.exists_cons_of_ne_nil (first w rfl)
      intro d hd
      have wf := params_wf w (by simp)
      simp only [List.flatMap_cons, WrittenParam.chars, WrittenParam.beforeValue, hc,
        List.cons_append, List.head?_cons, Option.some.injEq] at hd
      exact isNameChar_of_isSeparator (hd ▸ wf.lead c (by simp [hc]))
  have ident := Scans.token true lead _ (p.after ['[']) (.ident (String.ofList name)) blank.skips
    ⟨rfl, isRun_ofList run, stops⟩
    (by simpa [← Position.after_append, Token.span, Token.staysInside] using scans)
  have opening := Scans.token false [] _ p .bracketOpen (by simp) trivial
    (by simpa [Token.span, Token.staysInside] using ident)
  refine ⟨(p.advance '[').after lead, body,
    p.after ('[' :: lead ++ name ++ params.flatMap WrittenParam.chars ++ trail), assigns, ?_⟩
  simpa [Phrase.chars, Token.span] using opening

/-- What stands behind a text of a script does not go on with it. -/
theorem stopsAt_phrases {xs : List Phrase} (spelled : Phrase.Spelled xs)
    (first : ∀ x ∈ xs.head?, ¬ x.IsText) : StopsAt isPlain (xs.flatMap Phrase.chars) := by
  cases xs with
  | nil => rintro c ⟨⟩
  | cons x xs =>
    cases x with
    | text run => exact absurd trivial (first _ rfl)
    | command lead name params trail =>
      rintro c ⟨⟩
      decide

theorem Phrase.Spelled.tail {x : Phrase} {xs : List Phrase} (spelled : Phrase.Spelled (x :: xs)) :
    Phrase.Spelled xs :=
  ⟨fun y hy => spelled.wellFormed y (by simp [hy]), (List.isChain_cons.1 spelled.maximal).2⟩

/-- A script of the grammar is read phrase by phrase. -/
theorem items_of_spelled {xs : List Phrase} (spelled : Phrase.Spelled xs) (finish p : Position) :
    (segments finish (Scanner.tokens ⟨xs.flatMap Phrase.chars, p, false⟩)).map Segment.read =
      (Phrase.places p xs).map fun x => ⟨.ok (x.2.statement x.1), x.2.warnings x.1⟩ := by
  induction xs generalizing p with
  | nil =>
    have none : Scanner.tokens ⟨[], p, false⟩ = [] := Scans.tokens_eq (.done (by simp [AtEnd]))
    simp [none, segments, Phrase.places]
  | cons x xs ih =>
    have ih := ih spelled.tail (p.after x.chars)
    have wf := spelled.wellFormed x (by simp)
    have later := scans_tokens ⟨xs.flatMap Phrase.chars, p.after x.chars, false⟩
    cases x with
    | text run =>
      have first := (List.isChain_cons.1 spelled.maximal).1
      have stops := stopsAt_phrases spelled.tail fun y hy text => first y hy ⟨trivial, text⟩
      have scans := Scans.token false [] _ p (.text (String.ofList run)) (by simp)
        ⟨rfl, isRun_ofList wf, stops⟩
        (by simpa [Token.span, Token.staysInside, Phrase.chars] using later)
      have tokens := scans.tokens_eq
      simp only [Token.span, String.toList_ofList, List.nil_append, Position.after_nil] at tokens
      rw [List.flatMap_cons, Phrase.chars, tokens, segments_text, List.map_cons, Phrase.places,
        List.map_cons, ← ih]
      rfl
    | command lead name params trail =>
      obtain ⟨q, body, r, assigns, scans⟩ := scans_command wf later
      have inner : ∀ l ∈ ⟨.ident (String.ofList name), q⟩ :: body, l.isInner = true :=
        List.forall_mem_cons.2 ⟨rfl, assigns.isInner⟩
      rw [List.flatMap_cons, scans.tokens_eq, segments_open _ _ inner .closed, List.map_cons,
        afterStop, ih, endingOf, Segment.read, readCommand_of_assigns assigns]
      simp only [Phrase.places, List.map_cons, Phrase.statement, Phrase.warnings, paramsOf_assignments]

end Dialogue.Script
