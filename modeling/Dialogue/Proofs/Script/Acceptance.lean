import Dialogue.Proofs.Script.Phrases

/-! Reading accepts exactly the scripts of the grammar, and says of them what their phrases say. -/
namespace Dialogue.Script

open Scanner

theorem Scanner.Reads.blank {s s' : Scanner} {gap : List Char} {l : Lexeme}
    (reads : s.Reads gap l s') : IsBlank gap := fun c hc => (reads.skips c hc).2

/-- Parameters that were read stand in the script as parameters. -/
theorem written_of_assigns {ls : List Lexeme} {as : List Assignment} (assigns : Assigns ls as)
    {s : Scanner} {tail : List Lexeme} (scans : s.Scans (ls ++ tail)) (inside : s.inside = true) :
    ∃ (ws : List WrittenParam) (s' : Scanner), (∀ w ∈ ws, w.WellFormed) ∧
      s.rest = ws.flatMap WrittenParam.chars ++ s'.rest ∧ s'.inside = true ∧ s'.Scans tail := by
  induction assigns generalizing s with
  | nil => exact ⟨[], s, by simp, rfl, inside, scans⟩
  | @cons ls as key _ _ value _ _ ih =>
    obtain ⟨lead, s₁, ident, scans⟩ := scans.head
    obtain ⟨beforeEqual, s₂, equal, scans⟩ := scans.head
    obtain ⟨afterEqual, s₃, string, scans⟩ := scans.head
    have inside' : s₃.inside = true := by
      rw [string.mode, equal.mode, ident.mode]
      exact inside
    obtain ⟨ws, s', wf, rest, mode, scans⟩ := ih scans inside'
    have quoted := string.fits.2
    refine ⟨⟨lead, key.toList, beforeEqual, afterEqual, value.toList⟩ :: ws, s', ?_, ?_, mode,
      scans⟩
    · intro w hw
      rcases List.mem_cons.1 hw with rfl | hw
      · refine ⟨ident.blank, ident.fits.2.1, equal.blank, string.blank, fun mem => ?_⟩
        exact absurd (quoted _ mem) (by decide)
      · exact wf w hw
    · rw [ident.covers, equal.covers, string.covers, rest]
      simp [WrittenParam.chars, WrittenParam.beforeValue, Token.span]

/-- Behind a name, the first parameter is set off by blanks. -/
theorem lead_ne_nil {ws : List WrittenParam} {rest : List Char} (wf : ∀ w ∈ ws, w.WellFormed)
    (stops : StopsAt isNameChar (ws.flatMap WrittenParam.chars ++ rest)) :
    ∀ w ∈ ws.head?, w.lead ≠ [] := by
  intro w hw empty
  obtain ⟨ws, rfl⟩ := List.head?_eq_some_iff.1 hw
  simp only [List.flatMap_cons, WrittenParam.chars, WrittenParam.beforeValue, empty,
    List.nil_append, List.append_assoc] at stops
  exact not_isRun_of_stopsAt stops (wf w (by simp)).key

/-- A command that was read stands in the script as a command. -/
theorem written_of_command {s : Scanner} {name : String} {p q : Position} {ls tail : List Lexeme}
    {as : List Assignment} (assigns : Assigns ls as) (inside : s.inside = true)
    (scans : s.Scans (⟨.ident name, p⟩ :: ls ++ ⟨.bracketClose, q⟩ :: tail)) :
    ∃ (lead : List Char) (params : List WrittenParam) (trail : List Char) (s' : Scanner),
      (Phrase.command lead name.toList params trail).WellFormed ∧
      '[' :: s.rest = (Phrase.command lead name.toList params trail).chars ++ s'.rest ∧
      s'.inside = false ∧ s'.Scans tail := by
  obtain ⟨lead, s₁, ident, scans⟩ := scans.head
  obtain ⟨ws, s₂, wf, rest, _, scans⟩ :=
    written_of_assigns assigns scans (by rw [ident.mode]; exact inside)
  obtain ⟨trail, s', close, scans⟩ := scans.head
  obtain ⟨_, run, stops⟩ := ident.fits
  refine ⟨lead, ws, trail, s', ⟨ident.blank, run, wf, ?_, close.blank⟩, ?_, close.mode, scans⟩
  · exact lead_ne_nil wf (rest ▸ stops)
  · rw [ident.covers, rest, close.covers]
    simp [Phrase.chars, Token.span]

theorem stopsAt_head_text {x : Phrase} {xs : List Phrase} (spelled : Phrase.Spelled xs)
    (stops : StopsAt isPlain (xs.flatMap Phrase.chars)) (head : x ∈ xs.head?) : ¬ x.IsText := by
  intro text
  obtain ⟨xs, rfl⟩ := List.head?_eq_some_iff.1 head
  cases x with
  | text run =>
    rw [List.flatMap_cons, Phrase.chars] at stops
    exact not_isRun_of_stopsAt stops (spelled.wellFormed (.text run) (by simp))
  | command => exact text

/-- Where nothing is wrong with the tokens read outside of brackets, the script was written in
phrases. -/
theorem exists_phrases (finish : Position) {ls : List Lexeme} (moded : Moded false ls) :
    ∀ s : Scanner, s.inside = false → s.Scans ls →
      (∀ x ∈ segments finish ls, ∃ st, x.read.outcome = .ok st) →
      ∃ xs, Phrase.Spelled xs ∧ xs.flatMap Phrase.chars = s.rest := by
  refine moded.segmentwise ?_ ?_ ?_ ?_
  · intro s outside scans _
    cases scans with
    | done atEnd => exact ⟨[], ⟨by simp, .nil⟩, (atEnd.rest_eq_nil outside).symm⟩
  · intro content p ls ih s outside scans sound
    obtain ⟨gap, s', reads, scans⟩ := scans.head
    have covers := reads.covers
    rw [reads.gap_eq_nil outside, List.nil_append] at covers
    obtain ⟨-, run, stops⟩ := reads.fits
    rw [segments_text] at sound
    obtain ⟨xs, spelled, chars⟩ := ih s' (reads.mode.trans outside) scans fun x hx =>
      sound x (List.mem_cons_of_mem _ hx)
    refine ⟨.text content.toList :: xs, ⟨?_, ?_⟩, ?_⟩
    · exact List.forall_mem_cons.2 ⟨run, spelled.wellFormed⟩
    · refine List.isChain_cons.2 ⟨fun x hx both => ?_, spelled.maximal⟩
      exact stopsAt_head_text spelled (chars ▸ stops) hx both.2
    · rw [List.flatMap_cons, chars, covers]
      rfl
  · intro p ls _ s _ _ sound
    rw [segments_close] at sound
    obtain ⟨st, wrong⟩ := sound _ List.mem_cons_self
    contradiction
  · intro p body stop inner stops _ ih s outside scans sound
    obtain ⟨gap, s', reads, scans⟩ := scans.head
    have covers := reads.covers
    rw [reads.gap_eq_nil outside, List.nil_append] at covers
    rw [segments_open _ _ inner stops] at sound
    obtain ⟨st, read⟩ := sound _ List.mem_cons_self
    obtain ⟨name, q, ls, r, as, rfl, ending, assigns⟩ := assigns_of_readCommand read
    cases stops with
    | reopened | endOfInput => contradiction
    | closed =>
      obtain ⟨lead, params, trail, s'', wf, command, outside'', scans⟩ :=
        written_of_command assigns reads.mode scans
      obtain ⟨xs, spelled, chars⟩ := ih s'' outside'' scans fun x hx =>
        sound x (List.mem_cons_of_mem _ hx)
      refine ⟨.command lead name.toList params trail :: xs, ⟨?_, ?_⟩, ?_⟩
      · exact List.forall_mem_cons.2 ⟨wf, spelled.wellFormed⟩
      · exact List.isChain_cons.2 ⟨fun x hx both => both.1, spelled.maximal⟩
      · rw [List.flatMap_cons, chars, ← command, covers]
        rfl

theorem strict_eq_ok_iff {r : Parsed} {program : Program} :
    r.strict = .ok program ↔ r.errors = [] ∧ r.program = program := by
  unfold Parsed.strict
  split <;> simp_all

theorem errors_eq_nil_iff {r : Parsed} :
    r.errors = [] ↔ ∀ item ∈ r.items, ∃ s, item.outcome = .ok s := by
  rw [Parsed.errors, List.filterMap_eq_nil_iff]
  refine forall_congr' fun item => forall_congr' fun _ => ?_
  cases item.outcome <;> simp

/-- A script of the grammar, read as a whole. -/
theorem parse_of_spelled {xs : List Phrase} (spelled : Phrase.Spelled xs) :
    (parse (xs.flatMap Phrase.chars)).strict =
        .ok ⟨(Phrase.places .start xs).map fun x => x.2.statement x.1⟩ ∧
      (parse (xs.flatMap Phrase.chars)).warnings =
        (Phrase.places .start xs).flatMap fun x => x.2.warnings x.1 := by
  have items : (parse (xs.flatMap Phrase.chars)).items = _ := items_of_spelled spelled _ .start
  refine ⟨strict_eq_ok_iff.2 ⟨?_, ?_⟩, ?_⟩
  · rw [errors_eq_nil_iff, items]
    intro item hitem
    obtain ⟨x, -, rfl⟩ := List.mem_map.1 hitem
    exact ⟨_, rfl⟩
  · simp [Parsed.program, Parsed.statements, items, List.filterMap_map, Except.toOption]
  · simp [Parsed.warnings, items, List.flatMap_map]

/-- Reading succeeds on the scripts of the grammar and on no others. What is read then says, phrase
by phrase and at the place of each, what the phrases say; a repeated parameter gives one remark,
and the value written last for it counts. -/
theorem strict_ok_iff_spelled (source : List Char) :
    ((∃ program, (parse source).strict = .ok program) ↔
      ∃ xs, Phrase.Spelled xs ∧ xs.flatMap Phrase.chars = source) ∧
    (∀ xs, Phrase.Spelled xs → xs.flatMap Phrase.chars = source →
      (parse source).strict =
        .ok ⟨(Phrase.places .start xs).map fun x => x.2.statement x.1⟩ ∧
      (parse source).warnings = (Phrase.places .start xs).flatMap fun x => x.2.warnings x.1) ∧
    ∀ (ws : List WrittenParam) (key : String),
      (Params.ofList (ws.map WrittenParam.entry)).get? key =
        ((ws.map WrittenParam.entry).reverse.find? (·.1 = key)).map (·.2) := by
  refine ⟨⟨?_, ?_⟩, ?_, fun ws key => Params.get?_ofList _ key⟩
  · rintro ⟨program, ok⟩
    have scans := Scanner.scans_tokens (.ofSource source)
    refine exists_phrases (endPosition source) scans.moded _ rfl scans fun x hx => ?_
    exact errors_eq_nil_iff.1 (strict_eq_ok_iff.1 ok).1 x.read (List.mem_map_of_mem hx)
  · rintro ⟨xs, spelled, rfl⟩
    exact ⟨_, (parse_of_spelled spelled).1⟩
  · rintro xs spelled rfl
    exact parse_of_spelled spelled

end Dialogue.Script
