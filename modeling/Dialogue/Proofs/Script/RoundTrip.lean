import Dialogue.Proofs.Script.Acceptance
import Dialogue.Proofs.Script.Rendering

/-! Writing and reading are inverse. What has a written form is read back as it was, up to texts
that were written side by side, and whatever is read, also around errors, has a written form. -/
namespace Dialogue.Script

/-- The characters that the scanner promises of a token, wherever it stands. -/
def Token.Sound : Token → Prop
  | .text s => IsRun isPlain s.toList
  | .ident s => IsRun isNameChar s.toList
  | .string s => '"' ∉ s.toList
  | _ => True

theorem Token.Fits.sound {inside : Bool} {rest : List Char} {t : Token} (fits : t.Fits inside rest) :
    t.Sound := by
  cases t with
  | text s => exact fits.2.1
  | ident s => exact fits.2.1
  | string s => exact fun quote => absurd (fits.2 _ quote) (by decide)
  | _ => trivial

theorem Scanner.Scans.sound {s : Scanner} {ls : List Lexeme} (scans : s.Scans ls) :
    ∀ l ∈ ls, l.token.Sound := by
  induction scans with
  | done => simp
  | read reads _ ih => exact List.forall_mem_cons.2 ⟨reads.fits.sound, ih⟩

theorem Assigns.sound {ls : List Lexeme} {as : List Assignment} (assigns : Assigns ls as)
    (sound : ∀ l ∈ ls, l.token.Sound) :
    ∀ a ∈ as, IsRun isNameChar a.key.toList ∧ '"' ∉ a.value.toList := by
  induction assigns with
  | nil => simp
  | cons _ ih =>
    simp only [List.forall_mem_cons] at sound
    obtain ⟨key, -, value, rest⟩ := sound
    exact List.forall_mem_cons.2 ⟨⟨key, value⟩, ih rest⟩

theorem wellFormed_paramsOf {name : String} {as : List Assignment} (run : IsRun isNameChar name.toList)
    (sound : ∀ a ∈ as, IsRun isNameChar a.key.toList ∧ '"' ∉ a.value.toList) :
    (Expression.command name (paramsOf as)).WellFormed := by
  refine ⟨run, ?_⟩
  intro e he
  obtain ⟨a, ha, rfl⟩ := List.mem_map.1 (Params.mem_entries_ofList he)
  exact sound a ha

/-- Every segment that is read gives an expression with a written form. -/
theorem wellFormed_of_read (finish : Position) {ls : List Lexeme} (moded : Moded false ls) :
    (∀ l ∈ ls, l.token.Sound) → ∀ x ∈ segments finish ls, ∀ st, x.read.outcome = .ok st →
      st.expression.WellFormed := by
  refine moded.segmentwise ?_ ?_ ?_ ?_
  · intro _ x hx
    rw [segments] at hx
    contradiction
  · intro content p ls ih sound x hx st read
    obtain ⟨run, sound⟩ := List.forall_mem_cons.1 sound
    rw [segments_text] at hx
    rcases List.mem_cons.1 hx with rfl | hx
    · obtain rfl := Except.ok.inj read
      exact run
    · exact ih sound x hx st read
  · intro p ls ih sound x hx st read
    rw [segments_close] at hx
    rcases List.mem_cons.1 hx with rfl | hx
    · contradiction
    · exact ih (List.forall_mem_cons.1 sound).2 x hx st read
  · intro p body stop inner h _ ih sound x hx st read
    have sound := (List.forall_mem_cons.1 sound).2
    have behind : ∀ l ∈ afterStop stop, l.token.Sound := by
      intro l hl
      refine sound l (List.mem_append_right _ ?_)
      cases h with
      | closed => exact List.mem_cons_of_mem _ hl
      | reopened | endOfInput => exact hl
    rw [segments_open _ _ inner h] at hx
    rcases List.mem_cons.1 hx with rfl | hx
    · obtain ⟨name, q, ls, r, as, rfl, ending, assigns⟩ := assigns_of_readCommand read
      rw [Segment.read, ending, readCommand_of_assigns assigns] at read
      obtain rfl := Except.ok.inj read
      obtain ⟨run, params⟩ := List.forall_mem_cons.1 fun l hl => sound l (List.mem_append_left _ hl)
      exact wellFormed_paramsOf run (assigns.sound params)
    · exact ih behind x hx st read

theorem wellFormed_program (source : List Char) :
    ∀ e ∈ (parse source).program.expressions, e.WellFormed := by
  intro e he
  obtain ⟨st, hst, rfl⟩ := List.mem_map.1 he
  obtain ⟨item, hitem, ok⟩ := List.mem_filterMap.1 hst
  obtain ⟨x, hx, rfl⟩ := List.mem_map.1 hitem
  have scans := Scanner.scans_tokens (.ofSource source)
  refine wellFormed_of_read (endPosition source) scans.moded scans.sound x hx st ?_
  cases outcome : x.read.outcome with
  | error => simp [outcome, Except.toOption] at ok
  | ok st' => simpa [outcome, Except.toOption] using ok

theorem spelled_joinTexts {es : List Expression} (wf : ∀ e ∈ es, e.WellFormed) :
    Phrase.Spelled ((joinTexts es).map Expression.phrase) := by
  constructor
  · intro x hx
    obtain ⟨e, he, rfl⟩ := List.mem_map.1 hx
    exact Expression.wellFormed_phrase (wellFormed_joinTexts wf e he)
  · rw [List.isChain_map]
    apply (noTextPair_joinTexts es).imp
    intro d e different
    rwa [Expression.isText_phrase, Expression.isText_phrase]

theorem chars_joinTexts (es : List Expression) :
    ((joinTexts es).map Expression.phrase).flatMap Phrase.chars =
      (String.join (es.map Expression.render)).toList := by
  rw [← render_joinTexts, String.toList_join, List.flatMap_map, List.flatMap_map]
  exact congrArg (List.flatMap · _) (funext Expression.chars_phrase)

theorem expressions_places (p : Position) (es : List Expression) :
    ((Phrase.places p (es.map Expression.phrase)).map fun x =>
      (x.2.statement x.1).expression) = es := by
  induction es generalizing p with
  | nil => rfl
  | cons e es ih => simp [Phrase.places, Expression.statement_phrase, ih]

theorem warnings_places (p : Position) (es : List Expression) :
    ((Phrase.places p (es.map Expression.phrase)).flatMap fun x => x.2.warnings x.1) = [] := by
  induction es generalizing p with
  | nil => rfl
  | cons e es ih => simp [Phrase.places, Expression.warnings_phrase, ih]

theorem parse_render {es : List Expression} (wf : ∀ e ∈ es, e.WellFormed) :
    ∃ program, (parse (String.join (es.map Expression.render)).toList).strict = .ok program ∧
      (parse (String.join (es.map Expression.render)).toList).warnings = [] ∧
      program.expressions = joinTexts es := by
  obtain ⟨strict, warnings⟩ := parse_of_spelled (spelled_joinTexts wf)
  rw [chars_joinTexts] at strict warnings
  refine ⟨_, strict, warnings.trans (warnings_places _ _), ?_⟩
  simpa [Program.expressions, Function.comp_def] using expressions_places .start (joinTexts es)

/-- Expressions that have a written form are read back from it, without error or remark and up to
texts side by side. Every source, also a faulty one, is read as expressions that have a written
form; so what was read is written as a script that reads without error or remark, and is then
written the same way again. -/
theorem render_parse_inverse :
    (∀ es : List Expression, (∀ e ∈ es, e.WellFormed) →
      ∃ program, (parse (String.join (es.map Expression.render)).toList).strict = .ok program ∧
        (parse (String.join (es.map Expression.render)).toList).warnings = [] ∧
        program.expressions = joinTexts es ∧
        (NoTextPair es → program.expressions = es)) ∧
    ∀ source : List Char,
      (∀ e ∈ (parse source).program.expressions, e.WellFormed) ∧
      ∃ program, (parse (parse source).program.render.toList).strict = .ok program ∧
        (parse (parse source).program.render.toList).warnings = [] ∧
        program.render = (parse source).program.render := by
  constructor
  · intro es wf
    obtain ⟨program, strict, warnings, expressions⟩ := parse_render wf
    have kept : NoTextPair es → program.expressions = es := by
      intro apart
      rw [expressions, joinTexts_of_noTextPair apart]
    exact ⟨program, strict, warnings, expressions, kept⟩
  · intro source
    have wf := wellFormed_program source
    obtain ⟨program, strict, warnings, expressions⟩ := parse_render wf
    have again : program.render = (parse source).program.render := by
      rw [Program.render, expressions, render_joinTexts, Program.render]
    exact ⟨wf, program, strict, warnings, again⟩

end Dialogue.Script
