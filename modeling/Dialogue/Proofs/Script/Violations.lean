import Dialogue.Proofs.Script.Blame

/-! The errors of a script, in order. Every start of a statement or a stray bracket gives a statement,
or an error that blames the first token, or the end of the script, with which nothing can go on. Since
no command is read beyond the next bracket, errors are told in reading order. -/
namespace Dialogue.Script

theorem suffix_of_mem_starts {inside : Bool} {ls : List Lexeme} {s : Lexeme × List Lexeme}
    (mem : s ∈ starts inside ls) : s.1 :: s.2 <:+ ls := by
  induction ls generalizing inside with
  | nil => contradiction
  | cons l ls ih =>
    rw [starts] at mem
    split at mem
    · rcases List.mem_cons.1 mem with rfl | mem
      · exact List.suffix_refl _
      · exact (ih mem).trans (List.suffix_cons _ _)
    · exact (ih mem).trans (List.suffix_cons _ _)

theorem Position.Before.asymm {p q : Position} (before : p.Before q) : ¬ q.Before p := by
  unfold Position.Before at *
  omega

/-- Tokens in reading order, of a script that ends at `finish`. -/
structure InOrder (finish : Position) (ls : List Lexeme) : Prop where
  pairwise : ls.Pairwise fun l m => l.position.Before m.position
  bounded : ∀ l ∈ ls, ¬ finish.Before l.position

theorem InOrder.suffix {finish : Position} {ls ms : List Lexeme} (order : InOrder finish ls)
    (suffix : ms <:+ ls) : InOrder finish ms where
  pairwise := order.pairwise.sublist suffix.sublist
  bounded l mem := order.bounded l (suffix.subset mem)

variable {finish : Position} {l : Lexeme} {ls : List Lexeme} {e : ParseError}

/-- An error stands at the end of the script, or at its start or at a token behind it. -/
theorem Judged.at_token (judged : Judged finish (l, ls) (.error e)) :
    e.position = finish ∨ ∃ m ∈ l :: ls, e.position = m.position := by
  cases judged with
  | stray => exact .inr ⟨_, List.mem_cons_self, rfl⟩
  | @broken p _ _ blames =>
    obtain ⟨read, rest, slot, breaksOff, -, rfl⟩ := blames
    cases rest with
    | nil =>
      rcases slot.position_blame_none p finish with same | same
      · exact .inr ⟨_, List.mem_cons_self, same⟩
      · exact .inl same
    | cons m rest =>
      have mem : m ∈ ls := breaksOff.split ▸ List.mem_append_right _ List.mem_cons_self
      exact .inr ⟨m, List.mem_cons_of_mem _ mem, slot.position_blame_some p finish m⟩

/-- No error stands in front of its start. -/
theorem Judged.from_start (judged : Judged finish (l, ls) (.error e))
    (order : InOrder finish (l :: ls)) : ¬ e.position.Before l.position := by
  rcases judged.at_token with same | ⟨m, mem, same⟩
  · rw [same]
    exact order.bounded l List.mem_cons_self
  · rw [same]
    rcases List.mem_cons.1 mem with rfl | mem
    · simp [Position.Before]
    · exact Position.Before.asymm (List.rel_of_pairwise_cons order.pairwise mem)

/-- No error stands behind a later start. -/
theorem Judged.up_to_next {inside : Bool} {s : Lexeme × List Lexeme}
    (judged : Judged finish (l, ls) (.error e)) (order : InOrder finish (l :: ls))
    (later : s ∈ starts (l.token.staysInside inside) ls) :
    ¬ s.1.position.Before e.position := by
  cases judged with
  | stray =>
    have mem := (suffix_of_mem_starts later).subset List.mem_cons_self
    exact Position.Before.asymm (List.rel_of_pairwise_cons order.pairwise mem)
  | @broken p _ _ blames =>
    obtain ⟨read, rest, slot, breaksOff, behind, rfl⟩ := blames
    rw [Token.staysInside, breaksOff.split, behind.starts_eq] at later
    cases rest with
    | nil => contradiction
    | cons m rest =>
      -- The token that is blamed is the first that a statement may start at.
      rw [List.head?_cons, slot.position_blame_some]
      rcases List.mem_cons.1 ((suffix_of_mem_starts later).subset List.mem_cons_self) with
        same | mem
      · simp [same, Position.Before]
      · have suffix : m :: rest <:+ ⟨.bracketOpen, p⟩ :: ls :=
          breaksOff.split ▸ (List.suffix_append read _).trans (List.suffix_cons _ _)
        exact Position.Before.asymm (List.rel_of_pairwise_cons (order.suffix suffix).pairwise mem)

/-- Every error that is told is given at some start. -/
theorem exists_start {ss : List (Lexeme × List Lexeme)}
    {outcomes : List (Except ParseError Statement)}
    (judged : List.Forall₂ (Judged finish) ss outcomes) (mem : e ∈ outcomes.filterMap errorOf?) :
    ∃ s ∈ ss, Judged finish s (.error e) := by
  induction judged with
  | nil => contradiction
  | @cons s outcome ss outcomes first _ ih =>
    have later (mem : e ∈ outcomes.filterMap errorOf?) :
        ∃ s' ∈ s :: ss, Judged finish s' (.error e) := by
      obtain ⟨s', mem, judged⟩ := ih mem
      exact ⟨s', List.mem_cons_of_mem _ mem, judged⟩
    cases outcome with
    | ok st => exact later mem
    | error e' =>
      rcases List.mem_cons.1 mem with rfl | mem
      · exact ⟨s, List.mem_cons_self, first⟩
      · exact later mem

theorem pairwise_errors {inside : Bool} {outcomes : List (Except ParseError Statement)}
    (judged : List.Forall₂ (Judged finish) (starts inside ls) outcomes)
    (order : InOrder finish ls) :
    (outcomes.filterMap errorOf?).Pairwise fun e f => e.position.le f.position = true := by
  induction ls generalizing inside outcomes with
  | nil =>
    cases judged
    exact .nil
  | cons l ls ih =>
    have order' := order.suffix (List.suffix_cons l ls)
    rw [starts] at judged
    split at judged
    · cases judged with
      | @cons _ outcome _ outcomes first judged =>
        have sorted := ih judged order'
        cases outcome with
        | ok st => exact sorted
        | error e =>
          refine List.pairwise_cons.2 ⟨fun f mem => ?_, sorted⟩
          obtain ⟨s, later, judged'⟩ := exists_start judged mem
          have from_start := judged'.from_start (order'.suffix (suffix_of_mem_starts later))
          have up_to_next := first.up_to_next order later
          rw [Position.le_iff]
          unfold Position.Before at *
          omega
    · exact ih judged order'

theorem Scanner.Scans.bounded {s : Scanner} (scans : s.Scans ls) :
    ∀ l ∈ ls, ¬ s.endPosition.Before l.position := by
  induction scans with
  | done => simp
  | @read s gap l s' ls reads _ ih =>
    rw [reads.endPosition_eq] at ih
    refine List.forall_mem_cons.2 ⟨?_, ih⟩
    have behind : s.endPosition = l.position.after (l.token.span ++ s'.rest) := by
      rw [endPosition, reads.covers, Position.after_append, reads.start]
    rw [behind]
    rcases l.position.eq_or_before_after (l.token.span ++ s'.rest) with same | before
    · rw [← same]
      simp [Position.Before]
    · exact Position.Before.asymm before

theorem inOrder_tokens (source : List Char) : InOrder (endPosition source) (tokens source) where
  pairwise := pairwise_before_tokens source
  bounded := (Scanner.scans_tokens (.ofSource source)).bounded

/-- The error of a broken command blames the first token behind its opening bracket with which a
command cannot go on, or the end of the script, and says what was missing there; no error of a script
stands in front of the one told before it. -/
theorem errors_blame_first_violation (source : List Char) :
    ∃ outcomes, List.Forall₂ (Judged (endPosition source)) (starts false (tokens source)) outcomes ∧
      (parse source).statements = outcomes.filterMap Except.toOption ∧
      (parse source).errors = outcomes.filterMap errorOf? ∧
      (parse source).errors.Pairwise fun e f => e.position.le f.position = true := by
  have judged := forall₂_judged source
  refine ⟨_, judged, statements_eq _, errors_eq _, ?_⟩
  rw [errors_eq]
  exact pairwise_errors judged (inOrder_tokens source)

end Dialogue.Script
