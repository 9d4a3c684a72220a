import Dialogue.Proofs.Check.Findings
import Dialogue.Proofs.Script.Violations

/-! Where errors point. The scanner counts lines as it goes, and the checker looks the line of an
error up in the script afterwards. For both a line ends at a newline, so the line that is told is
the one that the error stands on. None is told where the script ends behind a newline: there is no
line then for what is missing. -/
namespace Dialogue

namespace Text

/-- The line at the place between `front` and `rest`, from the newline in front of it, or the start
of the text, to the newline behind it, or the end. -/
def lineAround (front rest : List Char) : List Char :=
  front.rtakeWhile (· != '\n') ++ rest.takeWhile (· != '\n')

theorem dropLines_succ (n : Nat) (cs : List Char) :
    dropLines (n + 1) cs = ((dropLines n cs).dropWhile (· != '\n')).tail := by
  induction n generalizing cs with
  | zero => rfl
  | succ n ih => exact ih _

/-- Behind the newlines of `front` comes what `front` has behind the last of them. -/
theorem dropLines_count (front rest : List Char) :
    dropLines (front.count '\n') (front ++ rest) = front.rtakeWhile (· != '\n') ++ rest := by
  induction front using List.reverseRecOn generalizing rest with
  | nil => rfl
  | append_singleton front c ih =>
    rw [List.append_assoc, List.singleton_append, List.count_append]
    by_cases newline : c = '\n'
    · subst newline
      have inside : ∀ d ∈ front.rtakeWhile (· != '\n'), (d != '\n') = true :=
        fun d => List.mem_rtakeWhile_imp
      have stops : Script.StopsAt (· != '\n') ('\n' :: rest) := by
        rintro d ⟨⟩
        decide
      rw [List.count_singleton_self, dropLines_succ, ih, Script.dropWhile_run inside stops,
        List.rtakeWhile_concat_neg _ _ _ (by decide)]
      rfl
    · rw [List.count_singleton, if_neg (by simpa using newline), Nat.add_zero, ih,
        List.rtakeWhile_concat_pos _ _ _ (by simpa using newline), List.append_assoc,
        List.singleton_append]

/-- Counting lines and looking them up agree: the line of a place is the one around it, if anything
of it is there. -/
theorem line?_counted (front rest : List Char) :
    line? (Script.Position.counted front).line (front ++ rest) =
      if front.rtakeWhile (· != '\n') ++ rest = [] then none
      else some (trimEnd (lineAround front rest)) := by
  have inside : ∀ d ∈ front.rtakeWhile (· != '\n'), (d != '\n') = true :=
    fun d => List.mem_rtakeWhile_imp
  rw [Script.Position.counted, Nat.add_comm, line?, dropLines_count,
    List.takeWhile_append_of_pos inside, lineAround]
  simp only [List.isEmpty_iff]

/-- Behind the last newline in front of a place nothing is left of a text only at its end, and there
only if it ends in a newline. -/
theorem rtakeWhile_append_eq_nil_iff {front rest : List Char} (some_text : front ++ rest ≠ []) :
    front.rtakeWhile (· != '\n') ++ rest = [] ↔
      rest = [] ∧ (front ++ rest).getLast? = some '\n' := by
  rw [List.append_eq_nil_iff, and_comm, and_congr_right_iff]
  rintro rfl
  rw [List.append_nil] at some_text ⊢
  obtain rfl | ⟨init, c, rfl⟩ := front.eq_nil_or_concat'
  · contradiction
  · rw [List.getLast?_concat]
    by_cases newline : c = '\n'
    · simp [newline]
    · simp [newline]

end Text

namespace Script

/-- The end of a text is the place of no other character. -/
theorem Position.counted_eq_iff {front rest : List Char} :
    Position.counted front = .counted (front ++ rest) ↔ rest = [] := by
  constructor
  · intro same
    by_contra more
    have before := (Position.counted front).before_after more
    rw [← start_after, ← after_append, start_after, start_after, ← same] at before
    exact before.asymm before
  · rintro rfl
    rw [List.append_nil]

/-- Every token stands at the place of its first character. -/
theorem Scanner.Scans.placed {s : Scanner} {ls : List Lexeme} (scans : s.Scans ls) :
    ∀ l ∈ ls, ∃ front rest, s.rest = front ++ rest ∧ l.token.span <+: rest ∧
      l.position = s.position.after front := by
  induction scans with
  | done => simp
  | @read s gap l s' ls reads _ ih =>
    refine List.forall_mem_cons.mpr ⟨?_, ?_⟩
    · exact ⟨gap, _, reads.covers, List.prefix_append _ _, reads.start⟩
    · intro m mem
      obtain ⟨front, rest, covers, begins, position⟩ := ih m mem
      refine ⟨gap ++ l.token.span ++ front, rest, ?_, begins, ?_⟩
      · rw [reads.covers, covers]
        simp
      · rw [position, reads.stop, reads.start, Position.after_append, Position.after_append]

/-- An error stands at a token or at the end of its script, which is not empty. -/
theorem placed_error {source : List Char} {e : ParseError} (mem : e ∈ (parse source).errors) :
    source ≠ [] ∧ ∃ front rest, source = front ++ rest ∧ e.position = .counted front ∧
      ((∃ l ∈ tokens source, l.position = .counted front ∧ l.token.span <+: rest) ∨ rest = []) := by
  have scans := Scanner.scans_tokens (.ofSource source)
  rw [errors_eq] at mem
  obtain ⟨s, start, judged⟩ := exists_start (forall₂_judged source) mem
  have suffix := suffix_of_mem_starts start
  constructor
  · have some_token := List.length_pos_of_mem (suffix.subset List.mem_cons_self)
    exact List.ne_nil_of_length_pos (some_token.trans_le scans.length_le)
  · rcases judged.at_token with atEnd | ⟨l, within, atToken⟩
    · refine ⟨source, [], (List.append_nil _).symm, ?_, .inr rfl⟩
      rw [atEnd, endPosition, Position.start_after]
    · have token : l ∈ tokens source := suffix.subset within
      obtain ⟨front, rest, covers, begins, position⟩ := scans.placed l token
      have place : l.position = .counted front := position.trans (Position.start_after front)
      exact ⟨front, rest, covers, atToken.trans place, .inl ⟨l, token, place, begins⟩⟩

end Script

namespace Check.Checker

open Script

variable (c : Checker) (script : String) (source : List Char)

/-- Each error that is told stands at a place of the script, in front of a token or at the end, and
with it the whole line on which that place lies is told, without the blanks at its end. There is no
line exactly if the error stands at the end of the script behind a newline. -/
theorem errors_point_into_script :
    ∀ d ∈ (c.check script source).diagnostics, d.level = .error →
      ∃ front rest, source = front ++ rest ∧ d.position = some (.counted front) ∧
        ((∃ l ∈ tokens source, l.position = .counted front ∧ l.token.span <+: rest) ∨
          rest = []) ∧
        (∀ detail ∈ d.detail,
          detail.toList = (Text.lineAround front rest).rdropWhile Text.isBlank) ∧
        (d.detail = none ↔
          d.position = some (.counted source) ∧ source.getLast? = some '\n') := by
  intro d mem error
  have told := (c.stablySorted_check script source).perm.mem_iff.mp mem
  rcases c.mem_findings script source told with ⟨e, found, rfl⟩ | ⟨other, -⟩
  · obtain ⟨some_text, front, rest, rfl, position, place⟩ := placed_error found
    have detail : (ofParseError script (front ++ rest) e).detail =
        if rest = [] ∧ (front ++ rest).getLast? = some '\n' then none
        else some (String.ofList (Text.trimEnd (Text.lineAround front rest))) := by
      rw [ofParseError, position, Text.line?_counted,
        if_congr (Text.rtakeWhile_append_eq_nil_iff some_text) rfl rfl, apply_ite (Option.map _)]
      rfl
    refine ⟨front, rest, rfl, congrArg some position, place, ?_, ?_⟩
    · intro text mem
      rw [detail] at mem
      split at mem
      · contradiction
      · rw [← Option.some.inj mem, String.toList_ofList]
        rfl
    · have atEnd : (ofParseError script (front ++ rest) e).position =
          some (.counted (front ++ rest)) ↔ rest = [] := by
        rw [ofParseError, Option.some_inj, position, Position.counted_eq_iff]
      rw [detail, atEnd]
      split
      · next ends => exact iff_of_true rfl ends
      · next goes_on => exact iff_of_false (Option.some_ne_none _) goes_on
  · contradiction

/-- Of a value that is missing at the end, behind a newline, no line is told; of what is missing
before a bracket a line is told. -/
theorem errors_point_into_broken_script :
    let source := "[a b] \r\n[c d=\n".toList
    let unset := ofParseError "s" source ⟨.missingEquals "a" "b", ⟨1, 5⟩⟩
    let unended := ofParseError "s" source ⟨.missingValue "c" "d", ⟨3, 1⟩⟩
    let told := Checker.check {} "s" source
    (unset ∈ told.diagnostics ∧ unset.level = .error ∧ unset.detail ≠ none) ∧
      unended ∈ told.diagnostics ∧ unended.level = .error ∧ unended.detail = none := by
  intro source unset unended told
  have errors : (parse source).errors =
      [⟨.missingEquals "a" "b", ⟨1, 5⟩⟩, ⟨.missingValue "c" "d", ⟨3, 1⟩⟩] := by decide +kernel
  have perm : told.diagnostics.Perm (Checker.findings {} "s" source) :=
    (stablySorted_check {} "s" source).perm
  have mem_unset : unset ∈ told.diagnostics := perm.mem_iff.mpr (by simp [findings, errors, unset])
  have mem_unended : unended ∈ told.diagnostics :=
    perm.mem_iff.mpr (by simp [findings, errors, unended])
  obtain ⟨-, -, -, -, -, -, line⟩ := errors_point_into_script {} "s" source unset mem_unset rfl
  obtain ⟨-, -, -, -, -, -, line'⟩ := errors_point_into_script {} "s" source unended mem_unended rfl
  exact ⟨⟨mem_unset, rfl, line.not.mpr (by decide)⟩, mem_unended, rfl, line'.mpr (by decide)⟩

end Check.Checker
end Dialogue
