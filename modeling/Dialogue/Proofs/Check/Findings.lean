import Dialogue.Proofs.Check.Agreement
import Dialogue.Proofs.Script.Juxtaposition
import Dialogue.Proofs.Script.Order

/-! What is told of a script. The errors and the remarks of reading it and the findings about what
could be read are put in order by their places, and findings at one place stay as they were; nothing
is left out and nothing is told twice. So a script is told to have errors exactly if it does not
compile. -/
namespace Dialogue.Check

open Script Playback

namespace Diagnostic

/-- The place of `a` does not come behind that of `b`. Findings without a place come last. -/
def InOrder (a b : Diagnostic) : Prop :=
  ∀ q, b.position = some q → ∃ p, a.position = some p ∧ ¬ q.Before p

theorem le_iff {a b : Diagnostic} : a.le b = true ↔ a.InOrder b := by
  unfold le InOrder
  cases a.position <;> cases b.position <;> simp [Position.le_iff]

theorem le_trans (a b c : Diagnostic) (first : a.le b = true) (second : b.le c = true) :
    a.le c = true := by
  rw [le_iff] at *
  intro r hr
  obtain ⟨q, hq, notBefore⟩ := second r hr
  obtain ⟨p, hp, notBefore'⟩ := first q hq
  refine ⟨p, hp, ?_⟩
  unfold Position.Before at *
  omega

theorem le_total (a b : Diagnostic) : (a.le b || b.le a) = true := by
  unfold le
  cases a.position with
  | none => cases b.position <;> rfl
  | some p =>
    cases b.position with
    | none => rfl
    | some q =>
      simp only [Bool.or_eq_true, Position.le_iff, Position.Before]
      omega

theorem le_of_position_eq {a b : Diagnostic} (same : a.position = b.position) : a.le b = true := by
  rw [le_iff]
  intro p hp
  refine ⟨p, same.trans hp, ?_⟩
  unfold Position.Before
  omega

end Diagnostic

/-- The same findings by their places, those at one place in the order in which they were. -/
structure StablySorted (found told : List Diagnostic) : Prop where
  perm : told.Perm found
  inOrder : told.Pairwise Diagnostic.InOrder
  stable : ∀ place, told.filter (·.position = place) = found.filter (·.position = place)

theorem Report.stablySorted_sort (r : Report) :
    StablySorted r.diagnostics r.sort.diagnostics where
  perm := List.mergeSort_perm _ _
  inOrder := by
    have sorted := List.pairwise_mergeSort Diagnostic.le_trans Diagnostic.le_total r.diagnostics
    exact sorted.imp Diagnostic.le_iff.mp
  stable := by
    -- Findings at one place are in order as they stand, so that sorting keeps them in a row.
    intro place
    let here (d : Diagnostic) : Bool := d.position = place
    have tied : (r.diagnostics.filter here).Pairwise fun a b => a.le b = true := by
      refine List.pairwise_of_forall_mem_list fun a ha b hb => Diagnostic.le_of_position_eq ?_
      have place_a : a.position = place := by simpa [here] using List.of_mem_filter ha
      have place_b : b.position = place := by simpa [here] using List.of_mem_filter hb
      rw [place_a, place_b]
    have kept : (r.diagnostics.filter here).Sublist (r.sort.diagnostics.filter here) := by
      have row := List.sublist_mergeSort Diagnostic.le_trans Diagnostic.le_total tied
        List.filter_sublist
      simpa [sort, List.filter_filter] using row.filter here
    have count := ((List.mergeSort_perm r.diagnostics Diagnostic.le).filter here).length_eq
    exact (kept.eq_of_length count.symm).symm

namespace Checker

variable (c : Checker) (script : String) (source : List Char)

/-- All that there is to tell of a script, kind by kind. -/
def findings : List Diagnostic :=
  (parse source).errors.map (ofParseError script source) ++
    (parse source).warnings.map (ofWarning script) ++
    (c.analyze script (parse source).program).diagnostics

theorem stablySorted_check :
    StablySorted (c.findings script source) (c.check script source).diagnostics :=
  Report.stablySorted_sort _

theorem mem_findings {d : Diagnostic} (found : d ∈ c.findings script source) :
    (∃ e ∈ (parse source).errors, d = ofParseError script source e) ∨
      d.level ≠ .error ∧ ∃ p, d.position = some p := by
  rw [findings, List.append_assoc, List.mem_append, List.mem_append] at found
  rcases found with error | warning | analyzed
  · obtain ⟨e, mem, rfl⟩ := List.mem_map.mp error
    exact .inl ⟨e, mem, rfl⟩
  · obtain ⟨w, -, rfl⟩ := List.mem_map.mp warning
    exact .inr ⟨Level.noConfusion, w.position, rfl⟩
  · refine .inr ⟨c.level_ne_error_of_mem_analyze script analyzed, ?_⟩
    rcases c.mem_analyze script analyzed with ⟨name, p, rfl⟩ | ⟨p, event, -, rfl⟩ <;>
      exact ⟨p, rfl⟩

theorem errorCount_check : (c.check script source).errorCount = (parse source).errors.length := by
  have analyzed : (c.analyze script (parse source).program).diagnostics.countP
      (·.level = .error) = 0 := by
    rw [List.countP_eq_zero]
    intro d found
    simpa using c.level_ne_error_of_mem_analyze script found
  rw [Report.errorCount, Report.count, (c.stablySorted_check script source).perm.countP_eq, findings,
    List.countP_append, List.countP_append, analyzed]
  simp [List.countP_map, ofParseError, ofWarning, Function.comp_def]

/-- The text of an error finding: its script and the error, and the line it stands on behind them. -/
theorem toList_render_ofParseError (e : ParseError) :
    (ofParseError script source e).render.toList =
      ("[ERROR] " ++ script ++ ":" ++ e.render).toList ++
        match Text.line? e.position.line source with
        | none => []
        | some line => '\n' :: ("  | ".toList ++ line) := by
  cases line : Text.line? e.position.line source <;>
    simp [Diagnostic.render, ofParseError, ParseError.render, Level.describe, line, toString]

/-- Of an error without newlines the first line says what its own text says. -/
theorem firstLine_ofParseError {e : ParseError} (oneLine : '\n' ∉ script.toList)
    (oneLine' : '\n' ∉ e.render.toList) :
    (ofParseError script source e).render.toList.takeWhile (· != '\n') =
      ("[ERROR] " ++ script ++ ":" ++ e.render).toList := by
  rw [toList_render_ofParseError]
  apply takeWhile_run
  · intro c mem
    simp only [String.toList_append, List.mem_append] at mem
    rw [bne_iff_ne]
    rintro rfl
    simp [oneLine, oneLine'] at mem
  · intro c head
    cases line : Text.line? e.position.line source with
    | none => simp [line] at head
    | some text =>
      obtain rfl : '\n' = c := by simpa [line] using head
      rfl

/-- What is told of a script is what there is to tell of it, sorted by place: an error for each error
of reading it, a warning for each remark, and what is found in the program that could be read. All of
it has a place. There are errors exactly if the script does not compile, whatever stands for a page
break, and then as many as the compiler tells; the first line of each is the text of the error it
stands for, if that and the name of the script are without newlines. -/
theorem check_tells_findings :
    let told : Report := c.check script source
    StablySorted
      ((parse source).errors.map (ofParseError script source) ++
        (parse source).warnings.map (ofWarning script) ++
        (c.analyze script (parse source).program).diagnostics) told.diagnostics ∧
    (∀ d ∈ told.diagnostics, ∃ p, d.position = some p) ∧
    (∀ marker, told.hasErrors = true ↔ ∃ e, compile marker source = .error e) ∧
    (∀ marker e, compile marker source = .error e → told.errorCount = e.errors.length) ∧
    ∀ d ∈ told.diagnostics, d.level = .error →
      ∃ e ∈ (parse source).errors, d = ofParseError script source e ∧
        ('\n' ∉ script.toList → '\n' ∉ e.render.toList →
          d.render.toList.takeWhile (· != '\n') =
            ("[ERROR] " ++ script ++ ":" ++ e.render).toList) := by
  intro told
  have sorted : StablySorted (c.findings script source) told.diagnostics :=
    c.stablySorted_check script source
  have count : told.errorCount = (parse source).errors.length :=
    c.errorCount_check script source
  refine ⟨sorted, ?_, ?_, ?_, ?_⟩
  · intro d mem
    rcases c.mem_findings script source (sorted.perm.mem_iff.mp mem) with ⟨e, -, rfl⟩ | ⟨-, placed⟩
    · exact ⟨e.position, rfl⟩
    · exact placed
  · intro marker
    simp only [Report.hasErrors, count, decide_eq_true_eq, compile_eq_error_iff, List.length_pos_iff,
      exists_and_left, exists_eq, and_true]
  · intro marker e failed
    rw [count, (compile_eq_error_iff.mp failed).2]
  · intro d mem error
    rcases c.mem_findings script source (sorted.perm.mem_iff.mp mem) with ⟨e, found, rfl⟩ | ⟨other, -⟩
    · exact ⟨e, found, rfl, firstLine_ofParseError script source⟩
    · contradiction

theorem check_tells_broken_script :
    let source := "[zz]\n[se file][r k=\"1\" k=\"2\"]b".toList
    let e : ParseError := ⟨.missingEquals "se" "file", ⟨2, 9⟩⟩
    let told := Checker.check {} "a.txt" source
    compile "p" source = .error ⟨[e]⟩ ∧ '\n' ∉ "a.txt".toList ∧ '\n' ∉ e.render.toList ∧
      told.errorCount = 1 ∧
      ∀ d ∈ told.diagnostics, d.level = .error → d.render.toList.takeWhile (· != '\n') =
        "[ERROR] a.txt:2:9: missing `=` after identifier 'file' inside command 'se'".toList := by
  intro source e told
  have errors : (parse source).errors = [e] := by decide +kernel
  have failed : compile "p" source = .error ⟨[e]⟩ :=
    compile_eq_error_iff.mpr ⟨by simp [errors], by rw [errors]⟩
  have script_line : '\n' ∉ "a.txt".toList := by decide
  have error_line : '\n' ∉ e.render.toList := by decide +kernel
  obtain ⟨-, -, -, count, lines⟩ := check_tells_findings {} "a.txt" source
  refine ⟨failed, script_line, error_line, count "p" _ failed, ?_⟩
  intro d mem level
  obtain ⟨e', found, -, line⟩ := lines d mem level
  rw [errors, List.mem_singleton] at found
  subst found
  exact (line script_line error_line).trans (by decide +kernel)

end Checker
end Dialogue.Check
