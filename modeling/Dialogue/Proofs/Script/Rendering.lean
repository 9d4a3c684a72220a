import Dialogue.Proofs.Script.Phrases

/-! Expressions as phrases. An expression that has a written form is written as one phrase, with a
single blank in front of each parameter; texts that stand side by side are written as one. -/
namespace Dialogue.Script

namespace Expression

/-- The expression has a written form. -/
def WellFormed : Expression → Prop
  | .text value => IsRun isPlain value.toList
  | .command name params => IsRun isNameChar name.toList ∧
      ∀ e ∈ params.entries, IsRun isNameChar e.1.toList ∧ '"' ∉ e.2.toList

def IsText : Expression → Prop
  | .text _ => True
  | .command .. => False

/-- The phrase that is written for the expression. -/
def phrase : Expression → Phrase
  | .text value => .text value.toList
  | .command name params =>
    .command [] name.toList
      (params.entries.map fun e => ⟨[' '], e.1.toList, [], [], e.2.toList⟩) []

theorem chars_phrase (e : Expression) : e.phrase.chars = e.render.toList := by
  cases e with
  | text value => rfl
  | command name params =>
    simp [phrase, Phrase.chars, render, String.toList_join, List.flatMap_map, renderParam,
      WrittenParam.chars, WrittenParam.beforeValue]

theorem isText_phrase (e : Expression) : e.phrase.IsText ↔ e.IsText := by
  cases e <;> rfl

theorem wellFormed_phrase {e : Expression} (wf : e.WellFormed) : e.phrase.WellFormed := by
  cases e with
  | text value => exact wf
  | command name params =>
    obtain ⟨run, entries⟩ := wf
    have none : IsBlank [] := by simp [IsBlank]
    have one : IsBlank [' '] := by simp [IsBlank, isSeparator]
    refine ⟨none, run, ?_, ?_, none⟩
    · intro w hw
      obtain ⟨e, he, rfl⟩ := List.mem_map.1 hw
      exact ⟨one, (entries e he).1, none, none, (entries e he).2⟩
    · intro w hw
      obtain ⟨e, he, rfl⟩ := List.mem_map.1 (List.mem_of_mem_head? hw)
      exact List.cons_ne_nil _ _

/-- The phrase says the expression again. -/
theorem statement_phrase (e : Expression) (p : Position) : e.phrase.statement p = ⟨e, p⟩ := by
  cases e with
  | text value => simp [phrase, Phrase.statement]
  | command name params =>
    have entries : (params.entries.map fun e =>
        WrittenParam.entry ⟨[' '], e.1.toList, [], [], e.2.toList⟩) = params.entries := by
      simp [WrittenParam.entry]
    simp [phrase, Phrase.statement, Function.comp_def, entries, Params.ofList_entries]

end Expression

/-- Keys that are all different give no remark. -/
theorem repeats_eq_nil {command : String} {seen : List String} {as : List Assignment}
    (fresh : ∀ a ∈ as, a.key ∉ seen) (distinct : (as.map (·.key)).Nodup) :
    repeats command seen as = [] := by
  induction as generalizing seen with
  | nil => rfl
  | cons a as ih =>
    obtain ⟨notLater, distinct⟩ := List.nodup_cons.1 distinct
    have fresh' : ∀ b ∈ as, b.key ∉ a.key :: seen := by
      intro b hb seen
      rcases List.mem_cons.1 seen with same | seen
      · exact notLater (List.mem_map.2 ⟨b, hb, same⟩)
      · exact fresh b (by simp [hb]) seen
    simp [repeats, fresh a (by simp), ih fresh' distinct]

theorem keys_assignments (p : Position) (ws : List WrittenParam) :
    (assignments p ws).map (·.key) = ws.map fun w => String.ofList w.key := by
  induction ws generalizing p with
  | nil => rfl
  | cons w ws ih => simp [assignments, ih]

theorem Expression.warnings_phrase (e : Expression) (p : Position) : e.phrase.warnings p = [] := by
  cases e with
  | text value => rfl
  | command name params =>
    refine repeats_eq_nil (by simp) ?_
    have keys : (params.entries.map (·.1)).Nodup := by
      refine List.pairwise_map.2 (params.sorted.imp fun {a b} before => ?_)
      exact fun same => String.lt_irrefl _ (same ▸ before)
    simpa [keys_assignments, Function.comp_def] using keys

/-- Texts side by side become one text. -/
def joinTexts : List Expression → List Expression
  | [] => []
  | .command name params :: es => .command name params :: joinTexts es
  | .text value :: es =>
    match joinTexts es with
    | .text more :: rest => .text (value ++ more) :: rest
    | rest => .text value :: rest

/-- No two texts stand side by side. -/
def NoTextPair (es : List Expression) : Prop := es.IsChain fun d e => ¬ (d.IsText ∧ e.IsText)

theorem joinTexts_of_noTextPair {es : List Expression} (h : NoTextPair es) : joinTexts es = es := by
  induction es with
  | nil => rfl
  | cons e es ih =>
    obtain ⟨first, rest⟩ := List.isChain_cons.1 h
    cases e with
    | command name params => rw [joinTexts, ih rest]
    | text value =>
      rw [joinTexts, ih rest]
      cases es with
      | nil => rfl
      | cons d es =>
        cases d with
        | command name params => rfl
        | text more => exact absurd ⟨trivial, trivial⟩ (first _ rfl)

/-- The texts side by side at the front are all joined into the first. -/
theorem joinTexts_text (value : String) (es : List Expression) :
    (∃ more rest, joinTexts es = .text more :: rest ∧
      joinTexts (.text value :: es) = .text (value ++ more) :: rest) ∨
    ((∀ e ∈ (joinTexts es).head?, ¬ e.IsText) ∧
      joinTexts (.text value :: es) = .text value :: joinTexts es) := by
  rw [joinTexts]
  cases joined : joinTexts es with
  | nil => exact .inr ⟨by simp, rfl⟩
  | cons e rest =>
    cases e with
    | text more => exact .inl ⟨more, rest, rfl, rfl⟩
    | command name params =>
      refine .inr ⟨?_, rfl⟩
      rintro e ⟨⟩ text
      exact text

theorem noTextPair_joinTexts (es : List Expression) : NoTextPair (joinTexts es) := by
  induction es with
  | nil => exact .nil
  | cons e es ih =>
    cases e with
    | command name params =>
      exact List.isChain_cons.2 ⟨fun _ _ both => both.1, ih⟩
    | text value =>
      rcases joinTexts_text value es with ⟨more, rest, same, joined⟩ | ⟨first, joined⟩
      · rw [same] at ih
        rw [joined]
        exact List.isChain_cons.2 (List.isChain_cons.1 ih)
      · rw [joined]
        exact List.isChain_cons.2 ⟨fun e he both => first e he both.2, ih⟩

theorem wellFormed_joinTexts {es : List Expression} (wf : ∀ e ∈ es, e.WellFormed) :
    ∀ e ∈ joinTexts es, e.WellFormed := by
  induction es with
  | nil => simp [joinTexts]
  | cons e es ih =>
    obtain ⟨head, tail⟩ := List.forall_mem_cons.1 wf
    have ih := ih tail
    cases e with
    | command name params => exact List.forall_mem_cons.2 ⟨head, ih⟩
    | text value =>
      rcases joinTexts_text value es with ⟨more, rest, same, joined⟩ | ⟨first, joined⟩
      · rw [same] at ih
        obtain ⟨second, rest⟩ := List.forall_mem_cons.1 ih
        rw [joined]
        refine List.forall_mem_cons.2 ⟨⟨?_, ?_⟩, rest⟩
        · simpa using fun empty _ => head.1 (by simp [empty])
        · intro c hc
          rw [String.toList_append, List.mem_append] at hc
          exact hc.elim (head.2 c) (second.2 c)
      · rw [joined]
        exact List.forall_mem_cons.2 ⟨head, ih⟩

theorem render_joinTexts (es : List Expression) :
    String.join ((joinTexts es).map Expression.render) = String.join (es.map Expression.render) := by
  induction es with
  | nil => rfl
  | cons e es ih =>
    rw [List.map_cons, String.join_cons, ← ih]
    cases e with
    | command name params => rw [joinTexts, List.map_cons, String.join_cons]
    | text value =>
      rcases joinTexts_text value es with ⟨more, rest, same, joined⟩ | ⟨_, joined⟩
      · simp [same, joined, Expression.render, String.append_assoc]
      · simp [joined]

end Dialogue.Script
