import Dialogue.Proofs.Playback.Flush
import Dialogue.Proofs.Playback.Moves
import Dialogue.Proofs.Playback.Stock

/-! A press on a page that is being shown. The rest of the page is shown first, and the size of the
display tells whether the press is spent on it. A display never shrinks where the handlers only add
to it, and then its size tells everything; a handler that clears the display may put as much in its
place, and what it puts there is turned away unseen. -/
namespace Dialogue.Playback

variable {table : CommandTable σ}

/-- The handlers of such a table never take anything off the display. -/
def CommandTable.Appends (table : CommandTable σ) : Prop :=
  ∀ c host display, ∃ added, (table.invoke c host display).display = display ++ added

theorem CommandTable.appends_ofStock (entries : List (String × Stock)) :
    (ofStock entries : CommandTable σ).Appends := by
  intro c host display
  exact ⟨inserted entries c, by rw [invoke_ofStock]⟩

theorem Queue.flushEvents_appends (appends : table.Appends) (display : String) (host : σ)
    (es : List Event) :
    ∃ added, (flushEvents table display host es).2.display = display ++ added := by
  fun_induction flushEvents table display host es with
  | case1 => exact ⟨"", String.append_empty.symm⟩
  | case2 display host r es ih =>
    obtain ⟨added, shown⟩ := ih
    exact ⟨String.ofList r.pending ++ added, by rw [shown, String.append_assoc]⟩
  | case3 => exact ⟨"", String.append_empty.symm⟩
  | case4 display host c es reply _ ih =>
    obtain ⟨added, shown⟩ := ih
    obtain ⟨first, replied⟩ := appends c host display
    exact ⟨first ++ added, by rw [shown, replied, String.append_assoc]⟩
  | case5 display host c => exact appends c host display

/-- Where nothing is taken off the display, a flush that keeps its size keeps its text. -/
theorem Queue.display_flush_of_size_eq (appends : table.Appends) {q : Queue σ}
    (same : (q.flush table).2.display.utf8ByteSize = q.display.utf8ByteSize) :
    (q.flush table).2.display = q.display := by
  unfold flush at same ⊢
  split
  · next ha =>
    rw [if_pos ha] at same
    obtain ⟨added, shown⟩ := flushEvents_appends appends q.display q.host q.events
    rw [shown, String.utf8ByteSize_append] at same
    have empty : added = "" := String.utf8ByteSize_eq_zero_iff.mp (by omega)
    rw [shown, empty, String.append_empty]
  · rfl

namespace PageReader

theorem tick_press {r : PageReader σ} (hc : r.closed = false) (ha : r.queue.active = true)
    (hf : r.queue.isFinished = false) : r.tick table true = press table r.queue := by
  simp [tick, hc, ha, hf]

theorem press_of_size_ne {q : Queue σ}
    (grown : (q.flush table).2.display.utf8ByteSize ≠ q.display.utf8ByteSize) :
    press table q = (some .skipped, ⟨(q.flush table).2, false⟩) :=
  if_pos grown

theorem press_of_size_eq {q : Queue σ}
    (same : (q.flush table).2.display.utf8ByteSize = q.display.utf8ByteSize) :
    press table q =
      match (q.flush table).1 with
      | .finished => close (q.flush table).2
      | .running => turnPage (q.flush table).2 :=
  if_neg (not_not_intro same)

/-- Going past a stop turns the page or closes the script. -/
theorem turnPage_ends (q : Queue σ) :
    turnPage q = (some .advance, ⟨q.pop.2, false⟩) ∨
      turnPage q = (some .finished, ⟨q.pop.2, true⟩) := by
  unfold turnPage
  cases q.pop with
  | mk status p =>
    cases status with
    | running => exact .inl rfl
    | finished => exact .inr rfl

/-- A press that is not spent on the page goes past its end. -/
theorem press_ends {q : Queue σ}
    (same : (q.flush table).2.display.utf8ByteSize = q.display.utf8ByteSize) :
    press table q = (some .advance, ⟨(q.flush table).2.pop.2, false⟩) ∨
      (press table q).1 = some .finished ∧ (press table q).2.closed = true := by
  rw [press_of_size_eq same]
  cases (q.flush table).1 with
  | finished => exact .inr ⟨rfl, rfl⟩
  | running =>
    obtain turned | closed := turnPage_ends (q.flush table).2
    · exact .inl turned
    · exact .inr ⟨congrArg Prod.fst closed, congrArg (fun after => after.2.closed) closed⟩

theorem press_eq_skipped_iff {q : Queue σ} :
    (press table q).1 = some .skipped ↔
      (q.flush table).2.display.utf8ByteSize ≠ q.display.utf8ByteSize := by
  constructor
  · intro skipped same
    obtain turned | ⟨closed, -⟩ := press_ends same
    · simp [turned] at skipped
    · simp [closed] at skipped
  · intro grown
    rw [press_of_size_ne grown]

/-- What one press on a page with work left is spent on. It is a skip where the rest of the page
changes the size of the display, and then nothing is dropped and the new display stays; else it
turns the page or closes the script. Where the handlers only add to the display, it is a skip
exactly if the text changes. -/
theorem press_spent_on (table : CommandTable σ) (r : PageReader σ) (hc : r.closed = false)
    (ha : r.queue.active = true) (hf : r.queue.isFinished = false) :
    let flushed := (r.queue.flush table).2
    let action := (r.tick table true).1
    let after := (r.tick table true).2
    (action = some .skipped ↔ flushed.display.utf8ByteSize ≠ r.display.utf8ByteSize) ∧
    (action = some .skipped → flushed.display ≠ r.display ∧ after = ⟨flushed, false⟩) ∧
    (action ≠ some .skipped →
      (action = some .advance ∧ after = ⟨flushed.pop.2, false⟩) ∨
        (action = some .finished ∧ after.closed = true)) ∧
    (table.Appends → (action = some .skipped ↔ flushed.display ≠ r.display)) := by
  intro flushed action after
  have pressed : r.tick table true = press table r.queue := tick_press hc ha hf
  have skips : action = some .skipped ↔
      flushed.display.utf8ByteSize ≠ r.display.utf8ByteSize := by
    simp only [action, pressed]
    exact press_eq_skipped_iff
  have changes : action = some .skipped → flushed.display ≠ r.display := by
    intro skipped same
    exact skips.mp skipped (congrArg String.utf8ByteSize same)
  refine ⟨skips, ?_, ?_, ?_⟩
  · intro skipped
    refine ⟨changes skipped, ?_⟩
    simp only [after, pressed, press_of_size_ne (skips.mp skipped)]
    rfl
  · intro kept
    have same := Decidable.not_not.mp (mt skips.mpr kept)
    obtain turned | closed := press_ends same
    · have turns := pressed.trans turned
      exact .inl ⟨congrArg Prod.fst turns, congrArg Prod.snd turns⟩
    · simp only [action, after, pressed]
      exact .inr closed
  · intro appends
    refine ⟨changes, ?_⟩
    intro changed
    exact skips.mpr fun same => changed (Queue.display_flush_of_size_eq appends same)

theorem press_spent_on_rest :
    let table : CommandTable Unit := .ofStock [(newlineCommand, .insert "\n")]
    let r : PageReader Unit :=
      ⟨{ events := [.text (.ofText "a"), .command ⟨newlineCommand, .empty⟩, .pageBreak]
         host := () }, false⟩
    table.Appends ∧ (r.tick table true).1 = some .skipped ∧
      (r.tick table true).2 = ⟨(r.queue.flush table).2, false⟩ := by
  intro table r
  have appends : table.Appends := CommandTable.appends_ofStock _
  obtain ⟨-, stays, -, text⟩ := press_spent_on table r rfl rfl (by decide)
  have skipped := (text appends).mpr (by decide)
  exact ⟨appends, skipped, (stays skipped).2⟩

/-- Clears the display and writes `text` on it. -/
def replaceText (text : String) : Handler σ where
  run _ host _ := ⟨.proceed, host, text⟩

/-- A text that replaces another of its size is never seen: the press that brings it up turns the
page. -/
theorem press_turns_replaced_text :
    let table : CommandTable Unit := CommandTable.register {} "swap" (replaceText "b")
    let r := PageReader.play table
      ⟨{ events := [.text (.ofText "a"), .command ⟨"swap", .empty⟩, .pageBreak, .text (.ofText "z")]
         host := () }, false⟩ [false]
    r.closed = false ∧ r.queue.active = true ∧ r.queue.isFinished = false ∧
      r.display = "a" ∧ (r.queue.flush table).2.display = "b" ∧
      (r.tick table true).1 = some .advance ∧ (r.tick table true).2.display = "" := by
  decide

end PageReader
end Dialogue.Playback
