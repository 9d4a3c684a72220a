import Dialogue.Proofs.Script.Scanning

/-! Reading order. Every token covers characters, so each starts strictly behind the one before. -/
namespace Dialogue.Script

namespace Position

def Before (p q : Position) : Prop := p.line < q.line ∨ p.line = q.line ∧ p.column < q.column

theorem Before.trans {p q r : Position} (first : p.Before q) (second : q.Before r) : p.Before r := by
  unfold Before at *
  omega

theorem le_iff {p q : Position} : p.le q = true ↔ ¬ q.Before p := by
  simp only [le, Before, Bool.or_eq_true, Bool.and_eq_true, decide_eq_true_eq, beq_iff_eq]
  omega

theorem before_advance (p : Position) (c : Char) : p.Before (p.advance c) := by
  unfold advance
  split
  · exact .inl (Nat.lt_succ_self _)
  · exact .inr ⟨rfl, Nat.lt_succ_self _⟩

theorem eq_or_before_after (p : Position) (cs : List Char) :
    p = p.after cs ∨ p.Before (p.after cs) := by
  induction cs generalizing p with
  | nil => exact .inl rfl
  | cons c cs ih =>
    rw [after_cons]
    rcases ih (p.advance c) with same | before
    · exact .inr (same ▸ p.before_advance c)
    · exact .inr ((p.before_advance c).trans before)

theorem before_after (p : Position) {cs : List Char} (h : cs ≠ []) : p.Before (p.after cs) := by
  obtain ⟨c, cs, rfl⟩ := List.exists_cons_of_ne_nil h
  rw [after_cons]
  rcases eq_or_before_after (p.advance c) cs with same | before
  · exact same ▸ p.before_advance c
  · exact (p.before_advance c).trans before

end Position

namespace Scanner

theorem Reads.before {s s' : Scanner} {gap : List Char} {l : Lexeme} (reads : s.Reads gap l s') :
    l.position.Before s'.position := by
  rw [reads.stop]
  exact l.position.before_after (span_ne_nil reads.fits)

theorem Reads.from_start {s s' : Scanner} {gap : List Char} {l : Lexeme}
    (reads : s.Reads gap l s') : s.position = l.position ∨ s.position.Before l.position := by
  rw [reads.start]
  exact s.position.eq_or_before_after gap

theorem Scans.from_start {s : Scanner} {ls : List Lexeme} (scans : s.Scans ls) :
    ∀ l ∈ ls, s.position = l.position ∨ s.position.Before l.position := by
  induction scans with
  | done => simp
  | @read s gap l s' ls reads _ ih =>
    intro m hm
    rcases List.mem_cons.1 hm with rfl | hm
    · exact reads.from_start
    · have later : l.position.Before m.position := by
        rcases ih m hm with same | before
        · exact same ▸ reads.before
        · exact reads.before.trans before
      rcases reads.from_start with same | before
      · exact .inr (same ▸ later)
      · exact .inr (before.trans later)

theorem Scans.pairwise_before {s : Scanner} {ls : List Lexeme} (scans : s.Scans ls) :
    ls.Pairwise fun l m => l.position.Before m.position := by
  induction scans with
  | done => exact .nil
  | read reads scans ih =>
    refine List.pairwise_cons.2 ⟨fun m hm => ?_, ih⟩
    rcases scans.from_start m hm with same | before
    · exact same ▸ reads.before
    · exact reads.before.trans before

end Scanner

theorem pairwise_before_tokens (source : List Char) :
    (tokens source).Pairwise fun l m => l.position.Before m.position :=
  (Scanner.scans_tokens _).pairwise_before

end Dialogue.Script
