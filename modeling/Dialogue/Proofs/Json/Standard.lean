import Dialogue.Proofs.Json.Records
import Dialogue.Proofs.Json.Rendering

/-! The codec of the tools does what is asked of a codec. -/
namespace Dialogue.Json
namespace Codec

theorem holds_standard {text : List Char} {t : Tree} :
    standard.Holds text t ↔ (Document.ofText text).ended = true ∧ (Document.ofText text).tree = t := by
  rw [Holds, standard, readText_eq_ok]
  simp

theorem allStorable_strings (depth : Nat) (ss : List String) :
    Tree.allStorable depth (ss.map fun s => .string (some s)) = true := by
  induction ss with
  | nil => rfl
  | cons s ss ih => simpa [Tree.allStorable, Tree.isStorable] using ih

theorem preserves_standard {α : Type} (read : Tree → Except Fault α) : standard.Preserves read := by
  intro t kept a keeps
  obtain ⟨-, rfl⟩ := Tree.keep_eq_ok.mp keeps
  exact Iff.rfl

theorem keeps_standard {ms kept : Members} : List.Forall₂ standard.Keeps ms kept ↔
    (∀ m ∈ ms, m.2.isStorable greatestDepth = true) ∧ kept = ms := by
  constructor
  · intro keeps
    induction keeps with
    | nil => exact ⟨by simp, rfl⟩
    | @cons m kept _ _ keeps _ ih =>
      obtain ⟨storable, value⟩ := Tree.keep_eq_ok.mp keeps.2
      obtain ⟨later, rfl⟩ := ih
      exact ⟨List.forall_mem_cons.mpr ⟨storable, later⟩, by rw [Prod.ext keeps.1 value]⟩
  · rintro ⟨storable, rfl⟩
    exact List.forall₂_same.mpr fun m mem => ⟨rfl, Tree.keep_eq_ok.mpr ⟨storable m mem, rfl⟩⟩

theorem standard_lawful : standard.Lawful where
  spells_toText _ := Value.spells_render _
  holds_of_spells fits spelled := by
    rw [holds_standard, Value.ofText_of_spells fits spelled]
    exact ⟨rfl, rfl⟩
  isWhole_of_holds holds := by
    obtain ⟨ended, rfl⟩ := holds_standard.mp holds
    exact Document.isWhole_of_ended ended
  ofText_eq_ok := by
    intro α read text a
    simp only [holds_standard]
    refine readText_eq_ok.trans ?_
    constructor
    · rintro ⟨ended, made⟩
      exact ⟨_, ⟨ended, rfl⟩, made⟩
    · rintro ⟨t, ⟨ended, rfl⟩, made⟩
      exact ⟨ended, made⟩
  natural := ⟨fun _ => rfl, Tree.asNatural_eq_ok⟩
  flag := ⟨fun _ => rfl, Tree.asBool_eq_ok⟩
  string := ⟨fun _ => rfl, Tree.asString_eq_ok⟩
  strings := by
    refine ⟨fun _ => rfl, ?_⟩
    intro t ss
    rw [Value.tree, Value.itemTrees_map]
    exact Tree.asStrings_eq_ok
  isWhole_of_keep keeps := by
    obtain ⟨storable, rfl⟩ := Tree.keep_eq_ok.mp keeps
    exact Tree.isWhole_of_isStorable _ storable
  keep_string s := ⟨.string (some s), rfl⟩
  keep_strings ss := by
    refine ⟨_, Tree.keep_eq_ok.mpr ⟨?_, rfl⟩⟩
    rw [Value.tree, Value.itemTrees_map]
    simpa [Tree.isStorable, Value.tree, greatestDepth] using allStorable_strings _ ss
  preserves_string := preserves_standard _
  preserves_strings := preserves_standard _
  record_write _ _ := rfl
  record_read whole := Record.read_object whole
  enclosing_write _ _ := rfl
  enclosing_read := by
    intro ρ σ e t a whole
    refine (Enclosing.read_eq_ok whole).trans ?_
    constructor
    · rintro ⟨ms, outer, inner, same, named, fills, storable, read, made⟩
      exact ⟨ms, _, outer, inner, same, named, fills, keeps_standard.mpr ⟨storable, rfl⟩, read, made⟩
    · rintro ⟨ms, kept, outer, inner, same, named, fills, keeps, read, made⟩
      obtain ⟨storable, rfl⟩ := keeps_standard.mp keeps
      exact ⟨ms, outer, inner, same, named, fills, storable, read, made⟩

end Codec
end Dialogue.Json
