/-! Named values of a command, kept in the order of their names. Writing a name a second time
replaces its value. -/
namespace Dialogue.Script

structure Params where
  entries : List (String × String)
  sorted : entries.Pairwise (fun a b => a.1 < b.1)
  deriving DecidableEq

namespace Params

def empty : Params := ⟨[], .nil⟩

instance : Inhabited Params := ⟨empty⟩

def insertEntry (key value : String) : List (String × String) → List (String × String)
  | [] => [(key, value)]
  | (k, v) :: es =>
    if key < k then (key, value) :: (k, v) :: es
    else if key = k then (key, value) :: es
    else (k, v) :: insertEntry key value es

theorem mem_insertEntry {key value : String} {es : List (String × String)} {e : String × String}
    (h : e ∈ insertEntry key value es) : e = (key, value) ∨ e ∈ es := by
  induction es with
  | nil => simpa [insertEntry] using h
  | cons d es ih =>
    obtain ⟨k, v⟩ := d
    unfold insertEntry at h
    split at h
    · simpa using h
    · split at h
      · rcases List.mem_cons.1 h with h | h
        · exact .inl h
        · exact .inr (.tail _ h)
      · rcases List.mem_cons.1 h with h | h
        · exact .inr (h ▸ .head _)
        · exact (ih h).imp id (.tail _)

theorem sorted_insertEntry {key value : String} {es : List (String × String)}
    (h : es.Pairwise (fun a b => a.1 < b.1)) :
    (insertEntry key value es).Pairwise (fun a b => a.1 < b.1) := by
  induction es with
  | nil => simp [insertEntry]
  | cons d es ih =>
    obtain ⟨k, v⟩ := d
    obtain ⟨hd, hes⟩ := List.pairwise_cons.1 h
    unfold insertEntry
    split
    · next hk =>
      refine List.pairwise_cons.2 ⟨fun e he => ?_, h⟩
      rcases List.mem_cons.1 he with rfl | he
      · exact hk
      · exact String.lt_trans hk (hd e he)
    · split
      · next hk => exact List.pairwise_cons.2 ⟨fun e he => hk ▸ hd e he, hes⟩
      · next hlt hne =>
        refine List.pairwise_cons.2 ⟨fun e he => ?_, ih hes⟩
        rcases mem_insertEntry he with rfl | he
        · exact Std.lt_of_le_of_ne (String.not_lt.1 hlt) (Ne.symm hne)
        · exact hd e he

def insert (ps : Params) (key value : String) : Params :=
  ⟨insertEntry key value ps.entries, sorted_insertEntry ps.sorted⟩

/-- Later entries replace earlier ones of the same name. -/
def ofList (es : List (String × String)) : Params :=
  es.foldl (fun ps e => ps.insert e.1 e.2) empty

def get? (ps : Params) (key : String) : Option String :=
  (ps.entries.find? (·.1 = key)).map (·.2)

def contains (ps : Params) (key : String) : Bool := (ps.get? key).isSome

@[simp] theorem get?_empty (key : String) : empty.get? key = none := rfl

theorem get?_insert (ps : Params) (key value name : String) :
    (ps.insert key value).get? name = if name = key then some value else ps.get? name := by
  unfold get? insert
  simp only
  generalize ps.entries = es
  induction es with
  | nil => by_cases h : name = key <;> simp [insertEntry, h, Ne.symm]
  | cons d es ih =>
    obtain ⟨k, v⟩ := d
    unfold insertEntry
    split
    · by_cases h : key = name <;> simp [h, eq_comm]
    · split
      · next h => subst h; by_cases h : key = name <;> simp [h, eq_comm]
      · next hlt hne =>
        by_cases h : k = name
        · subst h; simp [Ne.symm hne]
        · simp [h, ih]

theorem contains_insert (ps : Params) (key value name : String) :
    (ps.insert key value).contains name = (decide (name = key) || ps.contains name) := by
  by_cases h : name = key <;> simp [contains, get?_insert, h]

/-- The value written last for a name counts. -/
theorem get?_ofList (es : List (String × String)) (key : String) :
    (ofList es).get? key = (es.reverse.find? (·.1 = key)).map (·.2) := by
  have general : ∀ ps : Params, (es.foldl (fun ps e => ps.insert e.1 e.2) ps).get? key =
      ((es.reverse.find? (·.1 = key)).map (·.2)).or (ps.get? key) := by
    induction es with
    | nil => simp
    | cons e es ih =>
      intro ps
      rw [List.foldl_cons, ih, get?_insert, List.reverse_cons, List.find?_append]
      by_cases h : e.1 = key
      · cases es.reverse.find? (·.1 = key) <;> simp [h]
      · cases es.reverse.find? (·.1 = key) <;> simp [h, Ne.symm h]
  simpa [ofList] using general empty

theorem mem_entries_ofList {es : List (String × String)} {e : String × String}
    (h : e ∈ (ofList es).entries) : e ∈ es := by
  have general : ∀ ps : Params,
      e ∈ (es.foldl (fun ps e => ps.insert e.1 e.2) ps).entries → e ∈ ps.entries ∨ e ∈ es := by
    clear h
    induction es with
    | nil => exact fun ps h => .inl h
    | cons d es ih =>
      intro ps h
      rcases ih _ h with h | h
      · rcases mem_insertEntry h with rfl | h
        · exact .inr (.head _)
        · exact .inl h
      · exact .inr (.tail _ h)
  exact (general empty h).resolve_left List.not_mem_nil

theorem insertEntry_last {key value : String} {es : List (String × String)}
    (last : ∀ e ∈ es, e.1 < key) : insertEntry key value es = es ++ [(key, value)] := by
  induction es with
  | nil => rfl
  | cons e es ih =>
    have before : e.1 < key := last e (by simp)
    have notBefore : ¬ key < e.1 := String.lt_asymm before
    have different : key ≠ e.1 := fun same => String.lt_irrefl _ (same ▸ before)
    simp [insertEntry, notBefore, different, ih fun e he => last e (by simp [he])]

/-- Writing the entries one after the other gives them back. -/
theorem ofList_entries (ps : Params) : ofList ps.entries = ps := by
  have general : ∀ (es : List (String × String)) (seen : Params),
      (seen.entries ++ es).Pairwise (fun a b => a.1 < b.1) →
      (es.foldl (fun ps e => ps.insert e.1 e.2) seen).entries = seen.entries ++ es := by
    intro es
    induction es with
    | nil => simp
    | cons e es ih =>
      intro seen sorted
      have last : ∀ a ∈ seen.entries, a.1 < e.1 := fun a ha =>
        (List.pairwise_append.1 sorted).2.2 a ha e (by simp)
      have entries : (seen.insert e.1 e.2).entries = seen.entries ++ [e] := insertEntry_last last
      rw [List.foldl_cons, ih _ (by simpa [entries] using sorted), entries]
      simp
  have same := general ps.entries empty (by simpa [empty] using ps.sorted)
  obtain ⟨entries, sorted⟩ := ps
  exact mk.injEq .. ▸ same

end Params
end Dialogue.Script
