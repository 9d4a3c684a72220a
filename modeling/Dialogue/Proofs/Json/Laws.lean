import Dialogue.Proofs.Json.Reading
import Dialogue.Proofs.Json.Spelling
import Mathlib.Data.List.Forall2

/-! What is asked of a codec: it writes and reads standard JSON, a field of a record is what the only
member of its name says, and the fields of an inner record are read from the members that are no own
field of the record around it. Records read back what was written of them, and an inner record is
found by a reader of its own, too. -/
namespace Dialogue.Json

/-- The members of an object, in the order of its text. -/
abbrev Members := List (Option String × Tree)

/-- The values of the members that have the name. -/
def given (name : String) (ms : Members) : List Tree :=
  (ms.filter fun m => m.1 = some name).map (·.2)

/-- Every member has a name. -/
def Named (ms : Members) : Prop := ∀ m ∈ ms, m.1.isSome = true

/-- How a field is set by the values given for it: to its default without a value, and by one. There is
no way for two. -/
inductive Field.Settles (f : Field ρ) : List Tree → (ρ → ρ) → Prop
  | absent : f.Settles [] f.absent
  | found : f.read t = .ok change → f.Settles [t] change

/-- How a field is set by what was written of it. -/
def Field.Restores (f : Field ρ) (r : ρ) (change : ρ → ρ) : Prop :=
  f.read (f.write r).tree = .ok change

/-- Setting each of the fields in turn as the members say makes one record of another. -/
inductive Fills : List (Field ρ) → Members → ρ → ρ → Prop
  | done : Fills [] ms r r
  | field : f.Settles (given f.name ms) change → Fills fs ms (change r) r' → Fills (f :: fs) ms r r'

/-- The members that are none of the fields. -/
def others (fields : List (Field ρ)) (ms : Members) : Members :=
  ms.filter fun m => fields.all fun f => m.1 ≠ some f.name

/-- Values of the form `value` are written so, and nothing else is read. -/
structure Coding.Plain (coding : Coding α) (value : α → Value) : Prop where
  write (a : α) : coding.write a = value a
  read {t : Tree} {a : α} : coding.read t = .ok a ↔ t = (value a).tree

/-- Of a value that was kept the same is read. -/
def Codec.Preserves (c : Codec) (read : Tree → Except Fault α) : Prop :=
  ∀ {t kept : Tree} {a : α}, c.keep t = .ok kept → (read kept = .ok a ↔ read t = .ok a)

/-- A member and the same member with its value kept. -/
def Codec.Keeps (c : Codec) (m kept : Option String × Tree) : Prop :=
  kept.1 = m.1 ∧ c.keep m.2 = .ok kept.2

structure Codec.Lawful (c : Codec) : Prop where
  /-- Values are written as standard JSON. -/
  spells_toText {v : Value} : v.Fits → v.Spells (c.toText v).toList
  /-- Standard JSON is read. -/
  holds_of_spells {v : Value} {text : List Char} : v.Fits → v.Spells text → c.Holds text v.tree
  /-- Only JSON is read. -/
  isWhole_of_holds {text : List Char} {t : Tree} : c.Holds text t → t.isWhole = true
  ofText_eq_ok {α : Type} {read : Tree → Except Fault α} {text : List Char} {a : α} :
    c.ofText read text = .ok a ↔ ∃ t, c.Holds text t ∧ read t = .ok a
  natural : c.natural.Plain .natural
  flag : c.flag.Plain .bool
  string : c.string.Plain .string
  strings : c.strings.Plain fun ss => .array (ss.map .string)
  /-- What is kept is JSON. -/
  isWhole_of_keep {t kept : Tree} : c.keep t = .ok kept → kept.isWhole = true
  /-- Strings can be kept. -/
  keep_string (s : String) : ∃ kept, c.keep (Value.string s).tree = .ok kept
  keep_strings (ss : List String) : ∃ kept, c.keep (Value.array (ss.map .string)).tree = .ok kept
  preserves_string : c.Preserves c.string.read
  preserves_strings : c.Preserves c.strings.read
  /-- A record is written with its fields in order. -/
  record_write {ρ : Type} (r : Record ρ) (a : ρ) :
    (c.record r).write a = .object (r.fields.map fun f => (f.name, f.write a))
  /-- Of an object the fields are read in any order, and all other members are passed over. -/
  record_read {ρ : Type} {r : Record ρ} {ms : Members} {a : ρ} :
    (Tree.object ms true).isWhole = true →
      ((c.record r).read (.object ms true) = .ok a ↔ Named ms ∧ Fills r.fields ms r.base a)
  /-- The fields of an inner record are written in the place of this record. -/
  enclosing_write {ρ σ : Type} (e : Enclosing ρ σ) (a : ρ) :
    (c.enclosing e).write a = .object (e.before.map (fun f => (f.name, f.write a)) ++
      e.inner.fields.map (fun f => (f.name, f.write (e.get a))) ++
      e.after.map fun f => (f.name, f.write a))
  /-- The own fields are read first, and all other members are kept for the inner record. -/
  enclosing_read {ρ σ : Type} {e : Enclosing ρ σ} {t : Tree} {a : ρ} : t.isWhole = true →
    ((c.enclosing e).read t = .ok a ↔ ∃ ms kept outer inner, t = .object ms true ∧ Named ms ∧
      Fills e.own ms e.base outer ∧ List.Forall₂ c.Keeps (others e.own ms) kept ∧
      (c.record e.inner).read (.object kept true) = .ok inner ∧ a = e.set inner outer)

/-- No field of the inner record has the name of an own one. -/
theorem Enclosing.apart (e : Enclosing ρ σ) : ∀ f ∈ e.inner.fields, ∀ g ∈ e.own, g.name ≠ f.name := by
  intro f mem g own
  have apart := (List.nodup_append.mp e.distinct).2.2
  exact apart g.name (List.mem_map_of_mem own) f.name (List.mem_map_of_mem mem)

section Members

variable {ρ σ : Type} {c : Codec} {name : String} {ms kept : Members} {f : Field ρ}
  {fs : List (Field ρ)} {a r : ρ}

theorem Named.append {ms ms' : Members} (first : Named ms) (second : Named ms') :
    Named (ms ++ ms') := by
  intro m mem
  exact (List.mem_append.mp mem).elim (first m) (second m)

theorem Named.keeps (named : Named ms) (keeps : List.Forall₂ c.Keeps ms kept) : Named kept := by
  induction keeps with
  | nil => exact named
  | cons keeps _ ih =>
    obtain ⟨first, later⟩ := List.forall_mem_cons.mp named
    exact List.forall_mem_cons.mpr ⟨by rwa [keeps.1], ih later⟩

theorem given_others (other : ∀ f ∈ fs, f.name ≠ name) :
    given name (others fs ms) = given name ms := by
  rw [given, given, others, List.filter_filter]
  congr 2
  funext m
  by_cases named : m.1 = some name
  · simpa [named] using fun f mem same => other f mem same.symm
  · simp [named]

/-- Where no two members have the same name, one that has the name has the value given for it. -/
theorem given_of_mem {t : Tree} (distinct : (ms.map (·.1)).Nodup) (mem : (some name, t) ∈ ms) :
    given name ms = [t] := by
  induction ms with
  | nil => contradiction
  | cons m ms ih =>
    obtain ⟨fresh, distinct⟩ := List.nodup_cons.mp distinct
    rcases List.mem_cons.mp mem with rfl | mem
    · have none : ms.filter (fun m => m.1 = some name) = [] := by
        rw [List.filter_eq_nil_iff]
        intro m mem same
        exact fresh (List.mem_map.mpr ⟨m, mem, by simpa using same⟩)
      simp [given, none]
    · have other : m.1 ≠ some name := by
        rintro same
        exact fresh (List.mem_map.mpr ⟨_, mem, same.symm⟩)
      rw [← ih distinct mem, given, List.filter_cons_of_neg (by simpa using other)]
      rfl

/-- The values given for a name are kept one by one. -/
theorem given_keeps (keeps : List.Forall₂ c.Keeps ms kept) (name : String) :
    List.Forall₂ (fun t k => c.keep t = .ok k) (given name ms) (given name kept) := by
  induction keeps with
  | nil => exact .nil
  | cons keeps _ ih =>
    obtain ⟨same, value⟩ := keeps
    unfold given at ih ⊢
    rw [List.filter_cons, List.filter_cons, same]
    split
    · exact .cons value ih
    · exact ih

theorem Field.Settles.unique {ts : List Tree} {change change' : ρ → ρ}
    (first : f.Settles ts change) (second : f.Settles ts change') : change = change' := by
  cases first with
  | absent => cases second; rfl
  | found read =>
    cases second with
    | found read' => exact Except.ok.inj (read.symm.trans read')

theorem fills_nil : Fills [] ms r a ↔ a = r := by
  constructor
  · rintro ⟨⟩
    rfl
  · rintro rfl
    exact .done

theorem fills_cons : Fills (f :: fs) ms r a ↔
    ∃ change, f.Settles (given f.name ms) change ∧ Fills fs ms (change r) a := by
  constructor
  · rintro (_ | ⟨settles, fills⟩)
    exact ⟨_, settles, fills⟩
  · rintro ⟨change, settles, fills⟩
    exact .field settles fills

theorem Fills.unique {a' : ρ} (first : Fills fs ms r a) (second : Fills fs ms r a') : a = a' := by
  induction first with
  | done => exact (fills_nil.mp second).symm
  | field settles _ ih =>
    obtain ⟨change, settles', fills'⟩ := fills_cons.mp second
    obtain rfl := settles.unique settles'
    exact ih fills'

/-- Fields are set by kept values as by the values themselves. -/
theorem Field.settles_keeps {ts kepts : List Tree} {change : ρ → ρ} (preserved : c.Preserves f.read)
    (keeps : List.Forall₂ (fun t k => c.keep t = .ok k) ts kepts) :
    f.Settles kepts change ↔ f.Settles ts change := by
  constructor
  · rintro (_ | read)
    · cases keeps
      exact .absent
    · rcases keeps with _ | ⟨kept, _ | _⟩
      exact .found ((preserved kept).mp read)
  · rintro (_ | read)
    · cases keeps
      exact .absent
    · rcases keeps with _ | ⟨kept, _ | _⟩
      exact .found ((preserved kept).mpr read)

theorem fills_keeps (preserved : ∀ f ∈ fs, c.Preserves f.read)
    (keeps : ∀ f ∈ fs, List.Forall₂ (fun t k => c.keep t = .ok k) (given f.name ms)
      (given f.name kept)) : Fills fs kept r a ↔ Fills fs ms r a := by
  induction fs generalizing r with
  | nil => rw [fills_nil, fills_nil]
  | cons f fs ih =>
    obtain ⟨preserved, laterPreserved⟩ := List.forall_mem_cons.mp preserved
    obtain ⟨keeps, laterKeeps⟩ := List.forall_mem_cons.mp keeps
    simp only [fills_cons, Field.settles_keeps preserved keeps, ih laterPreserved laterKeeps]

/-- Fields whose written values are given are set to what is read from these. -/
theorem Fills.of_written {changes : List (ρ → ρ)} {value : ρ}
    (restores : List.Forall₂ (fun f change => f.Restores value change) fs changes)
    (written : ∀ f ∈ fs, given f.name ms = [(f.write value).tree]) :
    Fills fs ms r (changes.foldl (fun r change => change r) r) := by
  induction restores generalizing r with
  | nil => exact .done
  | cons restores _ ih =>
    obtain ⟨first, later⟩ := List.forall_mem_cons.mp written
    refine .field ?_ (ih later)
    rw [first]
    exact .found restores

/-- The members that fields are written as. -/
def written (fs : List (Field ρ)) (a : ρ) : Members := fs.map fun f => (some f.name, (f.write a).tree)

theorem memberTrees_fields (fs : List (Field ρ)) (a : ρ) :
    Value.memberTrees (fs.map fun f => (f.name, f.write a)) = written fs a := by
  rw [Value.memberTrees_eq_map, List.map_map]
  rfl

theorem nodup_some {names : List String} (distinct : names.Nodup) :
    (names.map some).Nodup :=
  List.Pairwise.map some (fun _ _ other same => other (Option.some.inj same)) distinct

theorem names_written (fs : List (Field ρ)) (a : ρ) :
    (written fs a).map (·.1) = (fs.map (·.name)).map some := by
  simp [written]

theorem named_written (fs : List (Field ρ)) (a : ρ) : Named (written fs a) := by
  simp [Named, written]

theorem others_append (fs : List (Field ρ)) (ms ms' : Members) :
    others fs (ms ++ ms') = others fs ms ++ others fs ms' :=
  List.filter_append ms ms'

/-- Members of the fields themselves are no others. -/
theorem others_own {gs : List (Field ρ)} (own : fs ⊆ gs) (a : ρ) : others gs (written fs a) = [] := by
  refine List.filter_eq_nil_iff.mpr fun m written => ?_
  obtain ⟨f, mem, rfl⟩ := List.mem_map.mp written
  simpa using ⟨f, own mem, rfl⟩

theorem others_apart {gs : List (Field σ)} (apart : ∀ f ∈ fs, ∀ g ∈ gs, g.name ≠ f.name) (a : ρ) :
    others gs (written fs a) = written fs a := by
  refine List.filter_eq_self.mpr fun m written => ?_
  obtain ⟨f, mem, rfl⟩ := List.mem_map.mp written
  simpa using fun g own same => apart f mem g own same.symm

theorem exists_keeps {fs : List (Field ρ)} {a : ρ}
    (keeps : ∀ f ∈ fs, ∃ kept, c.keep (f.write a).tree = .ok kept) :
    ∃ kept, List.Forall₂ c.Keeps (written fs a) kept := by
  induction fs with
  | nil => exact ⟨[], .nil⟩
  | cons f fs ih =>
    obtain ⟨⟨kept, first⟩, later⟩ := List.forall_mem_cons.mp keeps
    obtain ⟨kepts, later⟩ := ih later
    exact ⟨(some f.name, kept) :: kepts, .cons ⟨rfl, first⟩ later⟩

theorem mem_written (mem : f ∈ fs) : (some f.name, (f.write a).tree) ∈ written fs a :=
  List.mem_map.mpr ⟨f, mem, rfl⟩

end Members

section Enclosing

variable {ρ σ : Type}

/-- The members that a record around another one is written as. -/
def Enclosing.written (e : Enclosing ρ σ) (a : ρ) : Members :=
  Json.written e.before a ++ Json.written e.inner.fields (e.get a) ++ Json.written e.after a

theorem Enclosing.memberTrees_fields (e : Enclosing ρ σ) (a : ρ) :
    Value.memberTrees (e.before.map (fun f => (f.name, f.write a)) ++
      e.inner.fields.map (fun f => (f.name, f.write (e.get a))) ++
      e.after.map fun f => (f.name, f.write a)) = e.written a := by
  rw [Value.memberTrees_append, Value.memberTrees_append, Json.memberTrees_fields,
    Json.memberTrees_fields, Json.memberTrees_fields]
  rfl

theorem Enclosing.named_written (e : Enclosing ρ σ) (a : ρ) : Named (e.written a) :=
  ((Json.named_written _ _).append (Json.named_written _ _)).append (Json.named_written _ _)

theorem Enclosing.nodup_written (e : Enclosing ρ σ) (a : ρ) : ((e.written a).map (·.1)).Nodup := by
  rw [written, List.map_append, List.map_append, names_written, names_written, names_written,
    ← List.map_append, ← List.map_append]
  refine nodup_some ((List.Perm.nodup_iff ?_).mp e.distinct)
  rw [List.map_append, List.append_assoc, List.append_assoc]
  exact List.perm_append_comm.append_left _

/-- Apart from the own fields the fields of the inner record are left. -/
theorem Enclosing.others_written (e : Enclosing ρ σ) (a : ρ) :
    others e.own (e.written a) = Json.written e.inner.fields (e.get a) := by
  have before : others e.own (Json.written e.before a) = [] :=
    others_own (List.subset_append_left e.before e.after) a
  have after : others e.own (Json.written e.after a) = [] :=
    others_own (List.subset_append_right e.before e.after) a
  rw [written, others_append, others_append, before, after, others_apart e.apart, List.nil_append,
    List.append_nil]

theorem Enclosing.given_own {e : Enclosing ρ σ} {a : ρ} {f : Field ρ} (mem : f ∈ e.own) :
    given f.name (e.written a) = [(f.write a).tree] := by
  apply given_of_mem (e.nodup_written a)
  rcases List.mem_append.mp mem with mem | mem
  · simp [written, mem_written mem]
  · simp [written, mem_written mem]

theorem Enclosing.given_inner {e : Enclosing ρ σ} {a : ρ} {f : Field σ} (mem : f ∈ e.inner.fields) :
    given f.name (e.written a) = [(f.write (e.get a)).tree] := by
  apply given_of_mem (e.nodup_written a)
  simp [written, mem_written mem]

end Enclosing

namespace Codec.Lawful

variable {ρ σ : Type} {c : Codec} {changes : List (ρ → ρ)}

theorem isWhole_of_keeps (lawful : c.Lawful) {ms kept : Members}
    (keeps : List.Forall₂ c.Keeps ms kept) : (Tree.object kept true).isWhole = true := by
  rw [Tree.isWhole, Bool.and_true]
  induction keeps with
  | nil => rfl
  | cons keeps _ ih => rw [Tree.allMembersWhole, lawful.isWhole_of_keep keeps.2, ih, Bool.and_true]

/-- A record reads back from what was written of it. -/
theorem record_read_write (lawful : c.Lawful) {r : Record ρ} {a : ρ}
    (restores : List.Forall₂ (fun f change => f.Restores a change) r.fields changes) :
    (c.record r).read ((c.record r).write a).tree =
      .ok (changes.foldl (fun r change => change r) r.base) := by
  have whole := ((c.record r).write a).isWhole_tree
  rw [lawful.record_write, Value.tree, memberTrees_fields] at whole ⊢
  refine (lawful.record_read whole).mpr ⟨named_written _ _, .of_written restores ?_⟩
  intro f mem
  refine given_of_mem ?_ (mem_written mem)
  rw [names_written]
  exact nodup_some r.distinct

section Enclosing

variable {e : Enclosing ρ σ} {innerChanges : List (σ → σ)} {a : ρ} {t : Tree}

/-- A record around another one reads back from what was written of it, if the values of the inner
fields can be kept. -/
theorem enclosing_read_write (lawful : c.Lawful)
    (restores : List.Forall₂ (fun f change => f.Restores a change) e.own changes)
    (innerRestores : List.Forall₂ (fun f change => f.Restores (e.get a) change) e.inner.fields
      innerChanges)
    (preserved : ∀ f ∈ e.inner.fields, c.Preserves f.read)
    (keeps : ∀ f ∈ e.inner.fields, ∃ kept, c.keep (f.write (e.get a)).tree = .ok kept) :
    (c.enclosing e).read ((c.enclosing e).write a).tree =
      .ok (e.set (innerChanges.foldl (fun r change => change r) e.inner.base)
        (changes.foldl (fun r change => change r) e.base)) := by
  have whole := ((c.enclosing e).write a).isWhole_tree
  rw [lawful.enclosing_write, Value.tree, e.memberTrees_fields] at whole ⊢
  obtain ⟨kept, kepts⟩ : ∃ kept, List.Forall₂ c.Keeps (written e.inner.fields (e.get a)) kept :=
    exists_keeps keeps
  refine (lawful.enclosing_read whole).mpr ⟨e.written a, kept, _, _, rfl, e.named_written a,
    .of_written restores fun f mem => e.given_own mem, ?_, ?_, rfl⟩
  · rwa [e.others_written]
  · refine (lawful.record_read (lawful.isWhole_of_keeps kepts)).mpr
      ⟨(named_written _ _).keeps kepts, ?_⟩
    refine (fills_keeps preserved fun f _ => given_keeps kepts f.name).mpr ?_
    refine .of_written innerRestores fun f mem => ?_
    rw [← e.others_written, given_others (e.apart f mem), e.given_inner mem]

/-- The inner record of an object is read from it alone, with all members of the object in place: own
fields are passed over as any others. -/
theorem inner_of_enclosing (lawful : c.Lawful)
    (preserved : ∀ f ∈ e.inner.fields, c.Preserves f.read) (whole : t.isWhole = true)
    (read : (c.enclosing e).read t = .ok a) :
    ∃ ms outer inner, t = .object ms true ∧ (c.record e.inner).read t = .ok inner ∧
      Fills e.inner.fields ms e.inner.base inner ∧ a = e.set inner outer := by
  obtain ⟨ms, kept, outer, inner, rfl, named, -, keeps, fromKept, same⟩ :=
    (lawful.enclosing_read whole).mp read
  have wholeKept := lawful.isWhole_of_keeps keeps
  have fills : Fills e.inner.fields ms e.inner.base inner := by
    refine (fills_keeps preserved ?_).mp ((lawful.record_read wholeKept).mp fromKept).2
    intro f mem
    have values := given_keeps keeps f.name
    rwa [given_others (e.apart f mem)] at values
  exact ⟨ms, outer, inner, rfl, (lawful.record_read whole).mpr ⟨named, fills⟩, fills, same⟩

end Enclosing

end Codec.Lawful

section FieldOf

variable {α ρ : Type} {c : Codec} {coding : Coding α} {name : String} {get : ρ → α}
  {set : α → ρ → ρ} {default : α}

/-- What is said of a field by the values given for it: its default if there is none, or the only
one. -/
inductive Tells (read : Tree → Except Fault α) (default : α) : List Tree → α → Prop
  | absent : Tells read default [] default
  | found : read t = .ok a → Tells read default [t] a

theorem Field.settles_of {ts : List Tree} {change : ρ → ρ}
    (settles : (Field.of name coding get set default).Settles ts change) :
    ∃ a, Tells coding.read default ts a ∧ change = set a := by
  cases settles with
  | absent => exact ⟨default, .absent, rfl⟩
  | found read =>
    obtain ⟨a, made, rfl⟩ := map_eq_ok.mp read
    exact ⟨a, .found made, rfl⟩

theorem Field.of_restores {r : ρ} (survives : coding.read (coding.write (get r)).tree = .ok (get r)) :
    (Field.of name coding get set default).Restores r (set (get r)) :=
  map_eq_ok.mpr ⟨get r, survives, rfl⟩

theorem Field.of_preserves (preserved : c.Preserves coding.read) :
    c.Preserves (Field.of name coding get set default).read := by
  intro t kept change keeps
  have values : (∃ a, coding.read kept = .ok a ∧ set a = change) ↔
      ∃ a, coding.read t = .ok a ∧ set a = change :=
    exists_congr fun a => and_congr_left' (preserved keeps)
  exact map_eq_ok.trans (values.trans map_eq_ok.symm)

theorem Coding.Plain.read_write {value : α → Value} (plain : coding.Plain value) (a : α) :
    coding.read (coding.write a).tree = .ok a :=
  plain.read.mpr (by rw [plain.write])

end FieldOf

end Dialogue.Json
