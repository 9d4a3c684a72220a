import Dialogue.Json.Standard
import Dialogue.Proofs.Json.Laws

/-! How the members of an object are taken, one by one. A field is met by the only member of its name or
by none; what was met of a field is what sets it in the end, and where every field can be met, all
members can be taken. -/
namespace Dialogue.Json

variable {ρ : Type} {fs : List (Field ρ)} {f : Field ρ} {key : String} {value : Tree}
  {ms : Members} {found found' : Found ρ}

theorem field?_eq_some (distinct : (fs.map (·.name)).Nodup) :
    field? fs key = some f ↔ f ∈ fs ∧ f.name = key := by
  constructor
  · intro first
    exact ⟨List.mem_of_find?_eq_some first, by simpa using List.find?_some first⟩
  · rintro ⟨mem, rfl⟩
    induction fs with
    | nil => contradiction
    | cons g fs ih =>
      obtain ⟨fresh, distinct⟩ := List.nodup_cons.mp distinct
      rcases List.mem_cons.mp mem with rfl | mem
      · simp [field?]
      · have other : g.name ≠ f.name := by
          intro same
          exact fresh (List.mem_map.mpr ⟨f, mem, same.symm⟩)
        rw [← ih distinct mem, field?, List.find?_cons_of_neg (by simpa using other)]
        rfl

theorem field?_eq_none : field? fs key = none ↔ ∀ f ∈ fs, f.name ≠ key := by
  simp [field?]

/-- What was met of a field before, the values given for it from there on, and what was met of it in
the end. -/
inductive Field.Meets (f : Field ρ) : Option (ρ → ρ) → List Tree → Option (ρ → ρ) → Prop
  | nothing : f.Meets met [] met
  | value : f.read t = .ok change → f.Meets none [t] (some change)

theorem Field.meets_some {change : ρ → ρ} {ts : List Tree} {met : Option (ρ → ρ)} :
    f.Meets (some change) ts met ↔ ts = [] ∧ met = some change := by
  constructor
  · rintro ⟨⟩
    exact ⟨rfl, rfl⟩
  · rintro ⟨rfl, rfl⟩
    exact .nothing

theorem Field.meets_cons {t : Tree} {ts : List Tree} {met met' : Option (ρ → ρ)} :
    f.Meets met (t :: ts) met' ↔
      met = none ∧ ∃ change, f.read t = .ok change ∧ f.Meets (some change) ts met' := by
  constructor
  · rintro (_ | read)
    exact ⟨rfl, _, read, .nothing⟩
  · rintro ⟨rfl, change, read, rest⟩
    obtain ⟨rfl, rfl⟩ := Field.meets_some.mp rest
    exact .value read

theorem Found.add_eq_ok : found.add f value = .ok found' ↔ found.lookup f.name = none ∧
    ∃ change, f.read value = .ok change ∧ found' = (f.name, change) :: found := by
  unfold Found.add
  cases met : found.lookup f.name with
  | some change => simp
  | none =>
    simp only [Option.isSome_none, Bool.false_eq_true, if_false, map_eq_ok, true_and]
    simp only [eq_comm]

theorem given_cons_self (name : String) (value : Tree) (ms : Members) :
    given name ((some name, value) :: ms) = value :: given name ms := by
  simp [given]

theorem given_cons_of_ne {name : String} (other : key ≠ name) (value : Tree) (ms : Members) :
    given name ((some key, value) :: ms) = given name ms := by
  simp [given, other]

/-- What a member makes of a field: it meets its own, and leaves all others as they were. -/
theorem Found.assign_eq_ok (distinct : (fs.map (·.name)).Nodup)
    (assigned : Found.assign fs found key value = .ok found') :
    ∀ f ∈ fs, if f.name = key then
      found.lookup f.name = none ∧ ∃ change, f.read value = .ok change ∧
        found'.lookup f.name = some change
      else found'.lookup f.name = found.lookup f.name := by
  intro f mem
  unfold Found.assign at assigned
  split at assigned
  · next g own =>
    obtain ⟨memOwn, rfl⟩ := (field?_eq_some distinct).mp own
    obtain ⟨unmet, change, read, rfl⟩ := Found.add_eq_ok.mp assigned
    split
    · next same =>
      obtain rfl : f = g := by
        have own' := (field?_eq_some distinct).mpr ⟨mem, same⟩
        exact Option.some.inj (own'.symm.trans own)
      exact ⟨unmet, change, read, by simp⟩
    · next other => rw [List.lookup_cons, beq_eq_false_iff_ne.mpr other]
  · next none =>
    obtain ⟨⟨⟩, -, same⟩ := bind_eq_ok.mp assigned
    obtain rfl := Except.ok.inj same
    rw [if_neg (field?_eq_none.mp none f mem)]

theorem meets_of_readMembers (distinct : (fs.map (·.name)).Nodup)
    (read : readMembers (Found.assign fs) found ms = .ok found') :
    ∀ f ∈ fs, f.Meets (found.lookup f.name) (given f.name ms) (found'.lookup f.name) := by
  intro f mem
  induction ms generalizing found with
  | nil =>
    obtain rfl := Except.ok.inj read
    exact .nothing
  | cons m ms ih =>
    obtain ⟨key, value⟩ := m
    cases key with
    | none => contradiction
    | some key =>
      obtain ⟨found₁, assigned, read⟩ := bind_eq_ok.mp read
      have first := Found.assign_eq_ok distinct assigned f mem
      have later := ih read
      split at first
      · next same =>
        subst same
        obtain ⟨unmet, change, readValue, met⟩ := first
        rw [met] at later
        rw [unmet, given_cons_self]
        exact Field.meets_cons.mpr ⟨rfl, change, readValue, later⟩
      · next other =>
        rwa [given_cons_of_ne (Ne.symm other), ← first]

/-- Members can be taken if every field can be met. -/
theorem Found.exists_assign (distinct : (fs.map (·.name)).Nodup) (whole : value.isWhole = true)
    (own : ∀ f ∈ fs, f.name = key →
      found.lookup f.name = none ∧ ∃ change, f.read value = .ok change) :
    ∃ found', Found.assign fs found key value = .ok found' := by
  unfold Found.assign
  split
  · next f named =>
    obtain ⟨mem, rfl⟩ := (field?_eq_some distinct).mp named
    obtain ⟨unmet, change, read⟩ := own f mem rfl
    exact ⟨_, Found.add_eq_ok.mpr ⟨unmet, change, read, rfl⟩⟩
  · rw [Tree.skip_eq_ok.mpr whole]
    exact ⟨found, rfl⟩

theorem exists_readMembers (distinct : (fs.map (·.name)).Nodup) (named : Named ms)
    (whole : Tree.allMembersWhole ms = true)
    (meets : ∀ f ∈ fs, ∃ met, f.Meets (found.lookup f.name) (given f.name ms) met) :
    ∃ found', readMembers (Found.assign fs) found ms = .ok found' := by
  induction ms generalizing found with
  | nil => exact ⟨found, rfl⟩
  | cons m ms ih =>
    obtain ⟨key, value⟩ := m
    obtain ⟨hasName, later⟩ := List.forall_mem_cons.mp named
    obtain ⟨key, rfl⟩ := Option.isSome_iff_exists.mp hasName
    rw [Tree.allMembersWhole, Bool.and_eq_true] at whole
    obtain ⟨found₁, assigned⟩ : ∃ found₁, Found.assign fs found key value = .ok found₁ := by
      refine Found.exists_assign distinct whole.1 fun f mem same => ?_
      obtain ⟨met, meets⟩ := meets f mem
      rw [← same, given_cons_self] at meets
      obtain ⟨unmet, change, read, -⟩ := Field.meets_cons.mp meets
      exact ⟨unmet, change, read⟩
    have rest : ∀ f ∈ fs, ∃ met, f.Meets (found₁.lookup f.name) (given f.name ms) met := by
      intro f mem
      obtain ⟨met, meets⟩ := meets f mem
      have first := Found.assign_eq_ok distinct assigned f mem
      split at first
      · next same =>
        subst same
        obtain ⟨-, change, read, now⟩ := first
        rw [given_cons_self] at meets
        obtain ⟨-, change', read', meets⟩ := Field.meets_cons.mp meets
        obtain rfl := Except.ok.inj (read.symm.trans read')
        exact ⟨met, by rwa [now]⟩
      · next other =>
        rw [given_cons_of_ne (Ne.symm other), ← first] at meets
        exact ⟨met, meets⟩
    obtain ⟨found', read⟩ := ih later whole.2 rest
    exact ⟨found', bind_eq_ok.mpr ⟨found₁, assigned, read⟩⟩

/-- A field that was not met before is set by the values given for it. -/
theorem Field.Meets.settles {ts : List Tree} {met : Option (ρ → ρ)} (meets : f.Meets none ts met) :
    f.Settles ts (met.getD f.absent) := by
  cases meets with
  | nothing => exact .absent
  | value read => exact .found read

theorem Field.Settles.meets {ts : List Tree} {change : ρ → ρ} (settles : f.Settles ts change) :
    ∃ met, f.Meets none ts met := by
  cases settles with
  | absent => exact ⟨none, .nothing⟩
  | found read => exact ⟨_, .value read⟩

theorem fills_complete {r : ρ}
    (meets : ∀ f ∈ fs, f.Meets none (given f.name ms) (found.lookup f.name)) :
    Fills fs ms r (found.complete fs r) := by
  induction fs generalizing r with
  | nil => exact .done
  | cons f fs ih =>
    obtain ⟨first, later⟩ := List.forall_mem_cons.mp meets
    exact .field first.settles (ih later)

theorem Fills.settles {r a : ρ} (fills : Fills fs ms r a) :
    ∀ f ∈ fs, ∃ change, f.Settles (given f.name ms) change := by
  induction fills with
  | done => simp
  | field settles _ ih => exact List.forall_mem_cons.mpr ⟨⟨_, settles⟩, ih⟩

theorem named_of_readMembers {δ : Type} {assign : δ → String → Tree → Except Fault δ} {d d' : δ}
    (read : readMembers assign d ms = .ok d') : Named ms := by
  induction ms generalizing d with
  | nil => exact fun m mem => absurd mem List.not_mem_nil
  | cons m ms ih =>
    obtain ⟨key, value⟩ := m
    cases key with
    | none => contradiction
    | some key =>
      obtain ⟨d₁, -, read⟩ := bind_eq_ok.mp read
      exact List.forall_mem_cons.mpr ⟨rfl, ih read⟩

/-- Taking the members in turn fills the fields, and whatever fills them is what is come to. -/
theorem complete_eq_iff (distinct : (fs.map (·.name)).Nodup)
    (whole : Tree.allMembersWhole ms = true) {r a : ρ} :
    (∃ found, readMembers (Found.assign fs) [] ms = .ok found ∧ found.complete fs r = a) ↔
      Named ms ∧ Fills fs ms r a := by
  constructor
  · rintro ⟨found, read, rfl⟩
    exact ⟨named_of_readMembers read, fills_complete (meets_of_readMembers distinct read)⟩
  · rintro ⟨named, fills⟩
    obtain ⟨found, read⟩ : ∃ found, readMembers (Found.assign fs) [] ms = .ok found := by
      refine exists_readMembers distinct named whole fun f mem => ?_
      obtain ⟨change, settles⟩ := fills.settles f mem
      exact settles.meets
    have filled := fills_complete (r := r) (meets_of_readMembers distinct read)
    exact ⟨found, read, filled.unique fills⟩

theorem Record.read_object {r : Record ρ} {a : ρ} (whole : (Tree.object ms true).isWhole = true) :
    r.read (.object ms true) = .ok a ↔ Named ms ∧ Fills r.fields ms r.base a := by
  rw [Tree.isWhole, Bool.and_true] at whole
  rw [← complete_eq_iff r.distinct whole]
  constructor
  · intro read
    obtain ⟨found, read, complete⟩ := bind_eq_ok.mp read
    rw [readRecord, bind_eq_ok] at read
    obtain ⟨found', read, same⟩ := read
    obtain rfl := Except.ok.inj same
    exact ⟨found', read, Except.ok.inj complete⟩
  · rintro ⟨found, read, rfl⟩
    rw [Record.read, readRecord, read]
    rfl

theorem Tree.keep_eq_ok {t kept : Tree} :
    t.keep = .ok kept ↔ t.isStorable greatestDepth = true ∧ kept = t := by
  unfold Tree.keep
  split
  · next storable => simp [storable, eq_comm]
  · next other => simp [other]

theorem others_cons_own (own : field? fs key = some f) (value : Tree) (ms : Members) :
    others fs ((some key, value) :: ms) = others fs ms := by
  have named : f.name = key := by simpa using List.find?_some own
  refine List.filter_cons_of_neg ?_
  simpa using ⟨f, List.mem_of_find?_eq_some own, named.symm⟩

theorem others_cons_other (other : field? fs key = none) (value : Tree) (ms : Members) :
    others fs ((some key, value) :: ms) = (some key, value) :: others fs ms := by
  refine List.filter_cons_of_pos ?_
  simpa using fun f mem same => field?_eq_none.mp other f mem same.symm

/-- Own fields are met as if all other members were passed over, and these are kept as they stand. -/
theorem gathered_eq_ok {g g' : Gathered ρ} (whole : Tree.allMembersWhole ms = true) :
    readMembers (Gathered.assign fs) g ms = .ok g' ↔
      readMembers (Found.assign fs) g.found ms = .ok g'.found ∧
        (∀ m ∈ others fs ms, m.2.isStorable greatestDepth = true) ∧
        g'.others = g.others ++ others fs ms := by
  induction ms generalizing g with
  | nil =>
    obtain ⟨found, front⟩ := g
    obtain ⟨found', front'⟩ := g'
    rw [readMembers, readMembers, others, List.filter_nil, List.append_nil]
    constructor
    · rintro ⟨⟩
      exact ⟨rfl, by simp, rfl⟩
    · rintro ⟨⟨⟩, -, rfl⟩
      rfl
  | cons m ms ih =>
    obtain ⟨key, value⟩ := m
    rw [Tree.allMembersWhole, Bool.and_eq_true] at whole
    cases key with
    | none => simp [readMembers]
    | some key =>
      cases own : field? fs key with
      | some f =>
        rw [others_cons_own own]
        simp only [readMembers, Gathered.assign, Found.assign, own]
        cases met : g.found.add f value with
        | error fault => simp [bind, Except.bind]
        | ok found => exact ih whole.2
      | none =>
        rw [others_cons_other own, List.forall_mem_cons]
        simp only [readMembers, Gathered.assign, Found.assign, own, Tree.skip_eq_ok.mpr whole.1]
        cases kept : value.keep with
        | error fault =>
          have other : ¬ value.isStorable greatestDepth = true := by
            intro storable
            rw [Tree.keep, if_pos storable] at kept
            contradiction
          simp [bind, Except.bind, other]
        | ok k =>
          obtain ⟨storable, rfl⟩ := Tree.keep_eq_ok.mp kept
          have later := @ih { g with others := g.others ++ [(some key, k)] } whole.2
          simpa [bind, Except.bind, pure, Except.pure, storable] using later

theorem Enclosing.read_eq_ok {σ : Type} {e : Enclosing ρ σ} {t : Tree} {a : ρ}
    (whole : t.isWhole = true) : e.read t = .ok a ↔ ∃ ms outer inner, t = .object ms true ∧ Named ms ∧
      Fills e.own ms e.base outer ∧ (∀ m ∈ others e.own ms, m.2.isStorable greatestDepth = true) ∧
      e.inner.read (.object (others e.own ms) true) = .ok inner ∧ a = e.set inner outer := by
  have distinct : (e.own.map (·.name)).Nodup := (List.nodup_append.mp e.distinct).1
  constructor
  · intro read
    cases t with
    | object ms closed =>
      rw [Tree.isWhole, Bool.and_eq_true] at whole
      obtain ⟨members, rfl⟩ := whole
      obtain ⟨g, gathered, rest⟩ := bind_eq_ok.mp read
      obtain ⟨⟨⟩, -, rest⟩ := bind_eq_ok.mp rest
      obtain ⟨inner, readInner, same⟩ := bind_eq_ok.mp rest
      obtain ⟨found, storable, others_eq⟩ := (gathered_eq_ok members).mp gathered
      obtain ⟨named, fills⟩ := (complete_eq_iff distinct members).mp ⟨_, found, rfl⟩
      rw [others_eq] at readInner
      exact ⟨ms, _, inner, rfl, named, fills, storable, readInner, (Except.ok.inj same).symm⟩
    | _ => simp [Enclosing.read] at read
  · rintro ⟨ms, outer, inner, rfl, named, fills, storable, readInner, rfl⟩
    rw [Tree.isWhole, Bool.and_true] at whole
    obtain ⟨found, met, rfl⟩ := (complete_eq_iff distinct whole).mpr ⟨named, fills⟩
    have gathered : readMembers (Gathered.assign e.own) {} ms = .ok ⟨found, others e.own ms⟩ :=
      (gathered_eq_ok whole).mpr ⟨met, storable, rfl⟩
    simp only [Enclosing.read, gathered]
    simp only [bind, Except.bind, Tree.requireClosed, if_true, readInner]
    rfl

end Dialogue.Json
