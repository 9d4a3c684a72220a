import Dialogue.Proofs.Script.Grammar

/-! Commands over tokens. A command is complete when its name is followed by parameters, each a
name, an equal sign and a string, up to its closing bracket; exactly then it is read. -/
namespace Dialogue.Script

/-- The tokens write these parameters, one after the other. -/
inductive Assigns : List Lexeme → List Assignment → Prop where
  | nil : Assigns [] []
  | cons : Assigns ls as → Assigns
      (⟨.ident key, p⟩ :: ⟨.equal, q⟩ :: ⟨.string value, r⟩ :: ls) (⟨key, value, r⟩ :: as)

/-- The tokens behind an opening bracket start with the rest of a command. -/
def Completes (ls : List Lexeme) (name : String) (as : List Assignment) : Prop :=
  ∃ p body q rest, ls = ⟨.ident name, p⟩ :: body ++ ⟨.bracketClose, q⟩ :: rest ∧ Assigns body as

/-- The parameters of a command; the value written last for a key counts. -/
def paramsOf (as : List Assignment) : Params := .ofList (as.map fun a => (a.key, a.value))

theorem Assigns.isInner {ls : List Lexeme} {as : List Assignment} (h : Assigns ls as) :
    ∀ l ∈ ls, l.isInner = true := by
  induction h with
  | nil => simp
  | cons _ ih =>
    simp only [List.forall_mem_cons]
    exact ⟨rfl, rfl, rfl, ih⟩

theorem readParams_of_assigns (start q : Position) (name : String) {ls : List Lexeme}
    {as : List Assignment} (h : Assigns ls as) {seen : Params} {keys : List String}
    (known : ∀ key, seen.contains key = true ↔ key ∈ keys) :
    readParams start name (.closed q) seen ls =
      (.ok (as.foldl (fun ps a => ps.insert a.key a.value) seen), repeats name keys as) := by
  induction h generalizing seen keys with
  | nil => rfl
  | @cons _ as key _ _ value r _ ih =>
    have known' : ∀ k, (seen.insert key value).contains k = true ↔ k ∈ key :: keys := by
      intro k
      simp [Params.contains_insert, known]
    simp only [readParams, ih known', List.foldl_cons, repeats]
    by_cases old : key ∈ keys <;> simp [old, known]

theorem assigns_of_readParams {start : Position} {name : String} {ending : Ending} {seen : Params}
    {ls : List Lexeme} {params : Params}
    (read : (readParams start name ending seen ls).1 = .ok params) :
    (∃ q, ending = .closed q) ∧ ∃ as, Assigns ls as := by
  fun_induction readParams start name ending seen ls with
  | case1 _ q closed => exact ⟨⟨q, closed⟩, [], .nil⟩
  | case4 seen key p q value r ls result warnings rest ih =>
    simp only [rest] at ih
    obtain ⟨closed, as, written⟩ := ih read
    exact ⟨closed, _, .cons written⟩
  | _ => contradiction

theorem paramsOf_eq (as : List Assignment) :
    paramsOf as = as.foldl (fun ps a => ps.insert a.key a.value) .empty := by
  simp [paramsOf, Params.ofList, List.foldl_map]

theorem readCommand_of_assigns {start p q : Position} {name : String} {body : List Lexeme}
    {as : List Assignment} (h : Assigns body as) :
    readCommand start (⟨.ident name, p⟩ :: body) (.closed q) =
      ⟨.ok ⟨.command name (paramsOf as), start⟩, repeats name [] as⟩ := by
  have nothing : ∀ key, Params.empty.contains key = true ↔ key ∈ [] := by simp [Params.contains]
  have read := readParams_of_assigns start q name h nothing
  simp [readCommand, read, paramsOf_eq, Except.map]

theorem assigns_of_readCommand {start : Position} {body : List Lexeme} {ending : Ending}
    {s : Statement} (read : (readCommand start body ending).outcome = .ok s) :
    ∃ name p ls q as, body = ⟨.ident name, p⟩ :: ls ∧ ending = .closed q ∧ Assigns ls as := by
  unfold readCommand at read
  split at read
  · next name p ls =>
    cases result : (readParams start name ending .empty ls).1 with
    | error e => simp [result, Except.map] at read
    | ok params =>
      obtain ⟨⟨q, closed⟩, as, written⟩ := assigns_of_readParams result
      exact ⟨name, p, ls, q, as, rfl, closed, written⟩
  · contradiction
  · split at read <;> contradiction

end Dialogue.Script
