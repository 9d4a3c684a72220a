import Dialogue.Proofs.Script.Command
import Dialogue.Proofs.Script.Order
import Dialogue.Proofs.Script.Parser
import Mathlib.Data.List.Forall2

/-! Reading goes on behind every error. Statements can start at certain tokens only, and at each of
these the loop of the parser reads one statement or notes one error, whatever went wrong before. -/
namespace Dialogue.Script

/-- Whether a statement may start at the token: at a closing bracket only if no command is open. -/
def Token.isStart (inside : Bool) : Token → Bool
  | .text _ | .bracketOpen => true
  | .bracketClose => !inside
  | _ => false

/-- The tokens where statements may start, each with the tokens behind it. -/
def starts (inside : Bool) : List Lexeme → List (Lexeme × List Lexeme)
  | [] => []
  | l :: ls =>
    let later := starts (l.token.staysInside inside) ls
    if l.token.isStart inside then (l, ls) :: later else later

/-- What a start gives: a text itself, a stray bracket the error that blames it, and an opening
bracket the command behind it, or one error that blames something else if that is not complete. -/
inductive Gives : Lexeme × List Lexeme → Except ParseError Statement → Prop where
  | text : Gives (⟨.text content, p⟩, ls) (.ok ⟨.text content, p⟩)
  | stray : Gives (⟨.bracketClose, p⟩, ls) (.error ⟨.noStatement .bracketClose, p⟩)
  | command : Completes ls name as →
      Gives (⟨.bracketOpen, p⟩, ls) (.ok ⟨.command name (paramsOf as), p⟩)
  | broken : (∀ name as, ¬ Completes ls name as) → (∀ t, e.cause ≠ .noStatement t) →
      Gives (⟨.bracketOpen, p⟩, ls) (.error e)

/-- Within a command nothing starts before its stop, and behind the stop reading goes on outside. -/
theorem starts_command {body stop : List Lexeme} (inner : ∀ l ∈ body, l.isInner = true)
    (h : Stop stop) (moded : Moded true (body ++ stop)) :
    starts true (body ++ stop) = starts false (afterStop stop) := by
  induction body with
  | nil =>
    cases h with
    | closed | reopened | endOfInput => rfl
  | cons l body ih =>
    obtain ⟨t, p⟩ := l
    have within := inner _ List.mem_cons_self
    have ih := ih fun l hl => inner l (List.mem_cons_of_mem _ hl)
    have allowed := moded.head
    cases t with
    | bracketOpen | bracketClose | text _ => contradiction
    | equal | string _ | ident _ | openString _ | illegal _ => exact ih moded.tail

theorem cause_of_readParams {start : Position} {name : String} {ending : Ending} {seen : Params}
    {ls : List Lexeme} {e : ParseError} (read : (readParams start name ending seen ls).1 = .error e)
    (t : Token) : e.cause ≠ .noStatement t := by
  fun_induction readParams start name ending seen ls with
  | case4 seen key p q value r ls result warnings rest ih =>
    simp only [rest] at ih
    exact ih read
  | case1 => contradiction
  | _ =>
    obtain rfl := Except.error.inj read
    exact ParseError.Cause.noConfusion

theorem cause_of_readCommand {start : Position} {body : List Lexeme} {ending : Ending}
    {e : ParseError} (read : (readCommand start body ending).outcome = .error e) (t : Token) :
    e.cause ≠ .noStatement t := by
  unfold readCommand at read
  split at read
  · next name p ls =>
    cases result : (readParams start name ending .empty ls).1 with
    | error e' =>
      simp only [result, Except.map] at read
      obtain rfl := Except.error.inj read
      exact cause_of_readParams result t
    | ok params => simp [result, Except.map] at read
  · obtain rfl := Except.error.inj read
    exact ParseError.Cause.noConfusion
  · split at read <;>
    · obtain rfl := Except.error.inj read
      exact ParseError.Cause.noConfusion

/-- What completes a command is its inner tokens, and the stop is its closing bracket. -/
theorem completes_append_iff {body stop : List Lexeme} {name : String} {as : List Assignment}
    (inner : ∀ l ∈ body, l.isInner = true) (h : Stop stop) :
    Completes (body ++ stop) name as ↔ ∃ p ls q rest, body = ⟨.ident name, p⟩ :: ls ∧
      stop = ⟨.bracketClose, q⟩ :: rest ∧ Assigns ls as := by
  constructor
  · rintro ⟨p, ls, q, rest, same, assigns⟩
    have inner' : ∀ l ∈ ⟨.ident name, p⟩ :: ls, l.isInner = true :=
      List.forall_mem_cons.2 ⟨rfl, assigns.isInner⟩
    have take := takeWhile_run inner h.stopsAt
    have drop := dropWhile_run inner h.stopsAt
    rw [same] at take drop
    rw [takeWhile_run inner' Stop.closed.stopsAt] at take
    rw [dropWhile_run inner' Stop.closed.stopsAt] at drop
    exact ⟨p, ls, q, rest, take.symm, drop.symm, assigns⟩
  · rintro ⟨p, ls, q, rest, rfl, rfl, assigns⟩
    exact ⟨p, ls, q, rest, rfl, assigns⟩

theorem gives_readCommand (finish p : Position) {body stop : List Lexeme}
    (inner : ∀ l ∈ body, l.isInner = true) (h : Stop stop) :
    Gives (⟨.bracketOpen, p⟩, body ++ stop)
      (readCommand p body (endingOf finish stop)).outcome := by
  by_cases complete : ∃ name as, Completes (body ++ stop) name as
  · obtain ⟨name, as, complete⟩ := complete
    obtain ⟨q, ls, r, rest, rfl, rfl, assigns⟩ := (completes_append_iff inner h).1 complete
    rw [endingOf, readCommand_of_assigns assigns]
    exact .command complete
  · cases read : (readCommand p body (endingOf finish stop)).outcome with
    | error e =>
      exact .broken (fun name as c => complete ⟨name, as, c⟩) (cause_of_readCommand read)
    | ok st =>
      obtain ⟨name, q, ls, r, as, rfl, ending, assigns⟩ := assigns_of_readCommand read
      have closed : ∃ rest, stop = ⟨.bracketClose, r⟩ :: rest := by
        cases h with
        | closed => exact ⟨_, by rw [Ending.closed.inj ending]⟩
        | reopened | endOfInput => contradiction
      obtain ⟨rest, rfl⟩ := closed
      exact absurd ⟨name, as, q, ls, r, rest, rfl, assigns⟩ complete

/-- What holds of a text, of a stray bracket and of every command together with what they give holds
of all starts, one by one. -/
theorem forall₂_starts {R : Lexeme × List Lexeme → Except ParseError Statement → Prop}
    (finish : Position)
    (text : ∀ content p ls, R (⟨.text content, p⟩, ls) (.ok ⟨.text content, p⟩))
    (stray : ∀ p ls, R (⟨.bracketClose, p⟩, ls) (.error ⟨.noStatement .bracketClose, p⟩))
    (command : ∀ p body stop, (∀ l ∈ body, l.isInner = true) → Stop stop →
      R (⟨.bracketOpen, p⟩, body ++ stop) (readCommand p body (endingOf finish stop)).outcome)
    {ls : List Lexeme} (moded : Moded false ls) :
    List.Forall₂ R (starts false ls) ((segments finish ls).map (·.read.outcome)) := by
  refine moded.segmentwise ?_ ?_ ?_ ?_
  · rw [segments]
    exact .nil
  · intro content p ls ih
    rw [segments_text]
    exact .cons (text content p ls) ih
  · intro p ls ih
    rw [segments_close]
    exact .cons (stray p ls) ih
  · intro p body stop inner h moded ih
    rw [segments_open _ _ inner h]
    rw [← starts_command inner h moded] at ih
    exact .cons (command p body stop inner h) ih

theorem forall₂_gives (finish : Position) {ls : List Lexeme} (moded : Moded false ls) :
    List.Forall₂ Gives (starts false ls) ((segments finish ls).map (·.read.outcome)) := by
  refine forall₂_starts finish ?_ ?_ ?_ moded
  · intro content p ls
    exact .text
  · intro p ls
    exact .stray
  · intro p body stop inner h
    exact gives_readCommand finish p inner h

theorem starts_sublist (inside : Bool) (ls : List Lexeme) :
    ((starts inside ls).map Prod.fst).Sublist ls := by
  induction ls generalizing inside with
  | nil => exact .slnil
  | cons l ls ih =>
    rw [starts]
    split
    · exact (ih _).cons_cons l
    · exact (ih _).cons l

theorem length_statements_add_errors (r : Parsed) :
    r.statements.length + r.errors.length = r.items.length := by
  unfold Parsed.statements Parsed.errors
  induction r.items with
  | nil => rfl
  | cons item items ih =>
    cases h : item.outcome <;> simp [h, Except.toOption] at ih ⊢ <;> omega

/-- The parser's loop comes to its end, with one turn for every place where a statement can start.
Each of these places gives one statement or one error, and the statements and the errors are listed in
the order of these places. -/
theorem outcomes_of_starts (source : List Char) :
    ∃ outcomes, List.Forall₂ Gives (starts false (tokens source)) outcomes ∧
      Parsing.Runs (.ofSource source) (starts false (tokens source)).length
        (parseProgram source) ∧
      (parseProgram source).statements = outcomes.filterMap Except.toOption ∧
      (parseProgram source).parser.errors = outcomes.filterMap errorOf? ∧
      (parseProgram source).statements.length + (parseProgram source).parser.errors.length =
        (starts false (tokens source)).length ∧
      (starts false (tokens source)).Pairwise fun s t => s.1.position.Before t.1.position := by
  have moded : Moded false (tokens source) := (Scanner.scans_tokens (.ofSource source)).moded
  have items : (parse source).items.map (·.outcome) =
      (segments (endPosition source) (tokens source)).map (·.read.outcome) := by
    simp [parse]
  have gives := forall₂_gives (endPosition source) moded
  rw [← items] at gives
  have count : (starts false (tokens source)).length = (parse source).items.length := by
    rw [gives.length_eq, List.length_map]
  have sorted := (pairwise_before_tokens source).sublist (starts_sublist false (tokens source))
  rw [List.pairwise_map] at sorted
  obtain ⟨runs, statements, errors, -⟩ := parseProgram_eq_parse source
  rw [count, statements, errors]
  exact ⟨_, gives, runs, statements_eq _, errors_eq _, length_statements_add_errors _, sorted⟩

end Dialogue.Script
