import Dialogue.Proofs.Script.Recovery
import Dialogue.Proofs.Script.Tiling

/-! The error of a broken command. What a command may go on with depends on what has been read of it;
the first token that it may not go on with, or the end of the script, is blamed, and the error says
what was missing there. -/
namespace Dialogue.Script

/-- These tokens stand behind the opening bracket of a command and go up to the closing one. -/
def IsCommand (ls : List Lexeme) : Prop :=
  ∃ name p body q as, ls = ⟨.ident name, p⟩ :: body ++ [⟨.bracketClose, q⟩] ∧ Assigns body as

/-- A command can begin with these tokens. -/
def Begins (read : List Lexeme) : Prop := ∃ more, IsCommand (read ++ more)

/-- Of the tokens `ls` behind an opening bracket, `read` is all that a command can begin with: it goes
on with none that begins with the first token of `rest`, and it is not complete. -/
structure BreaksOff (ls read rest : List Lexeme) : Prop where
  split : ls = read ++ rest
  begins : Begins read
  incomplete : ¬ IsCommand read
  stops : ∀ l ∈ rest.head?, ¬ Begins (read ++ [l])

/-- What has to come next in a command. -/
inductive Slot
  | name
  /-- The key of a parameter, or the closing bracket. -/
  | keyOrClose (command : String)
  | equal (command key : String)
  | value (command key : String)
  deriving DecidableEq, Repr

theorem Assigns.starts_eq {body : List Lexeme} {as : List Assignment} (assigns : Assigns body as)
    (rest : List Lexeme) : starts true (body ++ rest) = starts true rest := by
  induction assigns with
  | nil => rfl
  | cons _ ih => exact ih

namespace Slot

/-- The slot behind the tokens that have been read of a command. -/
inductive Behind : List Lexeme → Slot → Prop where
  | name : Behind [] .name
  | keyOrClose : Assigns body as → Behind (⟨.ident command, p⟩ :: body) (.keyOrClose command)
  | equal : Assigns body as →
      Behind (⟨.ident command, p⟩ :: (body ++ [⟨.ident key, q⟩])) (.equal command key)
  | value : Assigns body as →
      Behind (⟨.ident command, p⟩ :: (body ++ [⟨.ident key, q⟩, ⟨.equal, r⟩])) (.value command key)

/-- The tokens that fit into a slot. -/
def Takes : Slot → Token → Prop
  | .name, .ident _ => True
  | .keyOrClose _, .ident _ | .keyOrClose _, .bracketClose => True
  | .equal _ _, .equal => True
  | .value _ _, .string _ => True
  | _, _ => False

/-- The place of a token, or of the end of the script. -/
def place (finish : Position) (l : Option Lexeme) : Position := (l.map Lexeme.position).getD finish

/-- The error of a command that was opened at `start`, in a script that ends at `finish`, if
`offender` stands in the slot; without one the script ends there. -/
def blame (start finish : Position) : Slot → Option Lexeme → ParseError
  | .name, none => ⟨.missingCommandName, start⟩
  | .name, some l => ⟨.missingCommandName, l.position⟩
  | .keyOrClose command, none => ⟨.unterminatedCommand command, start⟩
  | .keyOrClose _, some ⟨.openString _, p⟩ => ⟨.unterminatedString, p⟩
  | .keyOrClose _, some ⟨.illegal c, p⟩ => ⟨.illegalCharacter c, p⟩
  | .keyOrClose _, some ⟨t, p⟩ => ⟨.unexpectedToken t.kind, p⟩
  | .equal command key, offender => ⟨.missingEquals command key, place finish offender⟩
  | .value _ _, some ⟨.openString _, p⟩ => ⟨.unterminatedString, p⟩
  | .value command key, offender => ⟨.missingValue command key, place finish offender⟩

theorem blame_value (start finish : Position) (command key : String) {offender : Option Lexeme}
    (closed : ∀ l ∈ offender, ∀ c, l.token ≠ .openString c) :
    (Slot.value command key).blame start finish offender =
      ⟨.missingValue command key, place finish offender⟩ := by
  cases offender with
  | none => rfl
  | some l =>
    obtain ⟨t, p⟩ := l
    cases t with
    | openString c => exact absurd rfl (closed _ rfl c)
    | _ => rfl

theorem position_blame_some (start finish : Position) (slot : Slot) (l : Lexeme) :
    (slot.blame start finish (some l)).position = l.position := by
  obtain ⟨t, p⟩ := l
  cases slot <;> cases t <;> rfl

theorem position_blame_none (start finish : Position) (slot : Slot) :
    (slot.blame start finish none).position = start ∨
      (slot.blame start finish none).position = finish := by
  cases slot
  · exact .inl rfl
  · exact .inl rfl
  · exact .inr rfl
  · exact .inr rfl

/-- A parameter more in front leaves the slot as it is. -/
theorem Behind.cons {command key content : String} {p q r s : Position} {body : List Lexeme}
    {slot : Slot} (behind : Behind (⟨.ident command, p⟩ :: body) slot) :
    Behind (⟨.ident command, p⟩ :: ⟨.ident key, q⟩ :: ⟨.equal, r⟩ :: ⟨.string content, s⟩ :: body)
      slot := by
  cases behind with
  | keyOrClose assigns => exact .keyOrClose (.cons assigns)
  | equal assigns => exact .equal (.cons assigns)
  | value assigns => exact .value (.cons assigns)

/-- Nothing starts within what has been read. -/
theorem Behind.starts_eq {read : List Lexeme} {slot : Slot} (behind : Behind read slot)
    (rest : List Lexeme) : starts true (read ++ rest) = starts true rest := by
  cases behind with
  | name => rfl
  | keyOrClose assigns => exact assigns.starts_eq rest
  | equal assigns | value assigns =>
    rw [List.cons_append, List.append_assoc]
    exact assigns.starts_eq _

end Slot

/-- Parameters that a command begins with are parameters of it, and its others stand behind them. -/
theorem Assigns.rest {body body' tail : List Lexeme} {as bs : List Assignment} {q : Position}
    (first : Assigns body as) (whole : Assigns body' bs)
    (same : body ++ tail = body' ++ [⟨.bracketClose, q⟩]) :
    ∃ rest cs, Assigns rest cs ∧ tail = rest ++ [⟨.bracketClose, q⟩] := by
  induction first generalizing body' bs with
  | nil => exact ⟨body', bs, whole, same⟩
  | cons _ ih =>
    cases whole with
    | nil => simp at same
    | cons whole =>
      simp only [List.cons_append, List.cons.injEq] at same
      exact ih whole same.2.2.2

/-- One parameter more at the end. -/
theorem Assigns.concat {body : List Lexeme} {as : List Assignment} (assigns : Assigns body as)
    (key content : String) (p q r : Position) :
    Assigns (body ++ [⟨.ident key, p⟩, ⟨.equal, q⟩, ⟨.string content, r⟩])
      (as ++ [⟨key, content, r⟩]) := by
  induction assigns with
  | nil => exact .cons .nil
  | cons _ ih => exact .cons ih

namespace Slot

variable {read : List Lexeme} {slot : Slot} {l : Lexeme}

theorem Behind.incomplete (behind : Behind read slot) : ¬ IsCommand read := by
  rintro ⟨command, p, body, q, as, same, whole⟩
  cases behind with
  | name => simp at same
  | @keyOrClose body' _ _ _ assigns =>
    obtain ⟨-, same⟩ := List.cons.inj same
    rw [← List.append_nil body'] at same
    obtain ⟨rest, cs, -, nothing⟩ := assigns.rest whole same
    simp at nothing
  | equal assigns =>
    obtain ⟨-, same⟩ := List.cons.inj same
    obtain ⟨rest, cs, written, tail⟩ := assigns.rest whole same
    cases written <;> simp at tail
  | value assigns =>
    obtain ⟨-, same⟩ := List.cons.inj same
    obtain ⟨rest, cs, written, tail⟩ := assigns.rest whole same
    cases written <;> simp at tail

theorem Behind.begins (behind : Behind read slot) : Begins read := by
  cases behind with
  | name => exact ⟨_, "", default, [], default, [], rfl, .nil⟩
  | @keyOrClose body as command p assigns =>
    exact ⟨[⟨.bracketClose, p⟩], command, p, body, p, as, rfl, assigns⟩
  | @equal body as command p key q assigns =>
    refine ⟨[⟨.equal, q⟩, ⟨.string "", q⟩, ⟨.bracketClose, q⟩], command, p, _, q, _, ?_,
      assigns.concat key "" q q q⟩
    simp
  | @value body as command p key q r assigns =>
    refine ⟨[⟨.string "", r⟩, ⟨.bracketClose, r⟩], command, p, _, r, _, ?_,
      assigns.concat key "" q r r⟩
    simp

/-- With a token that fits, the command is complete or comes to its next slot. -/
theorem Behind.next (behind : Behind read slot) (takes : slot.Takes l.token) :
    IsCommand (read ++ [l]) ∨ ∃ slot', Behind (read ++ [l]) slot' := by
  obtain ⟨t, s⟩ := l
  cases behind with
  | name =>
    cases t with
    | ident command => exact .inr ⟨.keyOrClose command, .keyOrClose .nil⟩
    | _ => contradiction
  | @keyOrClose body as command p assigns =>
    cases t with
    | bracketClose => exact .inl ⟨command, p, body, s, as, rfl, assigns⟩
    | ident key => exact .inr ⟨.equal command key, .equal assigns⟩
    | _ => contradiction
  | @equal body as command p key q assigns =>
    cases t with
    | equal =>
      refine .inr ⟨.value command key, ?_⟩
      rw [List.cons_append, List.append_assoc]
      exact .value assigns
    | _ => contradiction
  | @value body as command p key q r assigns =>
    cases t with
    | string content =>
      refine .inr ⟨.keyOrClose command, ?_⟩
      rw [List.cons_append, List.append_assoc]
      exact .keyOrClose (assigns.concat key content q r s)
    | _ => contradiction

/-- A command can go on exactly with the tokens that fit into its slot. -/
theorem Behind.begins_concat (behind : Behind read slot) :
    Begins (read ++ [l]) ↔ slot.Takes l.token := by
  constructor
  · rintro ⟨more, command, p, body, q, as, same, whole⟩
    cases behind with
    | name =>
      obtain ⟨rfl, -⟩ := List.cons.inj same
      trivial
    | keyOrClose assigns =>
      simp only [List.cons_append, List.append_assoc, List.cons.injEq] at same
      obtain ⟨rest, cs, written, tail⟩ := assigns.rest whole same.2
      cases written <;>
      · obtain ⟨rfl, -⟩ := List.cons.inj tail
        trivial
    | equal assigns =>
      simp only [List.cons_append, List.append_assoc, List.cons.injEq] at same
      obtain ⟨rest, cs, written, tail⟩ := assigns.rest whole same.2
      cases written with
      | nil => simp at tail
      | cons =>
        simp only [List.nil_append, List.cons_append, List.cons.injEq] at tail
        obtain ⟨-, rfl, -⟩ := tail
        trivial
    | value assigns =>
      simp only [List.cons_append, List.append_assoc, List.cons.injEq] at same
      obtain ⟨rest, cs, written, tail⟩ := assigns.rest whole same.2
      cases written with
      | nil => simp at tail
      | cons =>
        simp only [List.nil_append, List.cons_append, List.cons.injEq] at tail
        obtain ⟨-, -, rfl, -⟩ := tail
        trivial
  · intro takes
    rcases behind.next takes with complete | ⟨slot', behind'⟩
    · exact ⟨[], by rwa [List.append_nil]⟩
    · exact behind'.begins

/-- What has been read up to a slot, and goes on with nothing that fits into it, breaks off there. -/
theorem Behind.breaksOff (behind : Behind read slot) {rest : List Lexeme}
    (refused : ∀ l ∈ rest.head?, ¬ slot.Takes l.token) : BreaksOff (read ++ rest) read rest where
  split := rfl
  begins := behind.begins
  incomplete := behind.incomplete
  stops l head := behind.begins_concat.not.mpr (refused l head)

end Slot

/-- The first token in front of a stop is a token in front of it or its bracket. -/
theorem Stop.head_append {body stop : List Lexeme} {l : Lexeme} (h : Stop stop)
    (head : l ∈ (body ++ stop).head?) :
    (∃ tail, body = l :: tail) ∨ l.token = .bracketOpen ∨ l.token = .bracketClose := by
  cases body with
  | cons m tail =>
    obtain rfl := Option.some.inj head
    exact .inl ⟨tail, rfl⟩
  | nil =>
    cases h with
    | closed =>
      obtain rfl := Option.some.inj head
      exact .inr (.inr rfl)
    | reopened =>
      obtain rfl := Option.some.inj head
      exact .inr (.inl rfl)
    | endOfInput => contradiction

theorem nextPosition_eq (finish : Position) (body : List Lexeme) {stop : List Lexeme}
    (h : Stop stop) :
    nextPosition (endingOf finish stop) body = Slot.place finish (body ++ stop).head? := by
  cases body with
  | cons => rfl
  | nil => cases h <;> rfl

/-- The error `e` of a command that was opened at `start`, in front of the tokens `ls`, blames the
slot at which it breaks off. -/
def Blames (start finish : Position) (ls : List Lexeme) (e : ParseError) : Prop :=
  ∃ read rest slot, BreaksOff ls read rest ∧ Slot.Behind read slot ∧
    e = slot.blame start finish rest.head?

theorem blames_readParams {start finish p : Position} {command : String} {seen : Params}
    {body stop : List Lexeme} {e : ParseError} (h : Stop stop)
    (inner : ∀ l ∈ body, l.isInner = true)
    (failed : (readParams start command (endingOf finish stop) seen body).1 = .error e) :
    ∃ read rest slot, body ++ stop = read ++ rest ∧
      Slot.Behind (⟨.ident command, p⟩ :: read) slot ∧
      (∀ l ∈ rest.head?, ¬ slot.Takes l.token) ∧ e = slot.blame start finish rest.head? := by
  generalize ending : endingOf finish stop = last at failed
  fun_induction readParams start command last seen body with
  | case1 => contradiction
  | case2 seen q =>
    obtain rfl := Except.error.inj failed
    cases h with
    | reopened =>
      obtain rfl := Ending.reopened.inj (ending.trans ‹_›)
      refine ⟨[], _, _, rfl, .keyOrClose .nil, ?_, rfl⟩
      rintro l ⟨⟩
      exact id
    | closed | endOfInput => cases ending.trans ‹_›
  | case3 seen q =>
    obtain rfl := Except.error.inj failed
    cases h with
    | endOfInput => exact ⟨[], [], _, rfl, .keyOrClose .nil, by simp, rfl⟩
    | closed | reopened => cases ending.trans ‹_›
  | case4 seen key q r value s ls result warnings rest ih =>
    simp only [rest] at ih
    obtain ⟨read, rest, slot, split, behind, refused, blamed⟩ :=
      ih (fun l mem => inner l (by simp [mem])) failed
    refine ⟨⟨.ident key, q⟩ :: ⟨.equal, r⟩ :: ⟨.string value, s⟩ :: read, rest, slot, ?_,
      behind.cons, refused, blamed⟩
    simp only [List.cons_append, split]
  | case5 seen key q r c s ls =>
    obtain rfl := Except.error.inj failed
    refine ⟨[⟨.ident key, q⟩, ⟨.equal, r⟩], _, _, rfl, .value .nil, ?_, rfl⟩
    rintro l ⟨⟩
    exact id
  | case6 seen key q r ls notString notOpen =>
    obtain rfl := Except.error.inj failed
    have head : ∀ l ∈ (ls ++ stop).head?, (∀ c, l.token ≠ .string c) ∧ ∀ c, l.token ≠ .openString c := by
      rintro ⟨t, s⟩ mem
      rcases h.head_append mem with ⟨tail, rfl⟩ | rfl | rfl
      · exact ⟨fun c same => notString c s tail (same ▸ rfl),
          fun c same => notOpen c s tail (same ▸ rfl)⟩
      · simp
      · simp
    refine ⟨[⟨.ident key, q⟩, ⟨.equal, r⟩], ls ++ stop, _, rfl, .value .nil, ?_, ?_⟩
    · rintro ⟨t, s⟩ mem takes
      cases t with
      | string c => exact (head _ mem).1 c rfl
      | _ => contradiction
    · rw [Slot.blame_value _ _ _ _ fun l mem => (head l mem).2, ← ending, nextPosition_eq _ _ h]
  | case7 seen key q ls _ _ notEqual =>
    obtain rfl := Except.error.inj failed
    refine ⟨[⟨.ident key, q⟩], ls ++ stop, _, rfl, .equal .nil, ?_, ?_⟩
    · rintro ⟨t, s⟩ mem takes
      rcases h.head_append mem with ⟨tail, rfl⟩ | rfl | rfl
      · cases t with
        | equal => exact notEqual s tail rfl
        | _ => contradiction
      · contradiction
      · contradiction
    · rw [Slot.blame, ← ending, nextPosition_eq _ _ h]
  | case8 seen c s ls =>
    obtain rfl := Except.error.inj failed
    refine ⟨[], _, _, rfl, .keyOrClose .nil, ?_, rfl⟩
    rintro l ⟨⟩
    exact id
  | case9 seen c s ls =>
    obtain rfl := Except.error.inj failed
    refine ⟨[], _, _, rfl, .keyOrClose .nil, ?_, rfl⟩
    rintro l ⟨⟩
    exact id
  | case10 seen t s ls _ _ _ notIdent notOpen notIllegal =>
    obtain rfl := Except.error.inj failed
    have within := inner _ List.mem_cons_self
    refine ⟨[], _, .keyOrClose command, rfl, .keyOrClose .nil, ?_, ?_⟩
    · rintro l ⟨⟩ takes
      cases t with
      | ident key => exact notIdent key rfl
      | bracketClose => exact Bool.noConfusion within
      | _ => exact False.elim takes
    · cases t with
      | ident key => exact (notIdent key rfl).elim
      | openString c => exact (notOpen c rfl).elim
      | illegal c => exact (notIllegal c rfl).elim
      | _ => rfl

theorem blames_readCommand {start finish : Position} {body stop : List Lexeme} {e : ParseError}
    (h : Stop stop) (inner : ∀ l ∈ body, l.isInner = true)
    (failed : (readCommand start body (endingOf finish stop)).outcome = .error e) :
    Blames start finish (body ++ stop) e := by
  cases body with
  | nil =>
    have refused : ∀ l ∈ stop.head?, ¬ Slot.name.Takes l.token := by
      intro l head
      cases h with
      | closed | reopened =>
        obtain rfl := Option.some.inj head
        exact id
      | endOfInput => contradiction
    refine ⟨[], stop, .name, Slot.Behind.name.breaksOff refused, .name, ?_⟩
    cases h <;> exact (Except.error.inj failed).symm
  | cons l ls =>
    obtain ⟨t, p⟩ := l
    cases t with
    | ident command =>
      cases result : (readParams start command (endingOf finish stop) .empty ls).1 with
      | ok params => simp [readCommand, result, Except.map] at failed
      | error e' =>
        obtain rfl : e' = e := by simpa [readCommand, result, Except.map] using failed
        obtain ⟨read, rest, slot, split, behind, refused, blamed⟩ :=
          blames_readParams (p := p) h (fun l mem => inner l (List.mem_cons_of_mem _ mem)) result
        refine ⟨_, rest, slot, ?_, behind, blamed⟩
        rw [List.cons_append, split]
        exact behind.breaksOff refused
    | _ =>
      refine ⟨[], _, .name, Slot.Behind.name.breaksOff ?_, .name, (Except.error.inj failed).symm⟩
      rintro l ⟨⟩
      exact id

/-- What a start gives, with the blame for what is broken. -/
inductive Judged (finish : Position) :
    Lexeme × List Lexeme → Except ParseError Statement → Prop where
  | text : Judged finish (⟨.text content, p⟩, ls) (.ok ⟨.text content, p⟩)
  | stray : Judged finish (⟨.bracketClose, p⟩, ls) (.error ⟨.noStatement .bracketClose, p⟩)
  | command : Completes ls name as →
      Judged finish (⟨.bracketOpen, p⟩, ls) (.ok ⟨.command name (paramsOf as), p⟩)
  | broken : Blames p finish ls e → Judged finish (⟨.bracketOpen, p⟩, ls) (.error e)

theorem judged_readCommand (finish p : Position) {body stop : List Lexeme}
    (inner : ∀ l ∈ body, l.isInner = true) (h : Stop stop) :
    Judged finish (⟨.bracketOpen, p⟩, body ++ stop)
      (readCommand p body (endingOf finish stop)).outcome := by
  have gives := gives_readCommand finish p inner h
  cases result : (readCommand p body (endingOf finish stop)).outcome with
  | error e => exact .broken (blames_readCommand h inner result)
  | ok st =>
    rw [result] at gives
    cases gives with
    | command complete => exact .command complete

theorem forall₂_judged (source : List Char) :
    List.Forall₂ (Judged (endPosition source)) (starts false (tokens source))
      ((parse source).items.map (·.outcome)) := by
  have moded : Moded false (tokens source) := (Scanner.scans_tokens (.ofSource source)).moded
  have items : (parse source).items.map (·.outcome) =
      (segments (endPosition source) (tokens source)).map (·.read.outcome) := by
    simp [parse]
  rw [items]
  refine forall₂_starts _ ?_ ?_ ?_ moded
  · intro content p ls
    exact .text
  · intro p ls
    exact .stray
  · intro p body stop inner h
    exact judged_readCommand _ p inner h

end Dialogue.Script
