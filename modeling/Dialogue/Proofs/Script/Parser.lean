import Dialogue.Proofs.Script.Command
import Dialogue.Proofs.Script.Segments
import Dialogue.Proofs.Script.Tiling
import Dialogue.Script.Parser

/-! The parser's loop against the segments of a script. Behind every statement and every error the
parser stands where the segment ends, with nothing noted but what the segment gives; so the loop
gives what the segments give, and takes one turn for each. -/
namespace Dialogue.Script

/-- What stands at the front of the tokens `ls` of a script that ends at `finish`. -/
def front (finish : Position) : List Lexeme → Front
  | [] => ⟨none, finish⟩
  | l :: _ => ⟨some l.token, l.position⟩

/-- The error of an outcome that is one. -/
def errorOf? : Except ParseError α → Option ParseError
  | .ok _ => none
  | .error e => some e

theorem statements_eq (r : Parsed) :
    r.statements = (r.items.map (·.outcome)).filterMap Except.toOption := by
  simp [Parsed.statements, List.filterMap_map]

theorem errors_eq (r : Parsed) :
    r.errors = (r.items.map (·.outcome)).filterMap errorOf? := by
  rw [List.filterMap_map]
  refine List.filterMap_congr fun item _ => ?_
  cases h : item.outcome <;> simp [h, errorOf?]

variable {finish : Position} {l : Lexeme} {ls body stop : List Lexeme}

namespace Scanner

variable {s : Scanner}

theorem Scans.front_nil (scans : s.Scans []) :
    s.front = (⟨none, s.endPosition⟩, ⟨[], s.endPosition, s.inside⟩) := by
  cases scans with
  | done atEnd => rw [front, next?_eq_none_iff.2 atEnd, atEnd.settle_eq]

theorem Scans.front_cons (scans : s.Scans (l :: ls)) :
    ∃ gap s', s.front = (⟨some l.token, l.position⟩, s') ∧ s.Reads gap l s' ∧ s'.Scans ls := by
  obtain ⟨gap, s', reads, scans⟩ := scans.head
  exact ⟨gap, s', by rw [front, next?_eq_some_iff.2 ⟨gap, reads⟩], reads, scans⟩

theorem Scans.front_eq (scans : s.Scans ls) : s.front.1 = Script.front s.endPosition ls := by
  cases ls with
  | nil => rw [scans.front_nil]; rfl
  | cons l ls =>
    obtain ⟨gap, s', read, -⟩ := scans.front_cons
    rw [read]
    rfl

theorem Scans.behind_front (scans : s.Scans ls) :
    s.front.2.Scans ls.tail ∧ s.front.2.endPosition = s.endPosition := by
  cases ls with
  | nil =>
    rw [scans.front_nil]
    refine ⟨.done ?_, rfl⟩
    rintro c ⟨⟩
  | cons l ls =>
    obtain ⟨gap, s', read, reads, scans⟩ := scans.front_cons
    rw [read]
    exact ⟨scans, reads.endPosition_eq⟩

/-- Nothing is read behind an open string. -/
theorem Scans.eq_nil_of_openString {content : String} {q : Position}
    (scans : s.Scans (⟨.openString content, q⟩ :: ls)) : ls = [] := by
  obtain ⟨gap, s', reads, scans⟩ := scans.head
  have nothing : s'.rest = [] := reads.fits.2.2
  have few := scans.length_le
  rw [nothing] at few
  exact List.length_eq_zero_iff.1 (Nat.le_zero.1 few)

theorem Scans.ne_quote_of_illegal {c : Char} {q : Position}
    (scans : s.Scans (⟨.illegal c, q⟩ :: ls)) : c ≠ '"' := by
  obtain ⟨gap, s', reads, -⟩ := scans.head
  exact reads.fits.2.2.2.1

end Scanner

namespace Parser

/-- The parser sees the tokens `ls` ahead, of a script that ends at `finish`: a scanner that reads them
has taken the first of them, and is to go on behind it. -/
inductive Sees (p : Parser) (finish : Position) (ls : List Lexeme) : Prop
  | intro (s : Scanner) (scans : s.Scans ls) (ends : s.endPosition = finish)
      (peek : p.peek = s.front.1) (rest : p.scanner = s.front.2)

/-- The parser `p` becomes `p'`: it has noted the errors `es` and the remarks `ws`, and sees `ls`
ahead. -/
structure Leads (p : Parser) (es : List ParseError) (ws : List Warning) (finish : Position)
    (ls : List Lexeme) (p' : Parser) : Prop where
  sees : p'.Sees finish ls
  errors : p'.errors = p.errors ++ es
  warnings : p'.warnings = p.warnings ++ ws

variable {p p' p'' : Parser} {es es' : List ParseError} {ws ws' : List Warning}
  {e : ParseError} {ls' : List Lexeme}

theorem Sees.peek_eq (sees : p.Sees finish ls) : p.peek = front finish ls := by
  obtain ⟨s, scans, rfl, peek, -⟩ := sees
  exact peek.trans scans.front_eq

theorem Sees.advance (sees : p.Sees finish ls) : p.advance.Sees finish ls.tail := by
  obtain ⟨s, scans, rfl, -, rest⟩ := sees
  obtain ⟨behind, ends⟩ := scans.behind_front
  refine ⟨s.front.2, behind, ends, ?_, ?_⟩
  · rw [← rest]
    rfl
  · rw [← rest]
    rfl

theorem Sees.cur_advance (sees : p.Sees finish ls) : p.advance.cur = front finish ls :=
  sees.peek_eq

theorem Sees.leads (sees : p.Sees finish ls) : p.Leads [] [] finish ls p where
  sees := sees
  errors := (List.append_nil _).symm
  warnings := (List.append_nil _).symm

theorem Leads.trans (first : p.Leads es ws finish ls p') (second : p'.Leads es' ws' finish ls' p'') :
    p.Leads (es ++ es') (ws ++ ws') finish ls' p'' where
  sees := second.sees
  errors := by rw [second.errors, first.errors, List.append_assoc]
  warnings := by rw [second.warnings, first.warnings, List.append_assoc]

theorem Sees.leads_advance (sees : p.Sees finish ls) : p.Leads [] [] finish ls.tail p.advance where
  sees := sees.advance
  errors := (List.append_nil _).symm
  warnings := (List.append_nil _).symm

theorem Sees.leads_pushError (sees : p.Sees finish ls) (e : ParseError) :
    p.Leads [e] [] finish ls (p.pushError e) where
  sees := by
    obtain ⟨s, scans, ends, peek, rest⟩ := sees
    exact ⟨s, scans, ends, peek, rest⟩
  errors := rfl
  warnings := (List.append_nil _).symm

theorem Sees.leads_pushWarning (sees : p.Sees finish ls) (w : Warning) :
    p.Leads [] [w] finish ls (p.pushWarning w) where
  sees := by
    obtain ⟨s, scans, ends, peek, rest⟩ := sees
    exact ⟨s, scans, ends, peek, rest⟩
  errors := (List.append_nil _).symm
  warnings := rfl

theorem synchronize_inner (inner : p.peek.kind ≠ .bracketClose ∧ p.peek.kind ≠ .bracketOpen ∧
    p.peek.kind ≠ .endOfInput) : p.synchronize = p.advance.synchronize := by
  rw [synchronize]
  split <;> simp_all

/-- Wherever in a command it begins, synchronizing ends behind the command. -/
theorem Sees.leads_synchronize (sees : p.Sees finish (body ++ stop))
    (inner : ∀ l ∈ body, l.isInner = true) (h : Stop stop) :
    p.Leads [] [] finish (afterStop stop) p.synchronize := by
  induction body generalizing p with
  | nil =>
    have ahead := sees.peek_eq
    cases h with
    | closed =>
      have closes : p.synchronize = p.advance := by
        rw [synchronize, ahead]
        rfl
      rw [closes]
      exact sees.leads_advance
    | reopened | endOfInput =>
      have stays : p.synchronize = p := by
        rw [synchronize, ahead]
        rfl
      rw [stays]
      exact sees.leads
  | cons l body ih =>
    obtain ⟨first, later⟩ := List.forall_mem_cons.mp inner
    have ahead := sees.peek_eq
    have goes_on : p.synchronize = p.advance.synchronize := by
      apply synchronize_inner
      obtain ⟨t, q⟩ := l
      rw [ahead]
      cases t <;> first | contradiction | exact ⟨nofun, nofun, nofun⟩
    rw [goes_on]
    exact sees.leads_advance.trans (ih sees.advance later)

theorem Sees.leads_giveUp (sees : p.Sees finish (body ++ stop))
    (inner : ∀ l ∈ body, l.isInner = true) (h : Stop stop) (e : ParseError) :
    p.Leads [e] [] finish (afterStop stop) (p.giveUp e) :=
  (sees.leads_pushError e).trans ((sees.leads_pushError e).sees.leads_synchronize inner h)

theorem Sees.leads_giveUp_stop (sees : p.Sees finish stop) (h : Stop stop) (e : ParseError) :
    p.Leads [e] [] finish (afterStop stop) (p.giveUp e) := by
  rw [← List.nil_append stop] at sees
  exact sees.leads_giveUp (by simp) h e

/-- What a reader told, with the parser it left, is the outcome `x` with the remarks `ws`, and `ls` is
ahead behind it. -/
structure Tells (p : Parser) (finish : Position) (ls : List Lexeme) (x : Except ParseError α)
    (ws : List Warning) (r : Option α × Parser) : Prop where
  result : r.1 = x.toOption
  leads : p.Leads (errorOf? x).toList ws finish ls r.2

theorem Leads.tells_error (leads : p.Leads [e] [] finish ls p') :
    p.Tells finish ls (.error e : Except ParseError α) [] (none, p') := ⟨rfl, leads⟩

theorem Leads.tells_trans {x : Except ParseError α} {r : Option α × Parser}
    (first : p.Leads [] ws finish ls p') (second : p'.Tells finish ls' x ws' r) :
    p.Tells finish ls' x (ws ++ ws') r :=
  ⟨second.result, first.trans second.leads⟩

theorem Tells.map {x : Except ParseError α} {r : Option α × Parser} (f : α → β)
    (tells : p.Tells finish ls x ws r) : p.Tells finish ls (x.map f) ws (r.1.map f, r.2) := by
  obtain ⟨result, leads⟩ := tells
  cases x with
  | ok a => exact ⟨by rw [result]; rfl, leads⟩
  | error e => exact ⟨by rw [result]; rfl, leads⟩

section Params

variable {command key value : String} {q r : Position} {opened : Position} {params : Params}

theorem parseParam_of_string (sees : p.Sees finish (⟨.equal, q⟩ :: ⟨.string value, r⟩ :: ls)) :
    p.parseParam command = (some (p.cur.literal, value), p.advance.advance) := by
  have ahead := sees.peek_eq
  have behind := sees.advance.peek_eq
  unfold parseParam
  simp only [ahead, behind]
  rfl

theorem parseParam_of_openString
    (sees : p.Sees finish (⟨.equal, q⟩ :: ⟨.openString value, r⟩ :: ls)) :
    p.parseParam command = (none, p.advance.advance.pushError ⟨.unterminatedString, r⟩) := by
  have ahead := sees.peek_eq
  have behind := sees.advance.peek_eq
  have inHand : p.advance.advance.cur = _ := sees.advance.cur_advance
  unfold parseParam
  simp only [ahead, behind, inHand]
  simp [front, Front.kind, Token.kind, Front.isQuoted, Front.illegalError, Front.literal,
    Token.literal, Token.span]

theorem parseParam_of_noEqual (other : p.peek.kind ≠ .equal) :
    p.parseParam command =
      (none, p.giveUp ⟨.missingEquals command p.cur.literal, p.peek.position⟩) := by
  rw [parseParam, if_pos other]

theorem parseParam_of_noValue (equal : p.peek.kind = .equal) (other : p.advance.peek.kind ≠ .string)
    (unquoted : ¬ (p.advance.peek.kind = .illegal ∧ p.advance.peek.isQuoted = true)) :
    p.parseParam command =
      (none, p.advance.giveUp ⟨.missingValue command p.cur.literal, p.advance.peek.position⟩) := by
  rw [parseParam, if_neg (not_not.mpr equal)]
  dsimp only
  rw [if_neg other, if_neg unquoted]

theorem parseParams_of_close (kind : p.peek.kind = .bracketClose) :
    parseParams opened command params p = (some params, p.advance) := by
  rw [parseParams]
  split <;> simp_all

theorem parseParams_of_end (kind : p.peek.kind = .endOfInput) :
    parseParams opened command params p =
      (none, p.pushError ⟨.unterminatedCommand command, opened⟩) := by
  rw [parseParams]
  split <;> simp_all

theorem parseParams_of_param (kind : p.peek.kind = .ident)
    (read : p.advance.parseParam command = (some (key, value), p')) :
    parseParams opened command params p =
      parseParams opened command (params.insert key value)
        (if params.contains key then p'.pushWarning (.duplicateParam command key p'.cur.position)
        else p') := by
  rw [parseParams]
  split
  case h_3 =>
    split
    · next other => simp [read] at other
    · next same =>
      obtain ⟨⟨rfl, rfl⟩, rfl⟩ := by simpa [same] using read
      rfl
  all_goals simp_all

theorem parseParams_of_noParam (kind : p.peek.kind = .ident)
    (read : p.advance.parseParam command = (none, p')) :
    parseParams opened command params p = (none, p') := by
  rw [parseParams]
  split
  case h_3 =>
    split
    · next same =>
      obtain ⟨-, rfl⟩ := Prod.mk.inj (same.symm.trans read)
      rfl
    · next other => simp [read] at other
  all_goals simp_all

theorem parseParams_of_illegal (kind : p.peek.kind = .illegal) :
    parseParams opened command params p = (none, p.advance.giveUp p.advance.cur.illegalError) := by
  rw [parseParams]
  split <;> simp_all

theorem parseParams_of_other (kind : p.peek.kind = .bracketOpen ∨ p.peek.kind = .equal ∨
    p.peek.kind = .string ∨ p.peek.kind = .text) :
    parseParams opened command params p =
      (none, p.giveUp ⟨.unexpectedToken p.peek.kind, p.peek.position⟩) := by
  rw [parseParams]
  split <;> simp_all

theorem position_front (h : Stop stop) (ls : List Lexeme) :
    (front finish (ls ++ stop)).position = nextPosition (endingOf finish stop) ls := by
  cases ls with
  | nil => cases h <;> rfl
  | cons l ls => rfl

theorem kind_front_ne_string (h : Stop stop)
    (noString : ∀ content q tail, ls = ⟨.string content, q⟩ :: tail → False) :
    (front finish (ls ++ stop)).kind ≠ .string := by
  cases ls with
  | nil => cases h <;> exact TokenKind.noConfusion
  | cons l ls =>
    obtain ⟨t, q⟩ := l
    cases t with
    | string content => exact absurd rfl (noString content q ls)
    | _ => exact TokenKind.noConfusion

theorem kind_front_ne_equal (h : Stop stop) (noEqual : ∀ q tail, ls = ⟨.equal, q⟩ :: tail → False) :
    (front finish (ls ++ stop)).kind ≠ .equal := by
  cases ls with
  | nil => cases h <;> exact TokenKind.noConfusion
  | cons l ls =>
    obtain ⟨t, q⟩ := l
    cases t with
    | equal => exact absurd rfl (noEqual q ls)
    | _ => exact TokenKind.noConfusion

/-- A quote in front of an illegal token is that of an open string. -/
theorem Sees.not_quoted (sees : p.Sees finish (ls ++ stop)) (h : Stop stop)
    (noOpenString : ∀ content q tail, ls = ⟨.openString content, q⟩ :: tail → False) :
    ¬ (p.peek.kind = .illegal ∧ p.peek.isQuoted = true) := by
  rw [sees.peek_eq]
  rintro ⟨illegal, quoted⟩
  cases ls with
  | nil => cases h <;> contradiction
  | cons l ls =>
    obtain ⟨t, q⟩ := l
    cases t with
    | openString content => exact noOpenString content q ls rfl
    | illegal c =>
      obtain ⟨s, scans, -, -, -⟩ := sees
      apply scans.ne_quote_of_illegal
      simpa [front, Front.isQuoted, Front.literal, Token.literal, Token.span] using quoted
    | _ => contradiction

/-- Behind an open string the script is at its end. -/
theorem Sees.openString_last {content : String}
    (sees : p.Sees finish (⟨.openString content, q⟩ :: ls ++ stop)) : ls = [] ∧ stop = [] := by
  obtain ⟨s, scans, -, -, -⟩ := sees
  exact List.append_eq_nil_iff.1 scans.eq_nil_of_openString

theorem literal_front_ident {key : String} :
    (front finish (⟨.ident key, q⟩ :: ls)).literal = key := String.ofList_toList

theorem illegalError_openString {content : String} :
    (front finish (⟨.openString content, q⟩ :: ls)).illegalError = ⟨.unterminatedString, q⟩ := by
  simp [front, Front.illegalError, Front.isQuoted, Front.literal, Token.literal, Token.span]

theorem illegalError_illegal {c : Char} (other : c ≠ '"') :
    (front finish (⟨.illegal c, q⟩ :: ls)).illegalError = ⟨.illegalCharacter c, q⟩ := by
  simp [front, Front.illegalError, Front.isQuoted, Front.literal, Token.literal, Token.span, other]

theorem Sees.tells_parseParams_nil (opened : Position) (command : String) (params : Params)
    (sees : p.Sees finish stop) (h : Stop stop) :
    p.Tells finish (afterStop stop)
      (readParams opened command (endingOf finish stop) params []).1
      (readParams opened command (endingOf finish stop) params []).2
      (parseParams opened command params p) := by
  have ahead := sees.peek_eq
  cases h with
  | closed =>
    rw [parseParams_of_close (by rw [ahead]; rfl)]
    exact ⟨rfl, sees.leads_advance⟩
  | reopened =>
    rw [parseParams_of_other (by rw [ahead]; exact .inl rfl), ahead]
    exact (sees.leads_giveUp_stop .reopened _).tells_error
  | endOfInput =>
    rw [parseParams_of_end (by rw [ahead]; rfl)]
    exact (sees.leads_pushError _).tells_error

/-- The parameters of a command are read as its inner tokens say, and reading goes on behind it. -/
theorem Sees.tells_parseParams (opened : Position) (command : String) (params : Params)
    (sees : p.Sees finish (ls ++ stop)) (inner : ∀ l ∈ ls, l.isInner = true) (h : Stop stop) :
    p.Tells finish (afterStop stop)
      (readParams opened command (endingOf finish stop) params ls).1
      (readParams opened command (endingOf finish stop) params ls).2
      (parseParams opened command params p) := by
  have ahead := sees.peek_eq
  generalize ends : endingOf finish stop = ending
  fun_induction readParams opened command ending params ls generalizing p with
  | case1 params q same | case2 params q same | case3 params q same =>
    have tells := Sees.tells_parseParams_nil opened command params sees h
    rw [List.nil_append, ends, same] at tells
    exact tells
  | case4 params key q r value t ls result warnings rest ih =>
    have behind := sees.advance
    have later : ∀ l ∈ ls, l.isInner = true := fun l mem => inner l (by simp [mem])
    have read : p.Leads [] [] finish (ls ++ stop) p.advance.advance.advance :=
      (sees.leads_advance.trans behind.leads_advance).trans behind.advance.leads_advance
    rw [parseParams_of_param (by rw [ahead]; rfl) (parseParam_of_string behind), sees.cur_advance,
      List.cons_append, literal_front_ident]
    dsimp only
    split
    · have noted := read.sees.leads_pushWarning (.duplicateParam command key t)
      have tells := ih noted.sees later noted.sees.peek_eq
      rw [rest] at tells
      have place : p.advance.advance.advance.cur.position = t := by
        rw [behind.advance.cur_advance]
        rfl
      rw [place]
      exact (read.trans noted).tells_trans tells
    · have tells := ih read.sees later read.sees.peek_eq
      rw [rest] at tells
      exact read.tells_trans tells
  | case5 params key q r content t ls =>
    have behind := sees.advance
    have read : p.Leads [] [] finish (ls ++ stop) p.advance.advance.advance :=
      (sees.leads_advance.trans behind.leads_advance).trans behind.advance.leads_advance
    obtain ⟨rfl, rfl⟩ := Sees.openString_last behind.advance
    rw [parseParams_of_noParam (by rw [ahead]; rfl) (parseParam_of_openString behind)]
    exact (read.trans (read.sees.leads_pushError _)).tells_error
  | case6 params key q r ls noString noOpenString =>
    have behind : p.advance.advance.Sees finish (ls ++ stop) := sees.advance.advance
    have later : ∀ l ∈ ls, l.isInner = true := fun l mem => inner l (by simp [mem])
    have param : p.advance.parseParam command = _ := parseParam_of_noValue
      (by rw [sees.advance.peek_eq]; rfl)
      (by rw [behind.peek_eq]; exact kind_front_ne_string h noString)
      (behind.not_quoted h noOpenString)
    rw [parseParams_of_noParam (by rw [ahead]; rfl) param, behind.peek_eq, position_front h, ends,
      sees.cur_advance, List.cons_append, literal_front_ident]
    have read := sees.leads_advance.trans sees.advance.leads_advance
    exact (read.trans (behind.leads_giveUp later h _)).tells_error
  | case7 params key q ls _ _ noEqual =>
    have behind : p.advance.Sees finish (ls ++ stop) := sees.advance
    have later : ∀ l ∈ ls, l.isInner = true := fun l mem => inner l (by simp [mem])
    have param : p.advance.parseParam command = _ := parseParam_of_noEqual
      (by rw [behind.peek_eq]; exact kind_front_ne_equal h noEqual)
    rw [parseParams_of_noParam (by rw [ahead]; rfl) param, behind.peek_eq, position_front h, ends,
      sees.cur_advance, List.cons_append, literal_front_ident]
    exact (sees.leads_advance.trans (behind.leads_giveUp later h _)).tells_error
  | case8 params content q ls =>
    obtain ⟨rfl, rfl⟩ := sees.openString_last
    rw [parseParams_of_illegal (by rw [ahead]; rfl), sees.cur_advance, List.cons_append,
      illegalError_openString]
    exact (sees.leads_advance.trans (sees.advance.leads_giveUp_stop h _)).tells_error
  | case9 params c q ls =>
    have behind : p.advance.Sees finish (ls ++ stop) := sees.advance
    have later : ∀ l ∈ ls, l.isInner = true := fun l mem => inner l (by simp [mem])
    have unquoted : c ≠ '"' := by
      obtain ⟨s, scans, -, -, -⟩ := sees
      exact scans.ne_quote_of_illegal
    rw [parseParams_of_illegal (by rw [ahead]; rfl), sees.cur_advance, List.cons_append,
      illegalError_illegal unquoted]
    exact (sees.leads_advance.trans (behind.leads_giveUp later h _)).tells_error
  | case10 params t q ls _ _ _ noIdent noOpenString noIllegal =>
    have other : p.peek.kind = .bracketOpen ∨ p.peek.kind = .equal ∨
        p.peek.kind = .string ∨ p.peek.kind = .text := by
      have first := inner _ List.mem_cons_self
      rw [ahead]
      cases t <;> simp_all [Front.kind, front, Token.kind, Lexeme.isInner, Token.isBracket]
    rw [parseParams_of_other other, ahead]
    exact (sees.leads_giveUp inner h _).tells_error

end Params

section Statement

variable {q : Position} {content : String}

theorem parseStatement_of_text (kind : p.cur.kind = .text) :
    p.parseStatement = (some ⟨.text p.cur.literal, p.cur.position⟩, p) := by
  rw [parseStatement, parseExpression, kind]
  rfl

theorem parseStatement_of_command (kind : p.cur.kind = .bracketOpen) :
    p.parseStatement = (p.parseCommand.1.map (⟨·, p.cur.position⟩), p.parseCommand.2) := by
  rw [parseStatement, parseExpression, kind]
  rfl

theorem Sees.tells_text (sees : p.Sees finish ls)
    (cur : p.cur = front finish (⟨.text content, q⟩ :: ls)) :
    p.Tells finish ls (Segment.text content q).read.outcome (Segment.text content q).read.warnings
      p.parseStatement := by
  have literal : p.cur.literal = content := by
    rw [cur]
    exact String.ofList_toList
  have position : p.cur.position = q := by
    rw [cur]
    rfl
  rw [parseStatement_of_text (by rw [cur]; rfl), literal, position]
  exact ⟨rfl, sees.leads⟩

theorem Sees.tells_stray (sees : p.Sees finish ls)
    (cur : p.cur = front finish (⟨.bracketClose, q⟩ :: ls)) :
    p.Tells finish ls (Segment.stray .bracketClose q).read.outcome
      (Segment.stray .bracketClose q).read.warnings p.parseStatement := by
  have read : p.parseStatement = (none, p.pushError ⟨.noStatement .bracketClose, q⟩) := by
    rw [parseStatement, parseExpression, cur]
    simp [front, Front.kind, Token.kind, reader?, pushNoStatement, cur]
  rw [read]
  exact (sees.leads_pushError _).tells_error

theorem parseCommand_of_name (kind : p.peek.kind = .ident) :
    p.parseCommand =
      let read := parseParams p.cur.position p.advance.cur.literal .empty p.advance
      (read.1.map (.command p.advance.cur.literal), read.2) := by
  rw [parseCommand, kind]

theorem parseCommand_of_end (kind : p.peek.kind = .endOfInput) :
    p.parseCommand = (none, p.pushError ⟨.missingCommandName, p.cur.position⟩) := by
  rw [parseCommand, kind]

theorem parseCommand_of_other (kind : p.peek.kind ≠ .ident ∧ p.peek.kind ≠ .endOfInput) :
    p.parseCommand = (none, p.giveUp ⟨.missingCommandName, p.peek.position⟩) := by
  rw [parseCommand]
  split <;> simp_all

/-- A command is read as its segment says, and the parser stops behind it. -/
theorem Sees.tells_parseCommand (sees : p.Sees finish (body ++ stop))
    (cur : p.cur = front finish (⟨.bracketOpen, q⟩ :: (body ++ stop)))
    (inner : ∀ l ∈ body, l.isInner = true) (h : Stop stop) :
    p.Tells finish (afterStop stop) (readCommand q body (endingOf finish stop)).outcome
      (readCommand q body (endingOf finish stop)).warnings p.parseStatement := by
  have ahead := sees.peek_eq
  have position : p.cur.position = q := by
    rw [cur]
    rfl
  rw [parseStatement_of_command (by rw [cur]; rfl), position]
  cases body with
  | nil =>
    cases h with
    | closed | reopened =>
      rw [parseCommand_of_other (by rw [ahead]; exact ⟨nofun, nofun⟩), ahead]
      refine (sees.leads_giveUp_stop ?_ _).tells_error
      constructor
    | endOfInput =>
      rw [parseCommand_of_end (by rw [ahead]; rfl), position]
      exact (sees.leads_pushError _).tells_error
  | cons l body =>
    obtain ⟨t, r⟩ := l
    by_cases named : ∃ name, t = .ident name
    · obtain ⟨name, rfl⟩ := named
      have later : ∀ l ∈ body, l.isInner = true := fun l mem => inner l (by simp [mem])
      rw [parseCommand_of_name (by rw [ahead]; rfl), position, sees.cur_advance, List.cons_append,
        literal_front_ident]
      have tells := Sees.tells_parseParams q name .empty sees.advance later h
      have first := (sees.leads_advance.tells_trans tells).map fun params =>
        (⟨.command name params, q⟩ : Statement)
      rw [Option.map_map]
      exact first
    · have other : p.peek.kind ≠ .ident ∧ p.peek.kind ≠ .endOfInput := by
        rw [ahead]
        cases t <;> simp_all [front, Front.kind, Token.kind]
      have broken : readCommand q (⟨t, r⟩ :: body) (endingOf finish stop) =
          ⟨.error ⟨.missingCommandName, r⟩, []⟩ := by
        cases t <;> simp_all [readCommand]
      rw [parseCommand_of_other other, broken, ahead]
      exact (sees.leads_giveUp inner h _).tells_error

end Statement

end Parser

namespace Parsing

/-- The loop comes to its end at `s'`, after `n` turns. -/
inductive Runs : Parsing → Nat → Parsing → Prop where
  | ended : s.ended = true → Runs s 0 s
  | turn : s.ended = false → Runs s.turn n s' → Runs s (n + 1) s'

variable {s s' s'' : Parsing} {n : Nat} {item : Item} {items items' : List Item}

theorem Runs.run_eq (runs : Runs s n s') : s.run = s' := by
  induction runs with
  | ended ended => rw [run, if_pos ended]
  | turn more _ ih => rw [run, if_neg (Bool.eq_false_iff.1 more), ih]

/-- The tokens `ls` are still to be read: the first is in hand, the others are ahead. -/
structure At (s : Parsing) (finish : Position) (ls : List Lexeme) : Prop where
  cur : s.parser.cur = front finish ls
  sees : s.parser.Sees finish ls.tail

/-- From `s` to `s'` the statements, the errors and the remarks of `items` were added. -/
structure Yields (s : Parsing) (items : List Item) (s' : Parsing) : Prop where
  statements : s'.statements = s.statements ++ (items.map (·.outcome)).filterMap Except.toOption
  errors : s'.parser.errors = s.parser.errors ++ (items.map (·.outcome)).filterMap errorOf?
  warnings : s'.parser.warnings = s.parser.warnings ++ items.flatMap (·.warnings)

theorem Yields.none (s : Parsing) : s.Yields [] s where
  statements := (List.append_nil _).symm
  errors := (List.append_nil _).symm
  warnings := (List.append_nil _).symm

theorem Yields.trans (first : s.Yields items s') (second : s'.Yields items' s'') :
    s.Yields (items ++ items') s'' where
  statements := by
    rw [second.statements, first.statements, List.map_append, List.filterMap_append,
      List.append_assoc]
  errors := by
    rw [second.errors, first.errors, List.map_append, List.filterMap_append, List.append_assoc]
  warnings := by rw [second.warnings, first.warnings, List.append_assoc, List.flatMap_append]

theorem At.ofSource (source : List Char) :
    (Parsing.ofSource source).At (endPosition source) (tokens source) := by
  have scans := Scanner.scans_tokens (.ofSource source)
  obtain ⟨behind, ends⟩ := scans.behind_front
  constructor
  · exact scans.front_eq
  · exact ⟨_, behind, ends, rfl, rfl⟩

theorem At.ended_nil (here : s.At finish []) : s.ended = true := by
  rw [ended, here.cur]
  rfl

theorem At.ended_cons (here : s.At finish (l :: ls)) : s.ended = false := by
  rw [ended, here.cur]
  exact decide_eq_false l.token.kind_ne_endOfInput

/-- A turn in which an item is read adds this item, and the loop is behind it. -/
theorem turn_of_tells
    (tells : s.parser.Tells finish ls item.outcome item.warnings s.parser.parseStatement) :
    s.turn.At finish ls ∧ s.Yields [item] s.turn := by
  obtain ⟨result, leads⟩ := tells
  refine ⟨⟨leads.sees.cur_advance, leads.sees.advance⟩, ?_, ?_, ?_⟩
  · change s.statements ++ s.parser.parseStatement.1.toList = _
    rw [result, List.map_singleton]
    cases item.outcome <;> rfl
  · change s.parser.parseStatement.2.errors = _
    rw [leads.errors, List.map_singleton]
    cases item.outcome <;> rfl
  · change s.parser.parseStatement.2.warnings = _
    rw [leads.warnings, List.flatMap_singleton]

/-- A loop that reads an item and then those of the segments `later` reads all of them. -/
theorem runs_cons {later : List Item}
    (more : s.ended = false) (first : s.Yields [item] s.turn)
    (behind : ∃ s', Runs s.turn later.length s' ∧ s.turn.Yields later s') :
    ∃ s', Runs s (item :: later).length s' ∧ s.Yields (item :: later) s' := by
  obtain ⟨s', runs, yields⟩ := behind
  exact ⟨s', .turn more runs, first.trans yields⟩

/-- The loop takes one turn for every segment, and what it notes is what the segments give. -/
theorem At.runs (moded : Moded false ls) : ∀ s : Parsing, s.At finish ls →
    ∃ s', Runs s ((segments finish ls).map Segment.read).length s' ∧
      s.Yields ((segments finish ls).map Segment.read) s' := by
  refine moded.segmentwise ?_ ?_ ?_ ?_
  · intro s here
    rw [segments]
    exact ⟨s, .ended here.ended_nil, .none s⟩
  · intro content p ls ih s here
    obtain ⟨behind, first⟩ := turn_of_tells (here.sees.tells_text here.cur)
    rw [segments_text]
    exact runs_cons here.ended_cons first (ih s.turn behind)
  · intro p ls ih s here
    obtain ⟨behind, first⟩ := turn_of_tells (here.sees.tells_stray here.cur)
    rw [segments_close]
    exact runs_cons here.ended_cons first (ih s.turn behind)
  · intro p body stop inner h within ih s here
    obtain ⟨behind, first⟩ := turn_of_tells (here.sees.tells_parseCommand here.cur inner h)
    rw [segments_open _ _ inner h]
    exact runs_cons here.ended_cons first (ih s.turn behind)

end Parsing

/-- What the loop reads is what the segments of the script give, one turn for each. -/
theorem parseProgram_eq_parse (source : List Char) :
    Parsing.Runs (.ofSource source) (parse source).items.length (parseProgram source) ∧
      (parseProgram source).statements = (parse source).statements ∧
      (parseProgram source).parser.errors = (parse source).errors ∧
      (parseProgram source).parser.warnings = (parse source).warnings := by
  have moded : Moded false (tokens source) := (Scanner.scans_tokens (.ofSource source)).moded
  obtain ⟨s', runs, yields⟩ := Parsing.At.runs moded _ (.ofSource source)
  have result : parseProgram source = s' := runs.run_eq
  rw [result, statements_eq, errors_eq]
  exact ⟨runs, yields.statements, yields.errors, yields.warnings⟩

end Dialogue.Script
