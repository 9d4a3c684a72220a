import Dialogue.Script.Parse

/-! The parser's loop. It has one token in hand and sees one ahead; what is wrong is noted, and reading
goes on behind the command in which it was wrong. Every turn takes a token, so the loop comes to the
end of the script. -/
namespace Dialogue.Script

/-- What the scanner comes to next: a token, or the end of the script. -/
structure Front where
  token? : Option Token
  position : Position
  deriving DecidableEq, Repr

namespace Front

def kind (f : Front) : TokenKind :=
  match f.token? with
  | some t => t.kind
  | none => .endOfInput

def literal (f : Front) : String :=
  match f.token? with
  | some t => t.literal
  | none => ""

/-- Whether a quote is the first character of its text. Closed strings are told without theirs. -/
def isQuoted (f : Front) : Bool := f.literal.toList.head? = some '"'

/-- The error that an illegal token is: an open string, or a character that has no meaning. -/
def illegalError (f : Front) : ParseError :=
  if f.isQuoted then ⟨.unterminatedString, f.position⟩
  else ⟨.illegalCharacter (f.literal.toList.headD default), f.position⟩

/-- The end counts for nothing, a token for one. -/
def weight (f : Front) : Nat := if f.token?.isSome then 1 else 0

theorem weight_of_kind {f : Front} (more : f.kind ≠ .endOfInput) : f.weight = 1 := by
  obtain ⟨_ | t, p⟩ := f
  · contradiction
  · rfl

end Front

/-- What comes next, and the scanner behind it. The end is come to again and again. -/
def Scanner.front (s : Scanner) : Front × Scanner :=
  match s.next? with
  | some (l, s') => (⟨some l.token, l.position⟩, s')
  | none => (⟨none, s.settle.position⟩, s.settle)

theorem Scanner.length_rest_front (s : Scanner) :
    s.front.2.rest.length + s.front.1.weight ≤ s.rest.length := by
  unfold Scanner.front
  cases read : s.next? with
  | some next => exact Scanner.length_rest_of_next? read
  | none => exact s.length_rest_settle

structure Parser where
  scanner : Scanner
  cur : Front
  peek : Front
  errors : List ParseError := []
  warnings : List Warning := []

namespace Parser

def ofSource (source : List Char) : Parser :=
  let first := (Scanner.ofSource source).front
  let second := first.2.front
  { scanner := second.2, cur := first.1, peek := second.1 }

/-- Takes what is ahead in hand. -/
def advance (p : Parser) : Parser :=
  let next := p.scanner.front
  { p with scanner := next.2, cur := p.peek, peek := next.1 }

def pushError (p : Parser) (e : ParseError) : Parser := { p with errors := p.errors ++ [e] }

def pushWarning (p : Parser) (w : Warning) : Parser := { p with warnings := p.warnings ++ [w] }

/-- How many tokens are still ahead at most. -/
def ahead (p : Parser) : Nat := p.scanner.rest.length + p.peek.weight

/-- Likewise, with the token in hand. -/
def left (p : Parser) : Nat := p.ahead + p.cur.weight

theorem left_advance_le (p : Parser) : p.advance.left ≤ p.ahead := by
  have read := p.scanner.length_rest_front
  exact Nat.add_le_add_right read p.peek.weight

theorem ahead_advance_le (p : Parser) : p.advance.ahead ≤ p.ahead :=
  Nat.le_trans (Nat.le_add_right _ _) p.left_advance_le

theorem ahead_advance_lt {p : Parser} (more : p.peek.kind ≠ .endOfInput) :
    p.advance.ahead < p.ahead := by
  have bound := p.left_advance_le
  have taken : p.advance.cur.weight = 1 := Front.weight_of_kind more
  rw [left, taken] at bound
  exact bound

/-- Passes over the rest of a command: over its closing bracket, or up to the opening bracket of the
next one or the end. -/
def synchronize (p : Parser) : Parser :=
  match _kind : p.peek.kind with
  | .bracketClose => p.advance
  | .bracketOpen | .endOfInput => p
  | .equal | .string | .ident | .text | .illegal => p.advance.synchronize
termination_by p.ahead
decreasing_by all_goals exact ahead_advance_lt (by simp [_kind])

theorem ahead_synchronize_le (p : Parser) : p.synchronize.ahead ≤ p.ahead := by
  fun_induction synchronize p with
  | case1 p closed => exact p.ahead_advance_le
  | case2 | case3 => exact Nat.le_refl _
  | case4 p kind ih | case5 p kind ih | case6 p kind ih | case7 p kind ih | case8 p kind ih =>
    exact Nat.le_trans ih p.ahead_advance_le

/-- Notes an error and passes over the rest of the command. -/
def giveUp (p : Parser) (e : ParseError) : Parser := (p.pushError e).synchronize

/-- Reads `key="value"`, with the key in hand. An open string reaches to the end of the script, so
nothing is left to pass over behind it. -/
def parseParam (p : Parser) (command : String) : Option (String × String) × Parser :=
  let key := p.cur.literal
  if p.peek.kind ≠ .equal then
    (none, p.giveUp ⟨.missingEquals command key, p.peek.position⟩)
  else
    let p := p.advance
    if p.peek.kind = .string then (some (key, p.peek.literal), p.advance)
    else if p.peek.kind = .illegal ∧ p.peek.isQuoted then
      let p := p.advance
      (none, p.pushError p.cur.illegalError)
    else (none, p.giveUp ⟨.missingValue command key, p.peek.position⟩)

theorem ahead_parseParam_le (p : Parser) (command : String) :
    (p.parseParam command).2.ahead ≤ p.ahead := by
  unfold parseParam
  split
  · exact ahead_synchronize_le _
  · dsimp only
    have first := p.ahead_advance_le
    have second := p.advance.ahead_advance_le
    split
    · exact Nat.le_trans second first
    · split
      · exact Nat.le_trans second first
      · exact Nat.le_trans (ahead_synchronize_le _) first

/-- Reads the parameters of a command up to its closing bracket, with the name or the value of the
last parameter in hand. -/
def parseParams (opened : Position) (command : String) (params : Params) (p : Parser) :
    Option Params × Parser :=
  match _kind : p.peek.kind with
  | .bracketClose => (some params, p.advance)
  | .endOfInput => (none, p.pushError ⟨.unterminatedCommand command, opened⟩)
  | .ident =>
    match _param : p.advance.parseParam command with
    | (none, p') => (none, p')
    | (some (key, value), p') =>
      let p' := if params.contains key then
          p'.pushWarning (.duplicateParam command key p'.cur.position)
        else p'
      parseParams opened command (params.insert key value) p'
  | .illegal =>
    let p := p.advance
    (none, p.giveUp p.cur.illegalError)
  | .bracketOpen | .equal | .string | .text =>
    (none, p.giveUp ⟨.unexpectedToken p.peek.kind, p.peek.position⟩)
termination_by p.ahead
decreasing_by
  have read := ahead_parseParam_le p.advance command
  have taken : p.advance.ahead < p.ahead := ahead_advance_lt (by simp [_kind])
  rw [_param] at read
  split <;> exact Nat.lt_of_le_of_lt read taken

theorem ahead_parseParams_le (opened : Position) (command : String) (params : Params)
    (p : Parser) : (parseParams opened command params p).2.ahead ≤ p.ahead := by
  fun_induction parseParams opened command params p with
  | case1 params p closed => exact p.ahead_advance_le
  | case2 => exact Nat.le_refl _
  | case3 params p kind p' read =>
    have bound := ahead_parseParam_le p.advance command
    rw [read] at bound
    exact Nat.le_trans bound p.ahead_advance_le
  | case4 params p kind key value p' read warned ih =>
    have bound := ahead_parseParam_le p.advance command
    rw [read] at bound
    refine Nat.le_trans ih (Nat.le_trans ?_ p.ahead_advance_le)
    unfold warned
    split <;> exact bound
  | case5 params p kind => exact Nat.le_trans (ahead_synchronize_le _) p.ahead_advance_le
  | case6 params p kind | case7 params p kind | case8 params p kind | case9 params p kind =>
    exact ahead_synchronize_le _

/-- Reads `[name key="value" ...]`, with the opening bracket in hand. -/
def parseCommand (p : Parser) : Option Expression × Parser :=
  let opened := p.cur.position
  match p.peek.kind with
  | .ident =>
    let p := p.advance
    let name := p.cur.literal
    let (params, p) := parseParams opened name .empty p
    (params.map (.command name), p)
  | .endOfInput => (none, p.pushError ⟨.missingCommandName, opened⟩)
  | _ => (none, p.giveUp ⟨.missingCommandName, p.peek.position⟩)

def parseText (p : Parser) : Option Expression × Parser := (some (.text p.cur.literal), p)

/-- How an expression is read that begins with such a token, if any does. -/
def reader? : TokenKind → Option (Parser → Option Expression × Parser)
  | .text => some parseText
  | .bracketOpen => some parseCommand
  | _ => none

/-- Blames the token in hand, with which no expression begins. -/
def pushNoStatement (p : Parser) : Parser :=
  match p.cur.token? with
  | some t => p.pushError ⟨.noStatement t, p.cur.position⟩
  | none => p

def parseExpression (p : Parser) : Option Expression × Parser :=
  match reader? p.cur.kind with
  | some read => read p
  | none => (none, p.pushNoStatement)

def parseStatement (p : Parser) : Option Statement × Parser :=
  let position := p.cur.position
  let (expression, p) := p.parseExpression
  (expression.map (⟨·, position⟩), p)

theorem ahead_parseStatement_le (p : Parser) : p.parseStatement.2.ahead ≤ p.ahead := by
  have command : p.parseCommand.2.ahead ≤ p.ahead := by
    unfold parseCommand
    split
    · exact Nat.le_trans (ahead_parseParams_le ..) p.ahead_advance_le
    · exact Nat.le_refl _
    · exact ahead_synchronize_le _
  change p.parseExpression.2.ahead ≤ p.ahead
  unfold parseExpression
  cases p.cur.kind with
  | text => exact Nat.le_refl _
  | bracketOpen => exact command
  | _ =>
    dsimp only [reader?]
    unfold pushNoStatement
    split <;> exact Nat.le_refl _

end Parser

/-- Where the loop is: the statements read so far, and the parser. -/
structure Parsing where
  statements : List Statement
  parser : Parser

namespace Parsing

def ofSource (source : List Char) : Parsing := ⟨[], .ofSource source⟩

/-- One turn: a statement is read, if one can be, and what is ahead is taken in hand. -/
def turn (s : Parsing) : Parsing :=
  let (statement, p) := s.parser.parseStatement
  ⟨s.statements ++ statement.toList, p.advance⟩

def ended (s : Parsing) : Bool := s.parser.cur.kind = .endOfInput

theorem left_turn_lt {s : Parsing} (more : s.ended = false) : s.turn.parser.left < s.parser.left := by
  have token : s.parser.cur.weight = 1 := Front.weight_of_kind (of_decide_eq_false more)
  have read := s.parser.ahead_parseStatement_le
  have taken := s.parser.parseStatement.2.left_advance_le
  rw [Parser.left.eq_def s.parser, token]
  exact Nat.lt_succ_of_le (Nat.le_trans taken read)

/-- Turns until the end of the script is in hand. -/
def run (s : Parsing) : Parsing := if s.ended then s else s.turn.run
termination_by s.parser.left
decreasing_by exact left_turn_lt (Bool.eq_false_iff.mpr ‹_›)

end Parsing

/-- Reads a script to its end. -/
def parseProgram (source : List Char) : Parsing := (Parsing.ofSource source).run

end Dialogue.Script
