import Dialogue.Playback.Event
import Dialogue.Proofs.Script.Acceptance
import Dialogue.Proofs.Script.Relocation

/-! Scripts side by side. A script that does not end within a command is read as if nothing stood
behind it, unless what stands there goes on with its last text. What is read behind it is then read
as a script of its own, from the place where the first one ends. -/
namespace Dialogue.Script

theorem InCommand.of_suffix {ls ms : List Lexeme} (h : InCommand ls) (suffix : ls <:+ ms) :
    InCommand ms := by
  obtain ⟨before, p, after, rfl, unclosed⟩ := h
  obtain ⟨earlier, rfl⟩ := suffix
  exact ⟨earlier ++ before, p, after, by simp, unclosed⟩

theorem inCommand_of_inner {body : List Lexeme} (inner : ∀ l ∈ body, l.isInner = true)
    (p : Position) : InCommand (⟨.bracketOpen, p⟩ :: body) := by
  refine ⟨[], p, body, rfl, ?_⟩
  intro l mem isClose
  have within := inner l mem
  simp [Lexeme.isInner, isClose, Token.isBracket] at within

/-- A stop that is there stays where it is when more tokens follow. -/
theorem Stop.append {stop : List Lexeme} (h : Stop stop) (nonempty : stop ≠ [])
    (finish finish' : Position) (ms : List Lexeme) :
    Stop (stop ++ ms) ∧ endingOf finish (stop ++ ms) = endingOf finish' stop ∧
      afterStop (stop ++ ms) = afterStop stop ++ ms := by
  cases h with
  | closed => exact ⟨.closed, rfl, rfl⟩
  | reopened => exact ⟨.reopened, rfl, rfl⟩
  | endOfInput => contradiction

/-- Where the first tokens leave no command open, the later ones are grouped by themselves. -/
theorem segments_append (finish finish' : Position) {ls : List Lexeme} (moded : Moded false ls)
    (ms : List Lexeme) (closed : ¬ InCommand ls) :
    segments finish (ls ++ ms) = segments finish' ls ++ segments finish ms := by
  revert closed
  refine moded.segmentwise ?_ ?_ ?_ ?_
  · intro _
    have nothing : segments finish' [] = [] := by rw [segments]
    rw [nothing]
    rfl
  · intro content p ls ih closed
    have later := ih fun h => closed (h.of_suffix (List.suffix_cons _ _))
    rw [List.cons_append, segments_text, segments_text, later, List.cons_append]
  · intro p ls ih closed
    have later := ih fun h => closed (h.of_suffix (List.suffix_cons _ _))
    rw [List.cons_append, segments_close, segments_close, later, List.cons_append]
  · intro p body stop inner stops _ ih closed
    -- The command is stopped by a bracket, since the tokens leave none open.
    have ended : stop ≠ [] := by
      rintro rfl
      rw [List.append_nil] at closed
      exact closed (inCommand_of_inner inner p)
    have behind : afterStop stop <:+ ⟨.bracketOpen, p⟩ :: (body ++ stop) :=
      (afterStop_suffix stop).trans ((List.suffix_append body stop).trans (List.suffix_cons _ _))
    obtain ⟨stops', ending, after⟩ := stops.append ended finish finish' ms
    rw [List.cons_append, List.append_assoc, segments_open _ _ inner stops',
      segments_open _ _ inner stops, ending, after, ih fun h => closed (h.of_suffix behind),
      List.cons_append]

variable {p : Char → Bool} {cs : List Char}

theorem stopsAt_append (nonempty : cs ≠ []) (ds : List Char) (stops : StopsAt p cs) :
    StopsAt p (cs ++ ds) := by
  obtain ⟨c, cs, rfl⟩ := List.exists_cons_of_ne_nil nonempty
  exact stops

/-- A token still fits where more stands behind the script: at its end, only a text could go on. -/
theorem Token.Fits.append {inside : Bool} {rest ds : List Char} {t : Token}
    (fits : t.Fits inside rest) (outside : rest = [] → t.staysInside inside = false)
    (parted : rest = [] → t.kind = .text → StopsAt isPlain ds) : t.Fits inside (rest ++ ds) := by
  cases t with
  | bracketOpen | bracketClose | equal | string _ | illegal _ => exact fits
  | ident name =>
    obtain ⟨within, run, stops⟩ := fits
    refine ⟨within, run, stopsAt_append ?_ ds stops⟩
    intro ended
    exact absurd (outside ended) (by simp [staysInside, within])
  | text content =>
    obtain ⟨without, run, stops⟩ := fits
    refine ⟨without, run, ?_⟩
    by_cases ended : rest = []
    · subst ended
      exact parted rfl rfl
    · exact stopsAt_append ended ds stops
  | openString content =>
    obtain ⟨within, -, ended⟩ := fits
    exact absurd (outside ended) (by simp [staysInside, within])

namespace Scanner

/-- The scanner at the end of the script. -/
def exhaust (s : Scanner) : Scanner :=
  match _read : s.next? with
  | none => s.settle
  | some (_, s') => s'.exhaust
termination_by s.rest.length
decreasing_by exact length_rest_of_next? _read

variable {s s' : Scanner} {gap : List Char} {l : Lexeme} {ls : List Lexeme}

theorem exhaust_of_atEnd (atEnd : s.AtEnd) : s.exhaust = ⟨[], s.endPosition, s.inside⟩ := by
  rw [exhaust, next?_eq_none_iff.2 atEnd]
  exact atEnd.settle_eq

theorem Reads.exhaust_eq (reads : s.Reads gap l s') : s.exhaust = s'.exhaust := by
  rw [exhaust, next?_eq_some_iff.2 ⟨gap, reads⟩]

/-- The scanner ends within a command if the tokens leave one open. -/
theorem Scans.exhaust_inside (scans : s.Scans ls) {before : List Lexeme}
    (mode : s.inside = true ↔ InCommand before) :
    s.exhaust.inside = true ↔ InCommand (before ++ ls) := by
  induction scans generalizing before with
  | done atEnd =>
    rw [exhaust_of_atEnd atEnd, List.append_nil]
    exact mode
  | @read s gap l s' ls reads _ ih =>
    rw [reads.exhaust_eq, ih (reads.inside_iff mode), List.append_assoc]
    rfl

theorem Scans.eq_nil (scans : s.Scans ls) (ended : s.rest = []) : ls = [] := by
  cases scans with
  | done => rfl
  | read reads =>
    have covers := reads.covers
    simp [ended, span_ne_nil reads.fits] at covers

/-- The scanner, with more characters behind its script. -/
def followedBy (ds : List Char) (s : Scanner) : Scanner := { s with rest := s.rest ++ ds }

theorem Reads.followedBy {ds : List Char} (reads : s.Reads gap l s')
    (outside : s'.rest = [] → s'.inside = false)
    (parted : s'.rest = [] → l.token.kind = .text → StopsAt isPlain ds) :
    (s.followedBy ds).Reads gap l (s'.followedBy ds) := by
  constructor
  · exact reads.skips
  · simp [Scanner.followedBy, reads.covers]
  · exact reads.fits.append (fun ended => reads.mode.symm.trans (outside ended)) parted
  · exact reads.start
  · exact reads.stop
  · exact reads.mode

/-- What stands behind a script is read where the script ends, and changes none of its tokens. -/
theorem Scans.append {ms : List Lexeme} {ds : List Char} (scans : s.Scans ls)
    (outside : s.exhaust.inside = false)
    (parted : (∀ l ∈ ls.getLast?, l.token.kind ≠ .text) ∨ StopsAt isPlain ds)
    (later : Scans ⟨ds, s.endPosition, false⟩ ms) : (s.followedBy ds).Scans (ls ++ ms) := by
  induction scans with
  | @done s atEnd =>
    rw [exhaust_of_atEnd atEnd] at outside
    have ended := atEnd.rest_eq_nil outside
    obtain ⟨rest, position, inside⟩ := s
    obtain rfl : rest = [] := ended
    obtain rfl : inside = false := outside
    exact later
  | @read s gap l s' ls reads scans ih =>
    rw [reads.exhaust_eq] at outside
    -- A token at the very end leaves the scanner outside, so it is no name and no open string.
    have mode : s'.rest = [] → s'.inside = false := by
      intro ended
      have atEnd : s'.AtEnd := by simp [AtEnd, ended]
      rwa [exhaust_of_atEnd atEnd] at outside
    have apart : s'.rest = [] → l.token.kind = .text → StopsAt isPlain ds := by
      intro ended text
      obtain rfl := scans.eq_nil ended
      rcases parted with last | stops
      · exact absurd text (last l rfl)
      · exact stops
    have parted' : (∀ m ∈ ls.getLast?, m.token.kind ≠ .text) ∨ StopsAt isPlain ds := by
      refine parted.imp_left fun last m mem => last m ?_
      cases ls with
      | nil => contradiction
      | cons => rwa [List.getLast?_cons_cons]
    rw [← reads.endPosition_eq] at later
    exact .read (reads.followedBy mode apart) (ih outside parted' later)

end Scanner

namespace Parsed

variable (f : Position → Position)

def moved (r : Parsed) : Parsed := ⟨r.items.map (Item.moved f)⟩

/-- What is read behind `r`. -/
def append (r later : Parsed) : Parsed := ⟨r.items ++ later.items⟩

theorem statements_append (r later : Parsed) :
    (r.append later).statements = r.statements ++ later.statements :=
  List.filterMap_append

theorem errors_append (r later : Parsed) : (r.append later).errors = r.errors ++ later.errors :=
  List.filterMap_append

theorem warnings_append (r later : Parsed) :
    (r.append later).warnings = r.warnings ++ later.warnings :=
  List.flatMap_append

theorem expressions_append (r later : Parsed) :
    (r.append later).program.expressions = r.program.expressions ++ later.program.expressions := by
  simp only [program, Program.expressions, statements_append, List.map_append]

theorem statements_moved (r : Parsed) :
    (r.moved f).statements = r.statements.map (Statement.moved f) := by
  rw [statements, statements, moved, List.filterMap_map, List.map_filterMap]
  refine List.filterMap_congr fun item _ => ?_
  cases h : item.outcome <;> simp [Item.moved, h, Except.map, Except.mapError, Except.toOption]

theorem errors_moved (r : Parsed) : (r.moved f).errors = r.errors.map (ParseError.moved f) := by
  rw [errors, errors, moved, List.filterMap_map, List.map_filterMap]
  refine List.filterMap_congr fun item _ => ?_
  cases h : item.outcome <;> simp [Item.moved, h, Except.map, Except.mapError]

theorem warnings_moved (r : Parsed) : (r.moved f).warnings = r.warnings.map (Warning.moved f) := by
  rw [warnings, warnings, moved, List.flatMap_map, List.map_flatMap]
  rfl

theorem expressions_moved (r : Parsed) :
    (r.moved f).program.expressions = r.program.expressions := by
  rw [program, program, Program.expressions, Program.expressions, statements_moved, List.map_map]
  rfl

end Parsed

theorem parse_append_eq {s t : List Char} (outside : (Scanner.ofSource s).exhaust.inside = false)
    (parted : (∀ l ∈ (tokens s).getLast?, l.token.kind ≠ .text) ∨ StopsAt isPlain t) :
    parse (s ++ t) = (parse s).append ((parse t).moved (endPosition s).offset) := by
  have scans := Scanner.scans_tokens (.ofSource s)
  have both := (scans.append outside parted (scans_from (endPosition s) t)).tokens_eq
  have closed : ¬ InCommand (tokens s) := by
    intro left
    have inside := (scans.exhaust_inside (Scanner.follows_ofSource s).mode).2 left
    exact absurd inside (by simp [outside])
  have moded : Moded false (tokens s) := scans.moded
  have tokens_append : tokens (s ++ t) =
      tokens s ++ (tokens t).map (Lexeme.moved (endPosition s).offset) := both
  have ends : endPosition (s ++ t) = (endPosition s).after t := Position.after_append _ _ _
  rw [parse, tokens_append, segments_append _ (endPosition s) moded _ closed, List.map_append, ends,
    items_from]
  rfl

section Compile

open Playback

variable {s t : List Char} {marker : String} {es : List Event}

theorem compile_eq_ok_iff : compile marker s = .ok es ↔
    (parse s).errors = [] ∧ eventsOf marker (parse s).program = es := by
  simp only [compile, Parsed.strict]
  split <;> simp_all [Except.map]

/-- A script does not compile exactly if there are errors in it, and these are told. -/
theorem compile_eq_error_iff {e : CompileError} : compile marker s = .error e ↔
    (parse s).errors ≠ [] ∧ e = ⟨(parse s).errors⟩ := by
  rw [compile, Parsed.strict]
  cases errors : (parse s).errors with
  | nil => simp [Except.map]
  | cons first rest => simp [Except.map, eq_comm]

/-- Scripts that are read one behind the other compile together if each of them does. -/
theorem compile_append_iff
    (parsed : parse (s ++ t) = (parse s).append ((parse t).moved (endPosition s).offset)) :
    compile marker (s ++ t) = .ok es ↔ ∃ front back, compile marker s = .ok front ∧
      compile marker t = .ok back ∧ es = front ++ back := by
  have sound : (parse (s ++ t)).errors = [] ↔ (parse s).errors = [] ∧ (parse t).errors = [] := by
    rw [parsed, Parsed.errors_append, Parsed.errors_moved, List.append_eq_nil_iff,
      List.map_eq_nil_iff]
  have events : eventsOf marker (parse (s ++ t)).program =
      eventsOf marker (parse s).program ++ eventsOf marker (parse t).program := by
    rw [parsed, eventsOf, Parsed.expressions_append, Parsed.expressions_moved]
    exact List.filterMap_append
  rw [compile_eq_ok_iff, sound, events]
  constructor
  · rintro ⟨⟨first, second⟩, rfl⟩
    exact ⟨_, _, compile_eq_ok_iff.2 ⟨first, rfl⟩, compile_eq_ok_iff.2 ⟨second, rfl⟩, rfl⟩
  · rintro ⟨front, back, compiled, compiled', rfl⟩
    obtain ⟨first, rfl⟩ := compile_eq_ok_iff.1 compiled
    obtain ⟨second, rfl⟩ := compile_eq_ok_iff.1 compiled'
    exact ⟨⟨first, second⟩, rfl⟩

end Compile

/-- A script that ends outside of commands, and not in a text that the next one goes on with, says
with the next one behind it what both say one after the other, whether or not there are errors in
them; the places in the second are told from where the first ends. -/
theorem parse_append {s t : List Char} (outside : (Scanner.ofSource s).exhaust.inside = false)
    (parted : (∀ l ∈ (tokens s).getLast?, l.token.kind ≠ .text) ∨
      ∀ c ∈ t.head?, c = '[' ∨ c = ']') :
    (parse (s ++ t)).statements =
        (parse s).statements ++ (parse t).statements.map (Statement.moved (endPosition s).offset) ∧
      (parse (s ++ t)).errors =
        (parse s).errors ++ (parse t).errors.map (ParseError.moved (endPosition s).offset) ∧
      (parse (s ++ t)).warnings =
        (parse s).warnings ++ (parse t).warnings.map (Warning.moved (endPosition s).offset) ∧
      ∀ (marker : String) (es : List Playback.Event), Playback.compile marker (s ++ t) = .ok es ↔
        ∃ front back, Playback.compile marker s = .ok front ∧
          Playback.compile marker t = .ok back ∧ es = front ++ back := by
  have apart : (∀ l ∈ (tokens s).getLast?, l.token.kind ≠ .text) ∨ StopsAt isPlain t := by
    refine parted.imp_right fun brackets c head => ?_
    rcases brackets c head with rfl | rfl <;> rfl
  have parsed := parse_append_eq outside apart
  refine ⟨?_, ?_, ?_, fun marker es => compile_append_iff parsed⟩
  · rw [parsed, Parsed.statements_append, Parsed.statements_moved]
  · rw [parsed, Parsed.errors_append, Parsed.errors_moved]
  · rw [parsed, Parsed.warnings_append, Parsed.warnings_moved]

theorem parse_append_behind_errors :
    let s := "a\n[x 1][r k=\"1\" k=\"2\"]".toList
    let t := "b\n]c[".toList
    (Scanner.ofSource s).exhaust.inside = false ∧
      (∀ l ∈ (tokens s).getLast?, l.token.kind ≠ .text) ∧
      (parse (s ++ t)).errors = [⟨.illegalCharacter '1', ⟨2, 4⟩⟩,
        ⟨.noStatement .bracketClose, ⟨3, 1⟩⟩, ⟨.missingCommandName, ⟨3, 3⟩⟩] := by
  intro s t
  have outside : (Scanner.ofSource s).exhaust.inside = false := by decide +kernel
  have command : ∀ l ∈ (tokens s).getLast?, l.token.kind ≠ .text := by decide +kernel
  obtain ⟨-, errors, -, -⟩ := parse_append (t := t) outside (.inl command)
  exact ⟨outside, command, errors.trans (by decide +kernel)⟩

end Dialogue.Script
