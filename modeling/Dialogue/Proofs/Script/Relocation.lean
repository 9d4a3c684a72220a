import Dialogue.Proofs.Script.Command
import Dialogue.Proofs.Script.Segments
import Dialogue.Proofs.Script.Tiling

/-! Scripts that start at another place. Where a script starts decides the places that reading tells
of, and nothing else: the parts of a reading are moved one by one. -/
namespace Dialogue.Script

namespace Position

/-- The place `p` of a script, told of a script that starts at `origin`. The first line goes on with
the line of the origin. -/
def offset (origin p : Position) : Position :=
  if p.line = 1 then ⟨origin.line, origin.column + (p.column - 1)⟩
  else ⟨origin.line + (p.line - 1), p.column⟩

theorem advance_offset (origin : Position) {p : Position} (line : 1 ≤ p.line)
    (column : 1 ≤ p.column) (c : Char) :
    (origin.offset p).advance c = origin.offset (p.advance c) := by
  grind [offset, advance]

theorem offset_after_start (origin : Position) (cs : List Char) :
    origin.offset (start.after cs) = origin.after cs := by
  induction cs using List.reverseRecOn with
  | nil => rfl
  | append_singleton cs c ih =>
    have line : 1 ≤ (start.after cs).line := by
      rw [start_after]
      exact Nat.le_add_right 1 _
    have column : 1 ≤ (start.after cs).column := by
      rw [start_after]
      exact Nat.le_add_right 1 _
    have step := origin.advance_offset line column c
    rw [after_append, after_append, ← ih]
    exact step.symm

end Position

variable (f : Position → Position)

def Lexeme.moved (l : Lexeme) : Lexeme := { l with position := f l.position }

def Ending.moved : Ending → Ending
  | .closed p => .closed (f p)
  | .reopened p => .reopened (f p)
  | .endOfInput p => .endOfInput (f p)

def Segment.moved : Segment → Segment
  | .text content p => .text content (f p)
  | .stray t p => .stray t (f p)
  | .command p body ending => .command (f p) (body.map (Lexeme.moved f)) (ending.moved f)

def Statement.moved (s : Statement) : Statement := { s with position := f s.position }

def ParseError.moved (e : ParseError) : ParseError := { e with position := f e.position }

def Warning.moved (w : Warning) : Warning := { w with position := f w.position }

/-- An item with every place it tells of moved. -/
def Item.moved (item : Item) : Item :=
  ⟨(item.outcome.map (Statement.moved f)).mapError (ParseError.moved f),
    item.warnings.map (Warning.moved f)⟩

theorem readParams_moved (start : Position) (name : String) (ending : Ending) (seen : Params)
    (ls : List Lexeme) :
    readParams (f start) name (ending.moved f) seen (ls.map (Lexeme.moved f)) =
      ((readParams start name ending seen ls).1.mapError (ParseError.moved f),
        (readParams start name ending seen ls).2.map (Warning.moved f)) := by
  fun_induction readParams start name ending seen ls with
  | case1 seen p closed =>
    subst closed
    rfl
  | case2 seen p reopened =>
    subst reopened
    rfl
  | case3 seen p ended =>
    subst ended
    rfl
  | case4 seen key p q value r ls result warnings rest ih =>
    rw [List.map_cons, List.map_cons, List.map_cons]
    simp only [Lexeme.moved, readParams]
    rw [ih, rest]
    by_cases known : seen.contains key
    · simp [known, Warning.moved, Warning.duplicateParam]
    · simp [known]
  | case5 | case8 | case9 => rfl
  | case6 seen key p q ls notString notOpen =>
    cases ls with
    | nil => cases ending <;> rfl
    | cons l ls =>
      obtain ⟨t, r⟩ := l
      cases t with
      | string value => exact (notString value r ls rfl).elim
      | openString content => exact (notOpen content r ls rfl).elim
      | _ => rfl
  | case7 seen key p ls _ _ notEqual =>
    cases ls with
    | nil => cases ending <;> rfl
    | cons l ls =>
      obtain ⟨t, r⟩ := l
      cases t with
      | equal => exact (notEqual r ls rfl).elim
      | _ => rfl
  | case10 seen t p ls _ _ _ notIdent notOpen notIllegal =>
    cases t with
    | ident key => exact (notIdent key rfl).elim
    | openString content => exact (notOpen content rfl).elim
    | illegal c => exact (notIllegal c rfl).elim
    | _ => rfl

theorem readCommand_moved (start : Position) (body : List Lexeme) (ending : Ending) :
    readCommand (f start) (body.map (Lexeme.moved f)) (ending.moved f) =
      (readCommand start body ending).moved f := by
  cases body with
  | nil => cases ending <;> rfl
  | cons l ls =>
    obtain ⟨t, p⟩ := l
    cases t with
    | ident name =>
      rw [List.map_cons]
      simp only [Lexeme.moved, readCommand, readParams_moved, Item.moved]
      cases (readParams start name ending .empty ls).1 <;> rfl
    | _ => rfl

theorem read_moved (x : Segment) : (x.moved f).read = x.read.moved f := by
  cases x with
  | text content p => rfl
  | stray t p => rfl
  | command p body ending => exact readCommand_moved f p body ending

theorem isInner_moved {body : List Lexeme} (inner : ∀ l ∈ body, l.isInner = true) :
    ∀ l ∈ body.map (Lexeme.moved f), l.isInner = true := by
  intro l mem
  obtain ⟨m, within, rfl⟩ := List.mem_map.1 mem
  exact inner m within

theorem segments_moved (finish : Position) {ls : List Lexeme} (moded : Moded false ls) :
    segments (f finish) (ls.map (Lexeme.moved f)) = (segments finish ls).map (Segment.moved f) := by
  refine moded.segmentwise ?_ ?_ ?_ ?_
  · rw [List.map_nil, segments, segments, List.map_nil]
  · intro content p ls ih
    rw [segments_text, List.map_cons, List.map_cons, ← ih]
    exact segments_text _ _ _ _
  · intro p ls ih
    rw [segments_close, List.map_cons, List.map_cons, ← ih]
    exact segments_close _ _ _
  · intro p body stop inner stops _ ih
    have inner' := isInner_moved f inner
    rw [segments_open _ _ inner stops, List.map_cons, List.map_cons, List.map_append, ← ih]
    cases stops with
    | closed => exact segments_open _ _ inner' .closed
    | reopened => exact segments_open _ _ inner' .reopened
    | endOfInput => exact segments_open _ _ inner' .endOfInput

namespace Scanner

def moved (s : Scanner) : Scanner := { s with position := f s.position }

/-- The move goes along with reading on from `p`. -/
def Carries (p : Position) : Prop := ∀ cs, f (p.after cs) = (f p).after cs

variable {f} {s s' : Scanner} {gap : List Char} {l : Lexeme}

theorem Carries.after {p : Position} (carries : Carries f p) (cs : List Char) :
    Carries f (p.after cs) := by
  intro ds
  rw [← Position.after_append, carries, carries, Position.after_append]

theorem Reads.carries (reads : s.Reads gap l s') (carries : Carries f s.position) :
    Carries f l.position ∧ Carries f s'.position := by
  have start : Carries f l.position := reads.start ▸ carries.after gap
  exact ⟨start, reads.stop ▸ start.after l.token.span⟩

theorem Reads.moved (reads : s.Reads gap l s') (carries : Carries f s.position) :
    (s.moved f).Reads gap (l.moved f) (s'.moved f) := by
  constructor
  · exact reads.skips
  · exact reads.covers
  · exact reads.fits
  · exact (congrArg f reads.start).trans (carries gap)
  · exact (congrArg f reads.stop).trans ((reads.carries carries).1 l.token.span)
  · exact reads.mode

theorem Scans.moved {ls : List Lexeme} (scans : s.Scans ls) (carries : Carries f s.position) :
    (s.moved f).Scans (ls.map (Lexeme.moved f)) := by
  induction scans with
  | done atEnd => exact .done atEnd
  | read reads _ ih => exact .read (reads.moved carries) (ih (reads.carries carries).2)

end Scanner

theorem carries_offset (origin : Position) : Scanner.Carries origin.offset .start := by
  intro cs
  rw [Position.offset_after_start]
  rfl

/-- The tokens of a script that starts at `origin`. -/
theorem scans_from (origin : Position) (source : List Char) :
    Scanner.Scans ⟨source, origin, false⟩ ((tokens source).map (Lexeme.moved origin.offset)) :=
  (Scanner.scans_tokens (.ofSource source)).moved (carries_offset origin)

/-- What a script says when it starts at `origin`. -/
theorem items_from (origin : Position) (source : List Char) :
    (segments (origin.after source) ((tokens source).map (Lexeme.moved origin.offset))).map
        Segment.read = (parse source).items.map (Item.moved origin.offset) := by
  have moded : Moded false (tokens source) := (Scanner.scans_tokens (.ofSource source)).moded
  rw [← Position.offset_after_start, ← endPosition, segments_moved _ _ moded, parse, List.map_map,
    List.map_map]
  exact List.map_congr_left fun x _ => read_moved _ x

end Dialogue.Script
