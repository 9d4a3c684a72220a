import Dialogue.Script.Scanner

/-! Tokens grouped by where statements start. A command reaches from its opening bracket to the
first bracket after it, of either kind, so that one broken command never swallows another. -/
namespace Dialogue.Script

/-- What stops the tokens of a command. -/
inductive Ending
  | closed (position : Position)
  | reopened (position : Position)
  | endOfInput (position : Position)
  deriving DecidableEq, Repr

def Ending.position : Ending → Position
  | .closed p | .reopened p | .endOfInput p => p

inductive Segment
  | text (content : String) (position : Position)
  /-- A token that stands outside a command and starts no statement. -/
  | stray (token : Token) (position : Position)
  | command (position : Position) (body : List Lexeme) (ending : Ending)
  deriving DecidableEq, Repr

def Lexeme.isInner (l : Lexeme) : Bool := !l.token.isBracket

theorem length_lt_of_dropWhile {p : Lexeme → Bool} {ls rest : List Lexeme} {l : Lexeme}
    (h : ls.dropWhile p = l :: rest) : rest.length < ls.length := by
  have := (List.dropWhile_suffix (l := ls) p).length_le
  rw [h, List.length_cons] at this
  omega

/-- The segments of a token list, of a script that ends at `finish`. -/
def segments (finish : Position) : List Lexeme → List Segment
  | [] => []
  | ⟨.text content, p⟩ :: ls => .text content p :: segments finish ls
  | ⟨.bracketOpen, p⟩ :: ls =>
    match _stop : ls.dropWhile Lexeme.isInner with
    | [] => [.command p (ls.takeWhile Lexeme.isInner) (.endOfInput finish)]
    | ⟨.bracketClose, q⟩ :: rest =>
      .command p (ls.takeWhile Lexeme.isInner) (.closed q) :: segments finish rest
    | ⟨t, q⟩ :: rest =>
      .command p (ls.takeWhile Lexeme.isInner) (.reopened q) :: segments finish (⟨t, q⟩ :: rest)
  | ⟨t, p⟩ :: ls => .stray t p :: segments finish ls
termination_by ls => ls.length
decreasing_by
  · simp
  · exact Nat.lt_succ_of_lt (length_lt_of_dropWhile _stop)
  · exact Nat.succ_lt_succ (length_lt_of_dropWhile _stop)
  · simp

end Dialogue.Script
