import Dialogue.Script.Segment
import Dialogue.Proofs.Script.Scanning

/-! The segments of a token list, case by case: a text, a stray token, or a command up to the first
bracket behind its own. The scanner never reads a text between brackets, nor the tokens of a command
outside of them, and of such token lists properties are shown segment by segment. -/
namespace Dialogue.Script

/-- What stands behind the inner tokens of a command. -/
inductive Stop : List Lexeme → Prop where
  | closed : Stop (⟨.bracketClose, q⟩ :: rest)
  | reopened : Stop (⟨.bracketOpen, q⟩ :: rest)
  | endOfInput : Stop []

/-- How the stop ends a command of a script that reaches to `finish`. -/
def endingOf (finish : Position) : List Lexeme → Ending
  | [] => .endOfInput finish
  | ⟨.bracketClose, q⟩ :: _ => .closed q
  | ⟨_, q⟩ :: _ => .reopened q

/-- The tokens that are read on behind the command. -/
def afterStop : List Lexeme → List Lexeme
  | ⟨.bracketClose, _⟩ :: rest => rest
  | ls => ls

theorem afterStop_suffix (ls : List Lexeme) : afterStop ls <:+ ls := by
  unfold afterStop
  split
  · exact List.suffix_cons _ _
  · exact List.suffix_refl _

theorem stop_dropWhile (ls : List Lexeme) : Stop (ls.dropWhile Lexeme.isInner) := by
  cases stop : ls.dropWhile Lexeme.isInner with
  | nil => exact .endOfInput
  | cons l rest =>
    have outer := List.head?_dropWhile_not Lexeme.isInner ls
    obtain ⟨t, q⟩ := l
    cases t with
    | bracketOpen => exact .reopened
    | bracketClose => exact .closed
    | _ => simp [stop, Lexeme.isInner, Token.isBracket] at outer

theorem Stop.stopsAt {stop : List Lexeme} (h : Stop stop) : StopsAt Lexeme.isInner stop := by
  cases h with
  | closed | reopened =>
    rintro l ⟨⟩
    rfl
  | endOfInput => rintro l ⟨⟩

/-- Every token list is inner tokens up to a stop. -/
theorem exists_stop (ls : List Lexeme) :
    ∃ body stop, ls = body ++ stop ∧ (∀ l ∈ body, l.isInner = true) ∧ Stop stop :=
  ⟨ls.takeWhile Lexeme.isInner, ls.dropWhile Lexeme.isInner, List.takeWhile_append_dropWhile.symm,
    List.all_eq_true.1 List.all_takeWhile, stop_dropWhile ls⟩

theorem segments_text (finish : Position) (content : String) (p : Position) (ls : List Lexeme) :
    segments finish (⟨.text content, p⟩ :: ls) = .text content p :: segments finish ls := by
  rw [segments]

theorem segments_close (finish p : Position) (ls : List Lexeme) :
    segments finish (⟨.bracketClose, p⟩ :: ls) = .stray .bracketClose p :: segments finish ls := by
  rw [segments] <;> simp

theorem segments_open (finish p : Position) {body stop : List Lexeme}
    (inner : ∀ l ∈ body, l.isInner = true) (h : Stop stop) :
    segments finish (⟨.bracketOpen, p⟩ :: (body ++ stop)) =
      .command p body (endingOf finish stop) :: segments finish (afterStop stop) := by
  have drop := dropWhile_run inner h.stopsAt
  have take := takeWhile_run inner h.stopsAt
  rw [segments, take]
  split
  · next nothing =>
    rw [drop] at nothing
    subst nothing
    rw [endingOf, afterStop, segments]
    rintro q rest ⟨⟩
  · next q rest closed =>
    rw [drop] at closed
    subst closed
    rfl
  · next t q rest notClosed other =>
    rw [drop] at other
    subst other
    cases h with
    | closed => exact absurd rfl notClosed
    | reopened => rfl

/-- The tokens that can stand between brackets, and outside of them. -/
def Token.Allowed (inside : Bool) : Token → Prop
  | .bracketOpen | .bracketClose => True
  | .text _ => inside = false
  | _ => inside = true

/-- Every token is one that can stand where it stands. -/
inductive Moded : Bool → List Lexeme → Prop where
  | nil : Moded inside []
  | cons : l.token.Allowed inside → Moded (l.token.staysInside inside) ls → Moded inside (l :: ls)

theorem Token.Fits.allowed {inside : Bool} {rest : List Char} {t : Token}
    (fits : t.Fits inside rest) : t.Allowed inside := by
  cases t with
  | bracketOpen | bracketClose => trivial
  | equal => exact fits
  | _ => exact fits.1

theorem Scanner.Scans.moded {s : Scanner} {ls : List Lexeme} (scans : s.Scans ls) :
    Moded s.inside ls := by
  induction scans with
  | done => exact .nil
  | read reads _ ih => exact .cons reads.fits.allowed (reads.mode ▸ ih)

theorem Moded.tail {inside : Bool} {l : Lexeme} {ls : List Lexeme} (moded : Moded inside (l :: ls)) :
    Moded (l.token.staysInside inside) ls := by
  cases moded with
  | cons _ moded => exact moded

theorem Moded.head {inside : Bool} {l : Lexeme} {ls : List Lexeme} (moded : Moded inside (l :: ls)) :
    l.token.Allowed inside := by
  cases moded with
  | cons allowed _ => exact allowed

theorem Moded.behind {inside : Bool} {body stop : List Lexeme} (inner : ∀ l ∈ body, l.isInner = true)
    (moded : Moded inside (body ++ stop)) : Moded inside stop := by
  induction body with
  | nil => exact moded
  | cons l body ih =>
    have within := inner l List.mem_cons_self
    have tail := moded.tail
    have same : l.token.staysInside inside = inside := by
      cases h : l.token <;> simp_all [Lexeme.isInner, Token.isBracket, Token.staysInside]
    rw [same] at tail
    exact ih (fun l hl => inner l (List.mem_cons_of_mem _ hl)) tail

/-- Behind a command reading goes on outside, on the first bracket that is not its own. -/
theorem Moded.afterStop {stop : List Lexeme} (h : Stop stop) (moded : Moded true stop) :
    Moded false (afterStop stop) := by
  cases h with
  | closed => exact moded.tail
  | reopened => exact .cons trivial moded.tail
  | endOfInput => exact .nil

/-- What holds of the tokens behind every segment, and so of those from the segment on, holds of
all tokens. The induction is on their number: the stop of a command is no tail by its shape. -/
@[elab_as_elim]
theorem Moded.segmentwise {P : List Lexeme → Prop} (nil : P [])
    (text : ∀ content p ls, P ls → P (⟨.text content, p⟩ :: ls))
    (stray : ∀ p ls, P ls → P (⟨.bracketClose, p⟩ :: ls))
    (command : ∀ p body stop, (∀ l ∈ body, l.isInner = true) → Stop stop →
      Moded true (body ++ stop) → P (Script.afterStop stop) →
      P (⟨.bracketOpen, p⟩ :: (body ++ stop)))
    {ls : List Lexeme} (moded : Moded false ls) : P ls := by
  have bounded : ∀ n (ls : List Lexeme), ls.length ≤ n → Moded false ls → P ls := by
    intro n
    induction n with
    | zero =>
      intro ls none _
      obtain rfl := List.length_eq_zero_iff.1 (Nat.le_zero.1 none)
      exact nil
    | succ n ih =>
      intro ls few moded
      cases ls with
      | nil => exact nil
      | cons l ls =>
        obtain ⟨t, p⟩ := l
        rw [List.length_cons, Nat.succ_le_succ_iff] at few
        have allowed := moded.head
        cases t with
        | text content => exact text content p ls (ih ls few moded.tail)
        | bracketClose => exact stray p ls (ih ls few moded.tail)
        | bracketOpen =>
          obtain ⟨body, stop, rfl, inner, h⟩ := exists_stop ls
          have fewer : (Script.afterStop stop).length ≤ n := by
            have := (afterStop_suffix stop).length_le
            rw [List.length_append] at few
            omega
          have behind := moded.tail.behind inner
          exact command p body stop inner h moded.tail (ih _ fewer (behind.afterStop h))
        | equal | string _ | ident _ | openString _ | illegal _ => contradiction
  exact bounded ls.length ls (Nat.le_refl _) moded

end Dialogue.Script
