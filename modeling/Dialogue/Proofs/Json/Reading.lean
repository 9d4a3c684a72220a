import Dialogue.Json.Decode

/-! Reading values, told from the result: what a reader makes something of, and what it then is. -/
namespace Dialogue

theorem bind_eq_ok {x : Except ε α} {f : α → Except ε β} {b : β} :
    (x >>= f) = .ok b ↔ ∃ a, x = .ok a ∧ f a = .ok b := by
  cases x with
  | error fault => simp [bind, Except.bind]
  | ok a => simp [bind, Except.bind]

theorem map_eq_ok {x : Except ε α} {f : α → β} {b : β} :
    x.map f = .ok b ↔ ∃ a, x = .ok a ∧ f a = b := by
  cases x with
  | error fault => simp [Except.map]
  | ok a => simp [Except.map]

namespace Json
namespace Tree

theorem requireClosed_eq_ok {closed : Bool} : requireClosed closed = .ok () ↔ closed = true := by
  cases closed <;> simp [requireClosed]

theorem skip_eq_ok {t : Tree} : t.skip = .ok () ↔ t.isWhole = true := by
  unfold skip
  split <;> simp_all

theorem asNatural_eq_ok {t : Tree} {n : Nat} :
    t.asNatural = .ok n ↔ t = .number (some (.natural n)) := by
  unfold asNatural
  split <;> simp_all

theorem asBool_eq_ok {t : Tree} {b : Bool} : t.asBool = .ok b ↔ t = .bool b := by
  cases t <;> simp [asBool]

theorem asString_eq_ok {t : Tree} {s : String} : t.asString = .ok s ↔ t = .string (some s) := by
  unfold asString
  split <;> simp_all

theorem mapM_asString_eq_ok {ts : List Tree} {ss : List String} :
    ts.mapM asString = .ok ss ↔ ts = ss.map fun s => .string (some s) := by
  induction ts generalizing ss with
  | nil => cases ss <;> simp [pure, Except.pure]
  | cons t ts ih =>
    rw [List.mapM_cons, bind_eq_ok]
    simp only [bind_eq_ok, asString_eq_ok, ih]
    cases ss <;> simp [pure, Except.pure]

theorem asStrings_eq_ok {t : Tree} {ss : List String} :
    t.asStrings = .ok ss ↔ t = .array (ss.map fun s => .string (some s)) true := by
  cases t with
  | array items closed =>
    rw [asStrings, bind_eq_ok]
    constructor
    · rintro ⟨_, read, rest⟩
      obtain ⟨⟨⟩, closed, same⟩ := bind_eq_ok.mp rest
      rw [mapM_asString_eq_ok.mp read, requireClosed_eq_ok.mp closed, Except.ok.inj same]
    · rintro ⟨⟩
      exact ⟨ss, mapM_asString_eq_ok.mpr rfl, rfl⟩
  | _ => simp [asStrings]

mutual

theorem isWhole_of_isStorable {depth : Nat} :
    (t : Tree) → t.isStorable depth = true → t.isWhole = true
  | .null, _ | .bool _, _ | .number _, _ | .string _, _ => rfl
  | .array items closed, stored => by
    simp only [isStorable, Bool.and_eq_true] at stored
    rw [isWhole, allWhole_of_allStorable items stored.1.2, stored.2, Bool.and_true]
  | .object members closed, stored => by
    simp only [isStorable, Bool.and_eq_true] at stored
    rw [isWhole, allMembersWhole_of_allMembersStorable members stored.1.2, stored.2, Bool.and_true]

theorem allWhole_of_allStorable {depth : Nat} :
    (ts : List Tree) → allStorable depth ts = true → allWhole ts = true
  | [], _ => rfl
  | t :: ts, stored => by
    simp only [allStorable, Bool.and_eq_true] at stored
    rw [allWhole, isWhole_of_isStorable t stored.1, allWhole_of_allStorable ts stored.2,
      Bool.and_true]

theorem allMembersWhole_of_allMembersStorable {depth : Nat} :
    (ms : List (Option String × Tree)) → allMembersStorable depth ms = true →
      allMembersWhole ms = true
  | [], _ => rfl
  | (key, t) :: ms, stored => by
    simp only [allMembersStorable, Bool.and_eq_true] at stored
    rw [allMembersWhole, isWhole_of_isStorable t stored.1.2,
      allMembersWhole_of_allMembersStorable ms stored.2, Bool.and_true]

end

end Tree

theorem readText_eq_ok {reader : Tree → Except Fault α} {text : List Char} {a : α} :
    readText reader text = .ok a ↔
      (Document.ofText text).ended = true ∧ reader (Document.ofText text).tree = .ok a := by
  rw [readText, bind_eq_ok]
  constructor
  · rintro ⟨a', read, rest⟩
    obtain ⟨⟨⟩, ended, same⟩ := bind_eq_ok.mp rest
    obtain rfl := Except.ok.inj same
    exact ⟨Tree.requireClosed_eq_ok.mp ended, read⟩
  · rintro ⟨ended, read⟩
    exact ⟨a, read, by rw [ended]; rfl⟩

end Json
end Dialogue
