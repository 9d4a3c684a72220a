/-! The confirm key. Holding it down counts once, and two presses count only if they are far enough
apart in time. -/
namespace Dialogue.Playback

/-- The least time between two presses, in milliseconds, where a host does not choose one. -/
def defaultDebounce : Nat := 150

structure ConfirmEdge where
  debounce : Nat := defaultDebounce
  wasPressed : Bool := false
  lastFired : Option Nat := none
  deriving DecidableEq, Repr

namespace ConfirmEdge

/-- Whether a press at `now` comes too soon after the last one. -/
def isTooSoon (e : ConfirmEdge) (now : Nat) : Bool :=
  match e.lastFired with
  | none => false
  | some last => now - last < e.debounce

/-- Reads the key at `now`, and says whether it counts as a fresh press. -/
def poll (e : ConfirmEdge) (pressed : Bool) (now : Nat) : Bool × ConfirmEdge :=
  if pressed && !e.wasPressed && !e.isTooSoon now then
    (true, { e with wasPressed := true, lastFired := some now })
  else (false, { e with wasPressed := pressed })

/-- Forgets every press. -/
def reset (e : ConfirmEdge) : ConfirmEdge := { e with wasPressed := false, lastFired := none }

end ConfirmEdge
end Dialogue.Playback
