import Dialogue.Playback.PageReader
import Dialogue.Playback.ConfirmEdge
import Dialogue.Settings.Basic
import Dialogue.Text.Suffix

/-! Playing a script in a terminal. The player shows one unit of work a frame, asks for a line of
input at every stop, and turns pages by itself once the input has ended. Times are whole milliseconds
here too, and sums past the end of a clock's durations are left out. -/
namespace Dialogue.Terminal

open Playback

/-- The commands a terminal understands: a line break. -/
def commands : CommandTable Unit := CommandTable.register {} newlineCommand (insertText "\n")

/-- The script, ready to be played. -/
def queueOf (settings : Settings) (source : List Char) :
    Except Script.CompileError (Queue Unit) :=
  (compile settings.checker.marker source).map fun events => { events, host := () }

structure PlayOptions where
  typewriter : Typewriter.Config
  frameInterval : Nat
  debounce : Nat
  /-- Whether pages are turned without asking. -/
  auto : Bool

def PlayOptions.ofSettings (s : Settings) (auto : Bool) : PlayOptions :=
  ⟨s.typewriter, s.frameInterval, s.debounce, auto⟩

structure PlayReport where
  pages : Nat := 0
  chars : Nat := 0
  deriving DecidableEq, Repr

/-- What a terminal sees of a player. -/
inductive Effect
  | write (text : String)
  | sleep (millis : Nat)
  deriving DecidableEq, Repr

/-- What a player needs before its next frame. -/
inductive Demand
  /-- Nothing: it is not at a stop. -/
  | nothing
  /-- A line of input. -/
  | line
  /-- Time, after which it goes on. -/
  | time (millis : Nat)
  deriving DecidableEq, Repr

structure Player where
  pages : PageReader Unit
  edge : ConfirmEdge
  inputEnded : Bool := false
  /-- The size of what is written of the current page, in bytes. -/
  printed : Nat := 0
  report : PlayReport := {}

namespace Player

def start (queue : Queue Unit) (options : PlayOptions) : Player where
  pages := { queue }
  edge := { debounce := options.debounce }

def prompt : String := " ▼"

def atStop (p : Player) : Bool := p.pages.isWaiting || p.pages.queue.isFinished

def demand (options : PlayOptions) (p : Player) : Demand :=
  if !p.atStop then .nothing
  else if options.auto || p.inputEnded then .time options.typewriter.autoCompleteDelay
  else .line

def sleepFor (millis : Nat) : List Effect := if millis = 0 then [] else [.sleep millis]

/-- What is seen before a demand is met. -/
def Demand.effects : Demand → List Effect
  | .nothing => []
  | .line => [.write prompt]
  | .time millis => sleepFor millis

/-- A frame away from a stop: the key is up. -/
def release (p : Player) (now : Nat) : Player := { p with edge := (p.edge.poll false now).2 }

/-- A line counts as a press and a release; so does the end of the input. -/
def press (p : Player) (ended : Bool) (now : Nat) : Bool × Player :=
  let (confirm, edge) := p.edge.poll true now
  (confirm, { p with edge := (edge.poll false now).2, inputEnded := p.inputEnded || ended })

/-- What the display has gained, and the size of the display. -/
def gained (p : Player) (display : String) : List Char × Nat :=
  let printed := if display.utf8ByteSize < p.printed then 0 else p.printed
  (Text.suffixFrom printed display, display.utf8ByteSize)

/-- The time after a frame that revealed `chars`. -/
def frameDelay (options : PlayOptions) (chars : List Char) : Nat :=
  let delay := match chars.getLast? with
    | some c => options.typewriter.charDelay + options.typewriter.extraDelayAfter c
    | none => 0
  max delay options.frameInterval

/-- One frame: what it shows, and the player after it. -/
def frame (options : PlayOptions) (p : Player) (confirm : Bool) : List Effect × Player :=
  let (action, pages) := p.pages.tick commands confirm
  let (chars, printed) := p.gained pages.display
  let report := { p.report with chars := p.report.chars + chars.length }
  let turned := { report with pages := report.pages + 1 }
  let text := Effect.write (String.ofList chars)
  match action with
  | some .finished | some .advance =>
    ([text, .write "\n"], { p with pages, printed, report := turned })
  | some .skipped | none =>
    (text :: sleepFor (frameDelay options chars), { p with pages, printed, report })

/-- The demand is met, by a line of input or its end where one was asked for: whether that confirms
what is shown, and the player that goes into the frame. -/
def meet (p : Player) (demand : Demand) (inputEnded : Bool) (now : Nat) : Bool × Player :=
  match demand with
  | .nothing => (false, p.release now)
  | .line => p.press inputEnded now
  | .time _ => (true, p)

theorem frame_pages (options : PlayOptions) (p : Player) (confirm : Bool) :
    (p.frame options confirm).2.pages = (p.pages.tick commands confirm).2 := by
  unfold frame
  cases p.pages.tick commands confirm with
  | mk action pages => cases action with
    | none => rfl
    | some a => cases a <;> rfl

theorem frame_inputEnded (options : PlayOptions) (p : Player) (confirm : Bool) :
    (p.frame options confirm).2.inputEnded = p.inputEnded := by
  unfold frame
  cases p.pages.tick commands confirm with
  | mk action pages => cases action with
    | none => rfl
    | some a => cases a <;> rfl

end Player
end Dialogue.Terminal
