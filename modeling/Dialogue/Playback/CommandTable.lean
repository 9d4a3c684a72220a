import Dialogue.Playback.Event
import Dialogue.Text.Quoted

/-! The commands a host understands. A handler is a state machine over the host's state `σ`: it
sees the command and the display, and says whether the queue goes on. -/
namespace Dialogue.Playback

inductive Flow
  /-- The command is done. -/
  | proceed
  /-- The queue stops until it is told to go on. -/
  | halt
  deriving DecidableEq, Repr

/-- What a handler leaves behind. -/
structure Reply (σ : Type) where
  flow : Flow
  host : σ
  display : String

structure Handler (σ : Type) where
  /-- Runs before `run`, on the same command. -/
  prepare : Command → σ → σ := fun _ host => host
  run : Command → σ → String → Reply σ

/-- Adds a fixed text to the display. -/
def insertText (text : String) : Handler σ where
  run _ host display := ⟨.proceed, host, display ++ text⟩

/-- Waits, without touching the display. -/
def haltQueue : Handler σ where
  run _ host display := ⟨.halt, host, display⟩

/-- Handlers by name; of two with one name the one registered last counts. -/
structure CommandTable (σ : Type) where
  handlers : List (String × Handler σ) := []

namespace CommandTable

def register (t : CommandTable σ) (name : String) (handler : Handler σ) : CommandTable σ :=
  ⟨(name, handler) :: t.handlers⟩

def find? (t : CommandTable σ) (name : String) : Option (Handler σ) :=
  (t.handlers.find? (·.1 = name)).map (·.2)

def contains (t : CommandTable σ) (name : String) : Bool := (t.find? name).isSome

/-- The registered names, each once, in order. -/
def names (t : CommandTable σ) : List String :=
  ((t.handlers.map (·.1)).eraseDups).mergeSort (fun a b => decide (a ≤ b))

def inspect (t : CommandTable σ) : String :=
  "CommandTable \x7b handlers: " ++ Text.quoteList Text.quote t.names ++ " \x7d"

/-- A command that no handler is registered for is passed over. -/
def invoke (t : CommandTable σ) (c : Command) (host : σ) (display : String) : Reply σ :=
  match t.find? c.name with
  | none => ⟨.proceed, host, display⟩
  | some h => h.run c (h.prepare c host) display

theorem find?_register (t : CommandTable σ) (name other : String) (handler : Handler σ) :
    (t.register name handler).find? other =
      if name = other then some handler else t.find? other := by
  by_cases h : name = other <;> simp [register, find?, h]

end CommandTable
end Dialogue.Playback
