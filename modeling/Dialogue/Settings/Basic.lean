import Dialogue.Check.ConfigJson
import Dialogue.Playback.ConfirmEdge
import Dialogue.Typewriter.ConfigJson

/-! The settings of the terminal host: how fast it plays, what it tells its checker, and which pace
its typewriter has. -/
namespace Dialogue

structure Settings where
  /-- The least time between two frames, in milliseconds. -/
  frameInterval : Nat
  debounce : Nat
  checker : Check.Config
  typewriter : Typewriter.Config
  deriving DecidableEq, Repr

namespace Settings

def defaultFrameInterval : Nat := 16

def default : Settings where
  frameInterval := defaultFrameInterval
  debounce := Playback.defaultDebounce
  checker := .default
  typewriter := .default

inductive Error
  | invalidMarker (name : String)
  | invalidCommand (name : String)
  | frameIntervalTooLong
  deriving DecidableEq, Repr

def Error.message : Error → String
  | .invalidMarker name => "翻页命令名无效: " ++ Text.quote name
  | .invalidCommand name => "命令名无效: " ++ Text.quote name
  | .frameIntervalTooLong => "frame_interval_ms 不能超过 1000"

def greatestFrameInterval : Nat := 1000

/-- Characters that the settings take in a name. -/
def isNameLetter (c : Char) : Bool := Text.isAlphabetic c || c == '_'

/-- Whether the settings take a name for that of a command. -/
def isCommandName (name : String) : Bool := !name.isEmpty && name.toList.all isNameLetter

/-- Settings and scripts have the same characters in names, each by a rule of its own. -/
theorem isNameLetter_eq_isNameChar : isNameLetter = Script.isNameChar := rfl

def validate (s : Settings) : Except Error Unit :=
  if !isCommandName s.checker.marker then .error (.invalidMarker s.checker.marker)
  else
    match s.checker.knownCommands.find? (!isCommandName ·) with
    | some name => .error (.invalidCommand name)
    | none =>
      if greatestFrameInterval < s.frameInterval then .error .frameIntervalTooLong else .ok ()

/-- A pace given by its own text stands before a preset, and that before the settings. -/
def resolveTypewriterBy (c : Json.Codec) (s : Settings) (preset : Option Typewriter.Preset)
    (json : Option String) : Except Typewriter.ConfigError Typewriter.Config :=
  match json with
  | some text => Typewriter.Config.parseBy c text
  | none =>
    match preset with
    | some preset => .ok preset.config
    | none => .ok s.typewriter

def resolveTypewriter (s : Settings) (preset : Option Typewriter.Preset) (json : Option String) :
    Except Typewriter.ConfigError Typewriter.Config :=
  s.resolveTypewriterBy .standard preset json

end Settings
end Dialogue
