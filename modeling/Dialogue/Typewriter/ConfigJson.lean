import Dialogue.Json.Standard
import Dialogue.Typewriter.Config
import Dialogue.Typewriter.Duration

/-! The pace of a typewriter as JSON. Every field may be left out; an array gives the fields in
order. -/
namespace Dialogue.Typewriter

open Json

namespace Config

/-! Defaults of the fields, each for itself. -/

def defaultCharDelay : Nat := 50
def defaultPunctuationDelay : Nat := 400
def defaultCommaDelay : Nat := 200
def defaultNewlineDelay : Nat := 250
def defaultAutoCompleteDelay : Nat := 1500

def record (c : Codec) : Record Config where
  title := "struct TypewriterConfig"
  base := default
  fields := [
    .of "char_delay" (Duration.millis c) (·.charDelay)
      (fun n config => { config with charDelay := n }) defaultCharDelay,
    .of "punctuation_delay" (Duration.millis c) (·.punctuationDelay)
      (fun n config => { config with punctuationDelay := n }) defaultPunctuationDelay,
    .of "comma_delay" (Duration.millis c) (·.commaDelay)
      (fun n config => { config with commaDelay := n }) defaultCommaDelay,
    .of "newline_delay" (Duration.millis c) (·.newlineDelay)
      (fun n config => { config with newlineDelay := n }) defaultNewlineDelay,
    .of "skip_enabled" c.flag (·.skipEnabled)
      (fun b config => { config with skipEnabled := b }) true,
    .of "pause_enabled" c.flag (·.pauseEnabled)
      (fun b config => { config with pauseEnabled := b }) true,
    .of "auto_complete" c.flag (·.autoComplete)
      (fun b config => { config with autoComplete := b }) false,
    .of "auto_complete_delay" (Duration.millis c) (·.autoCompleteDelay)
      (fun n config => { config with autoCompleteDelay := n }) defaultAutoCompleteDelay]
  distinct := by simp [Field.of]

def coding (c : Codec) : Coding Config := c.record (record c)

def decode (c : Codec) (text : List Char) : Except Fault Config := c.ofText (coding c).read text

end Config

/-- Why no pace could be had. -/
inductive ConfigError
  | unknownPreset (name : String)
  | invalid (fault : Fault)
  deriving DecidableEq, Repr

def ConfigError.message : ConfigError → String
  | .unknownPreset name => s!"unknown typewriter preset '{name}'"
  | .invalid fault => s!"invalid typewriter config: {fault.message}"

def Preset.parse (name : String) : Except ConfigError Preset :=
  match ofName? name with
  | some preset => .ok preset
  | none => .error (.unknownPreset name)

def Config.parseBy (c : Codec) (text : String) : Except ConfigError Config :=
  match decode c text.toList with
  | .ok config => .ok config
  | .error fault => .error (.invalid fault)

def Config.parse (text : String) : Except ConfigError Config := parseBy .standard text

end Dialogue.Typewriter
