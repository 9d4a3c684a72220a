import Dialogue.Check.Checker
import Dialogue.Json.Standard

/-! What a host tells its checker, as JSON. -/
namespace Dialogue.Check.Config

open Json

def record (c : Codec) : Record Config where
  title := "struct CheckerConfig"
  base := default
  fields := [
    .of "page_break_marker" c.string (·.marker) (fun s config => { config with marker := s })
      Playback.defaultMarker,
    .of "known_commands" c.strings (·.knownCommands)
      (fun ss config => { config with knownCommands := ss }) [Playback.newlineCommand]]
  distinct := by simp [Field.of]

def coding (c : Codec) : Coding Config := c.record (record c)

def decode (c : Codec) (text : List Char) : Except Fault Config := c.ofText (coding c).read text

def ofJson (text : List Char) : Except Fault Config := decode .standard text

end Dialogue.Check.Config
