import Dialogue.Settings.Basic

/-! Settings as JSON. What the host tells its checker stands among the other fields. -/
namespace Dialogue.Settings

open Json

def enclosing (c : Codec) : Enclosing Settings Check.Config where
  title := "struct AppConfig"
  base := default
  before := [
    .of "frame_interval_ms" c.natural (·.frameInterval)
      (fun n s => { s with frameInterval := n }) defaultFrameInterval,
    .of "debounce_ms" c.natural (·.debounce)
      (fun n s => { s with debounce := n }) Playback.defaultDebounce]
  inner := Check.Config.record c
  get := (·.checker)
  set checker s := { s with checker }
  after := [
    .of "typewriter" (Typewriter.Config.coding c) (·.typewriter)
      (fun pace s => { s with typewriter := pace }) .default]
  distinct := by simp [Field.of, Check.Config.record]

def coding (c : Codec) : Coding Settings := c.enclosing (enclosing c)

def decode (c : Codec) (text : List Char) : Except Fault Settings := c.ofText (coding c).read text

/-- The settings of a text that may not hold any. -/
def loadBy (c : Codec) (text : List Char) : Settings := (decode c text).toOption.getD default

def encode (c : Codec) (s : Settings) : String := c.toText ((coding c).write s)

def ofJson (text : List Char) : Except Fault Settings := decode .standard text

def load (text : List Char) : Settings := loadBy .standard text

def toJson (s : Settings) : String := encode .standard s

end Dialogue.Settings
