import Dialogue.Proofs.Json.Reading
import Dialogue.Tool.MessageTool
import Dialogue.Tool.ScriptCheck

/-! What the tools find in files: a text where its bytes stand, and the settings that are in a text or,
without a file, the default ones. -/
namespace Dialogue.Tool

open ScriptCheck (CheckError configFile loadChecker)

variable {c : Json.Codec} {files : Files} {path text : String}

theorem fromUTF8?_eq_some {bytes : ByteArray} :
    String.fromUTF8? bytes = some text ↔ bytes = text.toUTF8 := by
  unfold String.fromUTF8?
  constructor
  · intro decoded
    split at decoded
    · obtain rfl := Option.some.inj decoded
      rfl
    · contradiction
  · rintro rfl
    rw [String.toUTF8, dif_pos text.isValidUTF8]
    rfl

/-- A text is found where its bytes are. -/
theorem Files.readText_eq_ok :
    files.readText path = .ok text ↔ files.read path = .ok text.toUTF8 := by
  rw [readText, bind_eq_ok]
  constructor
  · rintro ⟨bytes, found, decoded⟩
    split at decoded
    · next text' read =>
      obtain rfl := Except.ok.inj decoded
      rw [found, fromUTF8?_eq_some.mp read]
    · contradiction
  · intro found
    refine ⟨text.toUTF8, found, ?_⟩
    rw [fromUTF8?_eq_some.mpr rfl]
    rfl

theorem loadSettings_of_decoded {s : Settings} (present : files.isPresent path = true)
    (read : files.readText path = .ok text) (decoded : Settings.decode c text.toList = .ok s) :
    loadSettings c files path = s := by
  simp only [loadSettings, present, read, Settings.loadBy, decoded]
  rfl

theorem loadSettings_of_absent (absent : files.isPresent path = false) :
    loadSettings c files path = .default := by
  rw [loadSettings, absent]
  rfl

theorem loadChecker_of_decoded {config : Check.Config} (present : files.isPresent configFile = true)
    (read : files.readText configFile = .ok text)
    (decoded : Check.Config.decode c text.toList = .ok config) :
    loadChecker c files = .ok (.ofConfig config) := by
  rw [loadChecker, present, read]
  change ((Check.Config.decode c text.toList).mapError CheckError.badConfig >>= fun config =>
    return Check.Checker.ofConfig config) = _
  rw [decoded]
  rfl

theorem loadChecker_of_absent (absent : files.isPresent configFile = false) :
    loadChecker c files = .ok (.ofConfig .default) := by
  rw [loadChecker, absent]
  rfl

end Dialogue.Tool
