import Dialogue.Proofs.Json.Standard
import Dialogue.Proofs.Tool.Loading

/-! One file of settings, two readers. What the host tells its checker stands among its other settings;
the script checker reads it from the same text and passes over the rest. Wherever the text holds
settings, both find the same. -/
namespace Dialogue

open Json

variable {c : Codec}

namespace Check.Config

/-- Of kept values the checker's fields are read as of the values themselves. -/
theorem preserves_fields (lawful : c.Lawful) : ∀ f ∈ (record c).fields, c.Preserves f.read := by
  refine List.forall_mem_cons.mpr ⟨?_, List.forall_mem_singleton.mpr ?_⟩
  · exact Field.of_preserves lawful.preserves_string
  · exact Field.of_preserves lawful.preserves_strings

/-- A checker's settings are what the members say of its two fields. -/
theorem tells_of_fills {ms : Members} {config : Config}
    (fills : Fills (record c).fields ms (record c).base config) :
    Tells c.string.read Playback.defaultMarker (given "page_break_marker" ms) config.marker ∧
    Tells c.strings.read [Playback.newlineCommand] (given "known_commands" ms)
      config.knownCommands := by
  obtain ⟨change, marker, rest⟩ := fills_cons.mp fills
  obtain ⟨change', commands, rest⟩ := fills_cons.mp rest
  obtain rfl := fills_nil.mp rest
  obtain ⟨name, tells, rfl⟩ := Field.settles_of marker
  obtain ⟨names, tells', rfl⟩ := Field.settles_of commands
  exact ⟨tells, tells'⟩

end Check.Config

namespace Settings

/-- Settings are read from an object, in which the checker's reader finds their checker. -/
theorem checker_of_read (lawful : c.Lawful) {t : Tree} {s : Settings} (whole : t.isWhole = true)
    (read : (coding c).read t = .ok s) :
    ∃ ms, t = .object ms true ∧ (Check.Config.coding c).read t = .ok s.checker ∧
      Fills (Check.Config.record c).fields ms (Check.Config.record c).base s.checker := by
  obtain ⟨ms, outer, inner, object, checked, fills, rfl⟩ :=
    lawful.inner_of_enclosing (Check.Config.preserves_fields lawful) whole read
  exact ⟨ms, object, checked, fills⟩

/-- Of a text that holds settings, the checker's reader makes their checker. -/
theorem checker_of_decode (lawful : c.Lawful) {text : List Char} {s : Settings}
    (decoded : decode c text = .ok s) : Check.Config.decode c text = .ok s.checker := by
  obtain ⟨t, holds, read⟩ := lawful.ofText_eq_ok.mp decoded
  obtain ⟨ms, -, checked, -⟩ := checker_of_read lawful (lawful.isWhole_of_holds holds) read
  exact lawful.ofText_eq_ok.mpr ⟨t, holds, checked⟩

open Tool ScriptCheck

/-- Of a text that holds settings, the reader of the checker's part makes the checker of these
settings: the marker and the commands that the only members of their names have, wherever they
stand, and the default ones where there are no such members. So both hosts go by the same checker if
they find the text in the file of settings. -/
theorem hosts_share_checker (lawful : c.Lawful) {text : String} {s : Settings}
    (decoded : decode c text.toList = .ok s) :
    Check.Config.decode c text.toList = .ok s.checker ∧
    (∃ members, c.Holds text.toList (.object members true) ∧
      Tells c.string.read Playback.defaultMarker (given "page_break_marker" members)
        s.checker.marker ∧
      Tells c.strings.read [Playback.newlineCommand] (given "known_commands" members)
        s.checker.knownCommands) ∧
    ∀ files : Files, files.isPresent configFile = true → files.readText configFile = .ok text →
      loadSettings c files configFile = s ∧ loadChecker c files = .ok (.ofConfig s.checker) := by
  obtain ⟨t, holds, read⟩ := lawful.ofText_eq_ok.mp decoded
  obtain ⟨members, rfl, -, fills⟩ := checker_of_read lawful (lawful.isWhole_of_holds holds) read
  have shared := checker_of_decode lawful decoded
  refine ⟨shared, ⟨members, holds, Check.Config.tells_of_fills fills⟩, ?_⟩
  intro files present found
  exact ⟨loadSettings_of_decoded present found decoded, loadChecker_of_decoded present found shared⟩

/-- Settings with a member that no reader knows, a name with an escape, a field behind those of
others, and fields left out. -/
def scattered : String :=
  "\x7b\"x\":\x7b\"a\":[1,null]\x7d,\"known\\u005fcommands\":[\"r\",\"\"],
\"typewriter\":\x7b\"char_delay\":10\x7d\x7d"

/-- A file system with one file at every path. -/
def everywhere (text : String) : Files where
  entry? _ := some .file
  read _ := .ok text.toUTF8
  below _ := []

theorem hosts_share_scattered_checker :
    Check.Config.decode .standard scattered.toList =
      .ok ⟨Check.Config.default.marker, ["r", ""]⟩ ∧
    loadChecker .standard (everywhere scattered) =
      .ok (.ofConfig ⟨Check.Config.default.marker, ["r", ""]⟩) := by
  let members : List (Option String × Tree) := [
    (some "x", .object [(some "a", .array [.number (some (.natural 1)), .null] true)] true),
    (some "known_commands", .array [.string (some "r"), .string (some "")] true),
    (some "typewriter", .object [(some "char_delay", .number (some (.natural 10)))] true)]
  let s : Settings := { default with
    checker := ⟨Check.Config.default.marker, ["r", ""]⟩
    typewriter := { Typewriter.Config.default with charDelay := 10 } }
  have words : tokens scattered.toList = (Tree.object members true).words := by
    rw [scattered, String.toList_ofList]
    decide +kernel
  have decoded : decode .standard scattered.toList = .ok s := by
    refine readText_eq_ok.mpr ?_
    rw [Document.ofText_of_words (by decide) words]
    exact ⟨rfl, rfl⟩
  obtain ⟨shared, -, read⟩ := hosts_share_checker Codec.standard_lawful decoded
  exact ⟨shared, (read (everywhere scattered) rfl (Files.readText_eq_ok.mpr rfl)).2⟩

end Settings
end Dialogue
