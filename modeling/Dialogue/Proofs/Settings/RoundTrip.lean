import Dialogue.Proofs.Settings.SharedChecker

/-! Settings written and read again. Every field comes back as it was: the durations if they are
64-bit numbers of milliseconds, the marker and the commands whatever characters they have. -/
namespace Dialogue

open Json

variable {c : Codec}

namespace Typewriter.Duration

/-- A span comes back from its number if it is a whole number of milliseconds of 64 bits, and only
then. -/
theorem ofNumber_toNumber {d : Duration} :
    ofNumber d.toNumber = d ↔ d.nanos % nanosPerMilli = 0 ∧ d.asMillis < naturalBound := by
  obtain ⟨nanos⟩ := d
  simp only [ofNumber, toNumber, ofMillis, asMillis, Duration.mk.injEq, nanosPerMilli, naturalBound]
  omega

theorem asMillis_ofMillis (n : Nat) : (ofMillis n).asMillis = n :=
  Nat.mul_div_cancel n (by decide)

theorem toNumber_ofMillis {n : Nat} (fits : n < naturalBound) : (ofMillis n).toNumber = n := by
  rw [toNumber, asMillis_ofMillis, Nat.mod_eq_of_lt fits]

theorem toNumber_lt (d : Duration) : d.toNumber < naturalBound := Nat.mod_lt _ (by decide)

theorem millis_write (lawful : c.Lawful) (n : Nat) :
    (millis c).write n = .natural (ofMillis n).toNumber :=
  lawful.natural.write _

theorem millis_read_write (lawful : c.Lawful) {n : Nat} (fits : n < naturalBound) :
    (millis c).read ((millis c).write n).tree = .ok n := by
  have number : c.natural.read (Value.natural n).tree = .ok n := lawful.natural.read.mpr rfl
  rw [millis_write lawful, toNumber_ofMillis fits, millis, coding, Coding.via, Coding.via]
  simp only [number, Except.map, ofNumber, asMillis_ofMillis]

end Typewriter.Duration

namespace Typewriter.Config

open Duration (millis_read_write)

/-- Every duration is a 64-bit number of milliseconds. -/
structure Fits (config : Config) : Prop where
  charDelay : config.charDelay < naturalBound
  punctuationDelay : config.punctuationDelay < naturalBound
  commaDelay : config.commaDelay < naturalBound
  newlineDelay : config.newlineDelay < naturalBound
  autoCompleteDelay : config.autoCompleteDelay < naturalBound

/-- The defaults of the single fields are together the default pace. -/
theorem default_eq : default =
    { charDelay := defaultCharDelay
      punctuationDelay := defaultPunctuationDelay
      commaDelay := defaultCommaDelay
      newlineDelay := defaultNewlineDelay
      skipEnabled := true
      pauseEnabled := true
      autoComplete := false
      autoCompleteDelay := defaultAutoCompleteDelay } := rfl

theorem fits_write (lawful : c.Lawful) (config : Config) : ((coding c).write config).Fits := by
  rw [coding, lawful.record_write, Value.Fits, Value.membersFit_iff]
  simp [record, Field.of, Duration.millis_write lawful, lawful.flag.write, Value.Fits,
    Duration.toNumber_lt]

theorem coding_read_write (lawful : c.Lawful) {config : Config} (fits : config.Fits) :
    (coding c).read ((coding c).write config).tree = .ok config := by
  have restores : List.Forall₂ (fun f change => f.Restores config change) (record c).fields _ :=
    .cons (Field.of_restores (millis_read_write lawful fits.charDelay)) <|
    .cons (Field.of_restores (millis_read_write lawful fits.punctuationDelay)) <|
    .cons (Field.of_restores (millis_read_write lawful fits.commaDelay)) <|
    .cons (Field.of_restores (millis_read_write lawful fits.newlineDelay)) <|
    .cons (Field.of_restores (lawful.flag.read_write _)) <|
    .cons (Field.of_restores (lawful.flag.read_write _)) <|
    .cons (Field.of_restores (lawful.flag.read_write _)) <|
    .cons (Field.of_restores (millis_read_write lawful fits.autoCompleteDelay)) .nil
  exact lawful.record_read_write restores

theorem parseBy_of_decode {text : String} {config : Config}
    (decoded : decode c text.toList = .ok config) : parseBy c text = .ok config := by
  rw [parseBy, decoded]

end Typewriter.Config

namespace Settings

/-- All numbers of the settings have 64 bits. -/
structure Fits (s : Settings) : Prop where
  frameInterval : s.frameInterval < naturalBound
  debounce : s.debounce < naturalBound
  typewriter : s.typewriter.Fits

theorem fits_write (lawful : c.Lawful) {s : Settings} (fits : s.Fits) :
    ((coding c).write s).Fits := by
  have pace := Typewriter.Config.fits_write lawful s.typewriter
  rw [coding, lawful.enclosing_write, Value.Fits, Value.membersFit_iff]
  simp [enclosing, Check.Config.record, Field.of, lawful.natural.write, lawful.string.write,
    lawful.strings.write, Value.Fits, Value.itemsFit_iff, fits.frameInterval, fits.debounce, pace]

theorem coding_read_write (lawful : c.Lawful) {s : Settings} (fits : s.Fits) :
    (coding c).read ((coding c).write s).tree = .ok s := by
  have restores : List.Forall₂ (fun f change => f.Restores s change) (enclosing c).own _ :=
    .cons (Field.of_restores (lawful.natural.read_write _)) <|
    .cons (Field.of_restores (lawful.natural.read_write _)) <|
    .cons (Field.of_restores (Typewriter.Config.coding_read_write lawful fits.typewriter)) .nil
  have innerRestores : List.Forall₂ (fun f change => f.Restores s.checker change)
      (enclosing c).inner.fields _ :=
    .cons (Field.of_restores (lawful.string.read_write _)) <|
    .cons (Field.of_restores (lawful.strings.read_write _)) .nil
  refine lawful.enclosing_read_write restores innerRestores
    (Check.Config.preserves_fields lawful) ?_
  refine List.forall_mem_cons.mpr ⟨?_, List.forall_mem_singleton.mpr ?_⟩
  · change ∃ kept, c.keep (c.string.write s.checker.marker).tree = .ok kept
    rw [lawful.string.write]
    exact lawful.keep_string s.checker.marker
  · change ∃ kept, c.keep (c.strings.write s.checker.knownCommands).tree = .ok kept
    rw [lawful.strings.write]
    exact lawful.keep_strings s.checker.knownCommands

/-- An object without members gives the default settings: what each field is by itself when it is left
out is together the default. -/
theorem coding_read_empty (lawful : c.Lawful) : (coding c).read (.object [] true) = .ok default := by
  refine (lawful.enclosing_read rfl).mpr ⟨[], [], _, _, rfl, by simp [Named],
    .field .absent (.field .absent (.field .absent .done)), .nil,
    (lawful.record_read rfl).mpr ⟨by simp [Named], .field .absent (.field .absent .done)⟩, rfl⟩

/-- The text of settings is read as these settings. -/
theorem decode_encode (lawful : c.Lawful) {s : Settings} (fits : s.Fits) :
    decode c (s.encode c).toList = .ok s := by
  have fitting := fits_write lawful fits
  have holds := lawful.holds_of_spells fitting (lawful.spells_toText fitting)
  exact lawful.ofText_eq_ok.mpr ⟨_, holds, coding_read_write lawful fits⟩

end Settings

theorem Tool.written_init {files : Files} {s : Settings} {path path' content : String} {force : Bool}
    (written : (init c files s path force).written = some (path', content)) :
    path' = path ∧ content = s.encode c := by
  unfold init at written
  split at written
  · contradiction
  · split at written
    · contradiction
    · obtain ⟨rfl, rfl⟩ := Prod.mk.inj (Option.some.inj written)
      exact ⟨rfl, rfl⟩

namespace Settings

open Tool

/-- The text of settings is JSON that has all their fields, and they are read from it as they were, also
from the file that the tool writes it to. A pace alone is read as it was from every text that stands
for what it is written as, however this is laid out. -/
theorem written_settings_read (lawful : c.Lawful) {s : Settings} {pace : Typewriter.Config}
    (fits : s.Fits) (paceFits : pace.Fits) :
    ((coding c).write s).Spells (s.encode c).toList ∧
    decode c (s.encode c).toList = .ok s ∧
    (∀ {files files' : Files} {path path' content : String} {force : Bool},
      (init c files s path force).written = some (path', content) →
        files'.isPresent path' = true → files'.read path' = .ok content.toUTF8 →
          loadSettings c files' path' = s) ∧
    (∀ text : String, ((Typewriter.Config.coding c).write pace).Spells text.toList →
      Typewriter.Config.parseBy c text = .ok pace) ∧
    Typewriter.Config.parseBy c (c.toText ((Typewriter.Config.coding c).write pace)) = .ok pace := by
  have spelled : ∀ text : String, ((Typewriter.Config.coding c).write pace).Spells text.toList →
      Typewriter.Config.parseBy c text = .ok pace := by
    intro text spelled
    have holds := lawful.holds_of_spells (Typewriter.Config.fits_write lawful pace) spelled
    exact Typewriter.Config.parseBy_of_decode (lawful.ofText_eq_ok.mpr
      ⟨_, holds, Typewriter.Config.coding_read_write lawful paceFits⟩)
  refine ⟨lawful.spells_toText (fits_write lawful fits), decode_encode lawful fits, ?_, spelled,
    spelled _ (lawful.spells_toText (Typewriter.Config.fits_write lawful pace))⟩
  intro files files' path path' content force written present stored
  obtain ⟨rfl, rfl⟩ := written_init written
  exact loadSettings_of_decoded present (Files.readText_eq_ok.mpr stored) (decode_encode lawful fits)

/-- Settings with the longest durations, and with names that have to be escaped, lie outside the
basic plane, or are none. -/
def farthest : Settings where
  frameInterval := 18446744073709551615
  debounce := 0
  checker := ⟨"\"\\/\x00\x08\x1f\x7f\n", ["", "😀", "page_break", "\t\r\x0c é"]⟩
  typewriter := ⟨18446744073709551615, 1, 18446744073709551615, 0, false, true, true, 7⟩

theorem farthest_settings_read :
    ofJson farthest.toJson.toList = .ok farthest ∧
    loadSettings .standard (everywhere farthest.toJson) "config.json" = farthest ∧
    Typewriter.Config.parse
      (((Typewriter.Config.coding .standard).write farthest.typewriter).render) =
        .ok farthest.typewriter := by
  have pace : farthest.typewriter.Fits := by constructor <;> decide
  have written : (init .standard (everywhere "") farthest "config.json" true).written =
      some ("config.json", farthest.toJson) := rfl
  obtain ⟨-, decoded, loaded, -, rendered⟩ :=
    written_settings_read Codec.standard_lawful ⟨by decide, by decide, pace⟩ pace
  exact ⟨decoded, loaded written rfl rfl, rendered⟩

end Settings

end Dialogue
