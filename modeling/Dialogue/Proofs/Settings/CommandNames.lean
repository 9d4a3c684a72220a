import Dialogue.Settings.Basic
import Dialogue.Proofs.Script.Juxtaposition
import Dialogue.Proofs.Script.RoundTrip

/-! Which names commands can have. The settings accept a name without reading it as part of a
script; that is right, for the names they accept are those that some script calls a command by. -/
namespace Dialogue.Settings

open Script Playback

/-- Some script without errors has a command of this name. -/
def Writable (name : String) : Prop :=
  ∃ source program params, (parse source).strict = .ok program ∧
    .command name params ∈ program.expressions

theorem isCommandName_iff {name : String} :
    isCommandName name = true ↔ IsRun isNameChar name.toList := by
  simp [isCommandName, isNameLetter_eq_isNameChar, IsRun]

/-- Reading gives a command no other names than the settings accept. -/
theorem isCommandName_of_mem {source : List Char} {name : String} {params : Params}
    (mem : .command name params ∈ (parse source).program.expressions) :
    isCommandName name = true := by
  have written : (Expression.command name params).WellFormed :=
    wellFormed_program source _ mem
  exact isCommandName_iff.mpr written.1

/-- The name in brackets is a script that says the command of that name, without parameters. -/
theorem parse_bracketed {name : String} (accepted : isCommandName name = true) :
    ∃ program, (parse ('[' :: name.toList ++ [']'])).strict = .ok program ∧
      program.expressions = [.command name .empty] := by
  have wf : ∀ e ∈ [Expression.command name .empty], e.WellFormed := by
    simpa [Expression.WellFormed, Params.empty] using isCommandName_iff.mp accepted
  have written : (String.join ([Expression.command name .empty].map Expression.render)).toList =
      '[' :: name.toList ++ [']'] := by
    simp [Expression.render, Params.empty, String.join_cons]
  obtain ⟨program, strict, -, expressions⟩ := parse_render wf
  rw [written] at strict
  exact ⟨program, strict, expressions⟩

theorem writable_iff {name : String} : Writable name ↔ isCommandName name = true := by
  constructor
  · rintro ⟨source, program, params, strict, mem⟩
    obtain ⟨-, rfl⟩ := strict_eq_ok_iff.mp strict
    exact isCommandName_of_mem mem
  · intro accepted
    obtain ⟨program, strict, expressions⟩ := parse_bracketed accepted
    exact ⟨_, program, .empty, strict, by simp [expressions]⟩

/-- A program breaks the page where it calls the marker. -/
theorem pageBreak_mem_eventsOf {marker : String} {program : Program} :
    .pageBreak ∈ eventsOf marker program ↔
      ∃ params, .command marker params ∈ program.expressions := by
  rw [eventsOf, List.mem_filterMap]
  constructor
  · rintro ⟨e, mem, made⟩
    cases e with
    | text value => simp [eventOf] at made
    | command name params =>
      have isMarker : name = marker := by simpa [eventOf] using made
      exact ⟨params, isMarker ▸ mem⟩
  · rintro ⟨params, mem⟩
    exact ⟨_, mem, by simp [eventOf]⟩

/-- What is said of settings, told of the names that can be written: the first name that cannot is
refused, the marker before the others, and only then the frame interval counts. -/
inductive Validated (s : Settings) : Except Error Unit → Prop
  | unwritableMarker (refused : ¬ Writable s.checker.marker) :
      Validated s (.error (.invalidMarker s.checker.marker))
  | unwritableCommand {before after : List String} {name : String}
      (marker : Writable s.checker.marker)
      (known : s.checker.knownCommands = before ++ name :: after)
      (earlier : ∀ other ∈ before, Writable other) (refused : ¬ Writable name) :
      Validated s (.error (.invalidCommand name))
  | frameIntervalTooLong
      (names : ∀ name ∈ s.checker.marker :: s.checker.knownCommands, Writable name)
      (long : greatestFrameInterval < s.frameInterval) :
      Validated s (.error .frameIntervalTooLong)
  | valid (names : ∀ name ∈ s.checker.marker :: s.checker.knownCommands, Writable name)
      (short : s.frameInterval ≤ greatestFrameInterval) : Validated s (.ok ())

theorem validated_validate (s : Settings) : Validated s s.validate := by
  rw [validate]
  split
  · next refused =>
    apply Validated.unwritableMarker
    simpa [writable_iff] using refused
  · next accepted =>
    have marker : Writable s.checker.marker := by simpa [writable_iff] using accepted
    cases found : s.checker.knownCommands.find? (!isCommandName ·) with
    | some name =>
      obtain ⟨refused, before, after, known, earlier⟩ := List.find?_eq_some_iff_append.mp found
      refine .unwritableCommand marker known ?_ ?_
      · simpa [writable_iff] using earlier
      · simpa [writable_iff] using refused
    | none =>
      have names : ∀ name ∈ s.checker.marker :: s.checker.knownCommands, Writable name := by
        refine List.forall_mem_cons.mpr ⟨marker, ?_⟩
        simpa [writable_iff] using found
      dsimp only
      split
      · next long => exact .frameIntervalTooLong names long
      · next short => exact .valid names (Nat.not_lt.mp short)

/-- The settings accept a name exactly if in brackets it is a script that says the command of that
name and nothing else, and exactly if some script breaks its pages by it. So the names of valid
settings can all be written, and a name that settings are refused for cannot. -/
theorem isCommandName_iff_written (name : String) :
    (isCommandName name = true ↔
      ∃ program, (parse ('[' :: name.toList ++ [']'])).strict = .ok program ∧
        program.expressions = [.command name .empty]) ∧
    (isCommandName name = true ↔
      ∃ source events, compile name source = .ok events ∧ .pageBreak ∈ events) ∧
    (isCommandName name = true ↔ Writable name) ∧
    ∀ s : Settings, Validated s s.validate := by
  refine ⟨⟨parse_bracketed, ?_⟩, ⟨?_, ?_⟩, writable_iff.symm, validated_validate⟩
  · rintro ⟨program, strict, expressions⟩
    obtain ⟨-, rfl⟩ := strict_eq_ok_iff.mp strict
    exact isCommandName_of_mem (expressions ▸ List.mem_singleton_self _)
  · intro accepted
    obtain ⟨program, strict, expressions⟩ := parse_bracketed accepted
    obtain ⟨sound, rfl⟩ := strict_eq_ok_iff.mp strict
    have called : ∃ params, .command name params ∈
        (parse ('[' :: name.toList ++ [']'])).program.expressions :=
      ⟨.empty, expressions ▸ List.mem_singleton_self _⟩
    exact ⟨_, _, compile_eq_ok_iff.mpr ⟨sound, rfl⟩, pageBreak_mem_eventsOf.mpr called⟩
  · rintro ⟨source, events, compiled, breaks⟩
    obtain ⟨-, rfl⟩ := compile_eq_ok_iff.mp compiled
    obtain ⟨params, mem⟩ := pageBreak_mem_eventsOf.mp breaks
    exact isCommandName_of_mem mem

end Dialogue.Settings
