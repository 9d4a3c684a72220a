import Mathlib.Data.List.DropRight
import Dialogue.Check.Checker

/-! The checker and the player agree on a program. The checker goes through its statements, the
player through the events that they become. Here each event stands at the place of the statement
that it comes from, so that all the checker finds in a program can be told of its events. -/
namespace Dialogue.Check

open Script Playback

/-- What a statement becomes, at its place. -/
def placedEvent (marker : String) (s : Statement) : Option (Position × Event) :=
  (eventOf marker s.expression).map (s.position, ·)

def placedEvents (marker : String) (program : Program) : List (Position × Event) :=
  program.statements.filterMap (placedEvent marker)

/-- The calls of commands that are not among the known ones. -/
def unknownCalls (known : List String) (placed : List (Position × Event)) :
    List (Position × Command) :=
  placed.filterMap fun (p, event) =>
    match event with
    | .command call => if call.name ∈ known then none else some (p, call)
    | .text _ | .pageBreak => none

/-- What comes behind the last page break, or everything if there is none. -/
def lastPage (placed : List (Position × Event)) : List (Position × Event) :=
  placed.rtakeWhile (·.2 ≠ .pageBreak)

/-- A text in which some character is not blank. -/
def showsText : Event → Bool
  | .text r => r.runes.any (!Text.isBlank ·)
  | .pageBreak | .command _ => false

/-- The first text of the last page that shows anything. -/
def openText? (placed : List (Position × Event)) : Option (Position × Event) :=
  (lastPage placed).find? (showsText ·.2)

theorem showsText_iff {event : Event} :
    showsText event = true ↔ ∃ r, event = .text r ∧ ∃ c ∈ r.runes, Text.isBlank c = false := by
  cases event <;> simp [showsText]

theorem events_placedEvents (marker : String) (program : Program) :
    (placedEvents marker program).map Prod.snd = eventsOf marker program := by
  simp [placedEvents, placedEvent, eventsOf, Program.expressions, List.map_filterMap,
    List.filterMap_map, Function.comp_def]

theorem events_lastPage (placed : List (Position × Event)) :
    (lastPage placed).map Prod.snd = (placed.map Prod.snd).rtakeWhile (· ≠ .pageBreak) := by
  simp [lastPage, List.rtakeWhile, ← List.map_reverse, List.takeWhile_map, Function.comp_def]

theorem isSome_openText? (placed : List (Position × Event)) :
    (openText? placed).isSome = true ↔
      ∃ r, .text r ∈ (placed.map Prod.snd).rtakeWhile (· ≠ .pageBreak) ∧
        ∃ c ∈ r.runes, Text.isBlank c = false := by
  rw [← events_lastPage, openText?, List.find?_isSome]
  constructor
  · rintro ⟨⟨p, event⟩, mem, shows⟩
    obtain ⟨r, rfl, visible⟩ := showsText_iff.mp shows
    exact ⟨r, List.mem_map_of_mem mem, visible⟩
  · rintro ⟨r, mem, visible⟩
    obtain ⟨x, mem, isText⟩ := List.mem_map.mp mem
    exact ⟨x, mem, showsText_iff.mpr ⟨r, isText, visible⟩⟩

theorem openText?_eq_some {placed : List (Position × Event)} {p : Position} {event : Event}
    (first : openText? placed = some (p, event)) :
    ∃ before r after, event = .text r ∧ lastPage placed = before ++ (p, .text r) :: after ∧
      showsText (.text r) = true ∧ ∀ x ∈ before, showsText x.2 = false := by
  obtain ⟨shows, before, after, page, silent⟩ := List.find?_eq_some_iff_append.mp first
  obtain ⟨r, rfl, -⟩ := showsText_iff.mp shows
  exact ⟨before, r, after, rfl, page, shows, by simpa using silent⟩

theorem openText?_pageBreak (placed : List (Position × Event)) (p : Position) :
    openText? (placed ++ [(p, .pageBreak)]) = none := by
  simp [openText?, lastPage]

/-- An event that is no page break leaves the last page open, and may be the first text on it. -/
theorem openText?_concat (placed : List (Position × Event)) (p : Position) {event : Event}
    (goes_on : event ≠ .pageBreak) :
    openText? (placed ++ [(p, event)]) =
      (openText? placed).or (if showsText event then some (p, event) else none) := by
  have longer : lastPage (placed ++ [(p, event)]) = lastPage placed ++ [(p, event)] :=
    List.rtakeWhile_concat_pos _ _ _ (by simpa using goes_on)
  rw [openText?, longer, List.find?_append, List.find?_singleton, openText?]

namespace Checker

variable (c : Checker) (script : String)

/-- What is said of an unknown command, told of its call. -/
theorem unknownCommands_eq (program : Program) :
    c.unknownCommands script program =
      (unknownCalls c.knownCommands (placedEvents c.marker program)).map fun (p, call) =>
        unknownCommand script call.name p := by
  rw [unknownCommands, unknownCalls, placedEvents, List.filterMap_filterMap, List.map_filterMap]
  refine List.filterMap_congr fun s _ => ?_
  cases expression : s.expression with
  | text value =>
    by_cases empty : value.isEmpty <;> simp [placedEvent, eventOf, expression, empty]
  | command name params =>
    by_cases isMarker : name = c.marker
    · simp [placedEvent, eventOf, expression, isMarker]
    · by_cases known : name ∈ c.knownCommands <;>
        simp [placedEvent, eventOf, expression, isMarker, isKnown, known]

/-- A text is blank for the checker if its event shows nothing. -/
theorem showsText_ofText (value : String) :
    showsText (.text (.ofText value)) = !isBlankText value := by
  simp [showsText, isBlankText, Reveal.ofText, Reveal.runes, List.not_all_eq_any_not]

/-- One statement more: the place that the checker keeps goes on being that of the open text. -/
theorem openTextAfter_eq (marker : String) (before : List (Position × Event)) (s : Statement) :
    openTextAfter marker ((openText? before).map Prod.fst) s =
      (openText? (before ++ (placedEvent marker s).toList)).map Prod.fst := by
  obtain ⟨expression, p⟩ := s
  cases expression with
  | command name params =>
    by_cases isMarker : name = marker
    · simp [openTextAfter, placedEvent, eventOf, isMarker, openText?_pageBreak]
    · simp [openTextAfter, placedEvent, eventOf, isMarker, openText?_concat, showsText]
  | text value =>
    by_cases empty : value = ""
    · simp [openTextAfter, placedEvent, eventOf, empty, isBlankText]
    · have event : placedEvent marker ⟨.text value, p⟩ = some (p, .text (.ofText value)) := by
        simp [placedEvent, eventOf, empty]
      rw [event, Option.toList_some, openText?_concat before p Event.noConfusion, showsText_ofText,
        openTextAfter]
      cases openText? before <;> cases blank : isBlankText value <;> simp [blank]

/-- The induction is at the end of the statements, where a page break closes whatever page was
open. -/
theorem leftOpen_eq (marker : String) (statements : List Statement) :
    statements.foldl (openTextAfter marker) none =
      (openText? (statements.filterMap (placedEvent marker))).map Prod.fst := by
  induction statements using List.reverseRecOn with
  | nil => rfl
  | append_singleton statements s ih =>
    rw [List.foldl_concat, ih, openTextAfter_eq, List.filterMap_append]
    cases placed : placedEvent marker s <;> simp [placed]

theorem diagnostics_analyze (program : Program) :
    (c.analyze script program).diagnostics =
      ((unknownCalls c.knownCommands (placedEvents c.marker program)).map fun (p, call) =>
        unknownCommand script call.name p) ++
      (openText? (placedEvents c.marker program)).toList.map fun x => c.openText script x.1 := by
  rw [analyze, unknownCommands_eq, leftOpen_eq, ← placedEvents, Option.toList_map, List.map_map]
  rfl

theorem warnings_analyze (program : Program) :
    ((c.analyze script program).diagnostics.filter fun d => d.level = .warn) =
      (unknownCalls c.knownCommands (placedEvents c.marker program)).map fun (p, call) =>
        unknownCommand script call.name p := by
  rw [diagnostics_analyze, List.filter_append, List.filter_eq_self.mpr, List.filter_eq_nil_iff.mpr,
    List.append_nil]
  · exact List.forall_mem_map.mpr fun _ _ => of_decide_eq_false rfl
  · exact List.forall_mem_map.mpr fun _ _ => rfl

theorem infoCount_analyze (program : Program) :
    (c.analyze script program).infoCount =
      (openText? (placedEvents c.marker program)).isSome.toNat := by
  rw [Report.infoCount, Report.count, diagnostics_analyze, List.countP_append,
    List.countP_eq_zero.mpr, Nat.zero_add]
  · cases openText? (placedEvents c.marker program) <;> rfl
  · exact List.forall_mem_map.mpr fun _ _ => of_decide_eq_false rfl

/-- What is found in a program is either said of an unknown command or of the open text. -/
theorem mem_analyze {program : Program} {d : Diagnostic}
    (found : d ∈ (c.analyze script program).diagnostics) :
    (∃ name p, d = unknownCommand script name p) ∨
      ∃ p event, openText? (placedEvents c.marker program) = some (p, event) ∧
        d = c.openText script p := by
  rw [diagnostics_analyze, List.mem_append] at found
  rcases found with warning | opening
  · obtain ⟨⟨p, call⟩, -, rfl⟩ := List.mem_map.mp warning
    exact .inl ⟨call.name, p, rfl⟩
  · obtain ⟨⟨p, event⟩, first, rfl⟩ := List.mem_map.mp opening
    exact .inr ⟨p, event, Option.mem_toList.mp first, rfl⟩

theorem level_ne_error_of_mem_analyze {program : Program} {d : Diagnostic}
    (found : d ∈ (c.analyze script program).diagnostics) : d.level ≠ .error := by
  rcases c.mem_analyze script found with ⟨name, p, rfl⟩ | ⟨p, event, -, rfl⟩ <;>
    exact Level.noConfusion

/-- What the checker finds in a program, told of what the player makes of it. The warnings are those
of the calls of unknown commands, one by one and in order, each at the place of its statement. There
is a remark, and then only one, if a text behind the last page break shows anything; it stands at
the place of the first such text. There are no errors. -/
theorem findings_of_events (program : Program) :
    let placed := placedEvents c.marker program
    let events := eventsOf c.marker program
    let found := c.analyze script program
    placed.map Prod.snd = events ∧
    (found.diagnostics.filter (·.level = .warn) =
      (unknownCalls c.knownCommands placed).map fun (p, call) =>
        unknownCommand script call.name p) ∧
    (0 < found.infoCount ↔ ∃ r, .text r ∈ events.rtakeWhile (· ≠ .pageBreak) ∧
      ∃ char ∈ r.runes, Text.isBlank char = false) ∧
    found.infoCount ≤ 1 ∧
    (∀ d ∈ found.diagnostics, d.level = .info → ∃ before p r after,
      lastPage placed = before ++ (p, .text r) :: after ∧ showsText (.text r) = true ∧
        (∀ x ∈ before, showsText x.2 = false) ∧ d = c.openText script p) ∧
    ∀ d ∈ found.diagnostics, d.level ≠ .error := by
  intro placed events found
  have same : placed.map Prod.snd = events := events_placedEvents c.marker program
  have infos : found.infoCount = (openText? placed).isSome.toNat :=
    c.infoCount_analyze script program
  refine ⟨same, c.warnings_analyze script program, ?_, ?_, ?_,
    fun d => c.level_ne_error_of_mem_analyze script⟩
  · rw [infos, ← same, ← isSome_openText?]
    cases openText? placed <;> simp
  · exact infos ▸ Bool.toNat_le _
  · intro d mem info
    rcases c.mem_analyze script mem with ⟨name, p, rfl⟩ | ⟨p, event, first, rfl⟩
    · contradiction
    · obtain ⟨before, r, after, -, page, shows, silent⟩ := openText?_eq_some first
      exact ⟨before, p, r, after, page, shows, silent, rfl⟩

end Checker
end Dialogue.Check
