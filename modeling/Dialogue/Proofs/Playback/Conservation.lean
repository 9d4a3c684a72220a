import Dialogue.Proofs.Playback.Confirms
import Dialogue.Proofs.Playback.Pages
import Dialogue.Proofs.Playback.Units

/-! Playing conserves the text. With handlers that only insert or stop, the pages of a queue are
told beforehand: the display with what is pending of its section, then the sections behind it. A
unit of work moves text from the second part of the first page to the first; leaving a page break
takes the first page off, and by then it is complete. -/
namespace Dialogue.Playback

variable (entries : List (String × Stock))

namespace Queue

/-- The complete texts of the page on display and of the pages after it. -/
def pageTexts (q : Queue σ) : List String :=
  (sectionTexts entries Reveal.pending q.events).modifyHead (q.display ++ ·)

/-- A stopped queue stands at a page break or at a command that stops it. -/
def Halted (q : Queue σ) : Prop :=
  q.active = false →
    ∃ e es, q.events = e :: es ∧
      (e = .pageBreak ∨ ∃ c, e = .command c ∧ halts entries c = true)

/-- The displays that are taken away where the queues are left. -/
def cleared (stops : List (Queue σ)) : List String :=
  (stops.filter fun q => q.events.head? = some .pageBreak).map Queue.display

variable {entries} {q p : Queue σ} {stops : List (Queue σ)} {n : Nat}

theorem cleared_append (first second : List (Queue σ)) :
    cleared (first ++ second) = cleared first ++ cleared second := by
  simp [cleared]

theorem pageTexts_settled (q : Queue σ) : q.settled.pageTexts entries = q.pageTexts entries := by
  cases ha : q.active with
  | false => rw [settled_of_inactive ha]
  | true =>
    simp only [settled_of_active ha, pageTexts, (cuts_sectionTexts entries).dropWhile]

/-- A unit of work moves text from the front of what is pending to the end of the display. -/
theorem Works.moves_text (work : Works (.ofStock entries) q p) :
    ∃ added, p.display = q.display ++ added ∧
      ∀ cut, Cuts entries cut → cut q.events = (cut p.events).modifyHead (added ++ ·) := by
  cases work with
  | @reveal r r' c es first next =>
    refine ⟨String.singleton c, String.append_singleton.symm, ?_⟩
    intro cut cuts
    have pending := Reveal.pending_of_next? next
    rw [← cuts.dropWhile, first, cuts _ es (by simp), cuts _ es (by simp),
      List.modifyHead_modifyHead]
    congr 1
    funext rest
    simp [Event.shows, pending, ← String.append_assoc]
  | arrive first =>
    refine ⟨"", String.append_empty.symm, ?_⟩
    intro cut cuts
    rw [← cuts.dropWhile, first]
    simp
  | @proceed c es first flow =>
    refine ⟨inserted entries c, by rw [CommandTable.invoke_ofStock], ?_⟩
    intro cut cuts
    rw [← cuts.dropWhile, first, cuts _ es (by simp)]
    rfl
  | @halt c es first flow =>
    have stops := (CommandTable.invoke_ofStock_eq_halt_iff entries).mp flow
    have silent := CommandTable.inserted_of_halts entries stops
    refine ⟨"", by rw [CommandTable.invoke_ofStock, silent], ?_⟩
    intro cut cuts
    rw [← cuts.dropWhile, first]
    simp

theorem Works.pageTexts_eq (work : Works (.ofStock entries) q p) :
    q.pageTexts entries = p.pageTexts entries := by
  obtain ⟨added, shown, cuts⟩ := work.moves_text
  rw [pageTexts, pageTexts, cuts _ (cuts_sectionTexts entries), List.modifyHead_modifyHead, shown]
  congr 1
  funext rest
  exact String.append_assoc.symm

theorem Works.halted (work : Works (.ofStock entries) q p) : p.Halted entries := by
  intro stopped
  cases work with
  | reveal | proceed => contradiction
  | @arrive es first => exact ⟨.pageBreak, es, rfl, .inl rfl⟩
  | @halt c es first flow =>
    have stops := (CommandTable.invoke_ofStock_eq_halt_iff entries).mp flow
    exact ⟨.command c, es, rfl, .inr ⟨c, rfl, stops⟩⟩

/-- Leaving a stop takes the page off if it is complete, and nothing else. -/
theorem pageTexts_pop (hq : q.Halted entries) (ha : q.active = false) :
    q.pageTexts entries = cleared [q] ++ q.pop.2.pageTexts entries := by
  obtain ⟨e, es, first, rfl | ⟨c, rfl, stops⟩⟩ := hq ha
  · simp [pageTexts, cleared, pop, first]
  · have silent := CommandTable.inserted_of_halts entries stops
    simp [pageTexts, cleared, pop, first, cuts_sectionTexts entries (.command c) es, Event.shows,
      silent]

theorem halted_pop (q : Queue σ) : q.pop.2.Halted entries :=
  fun stopped => absurd stopped Bool.noConfusion

/-- All along the path, the pages told beforehand are those taken off and those still to come. -/
theorem Leads.pageTexts_eq (path : Leads (.ofStock entries) n q stops p)
    (hq : q.Halted entries) : q.pageTexts entries = cleared stops ++ p.pageTexts entries := by
  -- Only a queue that is left has to be halted; work ends halted, and a queue just left is active.
  induction path with
  | here h => rw [← pageTexts_settled, h, pageTexts_settled]; rfl
  | @leave n q p stops ha _ ih =>
    calc q.pageTexts entries
        = cleared [q] ++ q.pop.2.pageTexts entries := pageTexts_pop hq ha
      _ = cleared [q] ++ (cleared stops ++ p.pageTexts entries) := by rw [ih (halted_pop q)]
      _ = cleared (q :: stops) ++ p.pageTexts entries := by
        rw [← List.append_assoc, ← cleared_append, List.singleton_append]
  | work ha hf _ ih =>
    have work := works_runHead (.ofStock entries) ha hf
    rw [work.pageTexts_eq, ih work.halted]

end Queue

namespace PageReader

/-- Playback conserves the text, whenever the script is confirmed. What was cleared, what is on
display and what is pending are the text of the events; each cleared display was the complete text
of its page, in the order of the pages; and the display is a beginning of the page after those. -/
theorem play_conserves_text (host : σ) {events : List Event} (fresh : ∀ e ∈ events, e.Fresh)
    (confirms : List Bool) :
    let table : CommandTable σ := .ofStock entries
    let start : PageReader σ := ⟨{ events, host }, false⟩
    let now := start.play table confirms
    let gone := Queue.cleared (start.turns table confirms)
    String.join gone ++ now.display ++ textOf entries Reveal.pending now.queue.events =
        textOf entries Reveal.runes events ∧
      ∃ page rest, sectionTexts entries Reveal.runes events = gone ++ page :: rest ∧
        now.display.toList <+: page.toList := by
  intro table start now gone
  obtain ⟨n, path⟩ := leads_play table start confirms
  have running : start.queue.Halted entries := fun stopped => absurd stopped Bool.noConfusion
  have initial : start.queue.pageTexts entries = sectionTexts entries Reveal.runes events := by
    obtain ⟨first, rest, split⟩ := exists_splitOn events
    rw [← sectionTexts_of_fresh entries fresh]
    simp [start, Queue.pageTexts, sectionTexts, split]
  obtain ⟨first, rest, split⟩ := exists_splitOn now.queue.events
  have current : now.queue.pageTexts entries =
      (now.display ++ textOf entries Reveal.pending first) ::
        rest.map (textOf entries Reveal.pending) := by
    simp [Queue.pageTexts, sectionTexts, split, display]
  have pages := path.pageTexts_eq running
  rw [initial, current] at pages
  refine ⟨?_, _, _, pages, ?_⟩
  · rw [← join_sectionTexts, ← join_sectionTexts, pages]
    simp [gone, sectionTexts, split, String.append_assoc]
  · rw [String.toList_append]
    exact List.prefix_append _ _

theorem text_conserved_past_a_break :
    let entries := [(newlineCommand, Stock.insert "\n"), ("wait", .halt)]
    let events : List Event := [.text (.ofText "ab"), .command ⟨"wait", .empty⟩,
      .command ⟨newlineCommand, .empty⟩, .pageBreak, .text (.ofText "cd")]
    let table : CommandTable Unit := .ofStock entries
    let start : PageReader Unit := ⟨{ events, host := () }, false⟩
    let confirms := [false, true, true, true, true, false]
    let now := start.play table confirms
    let gone := Queue.cleared (start.turns table confirms)
    (∀ e ∈ events, e.Fresh) ∧ gone = ["ab\n"] ∧ now.display = "c" ∧
      String.join gone ++ now.display ++ textOf entries Reveal.pending now.queue.events =
        textOf entries Reveal.runes events ∧
      ∃ page rest, sectionTexts entries Reveal.runes events = gone ++ page :: rest ∧
        now.display.toList <+: page.toList := by
  intro entries events table start confirms now gone
  have fresh : ∀ e ∈ events, e.Fresh := by
    simp [events, Event.Fresh, Reveal.isFresh, Reveal.ofText]
  have cleared : gone = ["ab\n"] := by decide
  have shown : now.display = "c" := by decide
  have conserved := play_conserves_text entries () fresh confirms
  refine ⟨fresh, cleared, shown, ?_⟩
  simp only [gone, now, start, table]
  exact conserved

end PageReader
end Dialogue.Playback
