import Dialogue.Playback.Event
import Dialogue.Proofs.Playback.Stock

/-! The text of a script, page by page. Events are cut into sections at the page breaks; a section
shows its texts and what its commands insert. A part of a text may be shown already: what an event
shows is told for any part of its text, the whole of it or only what is pending. -/
namespace Dialogue.Playback

variable (entries : List (String × Stock)) (part : Reveal → List Char)

/-- What an event shows, if `part` of a text counts. -/
def Event.shows : Event → String
  | .text r => String.ofList (part r)
  | .pageBreak => ""
  | .command c => inserted entries c

def textOf (es : List Event) : String := String.join (es.map (Event.shows entries part))

/-- The text of each section. -/
def sectionTexts (es : List Event) : List String :=
  (es.splitOn .pageBreak).map (textOf entries part)

/-- Events of which nothing has been shown. -/
def Event.Fresh : Event → Prop
  | .text r => r.isFresh = true
  | .pageBreak | .command _ => True

@[simp] theorem textOf_nil : textOf entries part [] = "" := rfl

@[simp] theorem textOf_cons (e : Event) (es : List Event) :
    textOf entries part (e :: es) = e.shows entries part ++ textOf entries part es := by
  simp [textOf]

@[simp] theorem modifyHead_self (l : List α) : l.modifyHead (fun x => x) = l :=
  congrFun List.modifyHead_id l

theorem splitOn_pageBreak (es : List Event) :
    (Event.pageBreak :: es).splitOn .pageBreak = [] :: es.splitOn .pageBreak := by
  simp [List.splitOn_cons_eq_if_modifyHead]

theorem splitOn_cons {e : Event} (h : e ≠ .pageBreak) (es : List Event) :
    (e :: es).splitOn .pageBreak = (es.splitOn .pageBreak).modifyHead (e :: ·) := by
  simp [List.splitOn_cons_eq_if_modifyHead, h]

theorem exists_splitOn (es : List Event) :
    ∃ first rest, es.splitOn .pageBreak = first :: rest :=
  List.exists_cons_of_ne_nil (List.splitOn_ne_nil _ _)

@[simp] theorem sectionTexts_nil : sectionTexts entries part [] = [""] := by
  simp [sectionTexts]

@[simp] theorem sectionTexts_pageBreak (es : List Event) :
    sectionTexts entries part (.pageBreak :: es) = "" :: sectionTexts entries part es := by
  simp [sectionTexts, splitOn_pageBreak]

theorem sectionTexts_cons {e : Event} (h : e ≠ .pageBreak) (es : List Event) :
    sectionTexts entries part (e :: es) =
      (sectionTexts entries part es).modifyHead (e.shows entries part ++ ·) := by
  obtain ⟨first, rest, split⟩ := exists_splitOn es
  simp [sectionTexts, splitOn_cons h, split]

/-- The sections have the text of the events, each piece once and in its place. -/
theorem join_sectionTexts (es : List Event) :
    String.join (sectionTexts entries part es) = textOf entries part es := by
  induction es with
  | nil => rw [sectionTexts_nil]; rfl
  | cons e es ih =>
    by_cases h : e = .pageBreak
    · simp [h, ih, Event.shows]
    · obtain ⟨first, rest, split⟩ := exists_splitOn es
      rw [textOf_cons, ← ih, sectionTexts_cons entries part h]
      simp [sectionTexts, split, String.append_assoc]

/-- Of a fresh event all is pending. -/
theorem shows_of_fresh {e : Event} (h : e.Fresh) :
    e.shows entries Reveal.pending = e.shows entries Reveal.runes := by
  cases e with
  | text r =>
    have none_shown : r.shown = "" := String.isEmpty_iff.mp h
    simp [Event.shows, Reveal.runes, none_shown]
  | pageBreak | command => rfl

theorem textOf_of_fresh {es : List Event} (h : ∀ e ∈ es, e.Fresh) :
    textOf entries Reveal.pending es = textOf entries Reveal.runes es := by
  unfold textOf
  rw [List.map_congr_left fun e he => shows_of_fresh entries (h e he)]

theorem mem_of_mem_splitOn {es cut : List Event} {e : Event}
    (hs : cut ∈ es.splitOn .pageBreak) (he : e ∈ cut) : e ∈ es := by
  induction es generalizing cut with
  | nil => simp_all
  | cons x es ih =>
    by_cases hb : x = .pageBreak
    · rw [hb, splitOn_pageBreak] at hs
      obtain rfl | later := List.mem_cons.mp hs
      · contradiction
      · exact List.mem_cons_of_mem _ (ih later he)
    · obtain ⟨first, rest, split⟩ := exists_splitOn es
      rw [splitOn_cons hb, split] at hs
      obtain rfl | later := List.mem_cons.mp hs
      · obtain rfl | inside := List.mem_cons.mp he
        · exact List.mem_cons_self
        · exact List.mem_cons_of_mem _ (ih (split ▸ List.mem_cons_self) inside)
      · exact List.mem_cons_of_mem _ (ih (split ▸ List.mem_cons_of_mem _ later) he)

theorem sectionTexts_of_fresh {es : List Event} (h : ∀ e ∈ es, e.Fresh) :
    sectionTexts entries Reveal.pending es = sectionTexts entries Reveal.runes es :=
  List.map_congr_left fun _ hs => textOf_of_fresh entries fun e he => h e (mem_of_mem_splitOn hs he)

/-- Cuttings of the pending text in which only page breaks count: what stands in front of the first
break comes in front of the first piece. -/
def Cuts (cut : List Event → List String) : Prop :=
  ∀ e es, e ≠ .pageBreak →
    cut (e :: es) = (cut es).modifyHead (e.shows entries Reveal.pending ++ ·)

theorem cuts_sectionTexts : Cuts entries (sectionTexts entries Reveal.pending) :=
  fun _ es h => sectionTexts_cons entries _ h es

variable {entries} in
/-- Texts shown completely make no difference to a cutting. -/
theorem Cuts.dropWhile {cut : List Event → List String} (cuts : Cuts entries cut)
    (es : List Event) : cut (es.dropWhile Event.isExhausted) = cut es := by
  refine apply_dropWhile_isExhausted ?_ es
  intro r es none_left
  simp [cuts (.text r) es, Event.shows, none_left]

/-- The pages of a script: its sections, without an empty one behind its last page break. -/
def pagesOf (es : List Event) : List (List Event) :=
  let sections := es.splitOn .pageBreak
  if .pageBreak ∈ es ∧ sections.getLast? = some [] then sections.dropLast else sections

@[simp] theorem pagesOf_nil : pagesOf [] = [[]] := by
  simp [pagesOf]

theorem splitOn_of_not_mem {es : List Event} (h : .pageBreak ∉ es) :
    es.splitOn .pageBreak = [es] := by
  apply List.splitOnP_eq_singleton
  intro e he
  simp only [beq_eq_false_iff_ne]
  intro same
  exact h (same ▸ he)

/-- A page break cuts something off. -/
theorem splitOn_of_mem {es : List Event} (h : .pageBreak ∈ es) :
    ∃ first second rest, es.splitOn .pageBreak = first :: second :: rest := by
  induction es with
  | nil => contradiction
  | cons e es ih =>
    by_cases hb : e = .pageBreak
    · obtain ⟨second, rest, split⟩ := exists_splitOn es
      exact ⟨[], second, rest, by rw [hb, splitOn_pageBreak, split]⟩
    · have later : .pageBreak ∈ es := (List.mem_cons.mp h).resolve_left (Ne.symm hb)
      obtain ⟨first, second, rest, split⟩ := ih later
      exact ⟨e :: first, second, rest, by rw [splitOn_cons hb, split]; rfl⟩

/-- The last page break ends its page and starts none. -/
@[simp] theorem pagesOf_singleton : pagesOf [.pageBreak] = [[]] := by
  simp [pagesOf, splitOn_pageBreak]

theorem pagesOf_pageBreak {es : List Event} (h : es ≠ []) :
    pagesOf (.pageBreak :: es) = [] :: pagesOf es := by
  obtain ⟨first, rest, split⟩ := exists_splitOn es
  by_cases hb : .pageBreak ∈ es
  · simp only [pagesOf, splitOn_pageBreak, split, hb, List.mem_cons_self, true_and,
      List.getLast?_cons_cons]
    split <;> simp
  · rw [splitOn_of_not_mem hb] at split
    simp [pagesOf, splitOn_pageBreak, splitOn_of_not_mem hb, hb, h]

theorem pagesOf_cons {e : Event} (h : e ≠ .pageBreak) (es : List Event) :
    pagesOf (e :: es) = (pagesOf es).modifyHead (e :: ·) := by
  by_cases hb : .pageBreak ∈ es
  · obtain ⟨first, second, rest, split⟩ := splitOn_of_mem hb
    simp only [pagesOf, splitOn_cons h, split, hb, List.mem_cons_of_mem, true_and,
      List.modifyHead_cons, List.getLast?_cons_cons]
    split <;> simp
  · simp [pagesOf, splitOn_cons h, splitOn_of_not_mem hb, hb, Ne.symm h]

/-- There is always a page, if an empty one. -/
theorem exists_pagesOf (es : List Event) : ∃ first rest, pagesOf es = first :: rest := by
  by_cases hb : .pageBreak ∈ es
  · obtain ⟨first, second, rest, split⟩ := splitOn_of_mem hb
    simp only [pagesOf, split]
    split
    · exact ⟨first, _, List.dropLast_cons_cons⟩
    · exact ⟨first, _, rfl⟩
  · exact ⟨es, [], by simp [pagesOf, splitOn_of_not_mem hb, hb]⟩

theorem pagesOf_subset (es : List Event) : pagesOf es ⊆ es.splitOn .pageBreak := by
  unfold pagesOf
  dsimp only
  split
  · exact List.dropLast_subset _
  · exact List.Subset.refl _

theorem pageTexts_of_fresh {es : List Event} (h : ∀ e ∈ es, e.Fresh) :
    (pagesOf es).map (textOf entries Reveal.pending) =
      (pagesOf es).map (textOf entries Reveal.runes) :=
  List.map_congr_left fun _ hp =>
    textOf_of_fresh entries fun e he => h e (mem_of_mem_splitOn (pagesOf_subset es hp) he)

theorem cuts_pagesOf :
    Cuts entries fun es => (pagesOf es).map (textOf entries Reveal.pending) := by
  intro e es h
  simp only [pagesOf_cons h]
  cases pagesOf es <;> simp

/-- A program starts with all of its text unshown. -/
theorem fresh_eventsOf (marker : String) (p : Script.Program) :
    ∀ e ∈ eventsOf marker p, e.Fresh := by
  intro e he
  obtain ⟨x, -, made⟩ := List.mem_filterMap.mp he
  cases x with
  | text value =>
    simp only [eventOf, Option.ite_none_left_eq_some, Option.some.injEq] at made
    rw [← made.2]
    rfl
  | command name params =>
    simp only [eventOf] at made
    split at made <;> cases made <;> trivial

theorem fresh_of_compile {marker : String} {source : List Char} {events : List Event}
    (compiled : compile marker source = .ok events) : ∀ e ∈ events, e.Fresh := by
  unfold compile at compiled
  cases parsed : (Script.parse source).strict with
  | error e => simp [parsed, Except.map] at compiled
  | ok program =>
    simp only [parsed, Except.map, Except.ok.injEq] at compiled
    exact compiled ▸ fresh_eventsOf marker program

end Dialogue.Playback
