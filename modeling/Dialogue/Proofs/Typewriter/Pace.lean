import Mathlib.Algebra.GroupWithZero.Nat
import Mathlib.Data.List.DropRight
import Dialogue.Proofs.Typewriter.Signals

/-! The pace of a typewriter, told from what has been done to it. A typewriter keeps one time and
one delay. In a text that is underway the time is that of the last operation that set the pace anew,
and the delay is what the last character shown asks for; so when the next character is shown depends
on what has been done, and a text takes no less time than its characters ask for. -/
namespace Dialogue.Typewriter

/-- What the characters shown add to the delay of the next one. -/
def Config.delayBehind (config : Config) (shown : List Char) : Nat :=
  match shown.getLast? with
  | none => 0
  | some c => config.extraDelayAfter c

/-- The least time for the characters of a text: a delay before each of them, and more after every
character but the last. -/
def Config.typingTime (config : Config) (cs : List Char) : Nat :=
  cs.length * config.charDelay + (cs.dropLast.map config.extraDelayAfter).sum

/-- An operation with the time it was done at and what it did. -/
structure Entry where
  time : Nat
  operation : Operation
  reaction : Reaction

theorem Operation.continues_or (o : Operation) :
    o.Continues ∨ o = .reset ∨ ∃ text, o = .start text := by
  cases o with
  | start text => exact .inr (.inr ⟨text, rfl⟩)
  | reset => exact .inr (.inl rfl)
  | update | skip | pause | resume | clock => exact .inl trivial

namespace Entry

def isStart (e : Entry) : Bool :=
  match e.operation with
  | .start _ => true
  | .update | .skip | .pause | .resume | .reset | .clock _ => false

/-- Whether the delay of the next character runs from here: a start, a character shown, or a
successful resume. -/
def isAnchor (e : Entry) : Bool :=
  match e.operation with
  | .start _ => true
  | .update | .resume => e.reaction.effective
  | .skip | .pause | .reset | .clock _ => false

/-- The characters that were shown. -/
def revealed (e : Entry) : List Char := e.reaction.signals.filterMap Signal.char?

end Entry

/-- The time of the last entry that a delay runs from. -/
def anchor? (past : List Entry) : Option Nat := (past.reverse.find? Entry.isAnchor).map Entry.time

/-- The characters shown since the last start. -/
def revealedSince (past : List Entry) : List Char :=
  (past.rtakeWhile fun e => !e.isStart).flatMap Entry.revealed

namespace Session

/-- The operations of a run as they were done. -/
def entries (s : Session) : List Operation → List Entry
  | [] => []
  | o :: os => ⟨s.now, o, s.typewriter.operate s.now o⟩ :: (s.step o).entries os

/-- Whether the clock never goes back in a run. -/
def Forward (s : Session) : List Operation → Prop
  | [] => True
  | o :: os => s.now ≤ (s.step o).now ∧ (s.step o).Forward os

theorem entries_concat (s : Session) (os : List Operation) (o : Operation) :
    s.entries (os ++ [o]) =
      s.entries os ++ [⟨(s.run os).now, o, (s.run os).typewriter.operate (s.run os).now o⟩] := by
  induction os generalizing s with
  | nil => rfl
  | cons first os ih => exact congrArg _ (ih (s.step first))

theorem run_concat (s : Session) (os : List Operation) (o : Operation) :
    s.run (os ++ [o]) = (s.run os).step o := by
  rw [run_append]
  rfl

end Session

section
variable {t : Typewriter} {now : Nat} {o : Operation} {reaction : Reaction} {past : List Entry}
  {e : Entry}

theorem Config.typingTime_concat (config : Config) (cs : List Char) (c : Char) :
    config.typingTime (cs ++ [c]) =
      config.typingTime cs + (config.charDelay + config.delayBehind cs) := by
  have extras : (cs.map config.extraDelayAfter).sum =
      (cs.dropLast.map config.extraDelayAfter).sum + config.delayBehind cs := by
    obtain rfl | ⟨init, last, rfl⟩ := cs.eq_nil_or_concat
    · rfl
    · simp [delayBehind]
  rw [typingTime, typingTime, List.dropLast_concat, extras, List.length_append,
    List.length_singleton, Nat.add_mul, Nat.one_mul]
  omega

theorem anchor?_concat (past : List Entry) (e : Entry) :
    anchor? (past ++ [e]) = if e.isAnchor then some e.time else anchor? past := by
  unfold anchor?
  rw [List.reverse_append, List.reverse_singleton, List.singleton_append, List.find?_cons]
  cases e.isAnchor <;> rfl

theorem revealedSince_start (starts : e.isStart = true) : revealedSince (past ++ [e]) = [] := by
  rw [revealedSince, List.rtakeWhile_concat_neg]
  · rfl
  · simp [starts]

theorem revealedSince_concat (continues : e.isStart = false) :
    revealedSince (past ++ [e]) = revealedSince past ++ e.revealed := by
  rw [revealedSince, List.rtakeWhile_concat_pos, List.flatMap_append, List.flatMap_singleton,
    revealedSince]
  simp [continues]

/-- What a typewriter keeps of what has been done to it, while a text is underway. -/
structure Recalls (t : Typewriter) (past : List Entry) : Prop where
  anchor : anchor? past = some t.revealedAt
  delay : t.extraDelay = t.config.delayBehind (revealedSince past)

theorem Recalls.requiredDelay (recalls : Recalls t past) :
    t.requiredDelay = t.config.charDelay + t.config.delayBehind (revealedSince past) := by
  rw [Typewriter.requiredDelay, recalls.delay]

theorem recalls_start (t : Typewriter) (text : String) (now : Nat) (past : List Entry) :
    Recalls (t.start text now) (past ++ [⟨now, .start text, ⟨true, [], t.start text now⟩⟩]) where
  anchor := anchor?_concat ..
  delay := by
    rw [revealedSince_start rfl]
    rfl

/-- An entry in which nothing is shown and from which no delay runs makes no difference. -/
theorem Recalls.pass (recalls : Recalls t past) (continues : e.isStart = false)
    (apart : e.isAnchor = false) (silent : e.revealed = []) : Recalls t (past ++ [e]) where
  anchor := by
    rw [anchor?_concat, apart]
    exact recalls.anchor
  delay := by
    rw [revealedSince_concat continues, silent, List.append_nil]
    exact recalls.delay

theorem Recalls.does (recalls : Recalls t past) (continues : o.Continues)
    (does : Does t now o reaction) (going : reaction.typewriter.state.Underway) :
    Recalls reaction.typewriter (past ++ [⟨now, o, reaction⟩]) := by
  cases does with
  | ignores =>
    cases o with
    | start | reset => exact False.elim continues
    | update | skip | pause | resume | clock => exact recalls.pass rfl rfl rfl
  | completes | revealsLast | skips => exact False.elim going
  | @reveals c rest =>
    refine ⟨anchor?_concat .., ?_⟩
    have last : revealedSince (past ++ [⟨now, .update, ⟨true, [.char c], t.reveal c rest now⟩⟩]) =
        revealedSince past ++ [c] := revealedSince_concat rfl
    rw [last, Config.delayBehind, List.getLast?_concat]
    rfl
  | pauses =>
    have passed :=
      recalls.pass (e := ⟨now, .pause, true, [], { t with state := .paused }⟩) rfl rfl rfl
    exact ⟨passed.anchor, passed.delay⟩
  | resumes =>
    refine ⟨anchor?_concat .., ?_⟩
    rw [revealedSince_concat rfl]
    exact recalls.delay.trans (congrArg _ (List.append_nil _).symm)

/-- An operation that goes on with a text does not begin one. -/
theorem Does.underway (does : Does t now o reaction)
    (going : reaction.typewriter.state.Underway) : t.state.Underway := by
  by_contra still
  rw [does.eq_ignore still] at going
  exact still going

/-- A text that is shown character by character, by a clock that does not go back, has taken the
time that its characters ask for. -/
inductive OnPace (t : Typewriter) (now : Nat) : Prop
  | underway (going : t.state.Underway)
      (paced : t.startedAt + t.config.typingTime t.shown.toList ≤ t.revealedAt)
      (behind : t.revealedAt ≤ now) (delay : t.extraDelay = t.config.delayBehind t.shown.toList)
  | complete {finishedAt : Nat} (complete : t.state = .complete)
      (completed : t.completedAt = some finishedAt)
      (paced : t.startedAt + t.config.typingTime t.text.toList ≤ finishedAt)

theorem onPace_start (t : Typewriter) (text : String) (now : Nat) :
    OnPace (t.start text now) now := by
  have none_shown : now + t.config.typingTime [] ≤ now := by simp [Config.typingTime]
  exact .underway (t := t.start text now) trivial none_shown (Nat.le_refl now) rfl

theorem OnPace.later (h : OnPace t now) {later : Nat} (forward : now ≤ later) : OnPace t later := by
  cases h with
  | underway going paced behind delay => exact .underway going paced (behind.trans forward) delay
  | complete complete completed paced => exact .complete complete completed paced

/-- The next character is shown no sooner than it asks for. -/
theorem paced_concat {c : Char}
    (paced : t.startedAt + t.config.typingTime t.shown.toList ≤ t.revealedAt)
    (behind : t.revealedAt ≤ now) (delay : t.extraDelay = t.config.delayBehind t.shown.toList)
    (due : t.requiredDelay ≤ now - t.revealedAt) :
    t.startedAt + t.config.typingTime (t.shown.toList ++ [c]) ≤ now := by
  rw [requiredDelay, delay] at due
  rw [Config.typingTime_concat]
  omega

theorem OnPace.does (h : OnPace t now) (divided : Divided t) (does : Does t now o reaction)
    (unskipped : o = .skip → reaction.effective = false) : OnPace reaction.typewriter now := by
  cases h with
  | complete complete completed paced =>
    rw [does.eq_ignore fun going => going.ne_complete complete]
    exact .complete complete completed paced
  | underway going paced behind delay =>
    cases does with
    | ignores => exact .underway going paced behind delay
    | completes typing none_left =>
      have all_shown : t.text.toList = t.shown.toList := by simp [divided.parts, none_left]
      rw [← all_shown] at paced
      exact .complete rfl rfl (paced.trans behind)
    | @reveals c rest _ next _ due =>
      refine .underway going ?_ (Nat.le_refl now) ?_
      · simpa [reveal] using paced_concat paced behind delay due
      · simp [reveal, Config.delayBehind]
    | @revealsLast c _ next due =>
      have all_shown : t.text.toList = t.shown.toList ++ [c] := by rw [divided.parts, next]
      have paced := paced_concat (c := c) paced behind delay due
      rw [← all_shown] at paced
      exact .complete rfl rfl paced
    | skips => exact absurd (unskipped rfl) (by simp)
    | pauses => exact .underway trivial paced behind delay
    | resumes => exact .underway trivial (paced.trans behind) (Nat.le_refl now) delay

theorem update_effective_iff :
    (t.update now).effective = true ↔
      t.state = .typing ∧ t.pending ≠ [] ∧ t.requiredDelay ≤ now - t.revealedAt := by
  constructor
  · intro effective
    have does := does_update t now
    generalize t.update now = reaction at does effective
    cases does with
    | ignores | completes => contradiction
    | reveals typing next _ due => exact ⟨typing, by simp [next], due⟩
    | revealsLast typing next due => exact ⟨typing, by simp [next], due⟩
  · rintro ⟨typing, some_left, due⟩
    obtain ⟨c, rest, next⟩ := List.exists_cons_of_ne_nil some_left
    have enough : ¬ now - t.revealedAt < t.requiredDelay := Nat.not_lt.mpr due
    simp only [update, typing, next, enough, ne_eq, not_true_eq_false, if_false]
    split <;> rfl

/-- An update shows the next character of the text, or nothing. -/
theorem Divided.shown_update (h : Divided t) (now : Nat) :
    if (t.update now).effective then
      ∃ c, t.text.toList[t.index]? = some c ∧ (t.update now).typewriter.shown = t.shown.push c
    else (t.update now).typewriter.shown = t.shown := by
  have comes {c : Char} {rest : List Char} (next : t.pending = c :: rest) :
      t.text.toList[t.index]? = some c := by
    rw [h.parts, h.index, next, ← String.length_toList]
    simp
  have does := does_update t now
  generalize t.update now = reaction at does
  cases does with
  | ignores | completes => rfl
  | reveals _ next => exact ⟨_, comes next, rfl⟩
  | revealsLast _ next => exact ⟨_, comes next, rfl⟩

theorem Divided.index_lt_iff (h : Divided t) : t.index < t.total ↔ t.pending ≠ [] := by
  rw [← h.index_add, Nat.lt_add_right_iff_pos, List.length_pos_iff]

end

namespace Session

variable {s : Session} {os : List Operation}

theorem recalls_run (config : Config) (now : Nat) (os : List Operation)
    (going : ((fresh config now).run os).typewriter.state.Underway) :
    Recalls ((fresh config now).run os).typewriter ((fresh config now).entries os) := by
  -- Both the run and what is told of it grow at their end.
  induction os using List.reverseRecOn with
  | nil => exact False.elim going
  | append_singleton os o ih =>
    rw [run_concat] at going ⊢
    rw [entries_concat]
    obtain continues | rfl | ⟨text, rfl⟩ := o.continues_or
    · have does := does_operate ((fresh config now).run os).typewriter
        ((fresh config now).run os).now continues
      exact (ih (does.underway going)).does continues does going
    · exact False.elim going
    · exact recalls_start ..

theorem onPace_run (h : OnPace s.typewriter s.now) (sound : Sound s.typewriter)
    (onward : ∀ o ∈ os, o.Continues) (forward : s.Forward os)
    (unskipped : ∀ entry ∈ s.history os, entry.1 = .skip → entry.2.effective = false) :
    OnPace (s.run os).typewriter (s.run os).now := by
  induction os generalizing s with
  | nil => exact h
  | cons o os ih =>
    obtain ⟨first, rest⟩ := List.forall_mem_cons.mp onward
    obtain ⟨skipless, later⟩ := List.forall_mem_cons.mp unskipped
    have does := does_operate s.typewriter s.now first
    exact ih (s := s.step o) ((h.does sound.toDivided does skipless).later forward.1)
      (sound.operate s.now o) rest forward.2 later

theorem config_run (config : Config) (now : Nat) (os : List Operation) :
    ((fresh config now).run os).typewriter.config = config := by
  have all : ∀ o ∈ os, True := fun _ _ => trivial
  refine run_keeps (P := (·.config = config)) ?_ rfl all
  intro t now o _ same
  obtain continues | rfl | ⟨text, rfl⟩ := o.continues_or
  · exact (does_operate t now continues).config_eq.trans same
  · exact same
  · exact same

theorem text_run (onward : ∀ o ∈ os, o.Continues) :
    (s.run os).typewriter.text = s.typewriter.text := by
  refine run_keeps (P := (·.text = s.typewriter.text)) ?_ rfl onward
  intro t now o continues same
  exact (does_operate t now continues).text_eq.trans same

/-- Characters are shown at the pace that the history of a typewriter asks for. While a text is
typed, an update shows a character exactly if one is left and the time since the anchor is the delay
of a character and what the last character shown since the start adds to it; the anchor is the last
start, character shown or resume. It is the next character of the text, and only one. So, however
late the updates come and however often the text is paused, a text that is typed to its end without
a skip, by a clock that never goes back, takes no less time than its characters ask for. -/
theorem reveals_follow_history (config : Config) (now : Nat) (os : List Operation) :
    let s := (fresh config now).run os
    let t := s.typewriter
    let past := (fresh config now).entries os
    let update := t.update s.now
    (t.state = .typing → ∃ anchor, anchor? past = some anchor ∧
      (update.effective = true ↔ t.index < t.total ∧
        config.charDelay + config.delayBehind (revealedSince past) ≤ s.now - anchor)) ∧
    (t.state ≠ .typing → update.effective = false) ∧
    (if update.effective then
      ∃ c, t.text.toList[t.index]? = some c ∧ update.typewriter.shown = t.shown.push c
    else update.typewriter.shown = t.shown) ∧
    ∀ text more,
      let started := s.step (.start text)
      (∀ o ∈ more, o.Continues) → started.Forward more →
      (∀ entry ∈ started.history more, entry.1 = .skip → entry.2.effective = false) →
      (started.run more).typewriter.state = .complete →
      config.typingTime text.toList ≤ (started.run more).elapsed := by
  intro s t past update
  have sound : Sound t := sound_run config now os
  refine ⟨?_, ?_, sound.toDivided.shown_update s.now, ?_⟩
  · intro typing
    have recalls : Recalls t past :=
      recalls_run config now os (State.underway_iff.mpr (.inl typing))
    have config_eq : t.config = config := config_run config now os
    refine ⟨t.revealedAt, recalls.anchor, ?_⟩
    rw [update_effective_iff, sound.toDivided.index_lt_iff, recalls.requiredDelay, config_eq]
    exact and_iff_right typing
  · intro still
    rw [← Bool.not_eq_true, update_effective_iff]
    exact fun effective => still effective.1
  · intro text more started onward forward unskipped complete
    have joined : started.run more = (fresh config now).run (os ++ .start text :: more) :=
      (run_append (fresh config now) os (.start text :: more)).symm
    have config_eq : (started.run more).typewriter.config = config := joined ▸ config_run ..
    have text_eq : (started.run more).typewriter.text = text := text_run onward
    have pace : OnPace (started.run more).typewriter (started.run more).now :=
      onPace_run (onPace_start t text s.now) (sound_start t text s.now) onward forward unskipped
    cases pace with
    | underway going => exact absurd complete going.ne_complete
    | @complete finishedAt _ completed paced =>
      rw [config_eq, text_eq] at paced
      rw [elapsed, elapsed_of_complete complete, completed, Option.getD_some]
      omega

/-- A pause in the middle of a delay makes it run anew, so this text takes 350 ms more. -/
example :
    let s := (fresh .default 0).run [.start ".b", .clock 50, .update, .clock 400, .pause, .resume,
      .clock 849, .update, .clock 850, .update]
    s.typewriter.state = .complete ∧ s.elapsed = 850 ∧
      Config.default.typingTime ".b".toList = 500 := by decide

end Session

end Dialogue.Typewriter
