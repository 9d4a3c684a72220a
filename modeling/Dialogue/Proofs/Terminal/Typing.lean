import Mathlib.Algebra.Order.Floor.Div
import Dialogue.Terminal.Typing
import Dialogue.Proofs.Typewriter.Frames
import Dialogue.Proofs.Typewriter.State

/-! How long it takes to type a message. A frame does nothing until the delay of the next stage has
passed, so a stage takes as many waits as fill its delay: the first character may come in the first
frame, all else takes a wait at least. -/
namespace Dialogue.Terminal

open Typewriter

/-- The waits between the characters of a text: a character comes a wait after the one before it, or
as soon as its delay has passed. -/
def waitsBetween (config : Config) (wait : Nat) (cs : List Char) : Nat :=
  (cs.dropLast.map fun c =>
    max 1 ((config.charDelay + config.extraDelayAfter c) ⌈/⌉ wait)).sum

/-- The waits until a text is complete. -/
def waitsToComplete (config : Config) (wait : Nat) (cs : List Char) : Nat :=
  if cs.isEmpty then 0 else config.charDelay ⌈/⌉ wait + waitsBetween config wait cs

/-- The waits from its completion until a text is done with. -/
def waitsToLeave (config : Config) (wait : Nat) : Nat :=
  if config.autoComplete then max 1 (config.autoCompleteDelay ⌈/⌉ wait) else 0

/-- Whether nothing more is typed. -/
def isDone (b : MessageBox) : Bool :=
  if b.typewriter.config.autoComplete then b.dismissed else b.typewriter.isComplete

/-- Typing on where all that is on display has been written. -/
def typeOn (wait : Nat) (b : MessageBox) (now waits : Nat) (output : String) : Option Typed :=
  typeFrames wait b b.typewriter.shown.utf8ByteSize now waits output

/-- A message box waits for its next stage, which comes `delay` after `since`. -/
structure Awaits (b : MessageBox) (delay since : Nat) : Prop where
  holds : ∀ now, now - since < delay → (b.tick false now).box = b
  left : ∀ now, timeLeft b now = delay - (now - since)
  unfinished : isDone b = false

/-- What typing comes to, once a text that was started at `startedAt` has been complete since
`finishedAt`, after `waits` waits and with `output` written. -/
structure Leaves (config : Config) (wait startedAt finishedAt waits : Nat) (output : String)
    (typed : Typed) : Prop where
  output : typed.output = output ++ "\n"
  elapsed : typed.elapsed = finishedAt - startedAt
  waits : typed.waits = waits + waitsToLeave config wait
  now : typed.now = finishedAt + waitsToLeave config wait * wait
  configured : typed.box.typewriter.config = config
  started : typed.box.typewriter.startedAt = startedAt
  completed : typed.box.typewriter.completedAt = some finishedAt
  dismissed : typed.box.dismissed = config.autoComplete

section
variable {wait now waits delay since : Nat} {b b' : MessageBox} {t : Typewriter} {c : Char}
  {rest : List Char} {added output : String}

theorem typingFrame_of_tick (frame : (b.tick false now).box = b')
    (shown : b'.typewriter.shown = b.typewriter.shown ++ added) :
    typingFrame b b.typewriter.shown.utf8ByteSize now =
      ⟨added.toList, b'.typewriter.shown.utf8ByteSize, isDone b', b'⟩ := by
  rw [typingFrame, frame, shown, Text.suffixFrom_append, ← shown]
  rfl

theorem typeOn_of_done (frame : (b.tick false now).box = b')
    (shown : b'.typewriter.shown = b.typewriter.shown ++ added) (done : isDone b' = true) :
    typeOn wait b now waits output =
      some ⟨output ++ added ++ "\n", b'.typewriter.elapsed now, waits, now, b'⟩ := by
  rw [typeOn, typeFrames, typingFrame_of_tick frame shown]
  simp [done]

theorem typeOn_of_nearer (frame : (b.tick false now).box = b')
    (shown : b'.typewriter.shown = b.typewriter.shown ++ added) (unfinished : isDone b' = false)
    (nearer : stagesLeft b' < stagesLeft b ∨
      stagesLeft b' = stagesLeft b ∧ timeLeft b' (now + wait) < timeLeft b now) :
    typeOn wait b now waits output =
      typeOn wait b' (now + wait) (waits + 1) (output ++ added) := by
  rw [typeOn, typeFrames, typingFrame_of_tick frame shown]
  simp [unfinished, nearer, typeOn]

/-- Frames that come too early only let time pass. -/
theorem Awaits.typeOn_add (awaits : Awaits b delay since) (ticks : 0 < wait) {passed more : Nat}
    (early : ∀ i < more, (passed + i) * wait < delay) :
    typeOn wait b (since + passed * wait) waits output =
      typeOn wait b (since + (passed + more) * wait) (waits + more) output := by
  induction more with
  | zero => rfl
  | succ more ih =>
    rw [ih fun i hi => early i (Nat.lt_succ_of_lt hi)]
    have soon : (passed + more) * wait < delay := early more (Nat.lt_succ_self more)
    have frame : (b.tick false (since + (passed + more) * wait)).box = b := by
      apply awaits.holds
      omega
    rw [typeOn_of_nearer frame (String.append_empty).symm awaits.unfinished]
    · rw [String.append_empty, ← Nat.add_assoc, Nat.add_mul _ 1, Nat.one_mul, Nat.add_assoc since]
      rfl
    · right
      rw [awaits.left, awaits.left]
      omega

theorem ceilDiv_le_iff (ticks : 0 < wait) {frames : Nat} :
    delay ⌈/⌉ wait ≤ frames ↔ delay ≤ frames * wait := by
  rw [ceilDiv_le_iff_le_mul ticks, Nat.mul_comm]

/-- A stage comes in the first frame in which its delay has passed. -/
theorem Awaits.typeOn_due (awaits : Awaits b delay since) (ticks : 0 < wait)
    (passed waits : Nat) (output : String) :
    typeOn wait b (since + passed * wait) waits output =
      typeOn wait b (since + max passed (delay ⌈/⌉ wait) * wait)
        (waits + (max passed (delay ⌈/⌉ wait) - passed)) output := by
  have early : ∀ i < max passed (delay ⌈/⌉ wait) - passed, (passed + i) * wait < delay := by
    intro i hi
    have sooner : passed + i < delay ⌈/⌉ wait := by omega
    exact Nat.lt_of_not_le (mt (ceilDiv_le_iff ticks).mpr (Nat.not_le_of_lt sooner))
  rw [awaits.typeOn_add ticks early, Nat.add_sub_cancel' (Nat.le_max_left ..)]

theorem due_of_max (ticks : 0 < wait) (passed : Nat) :
    delay ≤ since + max passed (delay ⌈/⌉ wait) * wait - since := by
  have filled := (ceilDiv_le_iff ticks).mp (Nat.le_max_right passed (delay ⌈/⌉ wait))
  omega

theorem box_tick_of_typing (typing : t.state = .typing) (now : Nat) :
    (MessageBox.tick ⟨t, false⟩ false now).box = ⟨(t.update now).typewriter, false⟩ := by
  simp [MessageBox.tick, isIdle, isComplete, typing]

theorem box_tick_of_complete {finishedAt : Nat} (complete : t.state = .complete)
    (completed : t.completedAt = some finishedAt) (auto : t.config.autoComplete = true)
    (now : Nat) :
    (MessageBox.tick ⟨t, false⟩ false now).box =
      ⟨t, decide (t.config.autoCompleteDelay ≤ now - finishedAt)⟩ := by
  have still : t.update now = t.ignore := update_of_ne_typing (by simp [complete]) now
  by_cases due : t.config.autoCompleteDelay ≤ now - finishedAt <;>
    simp [MessageBox.tick, isIdle, isComplete, complete, still, ignore, due,
      MessageBox.autoAdvanceDue, auto, timeSinceComplete, completed]

/-- The next character comes once its delay has passed. -/
theorem awaits_next (typing : t.state = .typing) (opened : t.completedAt = none)
    (next : t.pending = c :: rest) : Awaits ⟨t, false⟩ t.requiredDelay t.revealedAt where
  holds := by
    intro now early
    rw [box_tick_of_typing typing]
    simp [update, typing, next, early, ignore]
  left := by
    intro now
    simp [timeLeft, timeSinceComplete, opened]
  unfinished := by simp [isDone, isComplete, typing]

/-- A complete text is left by itself once the delay for that has passed. -/
theorem awaits_leave {finishedAt : Nat} (complete : t.state = .complete)
    (completed : t.completedAt = some finishedAt) (auto : t.config.autoComplete = true) :
    Awaits ⟨t, false⟩ t.config.autoCompleteDelay finishedAt where
  holds := by
    intro now early
    rw [box_tick_of_complete complete completed auto, decide_eq_false (Nat.not_le_of_lt early)]
  left := by
    intro now
    simp [timeLeft, timeSinceComplete, completed]
  unfinished := by simp [isDone, auto]

/-- From the frame that completes a text it is left after the waits for that. -/
theorem exists_typeOn_of_completes {t' : Typewriter} (ticks : 0 < wait) (waits : Nat)
    (output : String)
    (frame : (MessageBox.tick ⟨t, false⟩ false now).box = ⟨t', false⟩)
    (incomplete : t.state ≠ .complete) (fewer : t'.pending.length ≤ t.pending.length)
    (complete : t'.state = .complete) (completed : t'.completedAt = some now)
    (shown : t'.shown = t.shown ++ added) :
    ∃ typed, typeOn wait ⟨t, false⟩ now waits output = some typed ∧
      Leaves t'.config wait t'.startedAt now waits (output ++ added) typed := by
  have elapsed (later : Nat) : t'.elapsed later = now - t'.startedAt := by
    rw [elapsed_of_complete complete, completed, Option.getD_some]
  cases auto : t'.config.autoComplete with
  | false =>
    have at_once : waitsToLeave t'.config wait = 0 := by simp [waitsToLeave, auto]
    have done : isDone ⟨t', false⟩ = true := by simp [isDone, auto, isComplete, complete]
    refine ⟨_, typeOn_of_done frame shown done, ?_⟩
    exact {
      output := rfl
      elapsed := elapsed now
      waits := by rw [at_once, Nat.add_zero]
      now := by rw [at_once, Nat.zero_mul, Nat.add_zero]
      configured := rfl
      started := rfl
      completed := completed
      dismissed := auto.symm }
  | true =>
    have leaving : waitsToLeave t'.config wait = max 1 (t'.config.autoCompleteDelay ⌈/⌉ wait) := by
      simp [waitsToLeave, auto]
    have nearer : stagesLeft ⟨t', false⟩ < stagesLeft ⟨t, false⟩ := by
      simp [stagesLeft, isComplete, complete, incomplete]
      omega
    have awaits := awaits_leave complete completed auto
    have leaves : (MessageBox.tick ⟨t', false⟩ false
        (now + max 1 (t'.config.autoCompleteDelay ⌈/⌉ wait) * wait)).box = ⟨t', true⟩ := by
      rw [box_tick_of_complete complete completed auto, decide_eq_true (due_of_max ticks 1)]
    have done : isDone ⟨t', true⟩ = true := by simp [isDone, auto]
    have comes := awaits.typeOn_due ticks 1 (waits + 1) (output ++ added)
    rw [Nat.one_mul] at comes
    rw [typeOn_of_nearer frame shown awaits.unfinished (.inl nearer), comes]
    refine ⟨_, typeOn_of_done leaves (String.append_empty).symm done, ?_⟩
    exact {
      output := by rw [String.append_empty]
      elapsed := elapsed _
      waits := by
        rw [leaving]
        dsimp only
        omega
      now := by rw [leaving]
      configured := rfl
      started := rfl
      completed := completed
      dismissed := auto.symm }

theorem waitsBetween_singleton (config : Config) (wait : Nat) (c : Char) :
    waitsBetween config wait [c] = 0 := rfl

theorem waitsBetween_cons (config : Config) (wait : Nat) (c d : Char) (rest : List Char) :
    waitsBetween config wait (c :: d :: rest) =
      max 1 ((config.charDelay + config.extraDelayAfter c) ⌈/⌉ wait) +
        waitsBetween config wait (d :: rest) := by
  simp [waitsBetween]

theorem push_eq_append (s : String) (c : Char) : s.push c = s ++ String.ofList [c] := by
  rw [← String.toList_inj]
  simp

theorem box_tick_of_due (typing : t.state = .typing) (next : t.pending = c :: rest)
    (due : t.requiredDelay ≤ now - t.revealedAt) :
    (MessageBox.tick ⟨t, false⟩ false now).box =
      ⟨if rest.isEmpty then (t.reveal c rest now).finish now else t.reveal c rest now, false⟩ := by
  have enough : ¬ now - t.revealedAt < t.requiredDelay := Nat.not_lt.mpr due
  rw [box_tick_of_typing typing]
  simp only [update, typing, next, enough, ne_eq, not_true_eq_false, if_false]
  split <;> rfl

/-- The characters that are left come one after another, and then the text is left. -/
theorem exists_typeOn_of_due (ticks : 0 < wait) (waits : Nat) (output : String)
    (typing : t.state = .typing) (opened : t.completedAt = none) (next : t.pending = c :: rest)
    (due : t.requiredDelay ≤ now - t.revealedAt) :
    ∃ typed, typeOn wait ⟨t, false⟩ now waits output = some typed ∧
      Leaves t.config wait t.startedAt (now + waitsBetween t.config wait (c :: rest) * wait)
        (waits + waitsBetween t.config wait (c :: rest)) (output ++ String.ofList (c :: rest))
        typed := by
  -- On the characters that are left: the frame that shows one is where the delay of the next begins.
  induction rest generalizing t c now waits output with
  | nil =>
    have frame : (MessageBox.tick ⟨t, false⟩ false now).box =
        ⟨(t.reveal c [] now).finish now, false⟩ := box_tick_of_due typing next due
    have typed := exists_typeOn_of_completes ticks waits output frame (by simp [typing])
      (Nat.zero_le _) rfl rfl (push_eq_append t.shown c)
    rw [waitsBetween_singleton, Nat.zero_mul]
    exact typed
  | cons d rest ih =>
    let t' := t.reveal c (d :: rest) now
    have awaits : Awaits ⟨t', false⟩ t'.requiredDelay now := awaits_next typing opened rfl
    have nearer : stagesLeft ⟨t', false⟩ < stagesLeft ⟨t, false⟩ := by
      simp [stagesLeft, t', reveal, next, isComplete, typing]
    have comes := awaits.typeOn_due ticks 1 (waits + 1) (output ++ String.ofList [c])
    have counted : waits + 1 + (max 1 (t'.requiredDelay ⌈/⌉ wait) - 1) =
        waits + max 1 (t'.requiredDelay ⌈/⌉ wait) := by omega
    have joined : String.ofList [c] ++ String.ofList (d :: rest) = String.ofList (c :: d :: rest) :=
      String.ofList_append.symm
    have later := ih (t := t') (c := d) (waits + max 1 (t'.requiredDelay ⌈/⌉ wait))
      (output ++ String.ofList [c]) typing opened rfl (due_of_max ticks 1)
    rw [Nat.one_mul, counted] at comes
    rw [typeOn_of_nearer (box_tick_of_due typing next due) (push_eq_append t.shown c)
      awaits.unfinished (.inl nearer), waitsBetween_cons, Nat.add_mul, ← Nat.add_assoc,
      ← Nat.add_assoc, ← joined, ← String.append_assoc]
    exact comes ▸ later

theorem typeText_eq_typeOn (wait : Nat) (b : MessageBox) (text : String) (now : Nat) :
    typeText wait b text now = typeOn wait ⟨b.typewriter.start text now, false⟩ now 0 "" := rfl

/-- A text is typed in the same way whatever was typed before it. -/
theorem exists_typeText (ticks : 0 < wait) (b : MessageBox) (text : String) (now : Nat) :
    ∃ typed, typeText wait b text now = some typed ∧
      Leaves b.typewriter.config wait now
        (now + waitsToComplete b.typewriter.config wait text.toList * wait)
        (waitsToComplete b.typewriter.config wait text.toList) text typed := by
  let t := b.typewriter.start text now
  rw [typeText_eq_typeOn]
  cases next : text.toList with
  | nil =>
    have empty : text = "" := String.toList_eq_nil_iff.mp next
    have frame : (MessageBox.tick ⟨t, false⟩ false now).box = ⟨t.finish now, false⟩ := by
      rw [box_tick_of_typing rfl]
      simp [update, t, start, next]
    have at_once : waitsToComplete b.typewriter.config wait [] = 0 := rfl
    have whole : "" ++ "" = text := String.append_empty.trans empty.symm
    have typed := exists_typeOn_of_completes ticks 0 "" frame
      (by simp [t, start]) (Nat.le_refl _) rfl rfl String.append_empty.symm
    rw [whole] at typed
    rw [at_once, Nat.zero_mul]
    exact typed
  | cons c rest =>
    have comes := (awaits_next (t := t) rfl rfl next).typeOn_due ticks 0 0 ""
    have typed := exists_typeOn_of_due (t := t) ticks (t.requiredDelay ⌈/⌉ wait) "" rfl rfl next
      (due_of_max ticks 0)
    have whole : "" ++ String.ofList (c :: rest) = text := by
      rw [← next, String.ofList_toList, String.empty_append]
    have waits : waitsToComplete t.config wait (c :: rest) =
        t.requiredDelay ⌈/⌉ wait + waitsBetween t.config wait (c :: rest) := rfl
    rw [Nat.zero_mul, Nat.zero_max, Nat.zero_add, Nat.sub_zero] at comes
    rw [Nat.zero_max, whole, Nat.add_assoc, ← Nat.add_mul, ← waits] at typed
    exact comes ▸ typed

end

/-- Texts typed one after another by one message box, each from the time at which the one before it
was done with. -/
def typeTexts (wait : Nat) (b : MessageBox) (now : Nat) : List String → Option (List Typed)
  | [] => some []
  | text :: texts => do
    let typed ← typeText wait b text now
    let more ← typeTexts wait typed.box typed.now texts
    return typed :: more

/-- Typing texts one after another, by a clock that a wait puts forward, comes to its end. Of each
text all is written, and a newline. How many waits it takes until the text is complete, and then
until it is left, depends on the text and the pace alone, and not on what was typed before. Where
messages advance by themselves, the text is left when its message is dismissed. -/
theorem typing_takes_waits {wait : Nat} (ticks : 0 < wait) (b : MessageBox) (now : Nat)
    (texts : List String) :
    let config := b.typewriter.config
    ∃ outcomes, typeTexts wait b now texts = some outcomes ∧
      List.Forall₂ (fun text (typed : Typed) =>
        let complete := waitsToComplete config wait text.toList
        let startedAt := typed.box.typewriter.startedAt
        typed.output = text ++ "\n" ∧ typed.elapsed = complete * wait ∧
        typed.waits = complete + waitsToLeave config wait ∧
        typed.now = startedAt + typed.waits * wait ∧
        typed.box.typewriter.completedAt = some (startedAt + complete * wait) ∧
        typed.box.dismissed = config.autoComplete) texts outcomes := by
  induction texts generalizing b now with
  | nil => exact ⟨[], rfl, .nil⟩
  | cons text texts ih =>
    obtain ⟨typed, typeable, leaves⟩ := exists_typeText ticks b text now
    obtain ⟨outcomes, later, each⟩ := ih typed.box typed.now
    rw [leaves.configured] at each
    refine ⟨typed :: outcomes, by simp [typeTexts, typeable, later], .cons ?_ each⟩
    refine ⟨leaves.output, ?_, leaves.waits, ?_, ?_, leaves.dismissed⟩
    · rw [leaves.elapsed, Nat.add_sub_cancel_left]
    · rw [leaves.now, leaves.waits, leaves.started, Nat.add_mul, Nat.add_assoc]
    · rw [leaves.completed, leaves.started]

theorem typing_takes_waits_thrice :
    let config : Config :=
      { Preset.instant.config with
        charDelay := 10, punctuationDelay := 25, autoComplete := true, autoCompleteDelay := 100 }
    0 < 10 ∧ ∃ outcomes,
      typeTexts 10 ⟨{ config }, false⟩ 7 ["は。い", "", "a"] = some outcomes ∧
      outcomes.map (·.output) = ["は。い\n", "\n", "a\n"] ∧
      outcomes.map (·.elapsed) = [60, 0, 10] ∧ outcomes.map (·.waits) = [16, 10, 11] := by
  intro config
  have ticks : 0 < 10 := by decide
  obtain ⟨outcomes, typed, each⟩ :=
    typing_takes_waits ticks ⟨{ config }, false⟩ 7 ["は。い", "", "a"]
  obtain _ | ⟨⟨output₁, elapsed₁, waits₁, -⟩, _ | ⟨⟨output₂, elapsed₂, waits₂, -⟩,
    _ | ⟨⟨output₃, elapsed₃, waits₃, -⟩, _ | _⟩⟩⟩ := each
  refine ⟨ticks, _, typed, ?_, ?_, ?_⟩
  · simp only [List.map_cons, List.map_nil, output₁, output₂, output₃]
    rfl
  · simp only [List.map_cons, List.map_nil, elapsed₁, elapsed₂, elapsed₃]
    decide
  · simp only [List.map_cons, List.map_nil, waits₁, waits₂, waits₃]
    decide

end Dialogue.Terminal
