import Dialogue.Playback.CommandTable

/-! Playing events one unit of work at a time: a character, a command, or coming to a page break. A
stopped queue only goes on when its head is dropped, and dropping a page break clears the
display. -/
namespace Dialogue.Playback

structure Queue (σ : Type) where
  events : List Event
  active : Bool := true
  display : String := ""
  host : σ

inductive Status
  | running
  /-- No event is left. -/
  | finished
  deriving DecidableEq, Repr

namespace Queue

variable (table : CommandTable σ)

def head? (q : Queue σ) : Option Event := q.events.head?

def size (q : Queue σ) : Nat := q.events.length

def isEmpty (q : Queue σ) : Bool := q.events.isEmpty

/-- Whether no work is left, texts that are shown completely apart. -/
def isFinished (q : Queue σ) : Bool := q.events.all Event.isExhausted

/-- One unit of work at the head, once the texts shown completely are dropped. -/
def runHead (q : Queue σ) : Status × Queue σ :=
  if !q.active then (.running, q)
  else
    match q.events.dropWhile Event.isExhausted with
    | [] => (.finished, { q with events := [] })
    | .text r :: es =>
      match r.next? with
      | none => (.running, { q with events := .text r :: es })
      | some (c, r) => (.running, { q with events := .text r :: es, display := q.display.push c })
    | .pageBreak :: es => (.running, { q with events := .pageBreak :: es, active := false })
    | .command c :: es =>
      let reply := table.invoke c q.host q.display
      match reply.flow with
      | .proceed => (.running, ⟨es, true, reply.display, reply.host⟩)
      | .halt => (.running, ⟨.command c :: es, false, reply.display, reply.host⟩)

/-- Drops the head and goes on. -/
def pop (q : Queue σ) : Status × Queue σ :=
  let rest := q.events.tail
  let display := if q.events.head? = some .pageBreak then "" else q.display
  (if rest.isEmpty then .finished else .running, { q with events := rest, active := true, display })

/-- Plays `events` up to the first stop. -/
def flushEvents (display : String) (host : σ) : List Event → Status × Queue σ
  | [] => (.finished, ⟨[], true, display, host⟩)
  | .text r :: es => flushEvents (display ++ String.ofList r.pending) host es
  | .pageBreak :: es => (.running, ⟨.pageBreak :: es, false, display, host⟩)
  | .command c :: es =>
    let reply := table.invoke c host display
    match reply.flow with
    | .proceed => flushEvents reply.display reply.host es
    | .halt => (.running, ⟨.command c :: es, false, reply.display, reply.host⟩)

/-- Shows the rest of the page at once. -/
def flush (q : Queue σ) : Status × Queue σ :=
  if q.active then flushEvents table q.display q.host q.events else (.running, q)

end Queue
end Dialogue.Playback
