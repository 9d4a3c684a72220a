import Dialogue.Playback.Queue

/-! Reading pages with one key. A press shows the rest of the page, or turns it, or closes the
script, and never two of these at once. -/
namespace Dialogue.Playback

inductive PageAction
  /-- The rest of the page was shown. -/
  | skipped
  /-- The page was turned. -/
  | advance
  /-- The script was closed. -/
  | finished
  deriving DecidableEq, Repr

structure PageReader (σ : Type) where
  queue : Queue σ
  closed : Bool := false

namespace PageReader

variable (table : CommandTable σ)

def display (r : PageReader σ) : String := r.queue.display

/-- Whether the script has stopped and waits for a press. -/
def isWaiting (r : PageReader σ) : Bool := !r.closed && !r.queue.active

def close (q : Queue σ) : Option PageAction × PageReader σ := (some .finished, ⟨q, true⟩)

/-- Goes past the stop; where nothing follows it, the script is closed. -/
def turnPage (q : Queue σ) : Option PageAction × PageReader σ :=
  match q.pop with
  | (.finished, q) => close q
  | (.running, q) => (some .advance, ⟨q, false⟩)

/-- A press on a page that is being shown. If it brings nothing new to the display, in bytes of
UTF-8, it goes on to the next stop instead. -/
def press (q : Queue σ) : Option PageAction × PageReader σ :=
  let (status, flushed) := q.flush table
  if flushed.display.utf8ByteSize ≠ q.display.utf8ByteSize then (some .skipped, ⟨flushed, false⟩)
  else
    match status with
    | .finished => close flushed
    | .running => turnPage flushed

/-- One frame, with a fresh press or without. -/
def tick (r : PageReader σ) (confirm : Bool) : Option PageAction × PageReader σ :=
  if r.closed then (none, r)
  else if !r.queue.active then
    if confirm then turnPage r.queue else (none, r)
  else if r.queue.isFinished then
    if confirm then close r.queue else (none, r)
  else if confirm then press table r.queue
  else (none, { r with queue := (r.queue.runHead table).2 })

end PageReader
end Dialogue.Playback
