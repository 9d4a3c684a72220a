import Dialogue.Proofs.Playback.Moves

/-! The calls a script makes to its host, recorded by the handlers themselves: each keeps a log
beside the state of the host. Playing with the log and leaving it out at the end is playing without
it. -/
namespace Dialogue.Playback

/-- What a handler is asked to do. -/
inductive Visit
  | prepare (command : Command)
  | run (command : Command) (display : String)
  deriving DecidableEq

def Handler.logged (h : Handler σ) : Handler (σ × List Visit) where
  prepare c host := (h.prepare c host.1, host.2 ++ [.prepare c])
  run c host display :=
    let reply := h.run c host.1 display
    ⟨reply.flow, (reply.host, host.2 ++ [.run c display]), reply.display⟩

namespace CommandTable

def logged (t : CommandTable σ) : CommandTable (σ × List Visit) :=
  ⟨t.handlers.map fun (name, h) => (name, h.logged)⟩

/-- The calls for a command: the handler of its name, if there is one, is prepared and run. -/
def visitsOf (t : CommandTable σ) (c : Command) (display : String) : List Visit :=
  if t.contains c.name then [.prepare c, .run c display] else []

theorem find?_logged (t : CommandTable σ) (name : String) :
    t.logged.find? name = (t.find? name).map Handler.logged := by
  simp only [find?, logged, List.find?_map, Option.map_map]
  rfl

theorem invoke_logged (t : CommandTable σ) (c : Command) (host : σ × List Visit)
    (display : String) :
    t.logged.invoke c host display =
      let reply := t.invoke c host.1 display
      ⟨reply.flow, (reply.host, host.2 ++ t.visitsOf c display), reply.display⟩ := by
  cases h : t.find? c.name with
  | none => simp [invoke, find?_logged, visitsOf, contains, h]
  | some handler => simp [invoke, find?_logged, visitsOf, contains, h, Handler.logged]

end CommandTable

def Reply.mapHost (f : σ → τ) (r : Reply σ) : Reply τ := ⟨r.flow, f r.host, r.display⟩

def Queue.mapHost (f : σ → τ) (q : Queue σ) : Queue τ := ⟨q.events, q.active, q.display, f q.host⟩

def PageReader.mapHost (f : σ → τ) (r : PageReader σ) : PageReader τ :=
  ⟨r.queue.mapHost f, r.closed⟩

/-- Whether a table does on one host what another does on its image. -/
def CommandTable.Follows (f : σ → τ) (t : CommandTable σ) (u : CommandTable τ) : Prop :=
  ∀ c host display, u.invoke c (f host) display = (t.invoke c host display).mapHost f

section
variable {f : σ → τ} {t : CommandTable σ} {u : CommandTable τ}

theorem Queue.runHead_mapHost (h : t.Follows f u) (q : Queue σ) :
    (q.mapHost f).runHead u = ((q.runHead t).1, (q.runHead t).2.mapHost f) := by
  unfold runHead
  simp only [mapHost, h _ _ _, Reply.mapHost]
  split
  · rfl
  · split
    · rfl
    · split <;> rfl
    · rfl
    · split <;> rfl

theorem Queue.flushEvents_mapHost (h : t.Follows f u) (display : String) (host : σ)
    (es : List Event) :
    flushEvents u display (f host) es =
      ((flushEvents t display host es).1, (flushEvents t display host es).2.mapHost f) := by
  induction es generalizing display host with
  | nil => rfl
  | cons e es ih =>
    cases e with
    | text r => exact ih _ host
    | pageBreak => rfl
    | command c =>
      simp only [flushEvents, h _ _ _, Reply.mapHost]
      split
      · exact ih _ _
      · rfl

theorem Queue.flush_mapHost (h : t.Follows f u) (q : Queue σ) :
    (q.mapHost f).flush u = ((q.flush t).1, (q.flush t).2.mapHost f) := by
  cases ha : q.active with
  | false => simp [flush, mapHost, ha]
  | true => simp [flush, mapHost, ha, flushEvents_mapHost h]

theorem Queue.pop_mapHost (q : Queue σ) :
    (q.mapHost f).pop = (q.pop.1, q.pop.2.mapHost f) := rfl

theorem PageReader.turnPage_mapHost (q : Queue σ) :
    turnPage (q.mapHost f) = ((turnPage q).1, (turnPage q).2.mapHost f) := by
  unfold turnPage
  rw [Queue.pop_mapHost]
  cases q.pop with
  | mk status p => cases status <;> rfl

theorem PageReader.press_mapHost (h : t.Follows f u) (q : Queue σ) :
    press u (q.mapHost f) = ((press t q).1, (press t q).2.mapHost f) := by
  unfold press
  rw [Queue.flush_mapHost h]
  cases q.flush t with
  | mk status p =>
    have shown : (p.mapHost f).display = p.display := rfl
    have before : (q.mapHost f).display = q.display := rfl
    simp only [shown, before]
    split
    · rfl
    · cases status with
      | finished => rfl
      | running => exact turnPage_mapHost p

theorem PageReader.tick_mapHost (h : t.Follows f u) (r : PageReader σ) (confirm : Bool) :
    (r.mapHost f).tick u confirm = ((r.tick t confirm).1, (r.tick t confirm).2.mapHost f) := by
  have finished : (r.mapHost f).queue.isFinished = r.queue.isFinished := rfl
  have active : (r.mapHost f).queue.active = r.queue.active := rfl
  have closed : (r.mapHost f).closed = r.closed := rfl
  unfold tick
  rw [finished, active, closed]
  split
  · rfl
  · split
    · split
      · exact turnPage_mapHost r.queue
      · rfl
    · split
      · split <;> rfl
      · split
        · exact press_mapHost h r.queue
        · have queue : (r.mapHost f).queue = r.queue.mapHost f := rfl
          rw [queue, Queue.runHead_mapHost h]
          rfl

theorem PageReader.play_mapHost (h : t.Follows f u) (r : PageReader σ) (confirms : List Bool) :
    (r.mapHost f).play u confirms = (r.play t confirms).mapHost f := by
  induction confirms generalizing r with
  | nil => rfl
  | cons confirm confirms ih => rw [play_cons, tick_mapHost h, ih, play_cons]

end

theorem CommandTable.logged_follows (t : CommandTable σ) : t.logged.Follows Prod.fst t := by
  intro c host display
  rw [invoke_logged]
  rfl

namespace PageReader

/-- The reader with a log that is empty. -/
def logging (r : PageReader σ) : PageReader (σ × List Visit) := r.mapHost (·, [])

/-- The calls of a run, with the display each of them sees. -/
def visits (table : CommandTable σ) (r : PageReader σ) (confirms : List Bool) : List Visit :=
  (r.logging.play table.logged confirms).queue.host.2

/-- Recording the calls changes nothing else. -/
theorem play_logging (table : CommandTable σ) (r : PageReader σ) (confirms : List Bool) :
    (r.logging.play table.logged confirms).mapHost Prod.fst = r.play table confirms := by
  rw [← play_mapHost table.logged_follows]
  rfl

theorem queue_play_logging (table : CommandTable σ) (r : PageReader σ) (confirms : List Bool) :
    (r.logging.play table.logged confirms).queue.mapHost Prod.fst = (r.play table confirms).queue :=
  congrArg PageReader.queue (play_logging table r confirms)

end PageReader

end Dialogue.Playback
