import Dialogue.Playback.CommandTable

/-! Tables made of the handlers that come with the library. What such a table does for a command can
be told beforehand: it adds a fixed text, which may be empty, leaves the host alone, and either goes
on or stops. -/
namespace Dialogue.Playback

inductive Stock
  | insert (text : String)
  | halt
  deriving DecidableEq, Repr

def Stock.handler : Stock → Handler σ
  | .insert text => insertText text
  | .halt => haltQueue

namespace CommandTable

/-- The table of `entries`; of two with one name the first counts. -/
def ofStock (entries : List (String × Stock)) : CommandTable σ :=
  ⟨entries.map fun (name, stock) => (name, stock.handler)⟩

end CommandTable

variable (entries : List (String × Stock))

def stock? (c : Command) : Option Stock := (entries.find? (·.1 = c.name)).map (·.2)

/-- What a command adds to the display. -/
def inserted (c : Command) : String :=
  match stock? entries c with
  | some (.insert text) => text
  | some .halt | none => ""

/-- Whether the queue stops at a command. -/
def halts (c : Command) : Bool := stock? entries c = some .halt

namespace CommandTable

theorem find?_ofStock (name : String) :
    (ofStock entries : CommandTable σ).find? name =
      ((entries.find? (·.1 = name)).map (·.2)).map Stock.handler := by
  simp only [find?, ofStock, List.find?_map, Option.map_map]
  rfl

theorem invoke_ofStock (c : Command) (host : σ) (display : String) :
    (ofStock entries).invoke c host display =
      ⟨if halts entries c then .halt else .proceed, host, display ++ inserted entries c⟩ := by
  unfold invoke halts inserted stock?
  rw [find?_ofStock]
  cases (entries.find? (·.1 = c.name)).map (·.2) with
  | none => simp
  | some stock =>
    cases stock with
    | insert text => rfl
    | halt => simp [Stock.handler, haltQueue]

theorem invoke_ofStock_eq_halt_iff {c : Command} {host : σ} {display : String} :
    ((ofStock entries).invoke c host display).flow = .halt ↔ halts entries c = true := by
  rw [invoke_ofStock]
  cases halts entries c <;> simp

/-- A command that stops the queue adds nothing. -/
theorem inserted_of_halts {c : Command} (h : halts entries c = true) : inserted entries c = "" := by
  have stops : stock? entries c = some .halt := of_decide_eq_true h
  rw [inserted, stops]

/-- Every table without other handlers is such a table. -/
theorem exists_ofStock (t : CommandTable σ)
    (h : ∀ entry ∈ t.handlers, (∃ text, entry.2 = insertText text) ∨ entry.2 = haltQueue) :
    ∃ entries, t = ofStock entries := by
  obtain ⟨handlers⟩ := t
  induction handlers with
  | nil => exact ⟨[], rfl⟩
  | cons entry rest ih =>
    obtain ⟨name, handler⟩ := entry
    obtain ⟨entries, same⟩ := ih fun e he => h e (List.mem_cons_of_mem _ he)
    have stocked : ∃ stock : Stock, handler = stock.handler := by
      obtain ⟨text, inserts⟩ | stops := h (name, handler) List.mem_cons_self
      · exact ⟨.insert text, inserts⟩
      · exact ⟨.halt, stops⟩
    obtain ⟨stock, rfl⟩ := stocked
    refine ⟨(name, stock) :: entries, ?_⟩
    rw [CommandTable.mk.injEq]
    exact congrArg _ (congrArg CommandTable.handlers same)

end CommandTable
end Dialogue.Playback
