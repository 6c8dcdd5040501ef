import Mathlib

/-! # Machines that read a text

A reader of a text format as a machine that takes one character at a time. What a piece of text does
to the machine is a relation between its states, so that the pieces of a text can be dealt with one
by one.

* **`Machine`** is a start, a step that may refuse a character, and what a state has read in the
  end; **`Machine.read`** reads a whole text.
* **`Machine.Leads m s text t`** says that `text` leads the machine from the state `s` to `t`.
* **`Machine.Leads.append`**: pieces of text that lead on from one another do so in a row. -/

namespace LinearSweep.Text

/-- **A machine that reads a text** one character at a time. -/
structure Machine (State Result : Type) where
  /-- The state in front of the text. -/
  start : State
  /-- The state behind one more character, if the character may stand there. -/
  step : State → Char → Option State
  /-- What was read, if the text may end there. -/
  result? : State → Option Result

namespace Machine

variable {State Result : Type}

/-- **A text leads from one state to another**: `m.step` takes all of its characters, one by one. -/
def Leads (m : Machine State Result) (s : State) (text : List Char) (t : State) : Prop :=
  text.foldlM m.step s = some t

/-- **Read a whole text**, from `m.start` to what `m.result?` makes of the last state. -/
def read (m : Machine State Result) (text : String) : Option Result :=
  (text.toList.foldlM m.step m.start).bind m.result?

variable {m : Machine State Result} {s t u : State} {c : Char} {text rest : List Char}

namespace Leads

/-- No text leads nowhere else: `[]` from `s` to `s`. -/
theorem nil (s : State) : m.Leads s [] s := rfl

/-- A character leads to the state behind it, and the rest of the text on from there. -/
theorem cons (step : m.step s c = some t) (onward : m.Leads t rest u) :
    m.Leads s (c :: rest) u := by
  rw [Leads, List.foldlM_cons, step]
  exact onward

/-- One character leads to the state behind it. -/
theorem singleton (step : m.step s c = some t) : m.Leads s [c] t :=
  cons step (nil t)

/-- **Pieces of text lead on from one another**, from `s` over `t` to `u`. -/
theorem append (first : m.Leads s text t) (onward : m.Leads t rest u) :
    m.Leads s (text ++ rest) u := by
  rw [Leads, List.foldlM_append, show text.foldlM m.step s = some t from first]
  exact onward

/-- A text of characters that change nothing leads nowhere else, such as blanks between two tokens.
-/
theorem of_unchanged (unchanged : ∀ c ∈ text, m.step s c = some s) : m.Leads s text s := by
  induction text with
  | nil => exact nil s
  | cons c text ih =>
    rw [List.forall_mem_cons] at unchanged
    exact cons unchanged.1 (ih unchanged.2)

end Leads

/-- **A text that leads from the start to a result is read as that result**, `m.result? s`. -/
theorem read_eq_of_leads {characters : List Char} (leads : m.Leads m.start characters s) :
    m.read (String.ofList characters) = m.result? s := by
  rw [read, String.toList_ofList, show characters.foldlM m.step m.start = some s from leads,
    Option.bind_some]

end Machine

end LinearSweep.Text
