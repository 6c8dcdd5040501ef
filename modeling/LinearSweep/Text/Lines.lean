/-! # Lines of a text

A text whose lines each end with a newline is cut into those lines at its newlines. Texts of this
kind can stand one behind the other, or with separators between them.

* **`splitOn_join`** finds lines again that hold no newline themselves.
* **`EndsLine`** says that a text ends with a newline.
* **`intercalate_cons_eq`** and **`intercalate_empty`** count a separator with the text behind
  it. -/

namespace LinearSweep.Text

/-- **Lines are found again by their newlines**: `splitOn '\n'` gives the lines that were joined.
Behind the last newline nothing is left, which is the `[]` at the end. -/
theorem splitOn_join {lines : List String} (unbroken : ∀ line ∈ lines, '\n' ∉ line.toList) :
    (String.join (lines.map (· ++ "\n"))).toList.splitOn '\n' =
      lines.map String.toList ++ [[]] := by
  induction lines with
  | nil => rfl
  | cons line lines ih =>
    rw [List.forall_mem_cons] at unbroken
    rw [List.map_cons, String.join_cons, String.toList_append, String.toList_append,
      show "\n".toList = ['\n'] from rfl, List.append_assoc, List.singleton_append,
      List.splitOn_append_cons_self_of_not_mem unbroken.1, ih unbroken.2]
    rfl

/-! ### The end of a text -/

/-- **A text whose last character is a newline.** -/
def EndsLine (text : String) : Prop := ∃ body, text = body ++ "\n"

/-- A newline at the end of `second` is one at the end of `first ++ second`. -/
theorem EndsLine.append {second : String} (ends : EndsLine second) (first : String) :
    EndsLine (first ++ second) := by
  obtain ⟨body, rfl⟩ := ends
  exact ⟨first ++ body, String.append_assoc.symm⟩

/-- Some lines, each with a newline at its end, end with a newline. -/
theorem EndsLine.join {lines : List String} (some_line : lines ≠ []) :
    EndsLine (String.join (lines.map (· ++ "\n"))) := by
  induction lines with
  | nil => exact absurd rfl some_line
  | cons line lines ih =>
    rw [List.map_cons, String.join_cons]
    rcases lines with _ | ⟨next, lines⟩
    · exact ⟨line, by rw [List.map_nil, String.join_nil, String.append_empty]⟩
    · exact (ih (List.cons_ne_nil _ _)).append _

/-! ### Separators -/

/-- A text in front of others, each of which comes with a `separator` in front of it. -/
theorem intercalate_cons_eq (separator text : String) (texts : List String) :
    separator.intercalate (text :: texts) =
      text ++ String.join (texts.map (separator ++ ·)) := by
  induction texts generalizing text with
  | nil => simp
  | cons next texts ih =>
    rw [String.intercalate_cons_cons, ih next, List.map_cons, String.join_cons]
    simp only [String.append_assoc]

/-- Nothing as a separator separates nothing: `intercalate` is `String.join` then. -/
theorem intercalate_empty (texts : List String) : "".intercalate texts = String.join texts := by
  cases texts with
  | nil => rfl
  | cons text texts => simp [intercalate_cons_eq]

end LinearSweep.Text
