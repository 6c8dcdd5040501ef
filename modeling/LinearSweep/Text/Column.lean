/-! # Text columns

Columns are counted in characters. A text that is longer than its column is not cut.

* **`alignLeft width text`** fills a text with spaces on the right. -/

namespace LinearSweep.Text

/-- **A text at the left of a column** of `width` characters, filled with spaces behind it. -/
def alignLeft (width : Nat) (text : String) : String :=
  text ++ String.ofList (List.replicate (width - text.length) ' ')

/-- Filling only adds spaces behind the text. -/
@[simp] theorem toList_alignLeft (width : Nat) (text : String) :
    (alignLeft width text).toList
      = text.toList ++ List.replicate (width - text.length) ' ' := by
  simp [alignLeft]

/-- A filled text is as wide as its column, or as long as it was: `max text.length width`. -/
theorem length_alignLeft (width : Nat) (text : String) :
    (alignLeft width text).length = max text.length width := by
  rw [← String.length_toList, toList_alignLeft, List.length_append, List.length_replicate,
    String.length_toList]
  omega

end LinearSweep.Text
