import LinearSweep.Report.Document
import LinearSweep.Report.PlainText
import LinearSweep.Report.Table

/-! # Reports

* **`Listing.report format view`** is the text of a listing in some format. Only plain text
  regards the view. -/

namespace LinearSweep

/-- **The report of a listing** in some `format`; `view` counts for `.text` only. -/
def Listing.report (format : Format) (view : View) (l : Listing) : String :=
  match format with
  | .text => l.plainText view
  | .json => l.jsonText
  | .jsonLines => l.jsonLinesText
  | .csv => l.csvText

end LinearSweep
