import LinearSweep.Listing
import LinearSweep.Report.Format

/-! # Plain text reports

* **`banner`** is a title in a box, as it stands above each view.
* **`Listing.plainText`** is the text of the views that are shown. -/

namespace LinearSweep

open Text

/-- The width of the inside of a title box. -/
def bannerWidth : Nat := 63

/-- **A title in a box**, `indent` columns from its left side, with an empty line below; the box is
`bannerWidth` wide inside. -/
def banner (title : String) (indent : Nat) : String :=
  let rule := String.ofList (List.replicate bannerWidth '═')
  let inside := alignLeft bannerWidth (String.ofList (List.replicate indent ' ') ++ title)
  "╔" ++ rule ++ "╗\n║" ++ inside ++ "║\n╚" ++ rule ++ "╝\n\n"

/-- The assembly view below its title: the lines of `l.assembly`. -/
def Listing.assemblyText (l : Listing) : String :=
  banner "ASSEMBLY VIEW" 20 ++ String.join (l.assembly.map (· ++ "\n"))

/-- The pseudo-code view below its title: the text of `l.pseudoCode`. -/
def Listing.pseudoCodeText (l : Listing) : String :=
  banner "PSEUDO-CODE VIEW" 19 ++ l.pseudoCode.text

/-- **The views of a listing as plain text**, with an empty line between them if both are
shown. -/
def Listing.plainText (view : View) (l : Listing) : String :=
  match view with
  | .assembly => l.assemblyText
  | .pseudoCode => l.pseudoCodeText
  | .both => l.assemblyText ++ "\n" ++ l.pseudoCodeText

end LinearSweep
