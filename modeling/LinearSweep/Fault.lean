import LinearSweep.Text.Hex
import LinearSweep.Text.Quoted

/-! # Causes of failure

* **`Fault`** is a cause for which a command gives no result, **`ReadFault`** a cause for which a
  file cannot be read.
* **`Fault.message`** and **`ReadFault.message`** are their wordings. -/

namespace LinearSweep

open Text

/-- **Why a file cannot be read**, as far as `ReadFault.message` tells it apart. -/
inductive ReadFault where
  /-- There is no such file. -/
  | notFound
  /-- The name is that of a directory. -/
  | isDirectory
  /-- Any other cause, in the words of the system. -/
  | other (text : String)
deriving DecidableEq, Repr

/-- The wording of a read fault. -/
def ReadFault.message : ReadFault → String
  | .notFound => "No such file or directory (os error 2)"
  | .isDirectory => "Is a directory (os error 21)"
  | .other text => text

/-- **Why a command gives no result.** A session by itself has no other fault than `startPastEnd`.
-/
inductive Fault where
  /-- The image holds programs for several machines, of which none is singled out. -/
  | severalMachines
  /-- The text is no hexadecimal offset. -/
  | malformedOffset (text : String)
  /-- A session would start behind the end of an image of `length` bytes. -/
  | startPastEnd (start length : Nat)
  /-- A file cannot be read. -/
  | unreadable (cause : ReadFault)
deriving DecidableEq, Repr

/-- **The wording of a fault.** -/
def Fault.message : Fault → String
  | .severalMachines =>
    "Failed to parse binary format: " ++
      "fat Mach-O archives are not supported; extract one architecture first"
  | .malformedOffset text => "Invalid start offset: " ++ quoted text
  | .startPastEnd start length =>
    "Start offset " ++ Hex.marked start ++ " is past the end of the image (" ++
      toString length ++ " bytes)"
  | .unreadable cause => "I/O error: " ++ cause.message

end LinearSweep
