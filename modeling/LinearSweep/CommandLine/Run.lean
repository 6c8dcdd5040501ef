import LinearSweep.CommandLine.Wording
import LinearSweep.Container.Identify
import LinearSweep.Report
import LinearSweep.Text.ControlSequence

/-! # What the program does

A call reads a file, finds the window of it that offsets count from, and runs a session for each
offset. All offsets are read before the first session; sessions are printed one by one up to the
first that fails.

* **`Window`** is the range of the image that sessions stay in, **`Settings.site`** finds it with a
  `Container.Parser` and tells about it.
* **`Settings.sessions`** are the sessions of a call, **`printed`** their reports.
* **`Outcome`** is the exit code and the two texts of a run.
* **`Invocation.execute`** runs a call on the contents of its file, **`respond`** runs the
  program on its arguments. -/

namespace LinearSweep.CommandLine

open Text

/-! ### Failures -/

/-- **Why a call fails.** -/
inductive Failure where
  /-- The file cannot be read. -/
  | unreadable (path : String) (cause : ReadFault)
  /-- The call as a whole has no result. -/
  | call (fault : Fault)
  /-- The session with this start has no result. -/
  | session (start : Nat) (fault : Fault)
deriving DecidableEq, Repr

/-- What failed, without its causes. -/
def Failure.message : Failure → String
  | .unreadable path _ => "failed to read " ++ path
  | .call fault => fault.message
  | .session start _ => "failed to decode session at offset " ++ Hex.marked start

/-- Why it failed, the nearest cause first. -/
def Failure.causes : Failure → List String
  | .unreadable _ cause => [Fault.message (.unreadable cause), cause.message]
  | .call _ => []
  | .session _ fault => [fault.message]

/-- **The text of a failure.** Causes are numbered from `0` if there are several. -/
def Failure.text (f : Failure) : String :=
  "Error: " ++ f.message ++ "\n" ++
    match f.causes with
    | [] => ""
    | [cause] => "\nCaused by:\n    " ++ cause ++ "\n"
    | causes => "\nCaused by:\n" ++ String.join
        (causes.zipIdx.map fun (cause, i) => "    " ++ toString i ++ ": " ++ cause ++ "\n")

/-! ### Log lines -/

/-- A message whose lines are indented from the second on. -/
def withHangingIndent (message : String) : String :=
  String.ofList (message.toList.flatMap fun c =>
    if c = '\n' then '\n' :: List.replicate 4 ' ' else [c])

/-- **A line of the log**, such as `[INFO ] message`. A message may quote names from the file, so
terminal control sequences are taken out of the line, its end included: one that the message leaves
open runs to the end. -/
def logLine (level message : String) : String :=
  withoutControls ("[" ++ alignLeft 5 level ++ "] " ++ withHangingIndent message ++ "\n")

/-! ### Windows -/

/-- **The range of the image that sessions stay in.** -/
structure Window where
  /-- The offset that the offsets of the call count from. -/
  start : Nat
  /-- The offset that no session passes. -/
  stop : Nat
deriving DecidableEq, Repr

/-- The window of a whole image. -/
def Window.whole (image : Image) : Window := ⟨0, image.size⟩

/-- The part of a region that lies in an image: it ends at `r.stop` or with the image. -/
def Window.ofRegion (r : Region) (image : Image) : Window := ⟨r.offset, min r.stop image.size⟩

/-- The window of what a header says, and what the log tells about it: that of `c.region?`, and
without one that of the whole image. -/
def Window.ofContainer (c : Container) (image : Image) : Window × String :=
  let warning :=
    if c.kind ≠ .raw && !c.machine.isX86 then
      logLine "WARN" (c.kind.name ++
        " image declares a non-x86 machine; decoding it as x86 anyway")
    else ""
  match c.region? image.size with
  | some r =>
    (ofRegion r image, warning ++ logLine "INFO"
      ("Using " ++ c.kind.name ++ " section '" ++ r.name ++ "' at file offset " ++
        Hex.marked r.offset ++ " (" ++ toString r.size ++ " bytes)"))
  | none =>
    (whole image, warning ++ logLine "INFO"
      ("No executable section found in " ++ c.kind.name ++ " image, using whole file"))

/-- **The window of a call**, and what the log tells about it. Only a call with `s.locateCode` has
the image looked at by `parse`. -/
def Settings.site (s : Settings) (parse : Container.Parser) (image : Image) :
    Except Fault (Window × String) :=
  if s.locateCode then (parse image).map (Window.ofContainer · image)
  else .ok (.whole image, "")

/-! ### Sessions -/

/-- The texts of the offsets of a call; without any there is one session at `0`. -/
def Settings.offsetTexts (s : Settings) : List String :=
  if s.offsets.isEmpty then ["0"] else s.offsets

/-- **A session at an offset of the window**, whose ceiling is cut to the end of the window. If the
start is behind that, then `w.stop - start` leaves a ceiling of `0`. -/
def Window.session (w : Window) (base : Address) (ceiling offset : Nat) : Session :=
  let start := Offset.add w.start offset
  { start, base, ceiling := min ceiling (w.stop - start) }

/-- **The sessions of a call**, or the fault of the first offset that `Offset.parse` refuses. So no
session runs unless all offsets can be read. -/
def Settings.sessions (s : Settings) (base : Address) (w : Window) :
    Except Fault (List Session) :=
  s.offsetTexts.mapM fun text => (Offset.parse text).map (w.session base s.ceiling)

/-- **The reports of some sessions**, up to the first that fails. In plain text an empty line stands
between reports; `first` says that none stands before. -/
def printed (format : Format) (view : View) (image : Image) :
    (first : Bool) → List Session → String × Option Failure
  | _, [] => ("", none)
  | first, session :: rest =>
    match session.run decode image with
    | .error fault => ("", some (.session session.start fault))
    | .ok listing =>
      -- the gap is printed only once there is a report to print behind it
      let gap := if format = .text && !first then "\n" else ""
      let (text, failure) := printed format view image false rest
      (gap ++ listing.report format view ++ text, failure)

/-! ### Runs -/

/-- **What a run leaves behind.** -/
structure Outcome where
  /-- The exit code: `0`, or `1` for a call that fails, or `2` for a mistake in the arguments. -/
  code : UInt32
  /-- The text of the standard output. -/
  output : String
  /-- The text of the standard error. -/
  errors : String
deriving DecidableEq, Repr

/-- The outcome of a call with its output, its log, and its failure if it has one: `1` is the code
of any failure. -/
def Outcome.ofFailure? (output log : String) : Option Failure → Outcome
  | none => ⟨0, output, log⟩
  | some failure => ⟨1, output, log ++ failure.text⟩

/-- What the log tells about the file, if `call.settings.verbose`. -/
def Invocation.openingLog (call : Invocation) (image : Image) : String :=
  if call.settings.verbose then
    logLine "DEBUG" ("Loaded " ++ call.path ++ " (" ++ toString image.size ++ " bytes)")
  else ""

/-- **Run a call on an image.** The base is read first, then the window is found, then the offsets
are read, then the sessions run; the first failure ends the call. -/
def Invocation.runOn (call : Invocation) (parse : Container.Parser) (image : Image) : Outcome :=
  let opening := call.openingLog image
  match Offset.parse call.settings.base with
  | .error fault => .ofFailure? "" opening (some (.call fault))
  | .ok base =>
    match call.settings.site parse image with
    | .error fault => .ofFailure? "" opening (some (.call fault))
    | .ok (window, log) =>
      match call.settings.sessions (UInt64.ofNat base) window with
      | .error fault => .ofFailure? "" (opening ++ log) (some (.call fault))
      | .ok sessions =>
        let (output, failure) :=
          printed call.settings.format call.settings.view image true sessions
        .ofFailure? output (opening ++ log) failure

/-- **Run a call on the contents of its file**, or on the reason why it has none. Nothing is read of
the arguments' texts then. -/
def Invocation.execute (call : Invocation) (parse : Container.Parser) :
    Except ReadFault Image → Outcome
  | .error cause => .ofFailure? "" "" (some (.unreadable call.path cause))
  | .ok image => call.runOn parse image

/-! ### The program -/

/-- **The outcome of arguments that are no call.** -/
def Ending.outcome : Ending → Outcome
  | .version => ⟨0, versionText, ""⟩
  | .help detailed => ⟨0, helpText detailed, ""⟩
  | .mistake cause => ⟨2, "", cause.text⟩

/-- **Run the program on its arguments**, where `read` gives the contents of a file. The parser is
the one at hand, `Container.identify`. -/
def respond {m : Type → Type} [Monad m] (read : String → m (Except ReadFault Image))
    (arguments : List String) : m Outcome :=
  match Invocation.ofArguments arguments with
  | .error ending => pure ending.outcome
  | .ok call => do return call.execute Container.identify (← read call.path)

end LinearSweep.CommandLine
