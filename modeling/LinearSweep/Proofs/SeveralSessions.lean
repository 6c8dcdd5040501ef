import LinearSweep.Proofs.Window
import LinearSweep.Text.Lines

/-! # Calls with several sessions

A call with several offsets prints what calls with one of them each would print, one report behind
the other. It prints nothing at all if one of its offsets cannot be read, and it stops in front of
the first session that starts behind the image.

* **`CommandLine.gap`** is what stands between two reports: an empty line in plain text, since
  there a report ends with a newline by **`Listing.endsLine_plainText`**.
* **`CommandLine.printed_cons_ok`** and **`CommandLine.printed_cons_error`** are a step of the
  printing, **`CommandLine.exists_printed_eq`** is all of it.
* **`CommandLine.Invocation.exists_execute_eq`** is the outcome of a call whose offsets can be read.
* **`CommandLine.Invocation.Composed`** says how an outcome is made up of sessions. -/

namespace LinearSweep

open Text

/-! ### Reports in plain text -/

/-- The assembly view ends with a newline, also if it has no lines: then the banner does. -/
theorem Listing.endsLine_assemblyText (l : Listing) : EndsLine l.assemblyText := by
  rw [assemblyText]
  by_cases no_line : l.assembly = []
  · rw [no_line, List.map_nil, String.join_nil, String.append_empty, banner]
    exact EndsLine.append ⟨"╝\n", by decide⟩ _
  · exact (EndsLine.join no_line).append _

/-- The pseudo-code view ends with a newline, since a function always has lines. -/
theorem Listing.endsLine_pseudoCodeText (l : Listing) : EndsLine l.pseudoCodeText := by
  have some_line : l.pseudoCode.lines ≠ [] := List.cons_ne_nil _ _
  exact (EndsLine.join some_line).append _

/-- **A report in plain text ends with a newline**, in each `view`. -/
theorem Listing.endsLine_plainText (l : Listing) (view : View) : EndsLine (l.plainText view) := by
  cases view with
  | assembly => exact l.endsLine_assemblyText
  | pseudoCode => exact l.endsLine_pseudoCodeText
  | both => exact l.endsLine_pseudoCodeText.append _

namespace CommandLine

variable {format : Format} {view : View} {image : Image} {session : Session}
  {sessions : List Session} {l : Listing} {fault : Fault}

/-! ### Printing -/

/-- What stands between two reports: in plain text the newline of an empty line. -/
def gap (format : Format) : String := if format = .text then "\n" else ""

/-- **The sessions before the first that starts behind the image**, which are the ones with a
listing. -/
def reached (image : Image) (sessions : List Session) : List Session :=
  sessions.takeWhile (·.start ≤ image.size)

/-- **The failure of the first session that starts behind the image**, if there is one. -/
def failure? (image : Image) (sessions : List Session) : Option Failure :=
  (sessions.find? (image.size < ·.start)).map fun session =>
    .session session.start (.startPastEnd session.start image.size)

/-- Sessions are reached behind one that starts in the image. -/
theorem reached_cons_of_le (h : session.start ≤ image.size) :
    reached image (session :: sessions) = session :: reached image sessions :=
  List.takeWhile_cons_of_pos (decide_eq_true h)

/-- No session is reached behind one that starts behind the image, nor that one itself. -/
theorem reached_cons_of_lt (past : image.size < session.start) :
    reached image (session :: sessions) = [] :=
  List.takeWhile_cons_of_neg (by rwa [decide_eq_true_eq, Nat.not_le])

/-- A session that starts in the image does not fail. -/
theorem failure?_cons_of_le (h : session.start ≤ image.size) :
    failure? image (session :: sessions) = failure? image sessions := by
  rw [failure?, List.find?_cons_of_neg (by rwa [decide_eq_true_eq, Nat.not_lt]), failure?]

/-- A session that starts behind the image fails, with `.startPastEnd`. -/
theorem failure?_cons_of_lt (past : image.size < session.start) :
    failure? image (session :: sessions) =
      some (.session session.start (.startPastEnd session.start image.size)) := by
  rw [failure?, List.find?_cons_of_pos (by rwa [decide_eq_true_eq]), Option.map_some]

/-- A session with a listing is printed, and the printing goes on, no longer with the `first`
report. -/
theorem printed_cons_ok (ran : session.run decode image = .ok l) (first : Bool) :
    printed format view image first (session :: sessions) =
      ((if first then "" else gap format) ++ l.report format view ++
        (printed format view image false sessions).1,
        (printed format view image false sessions).2) := by
  rw [printed, ran]
  cases first <;> cases format <;> rfl

/-- At a session without a listing, the printing ends, and nothing is printed of the sessions behind
it. -/
theorem printed_cons_error (failed : session.run decode image = .error fault) (first : Bool) :
    printed format view image first (session :: sessions) =
      ("", some (.session session.start fault)) := by
  rw [printed, failed]

/-- **The reports of the sessions that are reached stand one behind the other**, with a gap between
any two of them and none at the end. Behind other reports, when `first` is `false`, the first one
has a gap, too. -/
theorem exists_printed_eq (format : Format) (view : View) (image : Image) (first : Bool)
    (sessions : List Session) :
    ∃ listings,
      List.Forall₂ (fun session l => session.run decode image = .ok l)
        (reached image sessions) listings ∧
      printed format view image first sessions =
        (if first then (gap format).intercalate (listings.map (·.report format view))
          else String.join (listings.map (gap format ++ ·.report format view)),
          failure? image sessions) := by
  induction sessions generalizing first with
  | nil => exact ⟨[], .nil, by cases first <;> rfl⟩
  | cons session rest ih =>
    by_cases h : session.start ≤ image.size
    · -- the session is printed, and the others come behind it
      obtain ⟨l, ran⟩ := Session.exists_run_eq_ok_iff.2 h
      obtain ⟨listings, all, eq⟩ := ih false
      refine ⟨l :: listings, ?_, ?_⟩
      · rw [reached_cons_of_le h]
        exact .cons ran all
      · rw [printed_cons_ok ran, eq, failure?_cons_of_le h, List.map_cons, List.map_cons,
          intercalate_cons_eq, String.join_cons, List.map_map, if_neg Bool.false_ne_true]
        cases first with
        | true => rw [if_pos rfl, if_pos rfl, String.empty_append]; rfl
        | false => rfl
    · -- the session fails, and no other is looked at
      have past := Nat.lt_of_not_le h
      have failed : session.run decode image = .error _ :=
        Session.run_eq_error_iff.2 ⟨past, rfl⟩
      refine ⟨[], ?_, ?_⟩
      · rw [reached_cons_of_lt past]
        exact .nil
      · rw [printed_cons_error failed, failure?_cons_of_lt past]
        cases first <;> rfl

/-! ### Failures -/

/-- Nothing fails exactly if all sessions have a listing. -/
theorem failure?_eq_none_iff :
    failure? image sessions = none ↔
      ∀ session ∈ sessions, ∃ l, session.run decode image = .ok l := by
  rw [failure?, Option.map_eq_none_iff, List.find?_eq_none]
  refine forall₂_congr fun session _ => ?_
  rw [Session.exists_run_eq_ok_iff, decide_eq_true_eq, Nat.not_lt]

/-- Sessions with a listing do not hide a failure behind them. -/
theorem failure?_append {before : List Session} (after : List Session)
    (all : ∀ session ∈ before, ∃ l, session.run decode image = .ok l) :
    failure? image (before ++ after) = failure? image after := by
  induction before with
  | nil => rfl
  | cons session before ih =>
    rw [List.forall_mem_cons] at all
    rw [List.cons_append, failure?_cons_of_le (Session.exists_run_eq_ok_iff.1 all.1), ih all.2]

/-- If nothing fails, all sessions are reached. -/
theorem reached_eq_self (all : ∀ session ∈ sessions, ∃ l, session.run decode image = .ok l) :
    reached image sessions = sessions := by
  rw [reached, List.takeWhile_eq_self_iff]
  exact fun session mem => decide_eq_true (Session.exists_run_eq_ok_iff.1 (all session mem))

/-- The text of a failed session names where it starts. -/
theorem Failure.text_session (start : Nat) (fault : Fault) :
    (Failure.session start fault).text =
      "Error: failed to decode session at offset " ++ Hex.marked start ++
        "\n\nCaused by:\n    " ++ fault.message ++ "\n" := by
  have opening : "Error: failed to decode session at offset " =
    "Error: " ++ "failed to decode session at offset " := rfl
  have middle : "\n\nCaused by:\n    " = "\n" ++ "\nCaused by:\n    " := rfl
  change "Error: " ++ ("failed to decode session at offset " ++ Hex.marked start) ++ "\n" ++
    ("\nCaused by:\n    " ++ fault.message ++ "\n") = _
  rw [opening, middle]
  simp only [String.append_assoc]

/-- **One offset that cannot be read leaves a call without sessions**, whatever the others are and
wherever it stands in `s.offsetTexts`. -/
theorem Settings.exists_sessions_eq_error {s : Settings} {text : String} (base : Address)
    (w : Window) (given : text ∈ s.offsetTexts) (malformed : Offset.parse text = .error fault) :
    ∃ fault, s.sessions base w = .error fault := by
  rw [sessions]
  generalize s.offsetTexts = texts at given
  induction texts with
  | nil => cases given
  | cons first texts ih =>
    rw [List.mapM_cons]
    -- the fault is that of the first text that is refused, which may stand in front of the given
    -- one
    cases read : Offset.parse first with
    | error fault => exact ⟨fault, rfl⟩
    | ok offset =>
      rcases List.mem_cons.1 given with rfl | later
      · rw [read] at malformed
        cases malformed
      · obtain ⟨fault, eq⟩ := ih later
        exact ⟨fault, by rw [eq]; rfl⟩

/-! ### Outcomes -/

namespace Outcome

@[simp] theorem output_ofFailure? (output log : String) (failed : Option Failure) :
    (ofFailure? output log failed).output = output := by
  cases failed <;> rfl

/-- The exit code says whether there is a failure: `0` if there is none. -/
theorem code_ofFailure? (output log : String) (failed : Option Failure) :
    (ofFailure? output log failed).code = if failed = none then 0 else 1 := by
  cases failed <;> rfl

end Outcome

namespace Invocation

variable {call : Invocation} {parse : Container.Parser} {base : Nat} {w : Window} {log : String}
  {offsets : List Nat}

/-- **The outcome of a call whose offsets can be read**: the reports of the sessions that are
reached, and the first failure. The base and the window are given by `based` and `located`. -/
theorem exists_execute_eq (call : Invocation) (based : Offset.parse call.settings.base = .ok base)
    (located : call.settings.site parse image = .ok (w, log))
    (parsed : List.Forall₂ (fun text offset => Offset.parse text = .ok offset)
      call.settings.offsetTexts offsets) :
    let sessions := offsets.map (w.session (UInt64.ofNat base) call.settings.ceiling)
    ∃ listings,
      List.Forall₂ (fun session l => session.run decode image = .ok l)
        (reached image sessions) listings ∧
      call.execute parse (.ok image) =
        .ofFailure?
          ((gap call.settings.format).intercalate
            (listings.map (·.report call.settings.format call.settings.view)))
          (call.openingLog image ++ log) (failure? image sessions) := by
  intro sessions
  obtain ⟨listings, all, eq⟩ :=
    exists_printed_eq call.settings.format call.settings.view image true sessions
  refine ⟨listings, all, ?_⟩
  simp only [execute, runOn, based, located, Settings.sessions_eq_ok _ w parsed]
  rw [eq, if_pos rfl]

/-- **A call for one of its offsets alone.** -/
def alone (call : Invocation) (text : String) : Invocation :=
  { call with settings := { call.settings with offsets := [text] } }

/-- A call for one offset alone prints the report of its session and nothing else, and its exit code
is `0`. -/
theorem execute_alone {text : String} {offset : Nat}
    (based : Offset.parse call.settings.base = .ok base)
    (located : call.settings.site parse image = .ok (w, log))
    (read : Offset.parse text = .ok offset)
    (ran : (w.session (UInt64.ofNat base) call.settings.ceiling offset).run decode image = .ok l) :
    (call.alone text).execute parse (.ok image) =
      ⟨0, l.report call.settings.format call.settings.view, call.openingLog image ++ log⟩ := by
  obtain ⟨listings, all, eq⟩ :=
    exists_execute_eq (call.alone text) based located (.cons read .nil)
  have start_le : (w.session (UInt64.ofNat base) (call.alone text).settings.ceiling offset).start ≤
      image.size := Session.exists_run_eq_ok_iff.1 ⟨l, ran⟩
  -- of the one session there is one listing, which is the one that was given
  rw [List.map_singleton, reached_cons_of_le start_le] at all
  rw [List.map_singleton, failure?_cons_of_le start_le] at eq
  obtain ⟨listed, rest, same, others, rfl⟩ := List.forall₂_cons_left_iff.1 all
  cases others
  cases ran.symm.trans same
  rw [eq, List.map_singleton, String.intercalate_singleton]
  rfl

/-- Calls for one offset alone print the reports of their sessions, if these have listings. -/
theorem forall₂_execute_alone {texts : List String} {listings : List Listing}
    (based : Offset.parse call.settings.base = .ok base)
    (located : call.settings.site parse image = .ok (w, log))
    (parsed : List.Forall₂ (fun text offset => Offset.parse text = .ok offset) texts offsets)
    (ran : List.Forall₂ (fun session l => session.run decode image = .ok l)
      (offsets.map (w.session (UInt64.ofNat base) call.settings.ceiling)) listings) :
    List.Forall₂ (fun text l => (call.alone text).execute parse (.ok image) =
        ⟨0, l.report call.settings.format call.settings.view, call.openingLog image ++ log⟩)
      texts listings := by
  induction parsed generalizing listings with
  | nil =>
    cases ran
    exact .nil
  | cons read _ ih =>
    obtain ⟨l, rest, first, others, rfl⟩ := List.forall₂_cons_left_iff.1 ran
    exact .cons (execute_alone based located read first) (ih others)

/-- **The outcome of a call is made up of its sessions.** -/
structure Composed (call : Invocation) (parse : Container.Parser) (image : Image)
    (sessions : List Session) (outcome : Outcome) : Prop where
  /-- The reports of the sessions before the first that starts behind the image stand one behind
  the other, in plain text with a newline between any two of them. -/
  output_eq : ∃ listings,
    List.Forall₂ (fun session l => session.run decode image = .ok l)
      (sessions.takeWhile (·.start ≤ image.size)) listings ∧
    outcome.output = (if call.settings.format = .text then "\n" else "").intercalate
      (listings.map (·.report call.settings.format call.settings.view))
  /-- That newline makes an empty line. -/
  endsLine : call.settings.format = .text →
    ∀ l : Listing, EndsLine (l.report call.settings.format call.settings.view)
  /-- There are two exit codes. -/
  code_cases : outcome.code = 0 ∨ outcome.code = 1
  /-- The exit code is zero exactly if no session fails. -/
  code_eq_zero_iff : outcome.code = 0 ↔
    ∀ session ∈ sessions, ∃ l, session.run decode image = .ok l
  /-- Otherwise the errors end with the first session that fails, named by its start. -/
  errors_eq : ∀ before session after fault, sessions = before ++ session :: after →
    (∀ earlier ∈ before, ∃ l, earlier.run decode image = .ok l) →
    session.run decode image = .error fault →
    ∃ told, outcome.errors = told ++
      ("Error: failed to decode session at offset " ++ Hex.marked session.start ++
        "\n\nCaused by:\n    " ++ fault.message ++ "\n")
  /-- If no session fails, then none fails alone. -/
  code_alone : outcome.code = 0 → ∀ text ∈ call.settings.offsetTexts,
    ((call.alone text).execute parse (.ok image)).code = 0
  /-- If no session fails, then but for plain text, the output is that of the calls for one offset
  each. -/
  output_alone : outcome.code = 0 → call.settings.format ≠ .text →
    outcome.output = String.join (call.settings.offsetTexts.map fun text =>
      ((call.alone text).execute parse (.ok image)).output)

/-- **A call whose offsets can be read is made up of its sessions.** -/
theorem composed_execute (based : Offset.parse call.settings.base = .ok base)
    (located : call.settings.site parse image = .ok (w, log))
    (parsed : List.Forall₂ (fun text offset => Offset.parse text = .ok offset)
      call.settings.offsetTexts offsets) :
    call.Composed parse image (offsets.map (w.session (UInt64.ofNat base) call.settings.ceiling))
      (call.execute parse (.ok image)) := by
  obtain ⟨listings, ran, eq⟩ := exists_execute_eq call based located parsed
  -- the exit code tells whether there is a failure
  have code_iff : (call.execute parse (.ok image)).code = 0 ↔
      ∀ session ∈ offsets.map (w.session (UInt64.ofNat base) call.settings.ceiling),
        ∃ l, session.run decode image = .ok l := by
    rw [eq, Outcome.code_ofFailure?, ← failure?_eq_none_iff]
    split <;> simp [*]
  -- where nothing fails, each session is that of a call for one offset alone
  have alone (succeeds : (call.execute parse (.ok image)).code = 0) :=
    forall₂_execute_alone based located parsed (reached_eq_self (code_iff.1 succeeds) ▸ ran)
  exact {
    output_eq := ⟨listings, ran, by rw [eq, Outcome.output_ofFailure?, gap]⟩
    endsLine := by
      intro plain l
      rw [plain]
      exact l.endsLine_plainText call.settings.view
    code_cases := by
      rw [eq, Outcome.code_ofFailure?]
      split
      · exact Or.inl rfl
      · exact Or.inr rfl
    code_eq_zero_iff := code_iff
    errors_eq := by
      intro before session after fault split earlier failed
      obtain ⟨past, rfl⟩ := Session.run_eq_error_iff.1 failed
      refine ⟨call.openingLog image ++ log, ?_⟩
      rw [eq, split, failure?_append _ earlier, failure?_cons_of_lt past, Outcome.ofFailure?,
        Failure.text_session]
    code_alone := by
      intro succeeds
      have codes := (alone succeeds).imp fun text l is =>
        And.intro (congrArg Outcome.code is) is
      exact ((List.forall₂_and_left _ _).1 codes).1
    output_alone := by
      intro succeeds structured
      have outputs := (alone succeeds).imp fun text l is => congrArg Outcome.output is
      -- two lists that correspond by equality are one
      rw [← List.forall₂_map_right_iff, ← List.forall₂_map_left_iff,
        List.forall₂_eq_eq_eq] at outputs
      rw [outputs, eq, Outcome.output_ofFailure?, gap, if_neg structured, intercalate_empty] }

/-- **Calls with several offsets compose**, whichever `parse` finds their window. If one of the
offsets cannot be read, then nothing is printed, and otherwise the call is `Composed` of its
sessions. -/
theorem execute_composes (call : Invocation) (parse : Container.Parser) (image : Image)
    (based : Offset.parse call.settings.base = .ok base)
    (located : call.settings.site parse image = .ok (w, log)) :
    ((∃ text ∈ call.settings.offsetTexts, ∃ fault, Offset.parse text = .error fault) →
      (call.execute parse (.ok image)).code = 1 ∧ (call.execute parse (.ok image)).output = "") ∧
    ∀ offsets, List.Forall₂ (fun text offset => Offset.parse text = .ok offset)
        call.settings.offsetTexts offsets →
      call.Composed parse image (offsets.map (w.session (UInt64.ofNat base) call.settings.ceiling))
        (call.execute parse (.ok image)) := by
  constructor
  · rintro ⟨text, given, fault, malformed⟩
    obtain ⟨fault, eq⟩ :=
      call.settings.exists_sessions_eq_error (UInt64.ofNat base) w given malformed
    simp only [execute, runOn, based, located, eq]
    exact ⟨rfl, rfl⟩
  · exact fun offsets parsed => composed_execute based located parsed

/-- A call with the offset `z`, which is none, and a call with three offsets, of which the second
lies behind the image. -/
theorem execute_composes_behind :
    Offset.parse "0x7c00" = .ok 0x7C00 ∧
    (∃ fault, Offset.parse "z" = .error fault) ∧
    List.Forall₂ (fun text offset => Offset.parse text = .ok offset) ["0", "3", "1"] [0, 3, 1] ∧
    (let broken : Invocation := ⟨"boot", { offsets := ["0", "z"], base := "0x7c00" }⟩
     broken.settings.site Container.identify #[0x90, 0xC3] = .ok (⟨0, 2⟩, "") ∧
     (broken.execute Container.identify (.ok #[0x90, 0xC3])).code = 1 ∧
     (broken.execute Container.identify (.ok #[0x90, 0xC3])).output = "") ∧
    (let partly : Invocation := ⟨"boot", { offsets := ["0", "3", "1"], base := "0x7c00" }⟩
     partly.settings.site Container.identify #[0x90, 0xC3] = .ok (⟨0, 2⟩, "") ∧
     partly.Composed Container.identify #[0x90, 0xC3]
        [⟨0, 0x7C00, 2⟩, ⟨3, 0x7C00, 0⟩, ⟨1, 0x7C00, 1⟩]
        (partly.execute Container.identify (.ok #[0x90, 0xC3]))) := by
  have based : Offset.parse "0x7c00" = .ok 0x7C00 := by cbv
  have malformed : Offset.parse "z" = .error (.malformedOffset "z") := by cbv
  have parsed : List.Forall₂ (fun text offset => Offset.parse text = .ok offset)
      ["0", "3", "1"] [0, 3, 1] := .cons (by cbv) (.cons (by cbv) (.cons (by cbv) .nil))
  refine ⟨based, ⟨_, malformed⟩, parsed, ⟨rfl, ?_⟩, ⟨rfl, ?_⟩⟩
  · exact (execute_composes ⟨"boot", { offsets := ["0", "z"], base := "0x7c00" }⟩ _ _ based rfl).1
      ⟨"z", by decide, _, malformed⟩
  · exact (execute_composes ⟨"boot", { offsets := ["0", "3", "1"], base := "0x7c00" }⟩ _ _ based
      rfl).2 [0, 3, 1] parsed

end Invocation

end CommandLine

end LinearSweep
