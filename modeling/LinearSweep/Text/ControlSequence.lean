/-! # Text without terminal control sequences

A text that goes to something other than a terminal is written without the sequences that steer
one: escape sequences, control sequences, commands to the operating system and strings for a
device. Control characters are left out too, but for the four that space a text.

A spacing character in the middle of a short sequence is shown and puts the sequence aside: what
follows is shown as plain text, and the first control character behind it takes the sequence up
again. A character beyond ASCII drops a sequence that was put aside.

* **`Sequence`** is a sequence that has begun, **`Sequence.next`** reads one more character of it.
* **`Reading`** is the state between two characters, **`Reading.next`** goes on by one character
  and **`Reading.shows`** says whether that character is shown.
* **`Reading.visible`** are the characters of a text that are shown, **`withoutControls`** is the
  text of them.
* **`Reading.visible_text`**: a text without control characters is shown as it is.
* **`Reading.isPlain_of_mem_visible`**: no control character but a spacing one is ever shown. -/

namespace LinearSweep.Text

/-! ### Classes of characters -/

/-- Whether a character is a tab or ends a line or a page. -/
def isSpacing (c : Char) : Bool := c = '\t' || c = '\n' || c = '\x0C' || c = '\r'

/-- Whether a character lies beyond ASCII, from `0x80` on. -/
def isBeyondAscii (c : Char) : Bool := 0x80 ≤ c.toNat

/-- **Whether a character is shown in plain text**: every one but the control characters of ASCII
that do not space it. -/
def isPlain (c : Char) : Bool := isSpacing c || ' ' ≤ c && c ≤ '~' || isBeyondAscii c

/-- Whether a character may stand between the head of a sequence and its last character. -/
def isIntermediate (c : Char) : Bool := ' ' ≤ c && c ≤ '/'

/-- Whether a character is a digit or separator of a parameter. -/
def isParameter (c : Char) : Bool := '0' ≤ c && c ≤ ';'

/-- Whether a character marks a sequence as private. -/
def isPrivateMark (c : Char) : Bool := '<' ≤ c && c ≤ '?'

/-- Whether a character may end a control sequence. -/
def isFinal (c : Char) : Bool := '@' ≤ c && c ≤ '~'

/-- Whether a character may end an escape sequence. -/
def isEscapeFinal (c : Char) : Bool := isParameter c || isPrivateMark c || isFinal c

/-- Whether the string terminator is one of the octets of a character. -/
def hasTerminator (c : Char) : Bool := (String.utf8EncodeChar c).contains 0x9C

/-! ### Sequences -/

/-- **A sequence that has begun**, by what may stand next in it. -/
inductive Sequence where
  /-- An escape character and nothing else. -/
  | escape
  /-- An escape character and intermediate characters. -/
  | intermediate
  /-- A control sequence. -/
  | control
  /-- A command to the operating system. -/
  | command
  /-- The introducer of a device string. -/
  | device
  /-- A device string with parameters. -/
  | deviceParameter
  /-- A device string with intermediate characters. -/
  | deviceIntermediate
  /-- The body of a device string, or a string of another kind. -/
  | body
deriving DecidableEq, Repr

namespace Sequence

/-- **Whether a sequence is short.** Spacing characters are shown in the middle of a short one. -/
def isShort : Sequence → Bool
  | escape | intermediate | control => true
  | command | device | deviceParameter | deviceIntermediate | body => false

/-- The sequence that a character behind the escape character introduces, if it does. -/
def introduced? : Char → Option Sequence
  | '[' => some control
  | ']' => some command
  | 'P' => some device
  | 'X' | '^' | '_' => some body
  | _ => none

/-- **Read one more character of a sequence.** There is none left if the character ended it. A
character that has no place in the sequence is passed over. -/
def next : Sequence → Char → Option Sequence
  | escape, c =>
    match introduced? c with
    | some s => some s
    | none =>
      if isIntermediate c then some intermediate
      else if isEscapeFinal c then none
      else some escape
  | intermediate, c => if isEscapeFinal c then none else some intermediate
  | control, c => if isFinal c then none else some control
  | command, c => if c = '\x07' then none else some command
  | device, c =>
    if isIntermediate c then some deviceIntermediate
    else if isParameter c || isPrivateMark c then some deviceParameter
    else if isFinal c then some body
    else some device
  | deviceParameter, c =>
    if isIntermediate c then some deviceIntermediate
    else if isPrivateMark c || isFinal c then some body
    else some deviceParameter
  | deviceIntermediate, c => if isEscapeFinal c then some body else some deviceIntermediate
  | body, c => if hasTerminator c then none else some body

end Sequence

/-! ### Reading -/

/-- **The state between two characters** of a text that is read by `Reading.next`. -/
inductive Reading where
  /-- In plain text. -/
  | text
  /-- In a sequence. -/
  | within (s : Sequence)
  /-- In plain text, with a sequence put aside. -/
  | aside (s : Sequence)
deriving DecidableEq, Repr

namespace Reading

/-- Whether a character is shown: in plain text if it `isPlain`, in a sequence if the sequence
`isShort` and it `isSpacing`. -/
def shows : Reading → Char → Bool
  | text, c | aside _, c => isPlain c
  | within s, c => s.isShort && isSpacing c

/-- **Go on by one character.** The escape character begins a sequence anywhere, and the cancel and
substitute characters end one anywhere. -/
def next (r : Reading) (c : Char) : Reading :=
  if c = '\x1B' then within .escape
  else if c = '\x18' || c = '\x1A' then text
  else match r with
    | text => text
    | within s =>
      if s.isShort && isSpacing c then aside s
      else match s.next c with
        | some s => within s
        | none => text
    | aside s =>
      if isBeyondAscii c then text
      else if isPlain c then aside s
      else within s

/-- **The characters of a text that are shown.** -/
def visible (r : Reading) : List Char → List Char
  | [] => []
  | c :: rest =>
    if r.shows c then c :: (r.next c).visible rest else (r.next c).visible rest

/-- What is shown is part of the text, in its order: nothing is added or moved by `visible`. -/
theorem visible_sublist (r : Reading) (cs : List Char) : (r.visible cs).Sublist cs := by
  induction cs generalizing r with
  | nil => exact .slnil
  | cons c rest ih =>
    unfold visible
    split
    · exact (ih _).cons_cons c
    · exact (ih _).cons c

/-- A spacing character is plain, by the first case of `isPlain`. -/
theorem isPlain_of_isSpacing {c : Char} (h : isSpacing c = true) : isPlain c = true := by
  simp [isPlain, h]

/-- A character that is shown is plain, wherever in a sequence it stands. -/
theorem isPlain_of_shows {r : Reading} {c : Char} (h : r.shows c = true) : isPlain c = true := by
  cases r with
  | text => exact h
  | aside _ => exact h
  | within s => exact isPlain_of_isSpacing (Bool.and_eq_true_iff.1 h).2

/-- **No control character but a spacing one is ever shown**, from whichever state `r` the text is
read. -/
theorem isPlain_of_mem_visible {r : Reading} {cs : List Char} {c : Char}
    (h : c ∈ r.visible cs) : isPlain c = true := by
  induction cs generalizing r with
  | nil => simp [visible] at h
  | cons d rest ih =>
    unfold visible at h
    split at h
    case isTrue shown =>
      cases List.mem_cons.1 h with
      | inl same => exact same ▸ isPlain_of_shows shown
      | inr later => exact ih later
    case isFalse => exact ih h

/-- A plain character leaves plain text plain: `text.next c = text`. -/
theorem next_text {c : Char} (h : isPlain c = true) : text.next c = text := by
  have notEscape : c ≠ '\x1B' := fun same => by subst same; exact absurd h (by decide)
  simp [next, notEscape]

/-- **Plain text is shown as it is**: `text.visible cs = cs` if every character `isPlain`. -/
theorem visible_text {cs : List Char} (h : ∀ c ∈ cs, isPlain c = true) : text.visible cs = cs := by
  induction cs with
  | nil => rfl
  | cons c rest ih =>
    have plain : isPlain c = true := h c (by simp)
    simp [visible, shows, plain, next_text plain, ih fun d hd => h d (by simp [hd])]

end Reading

/-- **A text without terminal control sequences**: what is `visible` of it, read from plain text on.
-/
def withoutControls (text : String) : String :=
  String.ofList (Reading.text.visible text.toList)

/-- Text that is plain throughout is kept. -/
theorem withoutControls_eq_self {text : String} (h : ∀ c ∈ text.toList, isPlain c = true) :
    withoutControls text = text := by
  simp [withoutControls, Reading.visible_text h]

end LinearSweep.Text
