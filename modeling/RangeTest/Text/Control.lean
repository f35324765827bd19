namespace RangeTest

/-- How far a text has got into a control sequence of a terminal. -/
inductive Text.Control where
  | outside
  /-- Behind an escape character. -/
  | escape
  /-- Behind an escape character and intermediates. -/
  | qualifiedEscape
  /-- Behind an escape character and an opening bracket. -/
  | sequence
  /-- At the beginning of what introduces the string for a device. -/
  | device
  /-- Behind parameters for a device. -/
  | deviceParameters
  /-- Behind intermediates for a device. -/
  | qualifiedDevice
  /-- In a string that a terminal takes in silence. -/
  | silentString
  /-- In a command to the system around the terminal, such as one to set a title. -/
  | systemCommand
  deriving DecidableEq, Repr

def Text.isControl (c : Char) : Bool :=
  c < ' ' || c == '\x7f'

def Text.isIntermediate (c : Char) : Bool :=
  ' ' ≤ c && c ≤ '/'

def Text.isParameter (c : Char) : Bool :=
  '0' ≤ c && c ≤ '?'

def Text.isFinal (c : Char) : Bool :=
  '@' ≤ c && c ≤ '~'

/-- The control characters that lay out a text. -/
def Text.isLayout (c : Char) : Bool :=
  c == '\t' || c == '\n' || c == '\x0c' || c == '\r'

/-- The end of a silent string is a single byte, which may be part of a wider character. -/
def Text.endsString (c : Char) : Bool :=
  (String.singleton c).toUTF8.data.contains 0x9C

/-- What an escape character and the character behind it begin. -/
def Text.Control.opened : Char → Control
  | '[' => sequence
  | ']' => systemCommand
  | 'P' => device
  | 'X' | '^' | '_' => silentString
  | _ => outside

/-- The step of one character. Escape begins anew everywhere, and two characters break off whatever
was begun. -/
def Text.Control.next (c : Char) (control : Control) : Control :=
  if c = '\x1b' then escape
  else if c = '\x18' ∨ c = '\x1a' then outside
  else match control with
  | outside => outside
  | escape =>
    if isIntermediate c then qualifiedEscape
    else if isParameter c || isFinal c then opened c
    else escape
  | qualifiedEscape => if isParameter c || isFinal c then outside else qualifiedEscape
  | sequence => if isFinal c then outside else sequence
  | device =>
    if isIntermediate c then qualifiedDevice
    else if isParameter c then deviceParameters
    else if isFinal c then silentString
    else device
  | deviceParameters =>
    if isIntermediate c then qualifiedDevice
    else if '<' ≤ c && c ≤ '~' then silentString
    else deviceParameters
  | qualifiedDevice => if isParameter c || isFinal c then silentString else qualifiedDevice
  | silentString => if endsString c then outside else silentString
  | systemCommand => if c = '\x07' then outside else systemCommand

/-- Layout is also shown in the midst of a sequence, but not in a string. -/
def Text.Control.shows (c : Char) : Control → Bool
  | outside => isLayout c || !isControl c
  | escape | qualifiedEscape | sequence => isLayout c
  | _ => false

/-- What a text shows from some point on. Once something is shown, all is shown up to the next
character that is none to show; a sequence with layout in its midst goes on only from there. -/
def Text.plainFrom (control : Control) (isShowing : Bool) : List Char → List Char
  | [] => []
  | c :: rest =>
    if isShowing && Control.outside.shows c then
      c :: plainFrom (if c.val < 0x80 then control else .outside) true rest
    else if !isShowing && control.shows c then c :: plainFrom (control.next c) true rest
    else plainFrom (control.next c) false rest

/-- A text without its control characters and control sequences. -/
def Text.plain (s : List Char) : List Char :=
  plainFrom .outside false s

end RangeTest
