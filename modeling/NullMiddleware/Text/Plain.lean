/-!
Plain text: what is left of a text when its control characters and the control sequences of a
terminal are taken out, as on a stream that is no terminal.

A sequence starts at an escape character and is taken out up to its final character, or up to the
end of the text if it has none. White space in it is kept, and so is what follows the white space,
until the next control character takes the sequence up again.

Beside it stand the lines of a text.
-/

namespace NullMiddleware.Text

/-- A sequence that an escape character has opened. -/
inductive ControlSequence
  | escape
  /-- The escape character and intermediate characters. -/
  | escapeIntermediates
  /-- What an opening bracket introduces. -/
  | bracketed
  /-- A device control string, before its data. -/
  | device
  | deviceParameters
  | deviceIntermediates
  /-- Data, up to a string terminator. -/
  | data
  /-- A command to the operating system, up to a bell. -/
  | command
  deriving DecidableEq

namespace ControlSequence

def within (first last c : Char) : Bool := first ≤ c && c ≤ last

/-- The string terminator is one byte, and counts also as a part of another character. -/
def holdsTerminator (c : Char) : Bool := (String.utf8EncodeChar c).contains 0x9c

/-- What is open after the next character, if anything is. -/
def next (q : ControlSequence) (c : Char) : Option ControlSequence :=
  match q with
  | escape =>
    match c with
    | '[' => some bracketed
    | ']' => some command
    | 'P' => some device
    | 'X' | '^' | '_' => some data
    | _ =>
      if within ' ' '/' c then some escapeIntermediates
      else if within '0' '~' c then none
      else some escape
  | escapeIntermediates => if within '0' '~' c then none else some escapeIntermediates
  | bracketed => if within '@' '~' c then none else some bracketed
  | device =>
    if within ' ' '/' c then some deviceIntermediates
    else if within '0' '?' c then some deviceParameters
    else if within '@' '~' c then some data
    else some device
  | deviceParameters =>
    if within ' ' '/' c then some deviceIntermediates
    else if within '<' '~' c then some data
    else some deviceParameters
  | deviceIntermediates => if within '0' '~' c then some data else some deviceIntermediates
  | data => if holdsTerminator c then none else some data
  | command => if c = '\x07' then none else some command

/-- Strings and commands swallow the white space in them. -/
def keepsBlanks : ControlSequence → Bool
  | escape | escapeIntermediates | bracketed => true
  | _ => false

end ControlSequence

def isLayoutControl (c : Char) : Bool := c = '\t' || c = '\n' || c = '\x0c' || c = '\r'

/-- Of the characters above ASCII none counts as a control character here. -/
def isPlain (c : Char) : Bool := (0x20 ≤ c.toNat && c.toNat ≠ 0x7f) || isLayoutControl c

inductive PlainScan
  | outside
  | inside (q : ControlSequence)
  /-- After white space in a sequence. -/
  | paused (q : ControlSequence)
  deriving DecidableEq

/-- Reads one character, and says whether it is kept. Cancel and substitute end every sequence. -/
def PlainScan.step (s : PlainScan) (c : Char) : PlainScan × Bool :=
  if c = '\x1b' then (inside .escape, false)
  else if c = '\x18' || c = '\x1a' then (outside, false)
  else
    match s with
    | outside => (outside, isPlain c)
    | inside q =>
      if isLayoutControl c && q.keepsBlanks then (paused q, true)
      else ((q.next c).elim outside inside, false)
    | paused q =>
      if 0x80 ≤ c.toNat then (outside, true)
      else if isPlain c then (paused q, true)
      else (inside q, false)

def plainFrom (s : PlainScan) : List Char → List Char
  | [] => []
  | c :: r =>
    let (s, kept) := s.step c
    if kept then c :: plainFrom s r else plainFrom s r

def plain (s : List Char) : List Char := plainFrom .outside s

/-- The text up to its first line end, a line feed with or without a carriage return before it. A
text that has no line feed is one line. -/
def firstLine (s : List Char) : List Char :=
  let line := s.takeWhile (· ≠ '\n')
  if '\n' ∈ s ∧ line.getLast? = some '\r' then line.dropLast else line

def indent (s : List Char) : List Char :=
  s.flatMap fun c => if c = '\n' then ['\n', ' ', ' ', ' ', ' '] else [c]

end NullMiddleware.Text
