/-
What is left of a text where control sequences have no meaning: the
characters that are seen, and white space. A sequence begins with the
escape character and runs as far as its kind says; an escape character
within one begins another.

White space is kept in front of the final character of a short sequence
too. Text is shown from there on, and what was left open goes on behind
the next character that is not shown.
-/
import BucketAcl.Text.Utf8

namespace BucketAcl.CommandLine

/-- Where a text stands: outside of all sequences, behind the escape
character, behind marks that go with it, behind its bracket, in one of
the three parts of a device's header, in a string, or in a command to
the terminal. -/
inductive Sequence where
  | outside
  | escape
  | marks
  | control
  | device
  | deviceNumbers
  | deviceMarks
  | string
  | command
  deriving DecidableEq

namespace Sequence

/-- Where a text stands behind a character that does not begin or cancel
a sequence. A string is ended by a byte, in whatever character it is. -/
def within (s : Sequence) (c : Char) : Sequence :=
  let isMark : Bool := ' ' ≤ c && c ≤ '/'
  let isNumber : Bool := '0' ≤ c && c ≤ ';'
  let isFinal : Bool := '@' ≤ c && c ≤ '~'
  match s with
  | outside => outside
  | escape =>
    if isMark then marks
    else if c < ' ' ∨ '~' < c then escape
    else if c = '[' then control
    else if c = ']' then command
    else if c = 'P' then device
    else if c = 'X' ∨ c = '^' ∨ c = '_' then string
    else outside
  | marks => if '0' ≤ c ∧ c ≤ '~' then outside else marks
  | control => if isFinal then outside else control
  | device =>
    if isMark then deviceMarks else if isFinal then string
    else if '0' ≤ c ∧ c ≤ '?' then deviceNumbers else device
  | deviceNumbers =>
    if isMark then deviceMarks
    else if '0' ≤ c ∧ c ≤ '~' ∧ !isNumber then string else deviceNumbers
  | deviceMarks => if '0' ≤ c ∧ c ≤ '~' then string else deviceMarks
  | string => if (Text.Utf8.bytes c.toString).contains 0x9c then outside else string
  | command => if c = '\x07' then outside else command

/-- Where a text stands behind a character. -/
def next (s : Sequence) (c : Char) : Sequence :=
  if c = '\x1b' then escape
  else if c = '\x18' ∨ c = '\x1a' then outside
  else s.within c

/-- White space that no sequence but a string takes. -/
def isSpace (c : Char) : Bool := c == '\t' || c == '\n' || c == '\x0c' || c == '\r'

/-- Characters that are shown outside of sequences. -/
def isSeen (c : Char) : Bool := isSpace c || (' ' ≤ c && c != '\x7f')

/-- Whether text is shown from a character on. -/
def endsBefore (s : Sequence) (c : Char) : Bool :=
  match s with
  | outside => isSeen c
  | escape | marks | control => isSpace c
  | _ => false

/-- What is left of a text from a place on, where it may be shown
already. -/
def strip (isShown : Bool) : Sequence → List Char → List Char
  | _, [] => []
  | s, c :: r =>
    if (isShown && isSeen c) || s.endsBefore c then
      c :: strip true (if '\x7f' < c then outside else s) r
    else strip false (s.next c) r

end Sequence

/-- What is left of a text without its control sequences. -/
def plain (s : String) : String := .ofList (Sequence.strip false .outside s.toList)

end BucketAcl.CommandLine
