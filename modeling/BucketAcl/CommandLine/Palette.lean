/-
Colours on a terminal. Two rules decide whether there are any: one for
what the program says and reports, one for usage faults and the journal.
Neither standard output nor standard error counts as a terminal by
itself, so colours have to be asked for by the environment.
-/
import BucketAcl.CommandLine.Plain
import BucketAcl.Environment

namespace BucketAcl.CommandLine

/-- The colours that are used. -/
inductive Color where
  | red
  | green
  | yellow
  | blue
  | gray
  deriving DecidableEq

/-- The number of a colour in a control sequence. -/
def Color.code : Color → String
  | red => "31"
  | green => "32"
  | yellow => "33"
  | blue => "34"
  | gray => "90"

/-- Whether colours are shown. -/
structure Palette where
  hasColor : Bool
  deriving DecidableEq

namespace Palette

/-- The palette without colours. -/
def plain : Palette := ⟨false⟩

/-- The palette of reports: colours are asked for by any value but zero
that is text. -/
def ofReports (env : Environment) : Palette :=
  ⟨(env.get? "CLICOLOR_FORCE").any (· != "0")⟩

/-- The palette of usage faults and the journal: colours are asked for
and refused by any value that is not empty, and the refusal wins. -/
def ofNotices (env : Environment) : Palette :=
  let isGiven (name : String) : Bool := (env.bytes? name).any (· != [])
  ⟨isGiven "CLICOLOR_FORCE" && !isGiven "NO_COLOR"⟩

/-- The control sequence that begins a colour. -/
def start (c : Color) : String := "\x1b[" ++ c.code ++ "m"

/-- The control sequence that ends every colour. -/
def stop : String := "\x1b[0m"

/-- A text with blanks in front of it, up to a width. -/
def alignRight (width : Nat) (s : String) : String :=
  .ofList (List.replicate (width - s.length) ' ') ++ s

/-- A text in a colour, with blanks in front of it up to a width. Where
the text ends all colours itself, its own begins again. -/
def paint (p : Palette) (c : Color) (s : String) (width : Nat := 0) : String :=
  if p.hasColor then
    start c ++ alignRight width (s.replace stop (stop ++ start c)) ++ stop
  else alignRight width s

/-- A part of a notice that stands out by its weight, its colour or
both. -/
def stressed (isHeavy : Bool) (c : Option Color) (s : String) : String :=
  (if isHeavy then "\x1b[1m" else "") ++ c.elim "" start ++ s ++ stop

/-- A notice as it is written: where there are no colours, no control
sequence is left in it, whoever put it there. -/
def notice (p : Palette) (s : String) : String :=
  if p.hasColor then s else CommandLine.plain s

/-- A text without colours is only moved to the right. -/
theorem paint_plain (c : Color) (s : String) (width : Nat) :
    plain.paint c s width = alignRight width s := rfl

end Palette

end BucketAcl.CommandLine
