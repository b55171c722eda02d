/-
The journal: what a run notes about its steps, if it was asked to. Notes
come in two weights; the lighter ones are kept only when asked for twice.
-/
import BucketAcl.CommandLine.Palette
import BucketAcl.Time.Civil

namespace BucketAcl.CommandLine

/-- The weight of a note. -/
inductive Weight where
  | info
  | debug
  deriving DecidableEq

namespace Weight

/-- The word for a weight, and its colour. -/
def label : Weight → String × Color
  | info => ("INFO ", .green)
  | debug => ("DEBUG", .blue)

/-- How often a run has to be asked for notes of a weight. -/
def verbosity : Weight → Nat
  | info => 1
  | debug => 2

end Weight

/-- A note: its weight, which part of the program it comes from, and
what it says. -/
structure Note where
  weight : Weight
  source : String
  text : String
  deriving DecidableEq

/-- The note as a line; where it has more lines, the others are moved to
the right. -/
def Note.line (p : Palette) (now : Time.Instant) (n : Note) : String :=
  let (label, color) := n.weight.label
  p.notice <| p.paint .gray "[" ++ now.extendedText ++ "Z " ++ p.paint color label
    ++ " s3acl::cli::" ++ n.source ++ p.paint .gray "]" ++ " " ++ n.text.replace "\n" "\n    " ++ "\n"

/-- The notes that a run keeps, as text. -/
def journal (p : Palette) (now : Time.Instant) (verbosity : Nat) (notes : List Note) : String :=
  String.join ((notes.filter fun n => n.weight.verbosity ≤ verbosity).map (·.line p now))

end BucketAcl.CommandLine
