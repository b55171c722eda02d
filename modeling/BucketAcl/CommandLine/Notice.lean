/-
What is said where a command line is wrong. What was given, and what it
was given for, stand out by their look; the reason does not, so a
control sequence that it repeats may run on into what follows.
-/
import BucketAcl.CommandLine.Option
import BucketAcl.CommandLine.Palette

namespace BucketAcl.CommandLine.UsageFault

open Palette (stressed)

/-- The wording of the fault, behind the word for errors. -/
def message : UsageFault → String
  | invalidValue o value reason =>
    "invalid value '" ++ stressed false (some .yellow) value ++ "' for '"
      ++ stressed true none o.text ++ "'" ++ (reason.map (": " ++ ·)).getD ""
  | missingValue o =>
    "a value is required for '" ++ stressed true none o.text ++ "' but none was supplied"
  | unexpectedValue o => "unexpected value for '" ++ stressed true none o.text ++ "'"
  | repeated o => "'" ++ stressed true none o.text ++ "' cannot be used multiple times"
  | notText => "an argument is no valid text"
  | unexpected argument =>
    "unexpected argument '" ++ stressed false (some .yellow) argument ++ "'"
  | missingCommand => "a command is required: get, put or show"
  | missingLocation => "a location is required: <s3 provider>/<bucket>/<optional file>"
  | missingSource => "one of --acl, --file and --grant is required"
  | severalSources => "only one of --acl, --file and --grant can be used"
  | missingOwner => "--grant requires --owner"
  | missingGrant => "--owner requires --grant"

/-- What is said about the fault, and where to look for help. -/
def notice (f : UsageFault) : String :=
  stressed true (some .red) "error:" ++ " " ++ f.message ++ "\n\nFor more information, try '"
    ++ stressed true none "--help" ++ "'.\n"

end BucketAcl.CommandLine.UsageFault
