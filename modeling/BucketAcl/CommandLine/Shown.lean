/-
How values are shown to who runs the program: as they are built, by
name, on one line or spread over many.
-/
import BucketAcl.Acl.Canned
import BucketAcl.Text.Quoted

namespace BucketAcl.CommandLine

/-- A value as it is shown: on one line, or spread out from a depth on. -/
def Shown : Type := Option Nat → String

namespace Shown

/-- The blanks in front of a line at a depth. -/
def indent (depth : Nat) : String := .ofList (List.replicate (4 * depth) ' ')

/-- A name. -/
def word (s : String) : Shown := fun _ => s

/-- A text, in quotes. -/
def text (s : String) : Shown := fun _ => Text.quoted s

/-- The path of a file, in quotes. A single quote within it is marked
too. -/
def path (s : String) : Shown := fun _ =>
  .ofList ('"' :: s.toList.flatMap (fun c => if c = '\'' then ['\\', c] else Text.quotedChar c)
    ++ ['"'])

/-- Parts between two brackets. On one line there are commas between
them; else there is one behind each, and no parts need no lines. -/
def group (opening closing : String) (padding : String) (parts : List Shown) : Shown
  | none =>
    opening ++ padding ++ ", ".intercalate (parts.map fun p => p none) ++ padding ++ closing
  | some depth =>
    if parts.isEmpty then opening ++ closing
    else
      opening ++ "\n"
        ++ String.join (parts.map fun p => indent (depth + 1) ++ p (some (depth + 1)) ++ ",\n")
        ++ indent depth ++ closing

/-- A list. -/
def list (items : List Shown) : Shown := group "[" "]" "" items

/-- A value that is a name and one part. -/
def tuple (name : String) (item : Shown) : Shown := group (name ++ "(") ")" "" [item]

/-- A value with named parts. -/
def record (name : String) (fields : List (String × Shown)) : Shown :=
  group (name ++ " \x7b") "\x7d" " " (fields.map fun (field, x) => fun d => field ++ ": " ++ x d)

/-- A value that may be missing. -/
def optional (x : Option Shown) : Shown := x.elim (word "None") (tuple "Some")

/-- A text that may be missing. -/
def optionalText (s : Option String) : Shown := optional (s.map text)

-- ===================================================== access control

/-- The name of a canned list. -/
def ofCanned (a : CannedAcl) : Shown :=
  word (match a with
    | .ownerOnly => "Private"
    | .publicRead => "PublicRead"
    | .publicReadWrite => "PublicReadWrite"
    | .authenticatedRead => "AuthenticatedRead"
    | .awsExecRead => "AwsExecRead"
    | .bucketOwnerRead => "BucketOwnerRead"
    | .bucketOwnerFullControl => "BucketOwnerFullControl")

/-- The name of a permission. -/
def ofPermission (p : Permission) : Shown :=
  word (match p with
    | .read => "Read"
    | .write => "Write"
    | .readAcp => "ReadAcp"
    | .writeAcp => "WriteAcp"
    | .fullControl => "FullControl")

/-- A grantee. -/
def ofGrantee (g : Grantee) : Shown :=
  record "Grantee"
    [("xmlns_xsi", text g.schemaInstance), ("grantee_type", word g.type.name),
      ("id", optionalText g.id), ("display_name", optionalText g.displayName),
      ("uri", optionalText g.uri), ("email_address", optionalText g.emailAddress)]

/-- A grant. -/
def ofGrant (g : Grant) : Shown :=
  record "Grant" [("grantee", ofGrantee g.grantee), ("permission", ofPermission g.permission)]

end Shown

end BucketAcl.CommandLine
