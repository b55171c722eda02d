/-
The environment of a run: named values that are bytes. A value counts
only if it is text.
-/
import BucketAcl.Text.Utf8

namespace BucketAcl

/-- Named values. -/
structure Environment where
  bytes? : String → Option (List UInt8)

namespace Environment

/-- The environment without values. -/
def empty : Environment := ⟨fun _ => none⟩

/-- The environment of a list of values; the first of a name counts. -/
def ofList (es : List (String × List UInt8)) : Environment := ⟨fun name => es.lookup name⟩

/-- The value of a name, if it is set and is text. -/
def get? (e : Environment) (name : String) : Option String :=
  (e.bytes? name).bind Text.Utf8.strict?

end Environment

end BucketAcl
