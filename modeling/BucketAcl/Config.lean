/-
The configuration: hosts by name, and for each the endpoint or region it
is reached at and the keys that its requests are signed with. A
configuration is read from a text as a whole or not at all: a field that
is given twice, or that is no scalar, refuses the text. Fields with
other names may hold anything.
-/
import BucketAcl.Credentials
import BucketAcl.Index
import BucketAcl.Region
import BucketAcl.Yaml.Node

namespace BucketAcl

/-- How a provider is reached. -/
structure Host where
  endpoint : Option String
  region : Option String
  accessKey : String
  secretKey : String
  deriving DecidableEq

/-- Why a host has no region. -/
inductive HostFault where
  | unknownRegion (fault : UnknownRegion)
  | unreachable
  deriving DecidableEq

/-- The text of the fault. -/
def HostFault.message : HostFault → String
  | unknownRegion fault => fault.message
  | unreachable => "could not parse host need an endpoint or region"

namespace Host

/-- The region that the host names, or else one for its endpoint. -/
def findRegion (h : Host) : Except HostFault Region :=
  match h.region, h.endpoint with
  | some name, _ =>
    match Region.parse name with
    | .ok region => .ok region
    | .error fault => .error (.unknownRegion fault)
  | none, some endpoint => .ok (.custom "" endpoint)
  | none, none => .error .unreachable

/-- The keys of the host, where the environment has none. -/
def credentials (h : Host) (env : Environment) : Credentials :=
  .ofEnvironment env ⟨h.accessKey, h.secretKey⟩

end Host

/-- Hosts by name. -/
structure Config where
  hosts : Index Host

/-- Why there is no configuration, or no host in it. -/
inductive ConfigFault where
  | missing (path : String)
  | malformed
  | unknownHost (name : String)
  deriving DecidableEq

/-- The text of the fault. -/
def ConfigFault.message : ConfigFault → String
  | missing path => "unable to open: " ++ path
  | malformed => "unable to parse config file"
  | unknownHost name => "could not find host " ++ name

namespace Config

open Yaml

/-- The host with a name. -/
def findHost (c : Config) (name : String) : Except ConfigFault Host :=
  match c.hosts.get? name with
  | some host => .ok host
  | none => .error (.unknownHost name)

-- ============================================================ reading

/-- A reading of a document, with the number of aliases that it has
followed. -/
abbrev Reading (α : Type) : Type := StateT Nat Option α

/-- What a node is, or what it stands for. -/
def follow (d : Document) (n : Node) : Reading Node := do
  if let .alias _ := n then modify (· + 1)
  return d.resolve n

/-- The text of a scalar. -/
def text (d : Document) (n : Node) : Reading String := do
  match ← follow d n with
  | .scalar s => return s.text
  | _ => failure

/-- The ways to write nothing where something might stand. -/
def isNull (s : String) : Bool := s == "null" || s == "Null" || s == "NULL" || s == "~"

/-- The text of a scalar, or none where it stands for nothing. Quotes
always make a text, a tag for nothing admits nothing else, and any other
tag makes a text of all but the empty scalar. -/
def optionalText (d : Document) (n : Node) : Reading (Option String) := do
  match ← follow d n with
  | .scalar ⟨text, tag, isPlain⟩ =>
    if !isPlain then return some text
    else if tag = some "tag:yaml.org,2002:null" then
      if isNull text then return none else failure
    else if text = "" ∨ (tag = none ∧ isNull text) then return none
    else return some text
  | _ => failure

/-- The pairs of a mapping. Where one is wanted, an empty plain scalar
is a mapping without pairs. -/
def pairs (d : Document) (n : Node) : Reading (List (Node × Node)) := do
  match ← follow d n with
  | .mapping pairs => return pairs
  | .scalar s => if s.isPlain && s.text == "" then return [] else failure
  | _ => failure

/-- The fields of a mapping: its pairs with the names as texts. -/
def fields (d : Document) (n : Node) : Reading (List (String × Node)) := do
  (← pairs d n).mapM fun (name, value) => do return (← text d name, value)

/-- The value of a field that may be left out, but not given twice. -/
def field? (fields : List (String × Node)) (name : String) : Option (Option Node) :=
  match fields.filter (·.1 == name) with
  | [] => some none
  | [(_, value)] => some (some value)
  | _ => none

/-- A host. -/
def host (d : Document) (n : Node) : Reading Host := do
  let fields ← fields d n
  let optional := fun (name : String) => do
    match ← field? fields name with
    | some value => optionalText d value
    | none => return none
  let plain := fun (name : String) => do
    match ← field? fields name with
    | some value => text d value
    | none => return ""
  return {
    endpoint := ← optional "endpoint"
    region := ← optional "region"
    accessKey := ← plain "access_key"
    secretKey := ← plain "secret_key" }

/-- The configuration below a node. Of hosts with one name the last
counts. -/
def ofNode (d : Document) (n : Node) : Reading Config := do
  let some hosts ← field? (← fields d n) "hosts" | failure
  let hosts ← (← fields d hosts).mapM fun (name, value) => do
    return (name, ← host d value)
  return ⟨.ofList hosts⟩

/-- The configuration of a document. To follow more aliases than a
hundred times its size is too much. -/
def ofDocument? (d : Document) : Option Config := do
  let (config, followed) ← ofNode d d.root |>.run 0
  if followed ≤ 100 * d.root.size then return config else none

/-- The configuration of a text. -/
def ofBytes (bytes : List UInt8) : Except ConfigFault Config :=
  match (Document.ofBytes? bytes).bind ofDocument? with
  | some config => .ok config
  | none => .error .malformed

/-- The configuration of the file at a path, whose bytes are given if it
is there. -/
def load (path : String) : Option (List UInt8) → Except ConfigFault Config
  | some bytes => ofBytes bytes
  | none => .error (.missing path)

end Config

end BucketAcl
