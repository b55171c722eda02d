/-
The attributes of a tag, read from left to right, and what they say
about namespaces: which prefixes they bind, and whether the element is
declared to be nil. Reading goes on behind a fault; who wants the
attributes of a tag without faults looks for the first one.
-/
import BucketAcl.Xml.Token

namespace BucketAcl.Xml

open Text

-- ============================================================== names

/-- The part of a name after its first colon, or the whole name. -/
def localName (name : String) : String :=
  match cutAt ':' name.toList with
  | some (_, r) => .ofList r
  | none => name

/-- The prefix of a name, if it has one. -/
def prefix? (name : String) : Option String :=
  (cutAt ':' name.toList).map fun p => String.ofList p.1

/-- What an attribute of this name binds: a prefix, or the default
namespace. -/
def boundPrefix? (name : String) : Option (Option String) :=
  match after? "xmlns".toList name.toList with
  | some [] => some none
  | some (':' :: r) => some (some (.ofList r))
  | _ => none

/-- An attribute: its name, and its value as written. -/
structure Attribute where
  name : String
  value : List Char
  deriving DecidableEq

/-- The field that an attribute fills: `@` and its local name. The name
of a namespace declaration is not divided. -/
def Attribute.field (a : Attribute) : String :=
  "@" ++ (if (boundPrefix? a.name).isSome then a.name else localName a.name)

-- ============================================================ reading

/-- What is found at a place of a tag: a name, and its value if that can
be read. -/
structure Entry where
  place : Nat
  name : String
  value : Except AttributeFault (List Char)

/-- The name at the head of a text, and the rest from the `=` on. -/
def cutKey (c : Char) (cs : List Char) : String × List Char :=
  let name := c :: cs.takeWhile fun x => x != '=' && !isSpace x
  (.ofList name, (cs.dropWhile fun x => x != '=' && !isSpace x).dropWhile isSpace)

/-- The value at the head of a text, which has to be in quotes, and what
can be read on from: after a value without quotes that is the next white
space. -/
def cutValue (total : Nat) (cs : List Char) :
    Except AttributeFault (List Char) × List Char :=
  match cs.dropWhile isSpace with
  | [] => (.error (.noValue total), [])
  | q :: r =>
    if q = '"' ∨ q = '\'' then
      match r.dropWhile (· != q) with
      | _ :: rest => (.ok (r.takeWhile (· != q)), rest)
      | [] => (.error (.noClosingQuote total q), [])
    else
      (.error (.noQuote (total - byteLength (q :: r))), r.dropWhile fun x => !isSpace x)

theorem length_cutKey_le (c : Char) (cs : List Char) :
    (cutKey c cs).2.length ≤ cs.length :=
  Nat.le_trans (length_dropWhile_le isSpace _)
    (length_dropWhile_le (fun x => x != '=' && !isSpace x) cs)

theorem length_cutValue_le (total : Nat) (cs : List Char) :
    (cutValue total cs).2.length ≤ cs.length := by
  have h1 := length_dropWhile_le isSpace cs
  simp only [cutValue]
  split
  · exact Nat.zero_le _
  · rename_i q t ht
    rw [ht, List.length_cons] at h1
    split
    · split
      · rename_i x rest hr
        have h2 := length_dropWhile_le (· != q) t
        rw [hr, List.length_cons] at h2
        simp only
        omega
      · exact Nat.zero_le _
    · have h2 := length_dropWhile_le (fun x => !isSpace x) t
      simp only
      omega

theorem length_cutKey_lt {cs r rest : List Char} {c : Char} {name : String}
    (hs : cs.dropWhile isSpace = c :: r) (hk : cutKey c r = (name, rest)) :
    rest.length < cs.length := by
  have h1 := length_dropWhile_le isSpace cs
  have h2 := length_cutKey_le c r
  rw [hs, List.length_cons] at h1
  rw [hk] at h2
  dsimp only at h2
  omega

theorem length_cutValue_lt {total : Nat} {cs r afterKey : List Char} {c : Char} {name : String}
    (hs : cs.dropWhile isSpace = c :: r) (hk : cutKey c r = (name, '=' :: afterKey)) :
    (cutValue total afterKey).2.length < cs.length := by
  have h1 := length_cutKey_lt hs hk
  have h2 := length_cutValue_le total afterKey
  rw [List.length_cons] at h1
  omega

/-- The entries of a text, in order, and the faults between them.
`total` is the place of the end of the tag. -/
def entries (total : Nat) (cs : List Char) : List (Except AttributeFault Entry) :=
  match hs : cs.dropWhile isSpace with
  | [] => []
  | c :: r =>
    match hk : cutKey c r with
    | (name, '=' :: afterKey) =>
      let place := total - byteLength (c :: r)
      have : (cutValue total afterKey).2.length < cs.length := length_cutValue_lt hs hk
      .ok ⟨place, name, (cutValue total afterKey).1⟩ :: entries total (cutValue total afterKey).2
    | (_, rest) =>
      have : rest.length < cs.length := length_cutKey_lt hs hk
      .error (.noEquals (total - byteLength rest)) :: entries total rest
  termination_by cs.length
  decreasing_by all_goals exact this

/-- The entries of a tag. -/
def Tag.entries (tag : Tag) : List (Except AttributeFault Entry) :=
  Xml.entries (byteLength tag.name.toList + byteLength tag.rest) tag.rest

/-- The attribute of an entry. -/
def Entry.attribute (e : Entry) : Except AttributeFault Attribute :=
  e.value.map fun value => ⟨e.name, value⟩

/-- The attributes of entries, after some whose names and places are
given. No name stands twice. -/
def distinct (former : List (String × Nat)) :
    List (Except AttributeFault Entry) → List (Except AttributeFault Attribute)
  | [] => []
  | .error f :: r => .error f :: distinct former r
  | .ok e :: r =>
    match former.lookup e.name with
    | some m => .error (.duplicate e.place m) :: distinct former r
    | none => e.attribute :: distinct ((e.name, e.place) :: former) r

/-- The attributes of a tag and the faults between them, in order. -/
def Tag.attributes (tag : Tag) : List (Except AttributeFault Attribute) :=
  distinct [] tag.entries

/-- The attributes before the first fault of a tag, where a name that
stands twice is none. -/
def Tag.leading (tag : Tag) : List Attribute :=
  ((tag.entries.map (·.bind Entry.attribute)).takeWhile Except.isOk).filterMap Except.toOption

-- ========================================================= namespaces

/-- What an attribute binds: a prefix to a namespace. The default
namespace goes without a prefix. -/
def Attribute.binding? (a : Attribute) : Option (Option String × String) :=
  (boundPrefix? a.name).map fun p => (p, String.ofList a.value)

/-- What a tag binds. -/
def Tag.bindings (tag : Tag) : List (Option String × String) :=
  tag.leading.filterMap Attribute.binding?

/-- The tags whose bindings are in scope, the innermost first. -/
abbrev Scope : Type := List Tag

/-- The namespace of a prefix: the last binding of the innermost tag
that has one counts. An empty prefix is bound to none. -/
def Scope.find? (scope : Scope) (pfx : String) : Option String :=
  if pfx = "" then none
  else (scope.flatMap fun tag => tag.bindings.reverse).lookup (some pfx)

/-- A binding that is not allowed. -/
def bindingFault? : Option String × String → Option BindingFault
  | (none, _) => none
  | (some "xml", uri) => if uri = xmlNamespace then none else some (.xmlElsewhere uri)
  | (some "xmlns", uri) => some (.xmlnsDeclared uri)
  | (some p, uri) =>
    if uri = xmlNamespace then some (.otherToXml p)
    else if uri = xmlnsNamespace then some (.otherToXmlns p)
    else none

/-- Refuses a tag that binds a prefix against the rules. -/
def Tag.checkBindings (tag : Tag) : Except Fault Unit :=
  match tag.bindings.findSome? bindingFault? with
  | some f => .error (.binding f)
  | none => .ok ()

/-- Whether a tag has an attribute `nil` of a namespace, and it is true. -/
def Tag.isNil (tag : Tag) (scope : Scope) (uri : String) : Bool :=
  (tag.attributes.filterMap Except.toOption).any fun a =>
    localName a.name == "nil"
      && (prefix? a.name).bind scope.find? == some uri
      && (a.value == "1".toList || a.value == "true".toList)

end BucketAcl.Xml
