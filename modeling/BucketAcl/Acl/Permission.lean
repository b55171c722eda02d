/-
The five permissions of an access control list, and what is reported
when one of the short texts of this domain (a permission, a kind of
grantee, a canned list, a grant) is none.
-/
namespace BucketAcl

/-- Why a short text is not what it should be. -/
inductive MalformedAcl where
  | permission (text : String)
  | granteeType (text : String)
  | cannedAcl (text : String)
  | grant (text : String)
  deriving DecidableEq

/-- The wording of the error. -/
def MalformedAcl.message : MalformedAcl → String
  | permission s =>
    "invalid permission: " ++ s ++ ", expected READ, WRITE, READ_ACP, WRITE_ACP or FULL_CONTROL"
  | granteeType s => "invalid grantee type: " ++ s
  | cannedAcl s => "invalid canned ACL: " ++ s
  | grant s =>
    "invalid grant: " ++ s ++ ", expected PERMISSION:id=<id>, PERMISSION:uri=<uri> or "
      ++ "PERMISSION:emailAddress=<email>"

/-- What a grant allows. -/
inductive Permission where
  | read
  | write
  | readAcp
  | writeAcp
  | fullControl
  deriving DecidableEq

namespace Permission

/-- Every permission. -/
def all : List Permission := [read, write, readAcp, writeAcp, fullControl]

/-- The name in a document. -/
def name : Permission → String
  | read => "READ"
  | write => "WRITE"
  | readAcp => "READ_ACP"
  | writeAcp => "WRITE_ACP"
  | fullControl => "FULL_CONTROL"

/-- The header that carries the grantees of this permission. -/
def grantHeader : Permission → String
  | read => "x-amz-grant-read"
  | write => "x-amz-grant-write"
  | readAcp => "x-amz-grant-read-acp"
  | writeAcp => "x-amz-grant-write-acp"
  | fullControl => "x-amz-grant-full-control"

/-- The permission of a name. -/
def ofName? (s : String) : Option Permission := all.find? fun p => p.name == s

/-- The permission of a name, exactly as written in a document. -/
def parse (s : String) : Except MalformedAcl Permission :=
  match ofName? s with
  | some p => .ok p
  | none => .error (.permission s)

theorem ofName?_name (p : Permission) : ofName? p.name = some p := by
  cases p <;> decide

theorem parse_eq_ok_iff {s : String} {p : Permission} : parse s = .ok p ↔ s = p.name := by
  constructor
  · intro h
    unfold parse ofName? at h
    split at h
    · rename_i q hq
      cases h
      have hname := List.find?_some hq
      exact (beq_iff_eq.1 hname).symm
    · cases h
  · intro h
    rw [h, parse, ofName?_name]

/-- A text that is refused names no permission. -/
theorem parse_eq_error_iff {s : String} {e : MalformedAcl} :
    parse s = .error e ↔ (∀ p : Permission, p.name ≠ s) ∧ e = .permission s := by
  constructor
  · intro h
    constructor
    · intro p hp
      rw [parse_eq_ok_iff.2 hp.symm] at h
      cases h
    · unfold parse at h
      split at h
      · cases h
      · exact (Except.error.inj h).symm
  · intro ⟨hno, he⟩
    unfold parse
    split
    · rename_i p hp
      have hname := List.find?_some hp
      exact absurd (beq_iff_eq.1 hname) (hno p)
    · rw [he]

theorem grantHeader_injective {p q : Permission} (h : p.grantHeader = q.grantHeader) :
    p = q := by
  revert h
  cases p <;> cases q <;> decide

end Permission

end BucketAcl
