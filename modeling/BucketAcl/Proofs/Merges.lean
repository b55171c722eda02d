/-
Policies that are merged one after the other into what is known of an
object. The effect of one is laid down field by field and name by name;
effects follow one another, so that any number of policies has one too.

Main statement: `mergedFrom_foldl_merge`.
-/
import BucketAcl.Proofs.Metadata

namespace BucketAcl

-- ====================================================== what they show

namespace Policy

/-- The labels of those policies that have one, in order. -/
def labels (policies : List Policy) : List String :=
  (policies.filterMap canned?).map CannedAcl.label

/-- A policy without a label that has a grant of this permission. -/
def ShowsGrants (permission : Permission) (p : Policy) : Prop :=
  p.canned? = none ∧ ∃ g ∈ p.grants, g.permission = permission

instance (permission : Permission) (p : Policy) : Decidable (p.ShowsGrants permission) :=
  inferInstanceAs (Decidable (_ ∧ _))

/-- What the last policy that shows its grants of a permission says of
their grantees. -/
def lastIds? (permission : Permission) (policies : List Policy) : Option (List String) :=
  Index.last? (fun p => decide (p.ShowsGrants permission)) (fun p => p.ids permission) policies

theorem labels_append (ps qs : List Policy) : labels (ps ++ qs) = labels ps ++ labels qs := by
  unfold labels
  rw [List.filterMap_append, List.map_append]

theorem lastIds?_append (permission : Permission) (ps qs : List Policy) :
    lastIds? permission (ps ++ qs) = (lastIds? permission qs <|> lastIds? permission ps) :=
  Index.last?_append _ _ ps qs

/-- A policy with a label has this one to add, and replaces nothing. -/
theorem labels_singleton_of_canned {p : Policy} {label : CannedAcl} (h : p.canned? = some label) :
    labels [p] = [label.label] := by
  unfold labels
  rw [List.filterMap_cons_some h]
  rfl

theorem lastIds?_singleton_of_canned {p : Policy} {label : CannedAcl}
    (h : p.canned? = some label) (permission : Permission) : lastIds? permission [p] = none := by
  have hshows : ¬p.ShowsGrants permission := by
    rintro ⟨hnone, -⟩
    rw [h] at hnone
    cases hnone
  unfold lastIds?
  rw [Index.last?_singleton, if_neg (by simpa using hshows)]

/-- A policy without a label has none to add, and replaces what it has
grants of. -/
theorem labels_singleton_of_grants {p : Policy} (h : p.canned? = none) : labels [p] = [] := by
  unfold labels
  rw [List.filterMap_cons_none h]
  rfl

theorem lastIds?_singleton_of_grants {p : Policy} (h : p.canned? = none)
    (permission : Permission) :
    lastIds? permission [p] = p.grantHeaders.get? permission.grantHeader := by
  have hshows : p.ShowsGrants permission ↔ ¬p.ids permission = [] := by
    rw [ids_eq_nil_iff, Decidable.not_not]
    exact and_iff_right h
  unfold lastIds?
  rw [get?_grantHeaders, Index.present, Index.last?_singleton]
  simp only [hshows, decide_not, Bool.not_eq_true', decide_eq_false_iff_not, ite_not]

/-- The headers of permissions are none of the others. -/
theorem grantHeader_ne_cannedHeader (permission : Permission) :
    permission.grantHeader ≠ "x-amz-acl" := by
  cases permission <;> decide

end Policy

namespace ObjectInfo

open Policy

-- ========================================================= the effects

/-- What is known of an object after policies were merged in, by what
was known before. -/
structure MergedFrom (info after : ObjectInfo) (policies : List Policy) : Prop where
  /-- What the headers of the object say stays. -/
  headers_eq : after.key = info.key ∧ after.size = info.size ∧ after.etag = info.etag
    ∧ after.lastModified = info.lastModified ∧ after.contentType = info.contentType
    ∧ after.versionId = info.versionId
  /-- The owner is the one of the last policy. -/
  owner_eq : after.owner = (policies.getLast?.map Policy.owner).getD info.owner
  grants_eq : after.grants = info.grants ++ policies.flatMap Policy.grants
  /-- Labels are added to those that were there. -/
  canned_eq : after.metadata.get? "x-amz-acl" =
    if labels policies = [] then info.metadata.get? "x-amz-acl"
    else some ((info.metadata.get? "x-amz-acl").getD [] ++ labels policies)
  /-- The grantees of a permission are replaced. -/
  granted_eq : ∀ permission : Permission, after.metadata.get? permission.grantHeader
    = (lastIds? permission policies <|> info.metadata.get? permission.grantHeader)
  others_eq : ∀ name, name ≠ "x-amz-acl" → (∀ p : Permission, name ≠ p.grantHeader) →
    after.metadata.get? name = info.metadata.get? name

variable {info middle after : ObjectInfo} {ps qs : List Policy}

theorem MergedFrom.nil (info : ObjectInfo) : MergedFrom info info [] :=
  ⟨⟨rfl, rfl, rfl, rfl, rfl, rfl⟩, rfl, (List.append_nil _).symm, rfl, fun _ => rfl,
    fun _ _ _ => rfl⟩

/-- Effects follow one another. -/
theorem MergedFrom.append (h : MergedFrom info middle ps) (h' : MergedFrom middle after qs) :
    MergedFrom info after (ps ++ qs) := by
  refine ⟨?headers, ?owner, ?grants, ?canned, fun permission => ?granted, ?others⟩
  case headers =>
    obtain ⟨hkey, hsize, hetag, hmodified, htype, hversion⟩ := h.headers_eq
    obtain ⟨hkey', hsize', hetag', hmodified', htype', hversion'⟩ := h'.headers_eq
    exact ⟨hkey'.trans hkey, hsize'.trans hsize, hetag'.trans hetag, hmodified'.trans hmodified,
      htype'.trans htype, hversion'.trans hversion⟩
  case owner =>
    rw [h'.owner_eq, h.owner_eq, List.getLast?_append]
    cases qs.getLast? <;> rfl
  case grants => rw [h'.grants_eq, h.grants_eq, List.flatMap_append, List.append_assoc]
  case canned =>
    rw [h'.canned_eq, h.canned_eq, labels_append]
    by_cases hps : labels ps = []
    · rw [if_pos hps, hps, List.nil_append]
    · rw [if_neg hps, if_neg (List.append_ne_nil_of_left_ne_nil hps _)]
      by_cases hqs : labels qs = []
      · rw [if_pos hqs, hqs, List.append_nil]
      · rw [if_neg hqs, Option.getD_some, List.append_assoc]
  case granted =>
    rw [h'.granted_eq, h.granted_eq, lastIds?_append]
    cases lastIds? permission qs <;> rfl
  case others =>
    intro name hcanned hgrants
    exact (h'.others_eq name hcanned hgrants).trans (h.others_eq name hcanned hgrants)

-- ========================================================== one policy

/-- One policy either adds its label or replaces the grantees of the
permissions that it grants. -/
theorem mergedFrom_merge (info : ObjectInfo) (p : Policy) :
    MergedFrom info (info.merge p) [p] := by
  obtain ⟨metadata, hmerge⟩ := merge_eq info p
  refine ⟨?headers, ?owner, ?grants, ?canned, fun permission => ?granted, ?others⟩
  case headers =>
    rw [hmerge]
    exact ⟨rfl, rfl, rfl, rfl, rfl, rfl⟩
  case owner =>
    rw [hmerge]
    rfl
  case grants => rw [hmerge, List.flatMap_singleton]
  case canned =>
    cases hlabel : p.canned? with
    | some label =>
        rw [get?_metadata_merge_of_canned hlabel, labels_singleton_of_canned hlabel, if_pos rfl,
          if_neg (List.cons_ne_nil _ _)]
    | none =>
        have hnone : p.grantHeaders.get? "x-amz-acl" = none :=
          get?_grantHeaders_eq_none fun g _ => grantHeader_ne_cannedHeader g.permission
        rw [get?_metadata_merge_of_grants hlabel, labels_singleton_of_grants hlabel, if_pos rfl,
          hnone]
        rfl
  case granted =>
    cases hlabel : p.canned? with
    | some label =>
        rw [get?_metadata_merge_of_canned hlabel, lastIds?_singleton_of_canned hlabel,
          if_neg (grantHeader_ne_cannedHeader permission)]
        rfl
    | none =>
        rw [get?_metadata_merge_of_grants hlabel, lastIds?_singleton_of_grants hlabel]
  case others =>
    intro name hcanned hgrants
    cases hlabel : p.canned? with
    | some label => rw [get?_metadata_merge_of_canned hlabel, if_neg hcanned]
    | none =>
        have hnone : p.grantHeaders.get? name = none :=
          get?_grantHeaders_eq_none fun g _ => (hgrants g.permission).symm
        rw [get?_metadata_merge_of_grants hlabel, hnone]
        rfl

-- ========================================================= any number

/-- Policies that are merged in one after the other, as many as there
are. What the headers of the object say stays, the owner is the one of
the last policy, and all grants are there in order. In the metadata the
labels are added, each permission has the grantees of the last policy
that shows them, and all else is as it was. -/
theorem mergedFrom_foldl_merge (info : ObjectInfo) (policies : List Policy) :
    MergedFrom info (policies.foldl merge info) policies := by
  induction policies generalizing info with
  | nil => exact .nil info
  | cons p r ih => exact (mergedFrom_merge info p).append (ih (info.merge p))

end ObjectInfo

end BucketAcl
