/-
The headers that a policy could have been set with, as a division of its
grants by permission: none is lost, none is there twice, and those of one
permission keep their order. With the permissions in order, the headers
tell who the grantees are.

Main statement: `grantHeaders_divides`.
-/
import BucketAcl.Proofs.Metadata

namespace BucketAcl.Policy

/-- The permissions of the grants, in order. -/
def permissions (p : Policy) : List Permission := p.grants.map Grant.permission

/-- The ids of the grantees, in order; an id that is absent is empty. -/
def granteeIds (p : Policy) : List String := p.grants.map fun g => g.grantee.idOrEmpty

-- ============================================================= headers

/-- Headers that hold each grant of a policy once, under the name of its
permission. -/
structure DividesInto (p : Policy) (headers : Index (List String)) : Prop where
  /-- There is a header exactly for each permission that is granted. -/
  mem_names_iff : ∀ name, name ∈ headers.names
    ↔ ∃ permission ∈ p.permissions, permission.grantHeader = name
  /-- It holds the grantees of that permission in order. -/
  get?_eq : ∀ permission ∈ p.permissions,
    headers.get? permission.grantHeader = some (p.ids permission)
  /-- An entry is never empty, and is that of one permission only. -/
  of_mem_entries : ∀ e ∈ headers.entries, e.2 ≠ []
    ∧ ∃! permission : Permission, permission.grantHeader = e.1
  /-- There are no names but these five. -/
  names_subset : headers.names ⊆ ["x-amz-grant-read", "x-amz-grant-write", "x-amz-grant-read-acp",
    "x-amz-grant-write-acp", "x-amz-grant-full-control"]
  /-- All entries together hold what each grant says of its grantee. -/
  values_perm : headers.values.Perm (p.grants.map fun g => "id=" ++ g.grantee.idOrEmpty)
  /-- There are as many of these values as grants. -/
  length_eq : (headers.entries.flatMap fun e => e.2).length = p.grants.length

theorem ids_ne_nil_iff {p : Policy} {permission : Permission} :
    p.ids permission ≠ [] ↔ permission ∈ p.permissions := by
  unfold permissions
  rw [ne_eq, ids_eq_nil_iff, Decidable.not_not, List.mem_map]

theorem get?_grantHeaders_of_mem {p : Policy} {permission : Permission}
    (h : permission ∈ p.permissions) :
    p.grantHeaders.get? permission.grantHeader = some (p.ids permission) := by
  rw [get?_grantHeaders, Index.present, if_neg (ids_ne_nil_iff.2 h)]

theorem exists_of_mem_names {p : Policy} {name : String} (h : name ∈ p.grantHeaders.names) :
    ∃ permission ∈ p.permissions, permission.grantHeader = name := by
  obtain ⟨e, he, rfl⟩ := List.mem_map.1 h
  obtain ⟨g, hg, hname⟩ := exists_of_mem_grantHeaders he
  exact ⟨g.permission, List.mem_map_of_mem hg, hname.symm⟩

/-- Each grant adds one value to the headers. -/
theorem perm_values_grantHeaders (p : Policy) :
    p.grantHeaders.values.Perm (p.grants.map fun g => "id=" ++ g.grantee.idOrEmpty) :=
  Index.perm_values_foldl_alter (fun g : Grant => g.permission.grantHeader)
    (fun g => "id=" ++ g.grantee.idOrEmpty) p.grants .empty

theorem dividesInto_grantHeaders (p : Policy) : p.DividesInto p.grantHeaders := by
  have hlength := (perm_values_grantHeaders p).length_eq.trans (List.length_map ..)
  refine ⟨?names, fun permission => get?_grantHeaders_of_mem, ?entries, ?five,
    perm_values_grantHeaders p, hlength⟩
  case names =>
    refine fun name => ⟨exists_of_mem_names, ?_⟩
    rintro ⟨permission, hmem, rfl⟩
    rw [Index.mem_names_iff, get?_grantHeaders_of_mem hmem]
    rfl
  case entries =>
    rintro ⟨name, values⟩ he
    obtain ⟨permission, hmem, rfl⟩ := exists_of_mem_names (List.mem_map_of_mem he)
    have hvalues : some (p.ids permission) = some values :=
      (get?_grantHeaders_of_mem hmem).symm.trans (Index.get?_of_mem_entries he)
    cases hvalues
    exact ⟨ids_ne_nil_iff.2 hmem, permission, rfl, fun _ => Permission.grantHeader_injective⟩
  case five =>
    intro name hname
    obtain ⟨permission, -, rfl⟩ := exists_of_mem_names hname
    cases permission <;> decide

-- ====================================================== what they tell

/-- Policies with the same headers name the same grantees for each
permission. -/
theorem ids_eq_of_grantHeaders_eq {p q : Policy} (h : q.grantHeaders = p.grantHeaders)
    (permission : Permission) : q.ids permission = p.ids permission := by
  rw [← Index.present_inj, ← get?_grantHeaders, ← get?_grantHeaders, h]

theorem granteeIds_eq_of_grantHeaders_eq {p q : Policy}
    (hpermissions : q.permissions = p.permissions)
    (hheaders : q.grantHeaders = p.grantHeaders) : q.granteeIds = p.granteeIds := by
  have hids : q.granteeIds.map ("id=" ++ ·) = p.granteeIds.map ("id=" ++ ·) := by
    unfold granteeIds
    rw [List.map_map, List.map_map]
    exact Index.map_eq_of_groups_eq hpermissions (ids_eq_of_grantHeaders_eq hheaders)
  have hinjective : Function.Injective ("id=" ++ · : String → String) :=
    fun _ _ => String.append_right_inj _ |>.1
  exact hinjective.list_map hids

/-- The headers depend on nothing but the permissions and the ids. -/
theorem grantHeaders_eq_of_granteeIds_eq {p q : Policy}
    (hpermissions : q.permissions = p.permissions)
    (hids : q.granteeIds = p.granteeIds) : q.grantHeaders = p.grantHeaders := by
  have hzip (p : Policy) : p.grantHeaders = (p.permissions.zip p.granteeIds).foldl
      (fun m e => m.alter e.1.grantHeader fun former => former.getD [] ++ ["id=" ++ e.2])
      .empty := by
    unfold permissions granteeIds
    rw [List.zip_map', List.foldl_map]
    rfl
  rw [hzip, hzip, hpermissions, hids]

/-- The headers of a policy hold each of its grants once: there is one for
each permission that is granted, with the grantees of exactly its grants
in order. Among policies with the same permissions in the same order, the
headers tell all grantees apart by their ids. -/
theorem grantHeaders_divides (p : Policy) : p.DividesInto p.grantHeaders
    ∧ ∀ q : Policy, (q.permissions = p.permissions ∧ q.grantHeaders = p.grantHeaders)
      ↔ q.permissions = p.permissions ∧ q.granteeIds = p.granteeIds := by
  refine ⟨dividesInto_grantHeaders p, fun q => and_congr_right fun hpermissions => ?_⟩
  exact ⟨granteeIds_eq_of_grantHeaders_eq hpermissions,
    grantHeaders_eq_of_granteeIds_eq hpermissions⟩

/-- A grantee without an id has an empty one. -/
example : (Policy.grantHeaders { grants := [⟨.ofUser "reader" none, .read⟩,
      ⟨.ofGroup allUsersUri, .write⟩, ⟨.ofGroup allUsersUri, .read⟩] }).entries
    = [("x-amz-grant-read", ["id=reader", "id="]), ("x-amz-grant-write", ["id="])] := by
  decide +kernel

end BucketAcl.Policy
