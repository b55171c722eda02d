/-
The metadata of an object, name by name: what the headers of the reply
leave there, and what a policy that is merged in adds to it or puts in
its place.

Main statement: `shows_merge_ofHeaders`.
-/
import BucketAcl.Call
import BucketAcl.Proofs.Index
import BucketAcl.Proofs.Text.Normal

namespace BucketAcl.Http.Reply

-- =========================================================== a reply

/-- The values of a header that are not empty, in order of arrival. -/
def values (r : Reply) (name : String) : List String :=
  (r.headers.filter fun e => e.1 = name ∧ e.2 ≠ []).map fun e => Text.Utf8.lossy e.2

/-- The names of the headers are in lower case. -/
def IsLower (r : Reply) : Prop := ∀ e ∈ r.headers, ObjectInfo.lowerName e.1 = e.1

theorem headerMap_eq (r : Reply) :
    r.headerMap = (r.headers.filter fun e => e.2 ≠ []).foldl
      (fun m e => m.alter e.1 fun former => former.getD [] ++ [Text.Utf8.lossy e.2]) .empty := by
  rw [List.foldl_filter]
  unfold headerMap
  congr 1
  funext m e
  by_cases he : e.2 = []
  · simp [he]
  · simp [he]

theorem get?_headerMap (r : Reply) (name : String) :
    r.headerMap.get? name = Index.present (r.values name) := by
  rw [headerMap_eq, Index.get?_collected, List.filter_filter]
  unfold values
  simp only [Bool.decide_and]

/-- The names of a reply are those of its headers. -/
theorem lowerName_of_mem_headerMap {p : Reply} (hp : p.IsLower) {name : String}
    (h : name ∈ p.headerMap.names) : ObjectInfo.lowerName name = name := by
  obtain ⟨e, he, rfl⟩ := List.mem_map.1 h
  have hvalues : Index.present (p.values e.1) = some e.2 := by
    rw [← get?_headerMap]
    exact Index.get?_of_mem_entries he
  unfold Index.present at hvalues
  split at hvalues
  · cases hvalues
  · rename_i hne
    obtain ⟨v, hv⟩ := List.exists_mem_of_ne_nil _ hne
    obtain ⟨x, hx, -⟩ := List.mem_map.1 hv
    obtain ⟨hmem, hname⟩ := List.mem_filter.1 hx
    have heq : x.1 = e.1 := (of_decide_eq_true hname).1
    rw [← heq]
    exact hp x hmem

theorem lowerName_lowerName (name : String) :
    ObjectInfo.lowerName (ObjectInfo.lowerName name) = ObjectInfo.lowerName name := by
  unfold ObjectInfo.lowerName
  rw [String.toList_ofList, List.map_map]
  congr 1
  exact List.map_congr_left fun c _ => Text.toLower_toLower c

/-- A reply that comes in has its names in lower case. -/
theorem isLower_ofWire (status : Nat) (headers : List (List UInt8 × List UInt8))
    (body : List UInt8) : (ofWire status headers body).IsLower := by
  intro e he
  obtain ⟨w, -, rfl⟩ := List.mem_map.1 he
  have hname : ∃ name, String.ofList ((Text.Utf8.decodeLossy w.1).map Char.toLower)
      = ObjectInfo.lowerName name :=
    ⟨.ofList (Text.Utf8.decodeLossy w.1), by rw [ObjectInfo.lowerName, String.toList_ofList]⟩
  obtain ⟨name, hname⟩ := hname
  show ObjectInfo.lowerName (.ofList ((Text.Utf8.decodeLossy w.1).map Char.toLower))
    = .ofList ((Text.Utf8.decodeLossy w.1).map Char.toLower)
  rw [hname, lowerName_lowerName]

end BucketAcl.Http.Reply

namespace BucketAcl

-- =========================================================== a policy

/-- What the grants of a permission say of their grantees, in order. -/
def Policy.ids (p : Policy) (permission : Permission) : List String :=
  (p.grants.filter fun g => g.permission = permission).map fun g => "id=" ++ g.grantee.idOrEmpty

theorem Policy.ids_eq_nil_iff {p : Policy} {permission : Permission} :
    p.ids permission = [] ↔ ¬∃ g ∈ p.grants, g.permission = permission := by
  unfold ids
  rw [List.map_eq_nil_iff, List.filter_eq_nil_iff]
  simp only [decide_eq_true_eq, not_exists, not_and]

/-- A permission that is granted has its grantees under its header. -/
theorem Policy.get?_grantHeaders (p : Policy) (permission : Permission) :
    p.grantHeaders.get? permission.grantHeader = Index.present (p.ids permission) := by
  have hname (g : Grant) : g.permission.grantHeader = permission.grantHeader
      ↔ g.permission = permission :=
    ⟨Permission.grantHeader_injective, congrArg _⟩
  have hcollect := Index.get?_collected (fun g : Grant => g.permission.grantHeader)
    (fun g => "id=" ++ g.grantee.idOrEmpty) p.grants permission.grantHeader
  simp only [hname] at hcollect
  exact hcollect

/-- Other headers are not among those of the grants. -/
theorem Policy.get?_grantHeaders_eq_none {p : Policy} {name : String}
    (h : ∀ g ∈ p.grants, g.permission.grantHeader ≠ name) :
    p.grantHeaders.get? name = none := by
  have hcollect := Index.get?_collected (fun g : Grant => g.permission.grantHeader)
    (fun g => "id=" ++ g.grantee.idOrEmpty) p.grants name
  have hnil : p.grants.filter (fun g => decide (g.permission.grantHeader = name)) = [] :=
    List.filter_eq_nil_iff.2 fun g hg => by simpa using h g hg
  rw [hnil] at hcollect
  exact hcollect

/-- Each header of the grants is that of the permission of one. -/
theorem Policy.exists_of_mem_grantHeaders {p : Policy} {e : String × List String}
    (he : e ∈ p.grantHeaders.entries) : ∃ g ∈ p.grants, e.1 = g.permission.grantHeader := by
  by_contra hg
  have hnone : p.grantHeaders.get? e.1 = none :=
    get?_grantHeaders_eq_none fun g hmem hname => hg ⟨g, hmem, hname.symm⟩
  have hvalue : p.grantHeaders.get? e.1 = some e.2 := Index.get?_of_mem_entries he
  rw [hnone] at hvalue
  cases hvalue

/-- The headers of the grants are named in lower case. -/
theorem Policy.lowerName_of_mem_grantHeaders {p : Policy} {e : String × List String}
    (he : e ∈ p.grantHeaders.entries) : ObjectInfo.lowerName e.1 = e.1 := by
  obtain ⟨g, -, hname⟩ := exists_of_mem_grantHeaders he
  rw [hname]
  cases g.permission <;> decide

namespace ObjectInfo

-- ========================================================= the object

/-- Headers that are named in lower case are the metadata of an object. -/
theorem metadata_ofHeaders {headers : Index (List String)}
    (h : ∀ name ∈ headers.names, lowerName name = name) (key : String) :
    (ofHeaders key headers).metadata = headers := by
  have hsame : headers.entries.map (fun e => (lowerName e.1, e.2)) = headers.entries := by
    conv => rhs; rw [← List.map_id headers.entries]
    exact List.map_congr_left fun e he => Prod.ext (h e.1 (List.mem_map_of_mem he)) rfl
  have hmetadata : (ofHeaders key headers).metadata
      = Index.ofList (headers.entries.map fun e => (lowerName e.1, e.2)) := rfl
  rw [hmetadata, hsame, Index.ofList_entries]

/-- The metadata of an object has the headers by name. -/
theorem get?_metadata_ofHeaders {r : Http.Reply} (hr : r.IsLower) (key name : String) :
    (ofHeaders key r.headerMap).metadata.get? name = Index.present (r.values name) := by
  rw [metadata_ofHeaders fun _ => Http.Reply.lowerName_of_mem_headerMap hr]
  exact Http.Reply.get?_headerMap r name

/-- A canned list adds its label to the entry of its header. -/
theorem get?_metadata_merge_of_canned {info : ObjectInfo} {p : Policy} {label : CannedAcl}
    (h : p.canned? = some label) (name : String) :
    (info.merge p).metadata.get? name
      = if name = "x-amz-acl" then some ((info.metadata.get? name).getD [] ++ [label.label])
        else info.metadata.get? name := by
  have hname : lowerName cannedHeader = "x-amz-acl" := by decide
  unfold merge showPolicy
  rw [h]
  unfold addMetadata
  rw [hname]
  by_cases hn : name = "x-amz-acl"
  · rw [if_pos hn, hn]
    exact Index.get?_alter_self _ _ _
  · rw [if_neg hn]
    exact Index.get?_alter_ne _ _ hn

/-- Entries that are named in lower case replace those of their names. -/
theorem metadata_foldl_setMetadata {es : List (String × List String)}
    (h : ∀ e ∈ es, lowerName e.1 = e.1) (info : ObjectInfo) :
    (es.foldl (fun info e => info.setMetadata e.1 e.2) info).metadata
      = es.foldl (fun m e => m.insert e.1 e.2) info.metadata := by
  induction es generalizing info with
  | nil => rfl
  | cons e r ih =>
      rw [List.foldl_cons, List.foldl_cons, ih fun x hx => h x (List.mem_cons_of_mem _ hx)]
      unfold setMetadata
      rw [h e (List.mem_cons_self ..)]

/-- Without a canned list the headers of the grants replace the entries
of their names. -/
theorem get?_metadata_merge_of_grants {info : ObjectInfo} {p : Policy} (h : p.canned? = none)
    (name : String) :
    (info.merge p).metadata.get? name
      = (p.grantHeaders.get? name <|> info.metadata.get? name) := by
  unfold merge showPolicy
  rw [h]
  dsimp only
  rw [metadata_foldl_setMetadata (fun e => Policy.lowerName_of_mem_grantHeaders)]
  exact Index.get?_foldl_insert p.grantHeaders.ascending _ name

/-- A policy is shown in the metadata only. -/
theorem showPolicy_eq (info : ObjectInfo) (p : Policy) :
    ∃ metadata, info.showPolicy p = { info with metadata } := by
  have hfold : ∀ (es : List (String × List String)) (info : ObjectInfo),
      ∃ metadata, es.foldl (fun info e => info.setMetadata e.1 e.2) info
        = { info with metadata } := by
    intro es
    induction es with
    | nil => exact fun info => ⟨info.metadata, rfl⟩
    | cons e r ih =>
        intro info
        obtain ⟨metadata, hm⟩ := ih (info.setMetadata e.1 e.2)
        exact ⟨metadata, hm⟩
  unfold showPolicy
  cases p.canned? with
  | none => exact hfold _ info
  | some label => exact ⟨_, rfl⟩

/-- A policy brings the owner, and its grants come after the former
ones. -/
theorem merge_eq (info : ObjectInfo) (p : Policy) :
    ∃ metadata, info.merge p
      = { info with owner := p.owner, grants := info.grants ++ p.grants, metadata } :=
  showPolicy_eq { info with owner := p.owner, grants := info.grants ++ p.grants } p

-- ===================================================== what is shown

/-- What is known of an object is what a policy and a reply say of it. -/
structure Shows (info : ObjectInfo) (p : Policy) (r : Http.Reply) : Prop where
  owner_eq : info.owner = p.owner
  grants_eq : info.grants = p.grants
  /-- A canned list adds its label; all else is as in the reply. -/
  of_canned : ∀ label, p.canned? = some label → ∀ name, info.metadata.get? name
    = if name = "x-amz-acl" then some (r.values name ++ [label.label])
      else Index.present (r.values name)
  /-- Else each permission that is granted has its grantees. -/
  of_granted : p.canned? = none → ∀ g ∈ p.grants,
    info.metadata.get? g.permission.grantHeader = some (p.ids g.permission)
  /-- All other names are as in the reply. -/
  of_others : p.canned? = none → ∀ name, (∀ g ∈ p.grants, g.permission.grantHeader ≠ name) →
    info.metadata.get? name = Index.present (r.values name)

theorem shows_merge_ofHeaders {r : Http.Reply} (hr : r.IsLower) (key : String) (p : Policy) :
    ((ofHeaders key r.headerMap).merge p).Shows p r := by
  have hheaders := get?_metadata_ofHeaders hr key
  obtain ⟨metadata, hmerge⟩ := merge_eq (ofHeaders key r.headerMap) p
  refine ⟨?owner, ?grants, ?canned, ?granted, ?others⟩
  case owner => rw [hmerge]
  case grants =>
    rw [hmerge]
    exact List.nil_append _
  case canned =>
    intro label hlabel name
    rw [get?_metadata_merge_of_canned hlabel, hheaders]
    have hvalues : (Index.present (r.values name)).getD [] = r.values name := by
      unfold Index.present
      split
      · rename_i hnil
        rw [hnil]
        rfl
      · rfl
    rw [hvalues]
  case granted =>
    intro hnone g hg
    have hids : p.ids g.permission ≠ [] := fun hnil => Policy.ids_eq_nil_iff.1 hnil ⟨g, hg, rfl⟩
    rw [get?_metadata_merge_of_grants hnone, Policy.get?_grantHeaders, Index.present, if_neg hids]
    rfl
  case others =>
    intro hnone name hname
    rw [get?_metadata_merge_of_grants hnone, Policy.get?_grantHeaders_eq_none hname, ← hheaders]
    rfl

end ObjectInfo

end BucketAcl
