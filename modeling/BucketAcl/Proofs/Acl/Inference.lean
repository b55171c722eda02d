/-
What is inferred from the grants of a policy. Of two grants each speaks
for at most one label, by the first of three rules that it matches, and
the first grant that speaks decides for both. So a label bounds what its
own grant gives away and says nothing of the other one, and the order of
two grants counts exactly where they match different rules.

Main statements: `canned?_covers_deciding`, `canned?_order`.
-/
import BucketAcl.Acl.Canned
import Mathlib.Data.List.Forall2
import Mathlib.Data.List.Permutation

namespace BucketAcl

-- =============================================================== rules

/-- The rules for a grant beside one other, in the order in which they
are tried. -/
inductive ReadRule where
  | authenticatedUsers
  | allUsers
  | ownerId
  deriving DecidableEq

namespace ReadRule

/-- The label that a rule stands for. -/
def label : ReadRule → CannedAcl
  | authenticatedUsers => .authenticatedRead
  | allUsers => .publicRead
  | ownerId => .bucketOwnerRead

/-- The grantee that a rule is about. -/
def IsAbout (owner : Owner) (g : Grantee) : ReadRule → Prop
  | authenticatedUsers => g.uri = some authenticatedUsersUri
  | allUsers => g.uri = some allUsersUri
  | ownerId => g.idOrEmpty = owner.id

/-- The rules that are tried before a rule. -/
def earlier : ReadRule → List ReadRule
  | authenticatedUsers => []
  | allUsers => [authenticatedUsers]
  | ownerId => [authenticatedUsers, allUsers]

/-- A grant to read matches the first rule that is about its grantee. -/
structure Matches (r : ReadRule) (owner : Owner) (g : Grant) : Prop where
  read : g.permission = .read
  isAbout : r.IsAbout owner g.grantee
  first : ∀ e ∈ r.earlier, ¬e.IsAbout owner g.grantee

variable {owner : Owner} {g : Grant} {r s : ReadRule}

theorem label_injective (h : r.label = s.label) : r = s := by
  revert h
  cases r <;> cases s <;> decide

theorem isGroup_iff {g : Grantee} {uri : String} : g.isGroup uri = true ↔ g.uri = some uri :=
  beq_iff_eq

/-- The label that a grant speaks for is that of a rule. -/
theorem exists_matches_of_readLabel? {l : CannedAcl} (h : g.readLabel? owner = some l) :
    ∃ r : ReadRule, r.Matches owner g ∧ r.label = l := by
  unfold Grant.readLabel? at h
  by_cases hread : g.permission = .read
  · rw [if_neg (not_not.2 hread)] at h
    split at h
    · rename_i hauthenticated
      refine ⟨authenticatedUsers, ⟨hread, isGroup_iff.1 hauthenticated, ?_⟩, Option.some.inj h⟩
      simp [earlier]
    · rename_i hauthenticated
      rw [isGroup_iff] at hauthenticated
      split at h
      · rename_i hall
        refine ⟨allUsers, ⟨hread, isGroup_iff.1 hall, ?_⟩, Option.some.inj h⟩
        simpa [earlier, IsAbout] using hauthenticated
      · rename_i hall
        rw [isGroup_iff] at hall
        split at h
        · rename_i hid
          refine ⟨ownerId, ⟨hread, hid, ?_⟩, Option.some.inj h⟩
          simpa [earlier, IsAbout] using ⟨hauthenticated, hall⟩
        · cases h
  · rw [if_pos hread] at h
    cases h

/-- A grant speaks for the label of the rule that it matches. -/
theorem Matches.readLabel?_eq (h : r.Matches owner g) : g.readLabel? owner = some r.label := by
  have hfirst := h.first
  have habout := h.isAbout
  unfold Grant.readLabel?
  rw [if_neg (not_not.2 h.read)]
  cases r with
  | authenticatedUsers => rw [if_pos (isGroup_iff.2 habout), label]
  | allUsers =>
      have hauthenticated := hfirst authenticatedUsers (by simp [earlier])
      rw [if_neg (mt isGroup_iff.1 hauthenticated), if_pos (isGroup_iff.2 habout), label]
  | ownerId =>
      have hauthenticated := hfirst authenticatedUsers (by simp [earlier])
      have hall := hfirst allUsers (by simp [earlier])
      rw [if_neg (mt isGroup_iff.1 hauthenticated), if_neg (mt isGroup_iff.1 hall),
        if_pos (show g.grantee.idOrEmpty = owner.id from habout), label]

theorem readLabel?_eq_none_iff :
    g.readLabel? owner = none ↔ ∀ r : ReadRule, ¬r.Matches owner g := by
  constructor
  · intro hnone r hr
    rw [hr.readLabel?_eq] at hnone
    cases hnone
  · intro hno
    cases hl : g.readLabel? owner with
    | none => rfl
    | some l =>
        obtain ⟨r, hr, -⟩ := exists_matches_of_readLabel? hl
        exact absurd hr (hno r)

end ReadRule

namespace Policy

variable {p : Policy} {r s : ReadRule} {l : CannedAcl}

-- ============================================================ deciding

/-- A rule decides for two grants: one of them matches it, and stands in
front or behind one that matches none. -/
structure DecidedBy (p : Policy) (r : ReadRule) (g other : Grant) : Prop where
  decides : r.Matches p.owner g
  place : p.grants = [g, other]
    ∨ p.grants = [other, g] ∧ ∀ s : ReadRule, ¬s.Matches p.owner other

/-- Of two grants the first that speaks for a label decides. -/
theorem canned?_pair {a b : Grant} (h : p.grants = [a, b]) :
    p.canned? = (a.readLabel? p.owner).or (b.readLabel? p.owner) := by
  unfold canned?
  rw [h]
  simp only [List.findSome?_cons, List.findSome?_nil]
  cases a.readLabel? p.owner <;> cases b.readLabel? p.owner <;> rfl

theorem canned?_single {g : Grant} (h : p.grants = [g]) :
    p.canned? = if g.grantee.hasNoUri && g.permission = .fullControl then some .ownerOnly
      else none := by
  unfold canned?
  rw [h]

theorem canned?_triple {a b c : Grant} (h : p.grants = [a, b, c]) :
    p.canned? = if [a, b, c].any fun g => g.grantee.isGroup allUsersUri && g.permission = .write
      then some .publicReadWrite else none := by
  unfold canned?
  rw [h]

/-- Nothing is inferred of no grants, or of more than three. -/
theorem canned?_eq_none (h : p.grants = [] ∨ 3 < p.grants.length) : p.canned? = none := by
  unfold canned?
  split
  · rename_i heq
    simp [heq] at h
  · rename_i heq
    simp [heq] at h
  · rename_i heq
    simp [heq] at h
  · rfl

/-- How a label comes about: one grant is private, of two one decides,
and one of three lets everyone write. -/
theorem canned?_cases (h : p.canned? = some l) :
    (l = .ownerOnly ∧ ∃ g, p.grants = [g] ∧ g.grantee.hasNoUri = true
        ∧ g.permission = .fullControl)
      ∨ (∃ r g other, l = r.label ∧ p.DecidedBy r g other)
      ∨ l = .publicReadWrite ∧ ∃ g ∈ p.grants, g.grantee.uri = some allUsersUri
        ∧ g.permission = .write := by
  match hg : p.grants with
  | [] =>
      rw [canned?_eq_none (.inl hg)] at h
      cases h
  | [g] =>
      rw [canned?_single hg] at h
      split at h
      · rename_i hgrant
        simp only [Bool.and_eq_true, decide_eq_true_eq] at hgrant
        exact .inl ⟨(Option.some.inj h).symm, g, rfl, hgrant⟩
      · cases h
  | [a, b] =>
      refine .inr (.inl ?_)
      rw [canned?_pair hg] at h
      rcases Option.or_eq_some_iff.1 h with ha | ⟨ha, hb⟩
      · obtain ⟨r, hr, hl⟩ := ReadRule.exists_matches_of_readLabel? ha
        exact ⟨r, a, b, hl.symm, hr, .inl hg⟩
      · obtain ⟨r, hr, hl⟩ := ReadRule.exists_matches_of_readLabel? hb
        exact ⟨r, b, a, hl.symm, hr, .inr ⟨hg, ReadRule.readLabel?_eq_none_iff.1 ha⟩⟩
  | [a, b, c] =>
      rw [canned?_triple hg] at h
      split at h
      · rename_i hany
        obtain ⟨g, hmem, hgrant⟩ := List.any_eq_true.1 hany
        simp only [Bool.and_eq_true, decide_eq_true_eq] at hgrant
        exact .inr (.inr ⟨(Option.some.inj h).symm, g, hmem,
          ReadRule.isGroup_iff.1 hgrant.1, hgrant.2⟩)
      · cases h
  | a :: b :: c :: d :: rest =>
      rw [canned?_eq_none (.inr (by rw [hg]; simp))] at h
      cases h

/-- What a rule stands for is inferred exactly where the rule decides. -/
theorem canned?_eq_label_iff :
    p.canned? = some r.label ↔ ∃ g other, p.DecidedBy r g other := by
  constructor
  · intro h
    rcases canned?_cases h with ⟨hl, -⟩ | ⟨s, g, other, hl, hdecided⟩ | ⟨hl, -⟩
    · cases r <;> cases hl
    · obtain rfl := ReadRule.label_injective hl
      exact ⟨g, other, hdecided⟩
    · cases r <;> cases hl
  · rintro ⟨g, other, hdecides, hplace | ⟨hplace, hnone⟩⟩
    · rw [canned?_pair hplace, hdecides.readLabel?_eq]
      rfl
    · rw [canned?_pair hplace, hdecides.readLabel?_eq, ReadRule.readLabel?_eq_none_iff.2 hnone]
      rfl

end Policy

-- ============================================================= exposure

/-- The grant goes to one of the groups that are open to strangers. -/
def Grant.IsTo (g : Grant) (uri : String) : Prop := g.grantee.uri = some uri

/-- What a label says of a grant, as to these groups: they get nothing,
or nothing but reading for those that the label is for. -/
def CannedAcl.Covers (g : Grant) : CannedAcl → Prop
  | ownerOnly | bucketOwnerRead => ¬g.IsTo allUsersUri ∧ ¬g.IsTo authenticatedUsersUri
  | authenticatedRead =>
    ¬g.IsTo allUsersUri ∧ (g.IsTo authenticatedUsersUri → g.permission = .read)
  | publicRead => g.IsTo allUsersUri ∨ g.IsTo authenticatedUsersUri → g.permission = .read
  | publicReadWrite | awsExecRead | bucketOwnerFullControl => True

instance (g : Grant) (uri : String) : Decidable (g.IsTo uri) :=
  inferInstanceAs (Decidable (_ = _))

instance (g : Grant) (l : CannedAcl) : Decidable (l.Covers g) :=
  match l with
  | .ownerOnly | .bucketOwnerRead => inferInstanceAs (Decidable (_ ∧ _))
  | .authenticatedRead => inferInstanceAs (Decidable (_ ∧ (_ → _)))
  | .publicRead => inferInstanceAs (Decidable (_ ∨ _ → _))
  | .publicReadWrite | .awsExecRead | .bucketOwnerFullControl => isTrue trivial

/-- A rule matches no grant that its label does not cover. -/
theorem ReadRule.Matches.covers {r : ReadRule} {owner : Owner} {g : Grant}
    (h : r.Matches owner g) : r.label.Covers g := by
  have hother : allUsersUri ≠ authenticatedUsersUri := by decide
  have hfirst := h.first
  cases r with
  | authenticatedUsers =>
      have huri : g.grantee.uri = some authenticatedUsersUri := h.isAbout
      refine ⟨fun hall => ?_, fun _ => h.read⟩
      rw [Grant.IsTo, huri, Option.some.injEq] at hall
      exact hother hall.symm
  | allUsers => exact fun _ => h.read
  | ownerId =>
      exact ⟨hfirst allUsers (by simp [earlier]), hfirst authenticatedUsers (by simp [earlier])⟩

/-- A grant without a URI goes to no group. -/
theorem Grant.not_isTo_of_hasNoUri {g : Grant} (h : g.grantee.hasNoUri = true) {uri : String}
    (huri : uri ≠ "") : ¬g.IsTo uri := by
  intro hto
  unfold Grantee.hasNoUri at h
  rw [show g.grantee.uri = some uri from hto] at h
  exact huri (beq_iff_eq.1 h)

namespace Policy

variable {p : Policy} {r : ReadRule} {g other : Grant}

/-- A private policy gives the groups nothing. -/
theorem covers_of_private (h : p.canned? = some .ownerOnly) :
    ∀ x ∈ p.grants, CannedAcl.ownerOnly.Covers x := by
  rcases canned?_cases h with ⟨-, g, hgrants, hno, -⟩ | ⟨r, _, _, hl, -⟩ | ⟨hl, -⟩
  · rw [hgrants]
    intro x hx
    obtain rfl := List.mem_singleton.1 hx
    exact ⟨Grant.not_isTo_of_hasNoUri hno (by decide), Grant.not_isTo_of_hasNoUri hno (by decide)⟩
  · cases r <;> cases hl
  · cases hl

theorem DecidedBy.mem (h : p.DecidedBy r g other) : g ∈ p.grants := by
  rcases h.place with hgrants | ⟨hgrants, -⟩
  · simp [hgrants]
  · simp [hgrants]

/-- The grant that decides is covered, so all hangs on the other one. -/
theorem DecidedBy.covers_all_iff (h : p.DecidedBy r g other) :
    (∀ x ∈ p.grants, r.label.Covers x) ↔ r.label.Covers other := by
  have hg := h.decides.covers
  rcases h.place with hgrants | ⟨hgrants, -⟩
  · rw [hgrants]
    simp [hg]
  · rw [hgrants]
    simp [hg]

/-- What a label says of the access of strangers. A private policy gives
them nothing. A label for two grants is right about the one that decides
it, which is the first to match a rule, and so about the policy exactly
where it is right about the other grant, of which nothing else is known
but that in front of the first it matches no rule. A label for the owner
of a bucket comes from a grant to read whose id, empty where there is
none, is that of the owner. -/
theorem canned?_covers_deciding (p : Policy) :
    (p.canned? = some .ownerOnly → ∀ g ∈ p.grants, CannedAcl.ownerOnly.Covers g)
      ∧ (∀ r : ReadRule, p.canned? = some r.label → ∃ g other, p.DecidedBy r g other
        ∧ r.label.Covers g ∧ ((∀ x ∈ p.grants, r.label.Covers x) ↔ r.label.Covers other))
      ∧ (p.canned? = some .bucketOwnerRead → ∃ g ∈ p.grants, g.permission = .read
        ∧ g.grantee.idOrEmpty = p.owner.id
        ∧ (p.owner.id ≠ "" → g.grantee.id = some p.owner.id)) := by
  refine ⟨covers_of_private, fun r h => ?_, fun h => ?_⟩
  · obtain ⟨g, other, hdecided⟩ := canned?_eq_label_iff.1 h
    exact ⟨g, other, hdecided, hdecided.decides.covers, hdecided.covers_all_iff⟩
  · obtain ⟨g, other, hdecided⟩ := canned?_eq_label_iff (r := .ownerId).1 h
    have hid : g.grantee.idOrEmpty = p.owner.id := hdecided.decides.isAbout
    refine ⟨g, hdecided.mem, hdecided.decides.read, hid, fun hne => ?_⟩
    unfold Grantee.idOrEmpty at hid
    cases hsome : g.grantee.id with
    | none =>
        rw [hsome] at hid
        exact absurd hid.symm hne
    | some id =>
        rw [hsome] at hid
        rw [← hid]
        rfl

/-- A grant to all the world. -/
def toEveryone (permission : Permission) : Grant := ⟨.ofGroup allUsersUri, permission⟩

/-- A grant to read, for all who sign their requests. -/
def toSigners : Grant := ⟨.ofGroup authenticatedUsersUri, .read⟩

/-- Labels that understate what their policies give away, each by the
grant that did not decide; and a label for the owner of a bucket where
neither the owner nor the grantee has an id. -/
theorem canned?_understates :
    let shared : Policy := ⟨⟨"owner", none⟩, [⟨.ofUser "owner" none, .read⟩, toEveryone .read]⟩
    let signed : Policy := ⟨⟨"owner", none⟩, [toEveryone .write, toSigners]⟩
    let exposed : Policy := ⟨⟨"owner", none⟩, [toEveryone .read, toEveryone .fullControl]⟩
    let nobody : Policy := ⟨{}, [⟨.ofGroup "", .read⟩, ⟨.ofUser "owner" none, .fullControl⟩]⟩
    (shared.canned? = some .bucketOwnerRead
        ∧ ¬∀ g ∈ shared.grants, CannedAcl.bucketOwnerRead.Covers g)
      ∧ (signed.canned? = some .authenticatedRead
        ∧ ¬∀ g ∈ signed.grants, CannedAcl.authenticatedRead.Covers g)
      ∧ (exposed.canned? = some .publicRead ∧ ¬∀ g ∈ exposed.grants, CannedAcl.publicRead.Covers g)
      ∧ (nobody.canned? = some .bucketOwnerRead ∧ ¬∃ g ∈ nobody.grants,
        g.permission = .read ∧ g.grantee.id = some nobody.owner.id) := by
  decide

-- =============================================================== order

variable {l : CannedAcl}

/-- The grants of a policy the other way round, where each of the two
matches a rule of its own. -/
def IsSwapped (p : Policy) (gs : List Grant) (r s : ReadRule) : Prop :=
  ∃ a b, p.grants = [a, b] ∧ gs = [b, a] ∧ r.Matches p.owner a ∧ s.Matches p.owner b ∧ r ≠ s

/-- Each of two grants that match rules gives its label where it stands
in front. -/
theorem IsSwapped.canned?_eq {gs : List Grant} {r s : ReadRule} (h : p.IsSwapped gs r s) :
    p.canned? = some r.label ∧ { p with grants := gs }.canned? = some s.label := by
  obtain ⟨a, b, hgrants, rfl, hr, hs, -⟩ := h
  constructor
  · rw [canned?_pair hgrants, hr.readLabel?_eq]
    rfl
  · rw [canned?_pair (p := { p with grants := [b, a] }) rfl]
    show (b.readLabel? p.owner).or _ = _
    rw [hs.readLabel?_eq]
    rfl

/-- Two grants may change places unless they match different rules. -/
theorem canned?_swap {a b : Grant} (h : p.grants = [a, b])
    (hno : ∀ r s, ¬p.IsSwapped [b, a] r s) :
    { p with grants := [b, a] }.canned? = p.canned? := by
  rw [canned?_pair (p := { p with grants := [b, a] }) rfl, canned?_pair h]
  show (b.readLabel? p.owner).or (a.readLabel? p.owner) = _
  cases ha : a.readLabel? p.owner with
  | none => rw [Option.or_none, Option.none_or]
  | some x =>
      cases hb : b.readLabel? p.owner with
      | none => rw [Option.or_none, Option.none_or]
      | some y =>
          obtain ⟨r, hr, rfl⟩ := ReadRule.exists_matches_of_readLabel? ha
          obtain ⟨s, hs, rfl⟩ := ReadRule.exists_matches_of_readLabel? hb
          have hsame : r = s := by
            by_contra hne
            exact hno r s ⟨a, b, h, rfl, hr, hs, hne⟩
          rw [hsame]

/-- In any other order the same is inferred, but for two grants that
match different rules. -/
theorem canned?_of_perm {gs : List Grant} (hperm : gs.Perm p.grants)
    (hno : ∀ r s, ¬p.IsSwapped gs r s) : { p with grants := gs }.canned? = p.canned? := by
  match hg : p.grants with
  | [] =>
      rw [hg, List.perm_nil] at hperm
      rw [canned?_eq_none (.inl hg), canned?_eq_none (.inl hperm)]
  | [g] =>
      rw [hg, List.perm_singleton] at hperm
      rw [hperm, ← hg]
  | [a, b] =>
      rw [hg, List.perm_pair] at hperm
      rcases hperm with rfl | rfl
      · rw [← hg]
      · exact canned?_swap hg hno
  | [a, b, c] =>
      rw [hg] at hperm
      obtain ⟨x, y, z, rfl⟩ := List.length_eq_three.1 hperm.length_eq
      rw [canned?_triple hg, canned?_triple (p := { p with grants := [x, y, z] }) rfl]
      rw [hperm.any_eq]
  | a :: b :: c :: d :: rest =>
      have hlong : 3 < p.grants.length := by
        rw [hg]
        simp
      rw [canned?_eq_none (.inr hlong)]
      exact canned?_eq_none (.inr (by rwa [← hperm.length_eq] at hlong))

/-- Two of the labels are never inferred. -/
theorem never_inferred (h : p.canned? = some l) :
    l ≠ .awsExecRead ∧ l ≠ .bucketOwnerFullControl := by
  rcases canned?_cases h with ⟨rfl, -⟩ | ⟨r, _, _, rfl, -⟩ | ⟨rfl, -⟩
  · decide
  · cases r <;> decide
  · decide

/-- What is inferred looks at the permissions, at the URIs, and at who
has the id of the owner. -/
structure LooksLike (p q : Policy) (g h : Grant) : Prop where
  permission_eq : g.permission = h.permission
  uri_eq : g.grantee.uri = h.grantee.uri
  owner_iff : g.grantee.idOrEmpty = p.owner.id ↔ h.grantee.idOrEmpty = q.owner.id

theorem LooksLike.readLabel?_eq {q : Policy} {g h : Grant} (hlike : LooksLike p q g h) :
    g.readLabel? p.owner = h.readLabel? q.owner := by
  unfold Grant.readLabel? Grantee.isGroup
  simp only [hlike.permission_eq, hlike.uri_eq, hlike.owner_iff]

/-- Whether one of the grants lets everyone write is among it. -/
theorem LooksLike.any_eq {q : Policy} {gs hs : List Grant}
    (hlike : List.Forall₂ (LooksLike p q) gs hs) :
    (gs.any fun g => g.grantee.isGroup allUsersUri && g.permission = .write)
      = hs.any fun g => g.grantee.isGroup allUsersUri && g.permission = .write := by
  induction hlike with
  | nil => rfl
  | cons hgh _ ih =>
      rw [List.any_cons, List.any_cons, ih, Grantee.isGroup, Grantee.isGroup, hgh.uri_eq,
        hgh.permission_eq]

theorem canned?_of_looksLike {q : Policy} (h : List.Forall₂ (LooksLike p q) p.grants q.grants) :
    p.canned? = q.canned? := by
  generalize hp : p.grants = gs at h
  generalize hq : q.grants = gs' at h
  cases h with
  | nil => rw [canned?_eq_none (.inl hp), canned?_eq_none (.inl hq)]
  | cons ha h =>
      cases h with
      | nil =>
          rw [canned?_single hp, canned?_single hq, Grantee.hasNoUri, Grantee.hasNoUri, ha.uri_eq,
            ha.permission_eq]
      | cons hb h =>
          cases h with
          | nil => rw [canned?_pair hp, canned?_pair hq, ha.readLabel?_eq, hb.readLabel?_eq]
          | cons hc h =>
              cases h with
              | nil =>
                  rw [canned?_triple hp, canned?_triple hq,
                    LooksLike.any_eq (.cons ha (.cons hb (.cons hc .nil)))]
              | cons hd h =>
                  rw [canned?_eq_none (.inr (by simp [hp])), canned?_eq_none (.inr (by simp [hq]))]

/-- What the order of the grants counts for. In another order another
label is inferred exactly where two grants that match different rules
changed places, and then it is that of the grant in front. No label is
inferred but five of the seven, none for no grants or more than three,
and nothing of a policy counts but what `LooksLike` names. -/
theorem canned?_order (p : Policy) :
    (∀ gs : List Grant, gs.Perm p.grants →
      ({ p with grants := gs }.canned? ≠ p.canned? ↔ ∃ r s, p.IsSwapped gs r s)
        ∧ ∀ r s, p.IsSwapped gs r s →
          p.canned? = some r.label ∧ { p with grants := gs }.canned? = some s.label)
      ∧ (p.canned? ≠ some .awsExecRead ∧ p.canned? ≠ some .bucketOwnerFullControl)
      ∧ (∀ q : Policy, List.Forall₂ (LooksLike p q) p.grants q.grants → p.canned? = q.canned?)
      ∧ (p.grants = [] ∨ 3 < p.grants.length → p.canned? = none) := by
  refine ⟨fun gs hperm => ⟨⟨fun hne => ?_, ?_⟩, fun r s => IsSwapped.canned?_eq⟩, ?_,
    fun q => canned?_of_looksLike, canned?_eq_none⟩
  · by_contra hno
    exact hne (canned?_of_perm hperm fun r s hswapped => hno ⟨r, s, hswapped⟩)
  · rintro ⟨r, s, hswapped⟩ heq
    obtain ⟨hp, hgs⟩ := hswapped.canned?_eq
    rw [heq, hp, Option.some.injEq] at hgs
    obtain ⟨_, _, -, -, -, -, hne⟩ := hswapped
    exact hne (ReadRule.label_injective hgs)
  · exact ⟨fun h => (never_inferred h).1 rfl, fun h => (never_inferred h).2 rfl⟩

/-- An owner and all the world who may read, in either order. -/
example :
    let own : Grant := ⟨.ofUser "owner" none, .read⟩
    let all : Grant := ⟨.ofGroup allUsersUri, .read⟩
    (Policy.mk ⟨"owner", none⟩ [own, all]).canned? = some .bucketOwnerRead
      ∧ (Policy.mk ⟨"owner", none⟩ [all, own]).canned? = some .publicRead := by
  decide

end Policy

end BucketAcl
