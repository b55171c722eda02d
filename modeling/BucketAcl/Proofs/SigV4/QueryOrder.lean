/-
The order of the pairs in a canonical query. The rule puts them in the
order of their names, and of their values where names are the same,
both in canonical spelling. Requests are signed with the pairs in the
order of their whole texts, where the equals sign after a name is
compared with what stands in a longer one.

Main statements: `orderedQuery_byText_eq_iff`, which says for what names
the two orders give the same query, and `canonicalQuery_inOrder_iff`,
which says for what URLs requests are signed as the rule wants it.
-/
import BucketAcl.Proofs.Result
import BucketAcl.Proofs.Text.Joined
import BucketAcl.Proofs.Url.Percent
import BucketAcl.SigV4.Canonical
import BucketAcl.Url.Parse

namespace BucketAcl.SigV4

open Text Url

/-- A name and a value. -/
abbrev Pair : Type := List Char × List Char

/-- A pair in canonical spelling. -/
def spelled (p : Pair) : Pair :=
  (Percent.encode Percent.isUnreserved p.1, Percent.encode Percent.isUnreserved p.2)

/-- A pair as one text. -/
def pairText (p : Pair) : String := .ofList (p.1 ++ '=' :: p.2)

/-- The order of the rule. -/
def byName (p q : Pair) : Bool := decide (p.1 < q.1 ∨ (p.1 = q.1 ∧ ¬q.2 < p.2))

/-- The order of whole texts. -/
def byText (p q : Pair) : Bool := decide (pairText p ≤ pairText q)

/-- The query of some pairs, in an order of their spellings. -/
def orderedQuery (le : Pair → Pair → Bool) (pairs : List Pair) : String :=
  "&".intercalate (((pairs.map spelled).mergeSort le).map pairText)

/-- Where one name continues another one, it does so with a character
that comes after the equals sign. -/
def NamesKeepOrder (pairs : List Pair) : Prop :=
  ∀ p ∈ pairs.map spelled, ∀ q ∈ pairs.map spelled, ∀ c rest,
    q.1 = p.1 ++ c :: rest → '=' < c

/-- Requests are signed with their pairs in the order of whole texts. -/
theorem canonicalQuery_eq (u : Url) : canonicalQuery u = orderedQuery byText u.queryPairs := by
  unfold canonicalQuery orderedQuery
  congr 1
  have hmap : u.queryPairs.map canonicalPair = (u.queryPairs.map spelled).map pairText := by
    rw [List.map_map]
    rfl
  rw [hmap]
  exact (List.map_mergeSort (r := byText) (f := pairText) fun p _ q _ => rfl).symm

-- ========================================================= the orders

theorem byName_iff {p q : Pair} :
    byName p q = true ↔ p.1 < q.1 ∨ (p.1 = q.1 ∧ ¬q.2 < p.2) := decide_eq_true_iff

theorem byText_iff {p q : Pair} : byText p q = true ↔ pairText p ≤ pairText q :=
  decide_eq_true_iff

theorem byName_trans (p q r : Pair) (hpq : byName p q = true) (hqr : byName q r = true) :
    byName p r = true := by
  rw [byName_iff] at hpq hqr ⊢
  rcases hpq with hpq | ⟨hpq, hv⟩
  · rcases hqr with hqr | ⟨hqr, -⟩
    · exact .inl (List.lt_trans hpq hqr)
    · exact .inl (hqr ▸ hpq)
  · rcases hqr with hqr | ⟨hqr, hw⟩
    · exact .inl (hpq ▸ hqr)
    · have hle := List.le_trans (List.not_lt.1 hv) (List.not_lt.1 hw)
      exact .inr ⟨hpq.trans hqr, List.not_lt.2 hle⟩

theorem byName_total (p q : Pair) : (byName p q || byName q p) = true := by
  rw [Bool.or_eq_true_iff, byName_iff, byName_iff]
  by_cases hlt : p.1 < q.1
  · exact .inl (.inl hlt)
  by_cases hgt : q.1 < p.1
  · exact .inr (.inl hgt)
  have heq : p.1 = q.1 := List.le_antisymm hgt hlt
  by_cases h : q.2 < p.2
  · exact .inr (.inr ⟨heq.symm, List.lt_asymm h⟩)
  · exact .inl (.inr ⟨heq, h⟩)

theorem byText_trans (p q r : Pair) (hpq : byText p q = true) (hqr : byText q r = true) :
    byText p r = true := by
  rw [byText_iff] at hpq hqr ⊢
  exact String.le_trans hpq hqr

theorem byText_total (p q : Pair) : (byText p q || byText q p) = true := by
  rw [Bool.or_eq_true_iff, byText_iff, byText_iff]
  exact String.le_total _ _

/-- Of two texts the smaller one either goes on as the larger one, or
has a smaller character where they part. -/
theorem lt_cases {a b : List Char} (h : a < b) :
    (∃ c r, b = a ++ c :: r)
      ∨ ∃ w x y r t, a = w ++ x :: r ∧ b = w ++ y :: t ∧ x < y := by
  induction a generalizing b with
  | nil =>
      cases b with
      | nil => exact absurd h (List.lt_irrefl _)
      | cons c r => exact .inl ⟨c, r, rfl⟩
  | cons x r ih =>
      cases b with
      | nil => exact absurd h (List.not_lt_nil _)
      | cons y t =>
          rcases List.cons_lt_cons_iff.1 h with hxy | ⟨rfl, hrt⟩
          · exact .inr ⟨[], x, y, r, t, rfl, rfl, hxy⟩
          · rcases ih hrt with ⟨c, s, rfl⟩ | ⟨w, a, b, s, u, rfl, rfl, hab⟩
            · exact .inl ⟨c, s, rfl⟩
            · exact .inr ⟨x :: w, a, b, s, u, rfl, rfl, hab⟩

theorem append_cons_lt {x y : Char} (h : x < y) (w r t : List Char) :
    w ++ x :: r < w ++ y :: t :=
  List.append_left_lt (List.cons_lt_cons_iff.2 (.inl h))

theorem pairText_lt_iff {p q : Pair} :
    pairText p < pairText q ↔ p.1 ++ '=' :: p.2 < q.1 ++ '=' :: q.2 := by
  rw [String.lt_iff, pairText, pairText, String.toList_ofList, String.toList_ofList]

/-- A name that another one continues decides by the equals sign. -/
theorem pairText_lt_of_name {p q : Pair} {c : Char} {rest : List Char}
    (hq : q.1 = p.1 ++ c :: rest) :
    ('=' < c → pairText p < pairText q) ∧ (c < '=' → pairText q < pairText p) := by
  rw [pairText_lt_iff, pairText_lt_iff, hq, List.append_assoc, List.cons_append]
  exact ⟨fun h => append_cons_lt h _ _ _, fun h => append_cons_lt h _ _ _⟩

/-- Names that keep the order order the texts. -/
theorem byText_of_byName {p q : Pair} (h : byName p q = true)
    (hkeep : ∀ c rest, q.1 = p.1 ++ c :: rest → '=' < c) : byText p q = true := by
  rw [byText_iff]
  rcases byName_iff.1 h with hlt | ⟨heq, hle⟩
  · have htext : pairText p < pairText q := by
      rcases lt_cases hlt with ⟨c, rest, hq⟩ | ⟨w, x, y, r, t, hp, hq, hxy⟩
      · exact (pairText_lt_of_name hq).1 (hkeep c rest hq)
      · rw [pairText_lt_iff, hp, hq, List.append_assoc, List.append_assoc]
        exact append_cons_lt hxy _ _ _
    exact fun hgt => String.lt_irrefl _ (String.lt_trans htext hgt)
  · intro hgt
    rw [pairText_lt_iff, heq] at hgt
    exact List.append_left_le (List.cons_le_cons_iff.2 (.inr ⟨rfl, List.not_lt.1 hle⟩)) hgt

-- ===================================================== what is written

theorem mem_spelled {c : Char} {pairs : List Pair} {p : Pair} (hp : p ∈ pairs.map spelled)
    (hc : c ∈ p.1 ∨ c ∈ p.2) : Percent.isUnreserved c = true ∨ c = '%' := by
  obtain ⟨q, -, rfl⟩ := List.mem_map.1 hp
  have hmem (cs : List Char) (h : c ∈ Percent.encode Percent.isUnreserved cs) :
      Percent.isUnreserved c = true ∨ c = '%' := by
    rcases Percent.mem_encode h with ⟨-, h⟩ | h | h
    · exact .inl h
    · exact .inr h
    · have hall : ∀ d ∈ Percent.escapeDigits, Percent.isUnreserved d = true :=
        List.all_eq_true.1 (by decide)
      exact .inl (hall c h)
  exact hc.elim (hmem _) (hmem _)

theorem equals_not_mem_name {pairs : List Pair} {p : Pair} (hp : p ∈ pairs.map spelled) :
    '=' ∉ p.1 := by
  intro h
  rcases mem_spelled hp (.inl h) with h | h
  · exact absurd h (by decide)
  · exact absurd h (by decide)

/-- No separator stands in the text of a pair. -/
theorem separator_not_mem_pairText {pairs : List Pair} {p : Pair}
    (hp : p ∈ pairs.map spelled) : '&' ∉ (pairText p).toList := by
  intro h
  rw [pairText, String.toList_ofList, List.mem_append, List.mem_cons] at h
  have hno (h : '&' ∈ p.1 ∨ '&' ∈ p.2) : False := by
    rcases mem_spelled hp h with h | h
    · exact absurd h (by decide)
    · exact absurd h (by decide)
  rcases h with h | h | h
  · exact hno (.inl h)
  · exact absurd h (by decide)
  · exact hno (.inr h)

theorem pairText_ne_empty (p : Pair) : pairText p ≠ "" := by
  intro h
  have hnil := congrArg String.toList h
  rw [pairText, String.toList_ofList] at hnil
  simp at hnil

-- ======================================================= both orders

variable {pairs : List Pair}

/-- A query tells the texts of its pairs. None of them is empty, so that
only no pairs give the empty query. -/
theorem orderedQuery_eq_iff {le le' : Pair → Pair → Bool} {ps qs : List Pair} :
    orderedQuery le ps = orderedQuery le' qs
      ↔ ((ps.map spelled).mergeSort le).map pairText
        = ((qs.map spelled).mergeSort le').map pairText := by
  have hno (le : Pair → Pair → Bool) (l : List Pair) :
      ∀ t ∈ ((l.map spelled).mergeSort le).map pairText, '&' ∉ t.toList := by
    intro t ht
    obtain ⟨p, hp, rfl⟩ := List.mem_map.1 ht
    exact separator_not_mem_pairText (List.mem_mergeSort.1 hp)
  have hne (le : Pair → Pair → Bool) (l : List Pair) :
      "" ∉ ((l.map spelled).mergeSort le).map pairText := by
    intro hmem
    obtain ⟨p, -, hp⟩ := List.mem_map.1 hmem
    exact pairText_ne_empty p hp
  constructor
  · intro h
    exact eq_of_intercalate_eq_of_ne_empty (hno le ps) (hno le' qs) (hne le ps) (hne le' qs) h
  · intro h
    unfold orderedQuery
    rw [h]

theorem pairwise_byName (l : List Pair) :
    (l.mergeSort byName).Pairwise fun p q => byName p q = true :=
  List.pairwise_mergeSort byName_trans byName_total l

theorem pairwise_map_byText (l : List Pair) :
    ((l.mergeSort byText).map pairText).Pairwise (· ≤ ·) := by
  rw [List.pairwise_map]
  exact (List.pairwise_mergeSort byText_trans byText_total l).imp byText_iff.1

/-- Of two pairs one comes first in both orders, where the orders give
one query. -/
theorem byName_and_byText_of_eq
    (h : orderedQuery byText pairs = orderedQuery byName pairs) {p q : Pair}
    (hp : p ∈ pairs.map spelled) (hq : q ∈ pairs.map spelled) :
    (byName p q = true ∧ byText p q = true) ∨ (byName q p = true ∧ byText q p = true) := by
  rw [orderedQuery_eq_iff] at h
  have htext : ((pairs.map spelled).mergeSort byName).Pairwise fun p q => byText p q = true := by
    have hmap := h ▸ pairwise_map_byText (pairs.map spelled)
    exact (List.pairwise_map.1 hmap).imp byText_iff.2
  have hboth := (pairwise_byName (pairs.map spelled)).and htext
  have hself : ∀ x ∈ (pairs.map spelled).mergeSort byName,
      byName x x = true ∧ byText x x = true := by
    intro x _
    exact ⟨byName_iff.2 (.inr ⟨rfl, List.lt_irrefl _⟩), byText_iff.2 (String.le_refl _)⟩
  let R (x y : Pair) : Prop :=
    (byName x y = true ∧ byText x y = true) ∨ (byName y x = true ∧ byText y x = true)
  exact List.Pairwise.forall_of_forall_of_flip (R := R) (fun x hx => .inl (hself x hx))
    (hboth.imp Or.inl) (hboth.imp Or.inr) (List.mem_mergeSort.2 hp) (List.mem_mergeSort.2 hq)

/-- The two orders give one query exactly where the names keep the
order. -/
theorem orderedQuery_byText_eq_iff :
    orderedQuery byText pairs = orderedQuery byName pairs ↔ NamesKeepOrder pairs := by
  constructor
  · intro heq p hp q hq c rest hname
    have hlt : p.1 < q.1 := by
      rw [hname, ← List.append_nil p.1, List.append_assoc]
      exact List.append_left_lt (List.nil_lt_cons ..)
    rcases byName_and_byText_of_eq heq hp hq with ⟨-, htext⟩ | ⟨hle, -⟩
    · have hne : c ≠ '=' := by
        rintro rfl
        refine absurd ?_ (equals_not_mem_name hq)
        rw [hname]
        exact List.mem_append_right _ (List.mem_cons_self ..)
      have hnlt : ¬ c < '=' :=
        fun hgt => byText_iff.1 htext ((pairText_lt_of_name hname).2 hgt)
      refine Decidable.byContradiction fun hle => hne ?_
      exact Char.le_antisymm (Char.not_lt.1 hle) (Char.not_lt.1 hnlt)
    · rcases byName_iff.1 hle with h | ⟨h, -⟩
      · exact absurd (List.lt_trans hlt h) (List.lt_irrefl _)
      · exact absurd (h ▸ hlt) (List.lt_irrefl _)
  · intro hkeep
    refine orderedQuery_eq_iff.2 (List.Perm.eq_of_pairwise ?_ (pairwise_map_byText _) ?_ ?_)
    · exact fun _ _ _ _ => String.le_antisymm
    · rw [List.pairwise_map]
      refine (pairwise_byName _).imp_of_mem fun {p q} hp hq hle => ?_
      exact byText_iff.1 (byText_of_byName hle
        (hkeep p (List.mem_mergeSort.1 hp) q (List.mem_mergeSort.1 hq)))
    · exact ((List.mergeSort_perm _ _).trans (List.mergeSort_perm _ _).symm).map pairText

-- =========================================================== the rule

/-- Pairs in the order of the rule: by name, and of one name by value. -/
def InOrder (pairs : List Pair) : Prop :=
  pairs.Pairwise fun p q => p.1 < q.1 ∨ (p.1 = q.1 ∧ ¬q.2 < p.2)

theorem inOrder_iff {pairs : List Pair} :
    InOrder pairs ↔ pairs.Pairwise fun p q => byName p q = true := by
  unfold InOrder
  exact ⟨fun h => h.imp byName_iff.2, fun h => h.imp byName_iff.1⟩

theorem byName_antisymm {p q : Pair} (hpq : byName p q = true) (hqp : byName q p = true) :
    p = q := by
  rcases byName_iff.1 hpq with hlt | ⟨hname, hle⟩
  · rcases byName_iff.1 hqp with hgt | ⟨hname, -⟩
    · exact absurd hgt (List.lt_asymm hlt)
    · exact absurd (hname ▸ hlt) (List.lt_irrefl _)
  · rcases byName_iff.1 hqp with hgt | ⟨-, hge⟩
    · exact absurd (hname ▸ hgt) (List.lt_irrefl _)
    · exact Prod.ext hname (List.le_antisymm (List.not_lt.1 hle) (List.not_lt.1 hge))

/-- Some pairs have one order by name. -/
theorem eq_mergeSort_of_inOrder {sorted pairs : List Pair} (hperm : sorted.Perm pairs)
    (hsorted : InOrder sorted) : sorted = pairs.mergeSort byName := by
  refine List.Perm.eq_of_pairwise (fun _ _ _ _ => byName_antisymm) (inOrder_iff.1 hsorted)
    (pairwise_byName pairs) ?_
  exact hperm.trans (List.mergeSort_perm pairs byName).symm

/-- The canonical query of a URL consists of its pairs in this order. -/
def IsQueryOrder (u : Url) (pairs : List Pair) : Prop :=
  pairs.Perm (u.queryPairs.map spelled) ∧ canonicalQuery u = "&".intercalate (pairs.map pairText)

/-- The canonical query of a URL, against the rule. It has all pairs in
canonical spelling, in ascending order of their whole texts. The order
is the one of the rule exactly where the names keep it, so that no name
is continued by a character that comes before the equals sign. -/
theorem canonicalQuery_inOrder_iff (u : Url) :
    (∃ pairs, IsQueryOrder u pairs ∧ (pairs.map pairText).Pairwise (· ≤ ·))
      ∧ ((∃ pairs, IsQueryOrder u pairs ∧ InOrder pairs) ↔ NamesKeepOrder u.queryPairs) := by
  constructor
  · have hquery : canonicalQuery u = orderedQuery byText u.queryPairs := canonicalQuery_eq u
    exact ⟨_, ⟨List.mergeSort_perm _ byText, hquery⟩, pairwise_map_byText _⟩
  rw [← orderedQuery_byText_eq_iff, ← canonicalQuery_eq]
  constructor
  · rintro ⟨pairs, ⟨hperm, hquery⟩, hsorted⟩
    rw [hquery, eq_mergeSort_of_inOrder hperm hsorted]
    rfl
  · intro hquery
    exact ⟨_, ⟨List.mergeSort_perm _ byName, hquery⟩, inOrder_iff.2 (pairwise_byName _)⟩

/-- A hyphen that continues a name puts it in front of that name, which
is not the order of the rule. -/
theorem canonicalQuery_of_hyphen :
    ∃ u, Url.parse "http://[::1]/?acl&acl-x=1" = .ok u
      ∧ canonicalQuery u = "acl-x=1&acl="
      ∧ ¬∃ pairs, IsQueryOrder u pairs ∧ InOrder pairs := by
  obtain ⟨u, hu, hpairs⟩ : ∃ u, Url.parse "http://[::1]/?acl&acl-x=1" = .ok u
      ∧ u.queryPairs = [("acl".toList, []), ("acl-x".toList, "1".toList)] :=
    exists_of_any_toOption (by decide +kernel)
  obtain ⟨⟨pairs, ⟨hperm, hquery⟩, hsorted⟩, hrule⟩ := canonicalQuery_inOrder_iff u
  refine ⟨u, hu, ?_, fun horder => ?_⟩
  · have htexts : (pairs.map pairText).Perm ["acl-x=1", "acl="] := by
      have hswap : (u.queryPairs.map spelled).map pairText = ["acl=", "acl-x=1"] := by
        rw [hpairs]
        decide
      exact (hswap ▸ hperm.map pairText).trans (.swap ..)
    rw [hquery, htexts.eq_of_pairwise (fun _ _ _ _ => String.le_antisymm) hsorted (by decide)]
    decide
  · have hkeep := hrule.1 horder
    rw [hpairs] at hkeep
    have hlt : '=' < '-' := hkeep ("acl".toList, []) (by decide) ("acl-x".toList, "1".toList)
      (by decide) '-' ['x'] rfl
    exact absurd hlt (by decide)

end BucketAcl.SigV4
