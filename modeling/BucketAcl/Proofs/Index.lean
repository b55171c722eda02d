/-
The laws of the map that the order of its entries gives: an entry is
there exactly when a look-up finds it, an update touches no entry of
another name, and values that are collected one after the other are
found under their name in that order.
-/
import BucketAcl.Index
import Mathlib.Data.List.Sort

namespace BucketAcl.Index

variable {β : Type}

-- ========================================================== look-ups

theorem get?_empty (name : String) : (empty : Index β).get? name = none := rfl

theorem mem_entries_of_get? {m : Index β} {name : String} {value : β}
    (h : m.get? name = some value) : (name, value) ∈ m.entries := by
  obtain ⟨l₁, l₂, he, -⟩ := List.lookup_eq_some_iff.1 h
  rw [he]
  exact List.mem_append_right _ (List.mem_cons_self ..)

/-- The names ascend, so that no entry hides another one. -/
theorem get?_of_mem_entries {m : Index β} {name : String} {value : β}
    (h : (name, value) ∈ m.entries) : m.get? name = some value := by
  obtain ⟨l₁, l₂, he⟩ := List.append_of_mem h
  refine List.lookup_eq_some_iff.2 ⟨l₁, l₂, he, ?_⟩
  intro e hmem
  have hlt : e.1 < name := by
    have hp := m.ascending
    rw [he, List.pairwise_append] at hp
    exact hp.2.2 e hmem (name, value) (List.mem_cons_self ..)
  rw [bne_iff_ne]
  intro heq
  exact String.lt_irrefl _ (heq ▸ hlt)

theorem mem_entries_iff {m : Index β} {name : String} {value : β} :
    (name, value) ∈ m.entries ↔ m.get? name = some value :=
  ⟨get?_of_mem_entries, mem_entries_of_get?⟩

theorem mem_names_iff {m : Index β} {name : String} :
    name ∈ m.names ↔ (m.get? name).isSome = true := by
  unfold names
  rw [List.mem_map, Option.isSome_iff_exists]
  constructor
  · rintro ⟨⟨n, value⟩, he, rfl⟩
    exact ⟨value, get?_of_mem_entries he⟩
  · rintro ⟨value, hvalue⟩
    exact ⟨(name, value), mem_entries_of_get? hvalue, rfl⟩

-- ====================================================== equal entries

/-- Names that look-ups agree on have the same entries, in the same
order. -/
theorem filter_entries_congr {m m' : Index β} {p : String → Bool}
    (h : ∀ name, p name = true → m.get? name = m'.get? name) :
    (m.entries.filter fun e => p e.1) = m'.entries.filter fun e => p e.1 := by
  have : Std.Irrefl fun a b : String × β => a.1 < b.1 := ⟨fun a => String.lt_irrefl a.1⟩
  have : Std.Asymm fun a b : String × β => a.1 < b.1 := ⟨fun a b => String.lt_asymm⟩
  refine List.Pairwise.eq_of_mem_iff (m.ascending.filter _) (m'.ascending.filter _) ?_
  rintro ⟨name, value⟩
  rw [List.mem_filter, List.mem_filter, mem_entries_iff, mem_entries_iff]
  exact and_congr_left fun hp => by rw [h name hp]

/-- A map is known by its look-ups. -/
theorem eq_of_get?_eq {m m' : Index β} (h : ∀ name, m.get? name = m'.get? name) : m = m' := by
  have hentries := filter_entries_congr (p := fun _ => true) fun name _ => h name
  rw [List.filter_true, List.filter_true] at hentries
  obtain ⟨es, hes⟩ := m
  obtain ⟨es', hes'⟩ := m'
  cases hentries
  rfl

-- ============================================================ frames

/-- An update leaves the entries of the other names as they are. -/
theorem filter_alterEntries (name : String) (f : Option β → β)
    (es : List (String × β)) :
    (alterEntries name f es).filter (fun e => e.1 ≠ name)
      = es.filter fun e => e.1 ≠ name := by
  induction es with
  | nil => simp [alterEntries]
  | cons x r ih =>
      obtain ⟨n, v⟩ := x
      simp only [alterEntries]
      split
      · simp
      · split
        · rename_i heq
          subst heq
          simp
        · simp only [List.filter_cons, ih]

theorem filter_insert (m : Index β) (name : String) (value : β) :
    (m.insert name value).entries.filter (fun e => e.1 ≠ name)
      = m.entries.filter fun e => e.1 ≠ name :=
  filter_alterEntries name _ m.entries

/-- A name that the look-up does not find is the name of no entry. -/
theorem filter_entries_of_get?_eq_none {m : Index β} {name : String}
    (h : m.get? name = none) :
    m.entries.filter (fun e => e.1 ≠ name) = m.entries := by
  rw [List.filter_eq_self]
  intro e he
  simp only [ne_eq, decide_not, Bool.not_eq_true', decide_eq_false_iff_not]
  intro heq
  obtain ⟨n, v⟩ := e
  subst heq
  rw [get?_of_mem_entries he] at h
  cases h

/-- What holds of all entries after a new name was given a value. -/
theorem forall_mem_insert_iff {m : Index β} {name : String} (h : m.get? name = none) (value : β)
    {P : String × β → Prop} :
    (∀ e ∈ (m.insert name value).entries, P e) ↔ P (name, value) ∧ ∀ e ∈ m.entries, P e := by
  have hmem (e : String × β) :
      e ∈ (m.insert name value).entries ↔ e = (name, value) ∨ e ∈ m.entries := by
    obtain ⟨n, v⟩ := e
    rw [mem_entries_iff, mem_entries_iff, get?_insert]
    by_cases hn : n = name
    · subst hn
      rw [if_pos rfl, h]
      simp [eq_comm]
    · rw [if_neg hn]
      simp [hn]
  constructor
  · intro hall
    exact ⟨hall _ ((hmem _).2 (.inl rfl)), fun e he => hall e ((hmem e).2 (.inr he))⟩
  · rintro ⟨hnew, hold⟩ e he
    rcases (hmem e).1 he with rfl | he
    · exact hnew
    · exact hold e he

-- ======================================================== collecting

/-- A list of values, if it has any. -/
def present (values : List β) : Option (List β) := if values = [] then none else some values

theorem present_inj {xs ys : List β} : present xs = present ys ↔ xs = ys := by
  unfold present
  cases xs <;> cases ys <;> simp

/-- Values that are added one after the other follow the former ones of
their name. -/
theorem get?_foldl_alter {α : Type} (key : α → String) (value : α → β) (xs : List α)
    (m : Index (List β)) (name : String) :
    (xs.foldl (fun m x => m.alter (key x) fun former => former.getD [] ++ [value x]) m).get? name
      = if xs.filter (fun x => key x = name) = [] then m.get? name
        else some ((m.get? name).getD [] ++ (xs.filter fun x => key x = name).map value) := by
  induction xs generalizing m with
  | nil => rfl
  | cons x r ih =>
      rw [List.foldl_cons, ih]
      by_cases hx : key x = name
      · subst hx
        rw [get?_alter_self, List.filter_cons_of_pos (by simp)]
        simp only [List.cons_ne_nil, if_false, List.map_cons, Option.getD_some]
        split
        · rename_i hr
          rw [hr]
          rfl
        · rw [List.append_assoc]
          rfl
      · rw [get?_alter_ne _ _ (Ne.symm hx), List.filter_cons_of_neg (by simpa using hx)]

/-- Values that are collected are found under their name in order. -/
theorem get?_collected {α : Type} (key : α → String) (value : α → β) (xs : List α)
    (name : String) :
    (xs.foldl (fun m x => m.alter (key x) fun former => former.getD [] ++ [value x])
        (empty : Index (List β))).get? name
      = present ((xs.filter fun x => key x = name).map value) := by
  rw [get?_foldl_alter]
  unfold present
  simp only [List.map_eq_nil_iff]
  rfl

/-- All values that are held, whatever their names. -/
def values (m : Index (List β)) : List β := m.entries.flatMap Prod.snd

/-- A value that is added to those of its name is one more. -/
theorem perm_values_alter (m : Index (List β)) (name : String) (value : β) :
    (m.alter name fun former => former.getD [] ++ [value]).values.Perm (m.values ++ [value]) := by
  unfold values alter
  dsimp only
  induction m.entries with
  | nil => exact .refl _
  | cons e r ih =>
      obtain ⟨n, held⟩ := e
      simp only [alterEntries]
      split
      · exact List.perm_append_comm
      · split
        · show ((held ++ [value]) ++ r.flatMap Prod.snd).Perm
            ((held ++ r.flatMap Prod.snd) ++ [value])
          rw [List.append_assoc, List.append_assoc]
          exact List.perm_append_comm.append_left held
        · show (held ++ _).Perm ((held ++ r.flatMap Prod.snd) ++ [value])
          rw [List.append_assoc]
          exact ih.append_left held

/-- None of the values that are collected is lost, and none is there
twice. -/
theorem perm_values_foldl_alter {α : Type} (key : α → String) (value : α → β) (xs : List α)
    (m : Index (List β)) :
    (xs.foldl (fun m x => m.alter (key x) fun former => former.getD [] ++ [value x]) m).values.Perm
      (m.values ++ xs.map value) := by
  induction xs generalizing m with
  | nil => rw [List.map_nil, List.append_nil, List.foldl_nil]
  | cons x r ih =>
      have hstep := (perm_values_alter m (key x) (value x)).append_right (r.map value)
      rw [List.append_assoc, List.singleton_append, ← List.map_cons] at hstep
      exact (ih _).trans hstep

/-- Lists that have their keys in the same order, and under each key the
same values in the same order, have all their values in the same order. -/
theorem map_eq_of_groups_eq {α κ : Type} [DecidableEq κ] {key : α → κ} {value : α → β}
    {xs ys : List α} (hkeys : xs.map key = ys.map key)
    (hgroups : ∀ k, (xs.filter fun x => key x = k).map value
      = (ys.filter fun y => key y = k).map value) : xs.map value = ys.map value := by
  induction xs generalizing ys with
  | nil =>
      cases ys with
      | nil => rfl
      | cons y s => cases hkeys
  | cons x r ih =>
      cases ys with
      | nil => cases hkeys
      | cons y s =>
          obtain ⟨hkey, hrest⟩ := List.cons.inj hkeys
          -- both heads come first in the group of their key
          have hhead := hgroups (key x)
          rw [List.filter_cons_of_pos (by simp), List.filter_cons_of_pos (by simp [hkey]),
            List.map_cons, List.map_cons] at hhead
          obtain ⟨hvalue, hsame⟩ := List.cons.inj hhead
          have htail : r.map value = s.map value := by
            refine ih hrest fun k => ?_
            by_cases hk : key x = k
            · subst hk
              exact hsame
            · have hgroup := hgroups k
              rwa [List.filter_cons_of_neg (by simpa using hk),
                List.filter_cons_of_neg (by simpa [← hkey] using hk)] at hgroup
          rw [List.map_cons, List.map_cons, hvalue, htail]

/-- What the last of those elements gives that are of some kind. -/
def last? {α : Type} (kind : α → Bool) (value : α → β) (xs : List α) : Option β :=
  (xs.filter kind).getLast?.map value

theorem last?_append {α : Type} (kind : α → Bool) (value : α → β) (xs ys : List α) :
    last? kind value (xs ++ ys) = (last? kind value ys <|> last? kind value xs) := by
  unfold last?
  rw [List.filter_append, List.getLast?_append]
  cases (ys.filter kind).getLast? <;> rfl

theorem last?_singleton {α : Type} (kind : α → Bool) (value : α → β) (x : α) :
    last? kind value [x] = if kind x then some (value x) else none := by
  unfold last?
  rw [List.filter_cons]
  cases kind x <;> rfl

theorem exists_of_last? {α : Type} {kind : α → Bool} {value : α → β} {xs : List α} {v : β}
    (h : last? kind value xs = some v) : ∃ x ∈ xs, kind x = true ∧ value x = v := by
  obtain ⟨x, hx, hv⟩ := Option.map_eq_some_iff.1 h
  obtain ⟨hmem, hkind⟩ := List.mem_filter.1 (List.mem_of_getLast? hx)
  exact ⟨x, hmem, hkind, hv⟩

theorem isSome_last? {α : Type} {kind : α → Bool} {value : α → β} {xs : List α} :
    (last? kind value xs).isSome = true ↔ ∃ x ∈ xs, kind x = true := by
  unfold last?
  rw [Option.isSome_map, Option.isSome_iff_ne_none, ne_eq, List.getLast?_eq_none_iff,
    List.filter_eq_nil_iff]
  simp

/-- Entries of one map that are put into another one replace those of
their names. -/
theorem get?_foldl_insert {es : List (String × β)} (h : es.Pairwise fun a b => a.1 < b.1)
    (m : Index β) (name : String) :
    (es.foldl (fun m e => m.insert e.1 e.2) m).get? name = (es.lookup name <|> m.get? name) := by
  induction es generalizing m with
  | nil => rfl
  | cons e r ih =>
      obtain ⟨hfirst, hr⟩ := List.pairwise_cons.1 h
      rw [List.foldl_cons, ih hr, get?_insert, List.lookup_cons]
      by_cases hn : name = e.1
      · have hnone : r.lookup name = none := by
          refine List.lookup_eq_none_iff.2 fun x hx => ?_
          rw [bne_iff_ne, hn]
          exact fun heq => String.lt_irrefl _ (heq ▸ hfirst x hx)
        rw [if_pos hn, hnone, hn]
        simp
      · rw [if_neg hn, beq_eq_false_iff_ne.2 hn]

/-- The map of its own entries is the map. -/
theorem ofList_entries (m : Index β) : ofList m.entries = m := by
  refine eq_of_get?_eq fun name => ?_
  unfold ofList
  rw [get?_foldl_insert m.ascending, get?_empty]
  show (m.get? name).orElse (fun _ => none) = m.get? name
  cases m.get? name <;> rfl

end BucketAcl.Index
