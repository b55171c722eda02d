/-
A map from names to values, kept as the list of its entries in
ascending order of the names. Header maps, metadata and the hosts of a
configuration are of this type: their order is part of what is signed
and printed, and a name occurs at most once.

Main statements: `get?_insert` and `get?_ofList`-style equations say
what each operation does to look-ups; the order is carried by the type.
-/
namespace BucketAcl

/-- Entries in strictly ascending order of their names. -/
structure Index (β : Type) where
  entries : List (String × β)
  ascending : entries.Pairwise fun a b => a.1 < b.1

namespace Index

variable {β γ : Type}

/-- The map without entries. -/
def empty : Index β := ⟨[], .nil⟩

instance : Inhabited (Index β) := ⟨empty⟩

instance [BEq β] : BEq (Index β) := ⟨fun a b => a.entries == b.entries⟩

-- ======================================================== operations

/-- The entries after `name` got `f` of its former value. -/
def alterEntries (name : String) (f : Option β → β) :
    List (String × β) → List (String × β)
  | [] => [(name, f none)]
  | (n, v) :: r =>
    if name < n then (name, f none) :: (n, v) :: r
    else if name = n then (name, f (some v)) :: r
    else (n, v) :: alterEntries name f r

theorem name_of_mem_alterEntries {name : String} {f : Option β → β}
    {es : List (String × β)} {e : String × β} (h : e ∈ alterEntries name f es) :
    e.1 = name ∨ e ∈ es := by
  induction es with
  | nil =>
    simp only [alterEntries, List.mem_singleton] at h
    exact .inl (by rw [h])
  | cons x r ih =>
    obtain ⟨n, v⟩ := x
    simp only [alterEntries] at h
    split at h
    · rcases List.mem_cons.1 h with rfl | h
      · exact .inl rfl
      · exact .inr h
    · split at h
      · rcases List.mem_cons.1 h with rfl | h
        · exact .inl rfl
        · exact .inr (List.mem_cons_of_mem _ h)
      · rcases List.mem_cons.1 h with rfl | h
        · exact .inr (List.mem_cons_self ..)
        · exact (ih h).imp id (List.mem_cons_of_mem _)

theorem pairwise_alterEntries {name : String} {f : Option β → β}
    {es : List (String × β)} (h : es.Pairwise fun a b => a.1 < b.1) :
    (alterEntries name f es).Pairwise fun a b => a.1 < b.1 := by
  induction es with
  | nil => simp [alterEntries]
  | cons x r ih =>
    obtain ⟨n, v⟩ := x
    have hr := List.pairwise_cons.1 h
    simp only [alterEntries]
    split
    · rename_i hlt
      refine List.pairwise_cons.2 ⟨?_, h⟩
      intro e he
      rcases List.mem_cons.1 he with rfl | he
      · exact hlt
      · exact String.lt_trans hlt (hr.1 e he)
    · split
      · rename_i heq
        subst heq
        exact List.pairwise_cons.2 ⟨hr.1, hr.2⟩
      · rename_i hnlt hne
        refine List.pairwise_cons.2 ⟨?_, ih hr.2⟩
        intro e he
        rcases name_of_mem_alterEntries he with h' | he
        · have hle : n ≤ name := String.not_lt.1 hnlt
          show n < e.1
          rw [h']
          rcases Decidable.em (n < name) with hlt | hge
          · exact hlt
          · exact absurd (String.le_antisymm (String.not_lt.1 hge) hle) hne
        · exact hr.1 e he

/-- Gives `name` the value `f` of its former value. -/
def alter (m : Index β) (name : String) (f : Option β → β) : Index β :=
  ⟨alterEntries name f m.entries, pairwise_alterEntries m.ascending⟩

/-- Gives `name` a value, in place of its former one. -/
def insert (m : Index β) (name : String) (value : β) : Index β :=
  m.alter name fun _ => value

/-- The value of a name. -/
def get? (m : Index β) (name : String) : Option β := m.entries.lookup name

/-- The names, ascending. -/
def names (m : Index β) : List String := m.entries.map Prod.fst

/-- The map of a list of entries; of two with one name the later wins. -/
def ofList (es : List (String × β)) : Index β :=
  es.foldl (fun m e => m.insert e.1 e.2) empty

/-- The same names with other values. -/
def map (m : Index β) (f : β → γ) : Index γ :=
  ⟨m.entries.map fun e => (e.1, f e.2), by
    rw [List.pairwise_map]
    exact m.ascending⟩

-- ========================================================== look-ups

private theorem lookup_alterEntries_self (name : String) (f : Option β → β)
    {es : List (String × β)} (h : es.Pairwise fun a b => a.1 < b.1) :
    (alterEntries name f es).lookup name = some (f (es.lookup name)) := by
  induction es with
  | nil => simp [alterEntries]
  | cons x r ih =>
    obtain ⟨n, v⟩ := x
    have hr := List.pairwise_cons.1 h
    simp only [alterEntries]
    split
    · rename_i hlt
      have hnone : ((n, v) :: r).lookup name = none := by
        rw [List.lookup_eq_none_iff]
        intro e he
        have : name < e.1 := by
          rcases List.mem_cons.1 he with rfl | he
          · exact hlt
          · exact String.lt_trans hlt (hr.1 e he)
        simp only [ne_eq, bne_iff_ne]
        intro e'
        exact String.lt_irrefl _ (e' ▸ this)
      rw [hnone]
      simp
    · split
      · rename_i heq
        subst heq
        simp
      · rename_i hne
        have hb : (name == n) = false := beq_eq_false_iff_ne.2 hne
        simp only [List.lookup_cons, hb]
        exact ih hr.2

private theorem lookup_alterEntries_ne {name other : String} (f : Option β → β)
    (hne : other ≠ name) (es : List (String × β)) :
    (alterEntries name f es).lookup other = es.lookup other := by
  have hb : (other == name) = false := beq_eq_false_iff_ne.2 hne
  induction es with
  | nil => simp [alterEntries, List.lookup_cons, hb]
  | cons x r ih =>
    obtain ⟨n, v⟩ := x
    simp only [alterEntries]
    split
    · simp [List.lookup_cons, hb]
    · split
      · rename_i heq
        subst heq
        simp [List.lookup_cons, hb]
      · simp only [List.lookup_cons, ih]

theorem get?_alter_self (m : Index β) (name : String) (f : Option β → β) :
    (m.alter name f).get? name = some (f (m.get? name)) :=
  lookup_alterEntries_self name f m.ascending

theorem get?_alter_ne (m : Index β) {name other : String} (f : Option β → β)
    (h : other ≠ name) : (m.alter name f).get? other = m.get? other :=
  lookup_alterEntries_ne f h m.entries

theorem get?_insert (m : Index β) (name other : String) (value : β) :
    (m.insert name value).get? other = if other = name then some value else m.get? other := by
  split
  · rename_i h
    subst h
    exact get?_alter_self m other _
  · rename_i h
    exact get?_alter_ne m _ h

end Index

end BucketAcl
