/-
Attributes that are read: their names and values in order, however they
are spelled. So what is written comes back as it was, whatever characters
stand in the values.

Main statements: `attributes_of_areSpelled` and `unescape_escapeInValue`.
-/
import BucketAcl.Proofs.Xml.Scan

namespace BucketAcl.Xml

-- =========================================================== entries

/-- A key ends at its equals sign, or at the white space in front of it. -/
theorem cutKey_name {name : String} (hn : IsName name) {c : Char} {cs : List Char}
    (hc : name.toList = c :: cs) {gap : List Char} (hgap : IsGap gap) (r : List Char) :
    cutKey c (cs ++ (gap ++ '=' :: r)) = (name, '=' :: r) := by
  have hkey : ∀ x ∈ cs, (x != '=' && !isSpace x) = true := by
    intro x hx
    have hmem : x ∈ name.toList := hc ▸ List.mem_cons_of_mem _ hx
    rw [isSpace_of_name hn hmem, Bool.not_false, Bool.and_true, bne_iff_ne]
    exact mem_name hn hmem (by decide)
  have hstop : (gap ++ '=' :: r).takeWhile (fun x => x != '=' && !isSpace x) = []
      ∧ (gap ++ '=' :: r).dropWhile (fun x => x != '=' && !isSpace x) = gap ++ '=' :: r := by
    cases gap with
    | nil => exact ⟨rfl, rfl⟩
    | cons x t =>
        have hx := hgap x (List.mem_cons_self ..)
        exact ⟨List.takeWhile_cons_of_neg (by simp [hx]), List.dropWhile_cons_of_neg (by simp [hx])⟩
  have hname : String.ofList (c :: cs) = name := by rw [← hc, String.ofList_toList]
  unfold cutKey
  rw [List.takeWhile_append_of_pos hkey, List.dropWhile_append_of_pos hkey, hstop.1, hstop.2,
    List.append_nil, List.dropWhile_append_of_pos hgap, ← hname]
  rfl

/-- A value between quotes is found as it stands there. -/
theorem cutValue_quoted (total : Nat) {gap : List Char} (hgap : IsGap gap) {quote : Char}
    (hquote : quote = '"' ∨ quote = '\'') {v : List Char} (h : quote ∉ v) (r : List Char) :
    cutValue total (gap ++ quote :: (v ++ quote :: r)) = (.ok v, r) := by
  have hv : ∀ c ∈ v, (c != quote) = true := fun c hc =>
    bne_iff_ne.2 fun he => h (he ▸ hc)
  have hspace : isSpace quote = false := by rcases hquote with rfl | rfl <;> decide
  have hdrop : (gap ++ quote :: (v ++ quote :: r)).dropWhile isSpace
      = quote :: (v ++ quote :: r) := by
    rw [List.dropWhile_append_of_pos hgap]
    exact List.dropWhile_cons_of_neg (by simp [hspace])
  have hrest : (v ++ quote :: r).dropWhile (· != quote) = quote :: r := by
    rw [List.dropWhile_append_of_pos hv]
    exact List.dropWhile_cons_of_neg (by simp)
  have hvalue : (v ++ quote :: r).takeWhile (· != quote) = v := by
    rw [List.takeWhile_append_of_pos hv, List.takeWhile_cons_of_neg (by simp), List.append_nil]
  unfold cutValue
  rw [hdrop]
  simp only [hquote, if_true, hrest, hvalue]

theorem entries_of_cut (total : Nat) {cs r afterKey : List Char} {c : Char} {name : String}
    (hs : cs.dropWhile isSpace = c :: r) (hk : cutKey c r = (name, '=' :: afterKey)) :
    entries total cs
      = .ok ⟨total - byteLength (c :: r), name, (cutValue total afterKey).1⟩
        :: entries total (cutValue total afterKey).2 := by
  rw [entries]
  split
  · rename_i h
    rw [hs] at h
    cases h
  · rename_i c' r' h
    rw [hs] at h
    cases h
    split
    · rename_i name' afterKey' h'
      rw [hk] at h'
      cases h'
      rfl
    · rename_i name' rest hne h'
      rw [hk] at h'
      cases h'
      exact absurd rfl (hne afterKey)

theorem entries_gap (total : Nat) {gap : List Char} (h : IsGap gap) : entries total gap = [] := by
  have hs : gap.dropWhile isSpace = [] := by
    rw [← List.append_nil gap, List.dropWhile_append_of_pos h]
    rfl
  rw [entries]
  split
  · rfl
  · rename_i c r h
    rw [hs] at h
    cases h

/-- What is spelled is found entry by entry. -/
theorem exists_entries (total : Nat) {as : List Attribute} {cs : List Char}
    (h : Attribute.AreSpelled as cs) :
    ∃ es : List Entry, entries total cs = es.map .ok ∧ es.map Entry.name = as.map Attribute.name
      ∧ es.map Entry.attribute = as.map .ok := by
  induction h with
  | nil hgap => exact ⟨[], entries_gap total hgap, rfl, rfl⟩
  | @cons before front back value r name quote as hne hbefore hname hfront hback hquote hvalue _ ih =>
      obtain ⟨es, hes, hnames, hattributes⟩ := ih
      obtain ⟨c, cs, hc, -⟩ := hname.exists_cons
      have hspace : isSpace c = false := isSpace_of_name hname (hc ▸ List.mem_cons_self ..)
      have hdrop : (before ++ (name.toList ++ (front ++ '='
            :: (back ++ quote :: (value ++ quote :: r))))).dropWhile isSpace
          = c :: (cs ++ (front ++ '=' :: (back ++ quote :: (value ++ quote :: r)))) := by
        rw [List.dropWhile_append_of_pos hbefore, hc]
        exact List.dropWhile_cons_of_neg (by simp [hspace])
      have hentry := entries_of_cut total hdrop (cutKey_name hname hc hfront _)
      rw [cutValue_quoted total hback hquote hvalue, hes] at hentry
      refine ⟨⟨_, name, .ok value⟩ :: es, hentry, ?_, ?_⟩
      · rw [List.map_cons, hnames]
        rfl
      · rw [List.map_cons, hattributes]
        rfl

-- ======================================================== attributes

/-- Names that stand once are not taken for repeated ones. -/
theorem distinct_eq_map {es : List Entry} {former : List (String × Nat)}
    (hnodup : (es.map Entry.name).Nodup)
    (hformer : ∀ e ∈ es, former.lookup e.name = none) :
    distinct former (es.map .ok) = es.map Entry.attribute := by
  induction es generalizing former with
  | nil => rfl
  | cons e r ih =>
      obtain ⟨hfirst, hr⟩ := List.nodup_cons.1 hnodup
      rw [List.map_cons, distinct, hformer e (List.mem_cons_self ..)]
      dsimp only
      rw [ih hr]
      · rfl
      · intro x hx
        have hne : (x.name == e.name) = false := by
          rw [beq_eq_false_iff_ne]
          intro heq
          exact hfirst (heq ▸ List.mem_map_of_mem hx)
        rw [List.lookup_cons, hne]
        exact hformer x (List.mem_cons_of_mem _ hx)

section

variable {tag : Tag} {as : List Attribute}

/-- The attributes of a tag, without faults. -/
theorem attributes_of_areSpelled (h : Attribute.AreSpelled as tag.rest)
    (hnodup : (as.map Attribute.name).Nodup) : tag.attributes = as.map .ok := by
  obtain ⟨es, hes, hnames, hattributes⟩ := exists_entries
    (byteLength tag.name.toList + byteLength tag.rest) h
  have hnone : ∀ e ∈ es, ([] : List (String × Nat)).lookup e.name = none := fun _ _ => rfl
  rw [← hattributes, ← distinct_eq_map (hnames ▸ hnodup) hnone]
  exact congrArg (distinct []) hes

theorem leading_of_areSpelled (h : Attribute.AreSpelled as tag.rest) : tag.leading = as := by
  obtain ⟨es, hes, -, hattributes⟩ := exists_entries
    (byteLength tag.name.toList + byteLength tag.rest) h
  have htag : tag.entries = es.map .ok := hes
  have hentries : (es.map Except.ok).map (fun e : Except AttributeFault Entry =>
      e.bind Entry.attribute) = as.map .ok := by
    rw [List.map_map, ← hattributes]
    rfl
  have hok : ∀ x ∈ as.map (.ok : Attribute → Except AttributeFault Attribute), x.isOk = true :=
    List.forall_mem_map.2 fun _ _ => rfl
  have htake : (as.map (.ok : Attribute → Except AttributeFault Attribute)).takeWhile Except.isOk
      = as.map .ok := by
    conv => lhs; rw [← List.append_nil (as.map _)]
    rw [List.takeWhile_append_of_pos hok]
    exact List.append_nil _
  unfold Tag.leading
  rw [htag, hentries, htake, List.filterMap_map]
  exact (congrFun List.filterMap_eq_map' as).trans (List.map_id as)

/-- A tag without an attribute `nil` does not declare that. -/
theorem isNil_of_areSpelled (h : Attribute.AreSpelled as tag.rest)
    (hnodup : (as.map Attribute.name).Nodup) (hnil : ∀ a ∈ as, localName a.name ≠ "nil")
    (scope : Scope) (uri : String) : tag.isNil scope uri = false := by
  unfold Tag.isNil
  rw [attributes_of_areSpelled h hnodup, List.filterMap_map, List.any_eq_false]
  intro x hx
  obtain ⟨a, ha, hax⟩ := List.mem_filterMap.1 hx
  cases hax
  have hlocal : (localName x.name == "nil") = false := beq_eq_false_iff_ne.2 (hnil x ha)
  rw [hlocal]
  simp

/-- A tag whose bindings are allowed is. -/
theorem checkBindings_of_areSpelled (h : Attribute.AreSpelled as tag.rest)
    (hb : ∀ a ∈ as, ∀ b, a.binding? = some b → bindingFault? b = none) :
    tag.checkBindings = .ok () := by
  have hnone : tag.bindings.findSome? bindingFault? = none := by
    unfold Tag.bindings
    rw [leading_of_areSpelled h, List.findSome?_eq_none_iff]
    intro b hbound
    obtain ⟨a, ha, hab⟩ := List.mem_filterMap.1 hbound
    exact hb a ha b hab
  unfold Tag.checkBindings
  rw [hnone]

end

-- ============================================================ written

/-- No quote stands in a written value. -/
theorem quote_not_mem_escapeInValue (v : List Char) : '"' ∉ escapeInValue v := by
  intro hc
  obtain ⟨x, -, hx⟩ := List.mem_flatMap.1 hc
  unfold escapeInValueChar at hx
  split at hx
  · exact absurd hx (by decide)
  · rename_i hne
    cases he : entityName? x with
    | none =>
        rw [he] at hx
        exact hne (List.mem_singleton.1 hx).symm
    | some name =>
        rw [he] at hx
        rw [Option.elim_some] at hx
        rcases eq_of_entityName he with ⟨-, rfl⟩ | ⟨-, rfl⟩ | ⟨-, rfl⟩ <;>
          exact absurd hx (by decide)

/-- A tag as it is written: a name, and attributes of any values. -/
structure Tag.IsWritten (tag : Tag) : Prop where
  name : IsName tag.name
  rest : ∃ as : List (String × String),
    tag.rest = as.flatMap (fun a => writeAttribute a.1 a.2) ∧ ∀ a ∈ as, IsName a.1

/-- An attribute as it is read of what was written. -/
def writtenAttribute (a : String × String) : Attribute := ⟨a.1, escapeInValue a.2.toList⟩

variable {name : String} {as : List (String × String)}

/-- What is written for attributes spells them. -/
theorem areSpelled_written (h : ∀ a ∈ as, IsName a.1) :
    Attribute.AreSpelled (as.map writtenAttribute)
      (as.flatMap fun a => writeAttribute a.1 a.2) := by
  induction as with
  | nil => exact .nil (fun _ h => nomatch h)
  | cons a r ih =>
      obtain ⟨ha, hr⟩ := List.forall_mem_cons.1 h
      have hform : (a :: r).flatMap (fun a => writeAttribute a.1 a.2)
          = [' '] ++ (a.1.toList ++ ([] ++ '=' :: ([] ++ '"' :: (escapeInValue a.2.toList
            ++ '"' :: r.flatMap fun a => writeAttribute a.1 a.2)))) := by
        simp [writeAttribute]
      rw [hform]
      exact .cons (List.cons_ne_nil _ _) (by decide) ha (by decide) (by decide) (.inl rfl)
        (quote_not_mem_escapeInValue _) (ih hr)

theorem Tag.IsWritten.isWellFormed {tag : Tag} (h : tag.IsWritten) : tag.IsWellFormed := by
  obtain ⟨hname, as, hrest, has⟩ := h
  exact ⟨hname, _, hrest ▸ areSpelled_written has⟩

/-- A tag that was written. -/
def writtenTag (name : String) (as : List (String × String)) : Tag :=
  ⟨name, as.flatMap fun a => writeAttribute a.1 a.2⟩

theorem isWritten_writtenTag (hn : IsName name) (h : ∀ a ∈ as, IsName a.1) :
    (writtenTag name as).IsWritten := ⟨hn, as, rfl, h⟩

theorem nodup_written (hnodup : (as.map Prod.fst).Nodup) :
    ((as.map writtenAttribute).map Attribute.name).Nodup := by
  rw [List.map_map]
  exact hnodup

/-- The attributes of a tag that was written, without faults. -/
theorem attributes_writtenTag (h : ∀ a ∈ as, IsName a.1) (hnodup : (as.map Prod.fst).Nodup) :
    (writtenTag name as).attributes = as.map fun a => .ok (writtenAttribute a) := by
  have hall : (writtenTag name as).attributes = (as.map writtenAttribute).map .ok :=
    attributes_of_areSpelled (areSpelled_written h) (nodup_written hnodup)
  rw [hall, List.map_map]
  rfl

theorem isNil_writtenTag (h : ∀ a ∈ as, IsName a.1) (hnodup : (as.map Prod.fst).Nodup)
    (hnil : ∀ a ∈ as, localName a.1 ≠ "nil") (scope : Scope) (uri : String) :
    (writtenTag name as).isNil scope uri = false :=
  isNil_of_areSpelled (areSpelled_written h) (nodup_written hnodup)
    (List.forall_mem_map.2 hnil) scope uri

theorem checkBindings_writtenTag (h : ∀ a ∈ as, IsName a.1)
    (hb : ∀ a ∈ as, ∀ b, (writtenAttribute a).binding? = some b → bindingFault? b = none) :
    (writtenTag name as).checkBindings = .ok () :=
  checkBindings_of_areSpelled (areSpelled_written h) (List.forall_mem_map.2 hb)

-- ============================================================= values

/-- Characters that are passed over in a value. -/
theorem unescapeFrom_skip (total : Nat) (a r : List Char) (offset : Nat) :
    unescapeFrom total a.length offset (a ++ r)
      = unescapeFrom total 0 (offset + byteLength a) r := by
  induction a generalizing offset with
  | nil => rfl
  | cons c t ih =>
      show unescapeFrom total t.length (offset + c.utf8Size) (t ++ r) = _
      rw [ih]
      show unescapeFrom total 0 (offset + c.utf8Size + byteLength t) r
        = unescapeFrom total 0 (offset + (c.utf8Size + byteLength t)) r
      rw [Nat.add_assoc]

/-- A reference in a value gives its character. -/
theorem unescapeFrom_reference {name : List Char} {c : Char} (hsemi : ';' ∉ name)
    (hamp : '&' ∉ name) (hc : ∀ start stop, resolve start stop name = .ok c)
    (total offset : Nat) (r : List Char) :
    ∃ offset', unescapeFrom total 0 offset (writeReference name ++ r)
      = (unescapeFrom total 0 offset' r).map (c :: ·) := by
  have hform : writeReference name ++ r = '&' :: (name ++ ';' :: r) := by
    simp [writeReference]
  have hskip : unescapeFrom total (name.length + 1) (offset + 1) (name ++ ';' :: r)
      = unescapeFrom total 0 (offset + 1 + byteLength (name ++ [';'])) r := by
    have := unescapeFrom_skip total (name ++ [';']) r (offset + 1)
    rw [List.length_append, List.append_assoc] at this
    exact this
  refine ⟨offset + 1 + byteLength (name ++ [';']), ?_⟩
  rw [hform, unescapeFrom, if_pos rfl, Text.cutAt_append hsemi]
  dsimp only
  rw [if_neg hamp, hc, hskip]
  cases unescapeFrom total 0 (offset + 1 + byteLength (name ++ [';'])) r <;> rfl

/-- A written value is read as it was. -/
theorem unescape_escapeInValue (cs : List Char) : unescape (escapeInValue cs) = .ok cs := by
  have hfrom : ∀ (cs : List Char) (total offset : Nat),
      unescapeFrom total 0 offset (escapeInValue cs) = .ok cs := by
    intro cs
    induction cs with
    | nil => exact fun _ _ => rfl
    | cons c r ih =>
        intro total offset
        show unescapeFrom total 0 offset (escapeInValueChar c ++ escapeInValue r) = _
        unfold escapeInValueChar
        by_cases hq : c = '"'
        · rw [if_pos hq, hq]
          have hname : ';' ∉ ['q', 'u', 'o', 't'] ∧ '&' ∉ ['q', 'u', 'o', 't'] := by decide
          obtain ⟨offset', h⟩ := unescapeFrom_reference (c := '"') hname.1 hname.2
            (fun _ _ => rfl) total offset (escapeInValue r)
          rw [h, ih]
          rfl
        · rw [if_neg hq]
          cases he : entityName? c with
          | some name =>
              have hname : ';' ∉ name ∧ '&' ∉ name := by
                rcases eq_of_entityName he with ⟨-, rfl⟩ | ⟨-, rfl⟩ | ⟨-, rfl⟩ <;> decide
              obtain ⟨offset', h⟩ := unescapeFrom_reference hname.1 hname.2
                (resolve_entityName he) total offset (escapeInValue r)
              rw [Option.elim_some, h, ih]
              rfl
          | none =>
              have hamp : c ≠ '&' := by
                rintro rfl
                cases he
              rw [Option.elim_none, List.singleton_append, unescapeFrom, if_neg hamp, ih]
              rfl
  exact hfrom cs _ 0

end BucketAcl.Xml
