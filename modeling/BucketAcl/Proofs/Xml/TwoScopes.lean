/-
Readings in two scopes that bind the same. A reading asks a scope for
nothing but the namespaces of prefixes, so it gives the same in both and
leaves scopes that bind the same again. What a tag binds, and which
attributes it has, does not depend on its name.
-/
import BucketAcl.Proofs.Xml.Attributes
import BucketAcl.Proofs.Xml.Document

namespace BucketAcl.Xml

-- =========================================================== two names

/-- What is found at a place of a tag, without the place. -/
def found? (e : Except AttributeFault Entry) : Option (String × Option (List Char)) :=
  e.toOption.map fun e => (e.name, e.value.toOption)

theorem cutValue_total (total total' : Nat) (cs : List Char) :
    (cutValue total cs).1.toOption = (cutValue total' cs).1.toOption
      ∧ (cutValue total cs).2 = (cutValue total' cs).2 := by
  unfold cutValue
  split
  · exact ⟨rfl, rfl⟩
  · split
    · split
      · exact ⟨rfl, rfl⟩
      · exact ⟨rfl, rfl⟩
    · exact ⟨rfl, rfl⟩

theorem entries_of_blank (total : Nat) {cs : List Char} (hs : cs.dropWhile isSpace = []) :
    entries total cs = [] := by
  rw [entries]
  split
  · rfl
  · rename_i h
    rw [hs] at h
    cases h

theorem entries_of_no_equals (total : Nat) {cs r rest : List Char} {c : Char} {name : String}
    (hs : cs.dropWhile isSpace = c :: r) (hk : cutKey c r = (name, rest))
    (hne : ∀ afterKey, rest ≠ '=' :: afterKey) :
    entries total cs = .error (.noEquals (total - byteLength rest)) :: entries total rest := by
  rw [entries]
  split
  · rename_i h
    rw [hs] at h
    cases h
  · rename_i c' r' h
    rw [hs] at h
    cases h
    split
    · rename_i name' afterKey h'
      rw [hk] at h'
      cases h'
      exact absurd rfl (hne afterKey)
    · rename_i name' rest' _ h'
      rw [hk] at h'
      cases h'
      rfl

/-- Where a tag ends has a part in the places only. -/
theorem map_found_entries (total total' : Nat) (cs : List Char) :
    (entries total cs).map found? = (entries total' cs).map found? := by
  fun_induction entries total cs with
  | case1 cs hs => rw [entries_of_blank total' hs]
  | case2 cs c r hs name afterKey hk place _ ih =>
      obtain ⟨hvalue, hrest⟩ := cutValue_total total total' afterKey
      rw [entries_of_cut _ hs hk, List.map_cons, List.map_cons, ← hrest, ih]
      refine congrArg (· :: _) ?_
      show some (name, (cutValue total afterKey).1.toOption) = some (name, _)
      rw [hvalue]
  | case3 cs c r hs name rest hne hk _ ih =>
      rw [entries_of_no_equals total' hs hk hne, List.map_cons, List.map_cons, ih]
      rfl

/-- The attribute of what is found, if it has a value. -/
def foundAttribute? (e : Option (String × Option (List Char))) : Option Attribute :=
  e.bind fun (name, value) => value.map fun v => ⟨name, v⟩

theorem toOption_attribute (e : Except AttributeFault Entry) :
    (e.bind Entry.attribute).toOption = foundAttribute? (found? e) := by
  rcases e with f | ⟨place, name, f | v⟩ <;> rfl

/-- The attributes before the first fault, from what is found. -/
theorem leading_eq (tag : Tag) :
    tag.leading = (((tag.entries.map found?).map foundAttribute?).takeWhile Option.isSome).filterMap
      id := by
  unfold Tag.leading
  induction tag.entries with
  | nil => rfl
  | cons e r ih =>
      rw [List.map_cons, List.map_cons, List.map_cons, ← toOption_attribute]
      cases he : e.bind Entry.attribute with
      | error f =>
          rw [List.takeWhile_cons_of_neg Bool.false_ne_true]
          rfl
      | ok a =>
          rw [List.takeWhile_cons_of_pos (by rfl), List.filterMap_cons, ih]
          rfl

theorem bindings_rename (tag : Tag) (name : String) :
    ({ tag with name } : Tag).bindings = tag.bindings := by
  unfold Tag.bindings
  rw [leading_eq, leading_eq]
  unfold Tag.entries
  rw [map_found_entries (byteLength tag.name.toList + byteLength tag.rest)]

theorem lookup_isSome_eq (former : List (String × Nat)) (name : String) :
    (former.lookup name).isSome = decide (name ∈ former.map Prod.fst) := by
  induction former with
  | nil => rfl
  | cons x r ih =>
      rw [List.lookup_cons]
      by_cases hx : name = x.1
      · simp [hx]
      · simp [hx, ih, beq_eq_false_iff_ne.2 hx]

/-- The attributes that can be read of what is found, behind some names. -/
def readable (names : List String) :
    List (Option (String × Option (List Char))) → List (Option Attribute)
  | [] => []
  | none :: r => none :: readable names r
  | some (name, value) :: r =>
    if name ∈ names then none :: readable names r
    else value.map (fun v => ⟨name, v⟩) :: readable (name :: names) r

theorem map_toOption_distinct (former : List (String × Nat))
    (es : List (Except AttributeFault Entry)) :
    (distinct former es).map Except.toOption
      = readable (former.map Prod.fst) (es.map found?) := by
  induction es generalizing former with
  | nil => rfl
  | cons e r ih =>
      rcases e with f | ⟨place, name, v⟩
      · exact congrArg (none :: ·) (ih former)
      · have hlookup := lookup_isSome_eq former name
        show _ = readable _ (some (name, v.toOption) :: r.map found?)
        unfold distinct readable
        cases hl : former.lookup name with
        | some m =>
            rw [hl] at hlookup
            rw [if_pos (of_decide_eq_true hlookup.symm)]
            exact congrArg (none :: ·) (ih former)
        | none =>
            rw [hl] at hlookup
            rw [if_neg (of_decide_eq_false hlookup.symm)]
            dsimp only
            rw [List.map_cons, ih]
            cases v <;> rfl

/-- Which attributes of a tag can be read does not depend on its name. -/
theorem map_toOption_attributes_rename (tag : Tag) (name : String) :
    ({ tag with name } : Tag).attributes.map Except.toOption
      = tag.attributes.map Except.toOption := by
  unfold Tag.attributes Tag.entries
  rw [map_toOption_distinct, map_toOption_distinct,
    map_found_entries _ (byteLength tag.name.toList + byteLength tag.rest)]

-- ========================================================== two scopes

variable {α β σ : Type}

/-- Scopes in which each tag binds what the other one binds in its
place. -/
def SameBindings (s t : Scope) : Prop := s.map Tag.bindings = t.map Tag.bindings

theorem SameBindings.find? {s t : Scope} (h : SameBindings s t) (pfx : String) :
    s.find? pfx = t.find? pfx := by
  have hflat (s : Scope) : s.flatMap (fun tag => tag.bindings.reverse)
      = (s.map Tag.bindings).flatMap List.reverse := by
    rw [List.flatMap_map]
  unfold Scope.find?
  rw [hflat, hflat, h]

theorem SameBindings.isNil {s t : Scope} (h : SameBindings s t) (tag : Tag) (uri : String) :
    tag.isNil s uri = tag.isNil t uri := by
  have hfind : Scope.find? s = Scope.find? t := funext h.find?
  unfold Tag.isNil
  rw [hfind]

/-- What the one reading gives, the other gives too, in a scope that
binds the same. -/
def Agrees (r r' : Reading α) : Prop :=
  ∀ s t, SameBindings s t → ∀ a s', r.run s = .ok (a, s') →
    ∃ t', r'.run t = .ok (a, t') ∧ SameBindings s' t'

namespace Agrees

theorem pure (a : α) : Agrees (Pure.pure a) (Pure.pure a) := by
  rintro s t h _ _ ⟨⟩
  exact ⟨t, rfl, h⟩

theorem fault (f : DocumentFault) (r : Reading α) : Agrees (Reading.fault f) r := by
  rintro s t h _ _ ⟨⟩

theorem bind {r r' : Reading α} {f f' : α → Reading β} (hr : Agrees r r')
    (hf : ∀ a, Agrees (f a) (f' a)) : Agrees (r >>= f) (r' >>= f') := by
  intro s t h b s' hb
  obtain ⟨a, u, ha, hb⟩ := exists_of_run_bind hb
  obtain ⟨u', ha', hu⟩ := hr s t h a u ha
  obtain ⟨t', hb', ht'⟩ := hf a u u' hu b s' hb
  refine ⟨t', ?_, ht'⟩
  rw [StateT.run_bind, ha']
  exact hb'

theorem ofMarkup (e : Except Fault α) :
    Agrees (Reading.ofMarkup e) (Reading.ofMarkup e) := by
  cases e with
  | ok a => exact pure a
  | error f => exact fault _ _

theorem once {r r' : Reading α} (name : String) (former : Option α) (hr : Agrees r r') :
    Agrees (Xml.once name former r) (Xml.once name former r') := by
  unfold Xml.once
  cases former with
  | some a => exact fault _ _
  | none => exact hr.bind fun a => pure (some a)

theorem required (name : String) (value : Option α) :
    Agrees (Xml.required name value) (Xml.required name value) := by
  cases value with
  | some a => exact pure a
  | none => exact fault _ _

theorem enter (tag : Tag) : Agrees (Reading.enter tag) (Reading.enter tag) := by
  rintro s t h _ _ ⟨⟩
  refine ⟨tag :: t, rfl, ?_⟩
  unfold SameBindings at h ⊢
  rw [List.map_cons, List.map_cons, h]

theorem leave : Agrees Reading.leave Reading.leave := by
  rintro s t h _ _ ⟨⟩
  refine ⟨t.tail, rfl, ?_⟩
  unfold SameBindings at h ⊢
  rw [List.map_tail, List.map_tail, h]

theorem foldlM {f f' : σ → β → Reading σ} (xs : List β)
    (hf : ∀ s x, Agrees (f s x) (f' s x)) (s : σ) :
    Agrees (xs.foldlM f s) (xs.foldlM f' s) := by
  induction xs generalizing s with
  | nil => exact pure s
  | cons x r ih => exact (hf s x).bind ih

end Agrees

namespace Element

/-- An element under some other name. -/
def renamed (e : Element) (name : String) : Element := { e with tag := { e.tag with name } }

variable {onText : σ → List Char → Reading σ} {onChild : σ → Element → Reading σ}

/-- The name of an element that ends is not looked at. -/
theorem agrees_check (ending : Ending) (name name' : String) :
    Agrees (ending.check name) (ending.check name') := by
  cases ending with
  | closed => exact .pure ()
  | cut f => exact .fault _ _

theorem agrees_foldAttributes (e : Element) {f : σ → Attribute → Reading σ}
    (hf : ∀ s a, Agrees (f s a) (f s a)) (s : σ) :
    Agrees (e.foldAttributes f s) (e.foldAttributes f s) := by
  refine .foldlM _ (fun s a => ?_) s
  cases a with
  | ok a => exact hf s a
  | error x => exact .fault _ _

/-- Attributes that are not looked at have to be readable only. -/
theorem agrees_passAttributes (e : Element) (name : String) (s : σ) :
    Agrees (e.foldAttributes (fun s _ => pure s) s)
      ((e.renamed name).foldAttributes (fun s _ => pure s) s) := by
  have hread : (e.renamed name).tag.attributes.map Except.toOption
      = e.tag.attributes.map Except.toOption := map_toOption_attributes_rename e.tag name
  unfold foldAttributes
  generalize (e.renamed name).tag.attributes = as' at hread ⊢
  generalize e.tag.attributes = as at hread ⊢
  induction as generalizing s as' with
  | nil =>
      rw [List.map_nil, List.map_eq_nil_iff] at hread
      rw [hread]
      exact .pure s
  | cons a r ih =>
      obtain ⟨a', r', rfl, hhead, htail⟩ := List.map_eq_cons_iff.1 hread
      refine .bind ?_ fun t => ih t r' htail
      cases a with
      | error f => exact .fault _ _
      | ok x =>
          cases a' with
          | error f => cases hhead
          | ok x' => exact .pure s

theorem agrees_visit (htext : ∀ s cs, Agrees (onText s cs) (onText s cs))
    (hchild : ∀ s c, Agrees (onChild s c) (onChild s c)) (s : σ) (n : Node) :
    Agrees (Node.visit onText onChild s n) (Node.visit onText onChild s n) := by
  cases n with
  | run pieces => exact .bind (.ofMarkup _) fun cs => htext s cs
  | doctype => exact .pure s
  | element tag inside ending =>
      exact .bind (.ofMarkup _) fun _ => .bind (.enter tag) fun _ =>
        .bind (hchild s _) fun s => .bind .leave fun _ => .pure s

/-- Of an element, only what is inside and how it ends is looked at. -/
theorem agrees_foldInside {e e' : Element} (hinside : e'.inside = e.inside)
    (hending : e'.ending = e.ending) (htext : ∀ s cs, Agrees (onText s cs) (onText s cs))
    (hchild : ∀ s c, Agrees (onChild s c) (onChild s c)) (s : σ) :
    Agrees (e.foldInside onText onChild s) (e'.foldInside onText onChild s) := by
  unfold foldInside
  rw [hinside, hending]
  exact .bind (.foldlM _ (agrees_visit htext hchild) s) fun s =>
    .bind (agrees_check _ _ _) fun _ => .pure s

theorem agrees_fold (e : Element) {onAttribute : σ → Attribute → Reading σ}
    (hattribute : ∀ s a, Agrees (onAttribute s a) (onAttribute s a))
    (hchild : ∀ s c, Agrees (onChild s c) (onChild s c)) (s : σ) :
    Agrees (e.fold onAttribute onChild s) (e.fold onAttribute onChild s) :=
  .bind (e.agrees_foldAttributes hattribute s) fun s =>
    agrees_foldInside rfl rfl (fun s _ => .pure s) hchild s

theorem agrees_text (e : Element) : Agrees e.text e.text :=
  .bind (agrees_foldInside rfl rfl (fun s cs => .pure (s ++ cs)) (fun _ _ => .fault _ _) [])
    fun cs => .pure (String.ofList cs)

theorem agrees_passOver (e : Element) (nodes : List Node) :
    Agrees (e.passOver nodes) (e.passOver nodes) := by
  unfold passOver
  split
  · refine .bind (.ofMarkup _) fun _ => .bind (agrees_check _ _ _) fun _ => ?_
    split
    · exact .enter _
    · exact .pure _
  · exact agrees_check _ _ _

theorem agrees_skip (e : Element) : Agrees e.skip e.skip := by
  have hnodes : ∀ nodes, Agrees (e.skipNodes nodes) (e.skipNodes nodes) := by
    intro nodes
    induction nodes with
    | nil => exact agrees_check _ _ _
    | cons n r ih =>
        cases n with
        | doctype => exact ih
        | run pieces => exact .bind (.ofMarkup _) fun _ => e.agrees_passOver r
        | element tag inside ending =>
            exact .bind (.ofMarkup _) fun _ => .bind (.enter tag) fun _ =>
              .bind (agrees_passOver _ inside) fun _ => .bind .leave fun _ => e.agrees_passOver r
  exact hnodes e.inside

theorem agrees_isNil (e : Element) (parent : Tag) : Agrees (e.isNil parent) (e.isNil parent) := by
  rintro s t h _ _ ⟨⟩
  have hscope : SameBindings ((firstTag? e.inside).toList ++ s)
      ((firstTag? e.inside).toList ++ t) := by
    unfold SameBindings at h ⊢
    rw [List.map_append, List.map_append, h]
  refine ⟨t, ?_, h⟩
  show Except.ok ((_ || _), t) = _
  rw [hscope.isNil, hscope.isNil]

theorem agrees_optionalText (e : Element) (parent : Tag) :
    Agrees (e.optionalText parent) (e.optionalText parent) := by
  refine .bind (e.agrees_isNil parent) fun isNil => ?_
  split
  · exact .bind e.agrees_skip fun _ => .pure none
  · exact .bind e.agrees_text fun text => .pure (some text)

end Element

theorem Attribute.agrees_text (a : Attribute) : Agrees a.text a.text :=
  .bind (.ofMarkup _) fun cs => .pure (String.ofList cs)

end BucketAcl.Xml
