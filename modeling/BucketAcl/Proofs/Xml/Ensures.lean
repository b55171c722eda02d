/-
What a reading makes sure of. Where it gives a value, that has some
property, and the tags in scope are still of some kind, which those of
all elements have that are read. There is one rule for each way in which
readings are put together; what is read node by node, or attribute by
attribute, is known by an invariant of what was visited.
-/
import BucketAcl.Proofs.Xml.Document

namespace BucketAcl.Xml

variable {α β σ : Type} {T : Tag → Prop}

/-- A reading whose value has a property, whatever tags of a kind are in
scope, and which leaves tags of that kind in scope. -/
def Ensures (T : Tag → Prop) (r : Reading α) (Q : α → Prop) : Prop :=
  ∀ s : Scope, (∀ t ∈ s, T t) → ∀ a s', r.run s = .ok (a, s') → Q a ∧ ∀ t ∈ s', T t

namespace Ensures

variable {r : Reading α} {Q Q' : α → Prop}

theorem mono (h : Ensures T r Q) (hQ : ∀ a, Q a → Q' a) : Ensures T r Q' := by
  intro s hs a s' hr
  obtain ⟨ha, hs'⟩ := h s hs a s' hr
  exact ⟨hQ a ha, hs'⟩

/-- There is nothing to know of some reading. -/
theorem any (r : Reading α) : Ensures (fun _ => True) r fun _ => True :=
  fun _ _ _ _ _ => ⟨trivial, fun _ _ => trivial⟩

theorem pure {a : α} (h : Q a) : Ensures T (Pure.pure a) Q := by
  rintro s hs _ _ ⟨⟩
  exact ⟨h, hs⟩

theorem fault (f : DocumentFault) : Ensures T (Reading.fault f) Q := by
  rintro s hs _ _ ⟨⟩

theorem bind {f : α → Reading β} {P : β → Prop} (hr : Ensures T r Q)
    (hf : ∀ a, Q a → Ensures T (f a) P) : Ensures T (r >>= f) P := by
  intro s hs b s' hb
  obtain ⟨a, t, ha, hb⟩ := exists_of_run_bind hb
  obtain ⟨hQ, ht⟩ := hr s hs a t ha
  exact hf a hQ t ht b s' hb

theorem ofMarkup (e : Except Fault α) : Ensures T (Reading.ofMarkup e) (e = .ok ·) := by
  cases e with
  | ok a => exact pure rfl
  | error f => exact fault _

theorem required (name : String) (value : Option α) :
    Ensures T (Xml.required name value) (value = some ·) := by
  cases value with
  | some a => exact pure rfl
  | none => exact fault _

/-- A field that is filled was not filled before. -/
theorem once {former : Option α} (name : String) (hr : Ensures T r Q) :
    Ensures T (Xml.once name former r) fun v => former = none ∧ ∃ a, Q a ∧ v = some a := by
  unfold Xml.once
  cases former with
  | some a => exact fault _
  | none => exact hr.bind fun a ha => pure ⟨rfl, a, ha, rfl⟩

theorem enter {tag : Tag} (h : T tag) : Ensures T (Reading.enter tag) fun _ => True := by
  rintro s hs _ _ ⟨⟩
  exact ⟨trivial, List.forall_mem_cons.2 ⟨h, hs⟩⟩

theorem leave : Ensures T Reading.leave fun _ => True := by
  rintro s hs _ _ ⟨⟩
  exact ⟨trivial, fun t ht => hs t (List.mem_of_mem_tail ht)⟩

/-- An invariant of what was visited holds of all in the end. -/
theorem foldlM {I : List β → σ → Prop} {f : σ → β → Reading σ} {xs : List β} {s : σ}
    (h0 : I [] s)
    (hstep : ∀ done x s, x ∈ xs → I done s → Ensures T (f s x) (I (done ++ [x]))) :
    Ensures T (xs.foldlM f s) (I xs) := by
  have hall : ∀ ys done s, (∀ y ∈ ys, y ∈ xs) → I done s →
      Ensures T (ys.foldlM f s) (I (done ++ ys)) := by
    intro ys
    induction ys with
    | nil =>
        intro done s _ hI
        rw [List.append_nil]
        exact pure hI
    | cons y r ih =>
        intro done s hmem hI
        refine bind (hstep done y s (hmem y (List.mem_cons_self ..)) hI) fun s' hs' => ?_
        have hrest := ih (done ++ [y]) s' (fun z hz => hmem z (List.mem_cons_of_mem _ hz)) hs'
        rw [List.append_assoc] at hrest
        exact hrest
  exact hall xs [] s (fun _ h => h) h0

end Ensures

-- ================================================================ tags

mutual

/-- The tags of a node, its own and those inside. -/
def Node.tags : Node → List Tag
  | run _ => []
  | doctype => []
  | element tag inside _ => tag :: Node.tagsAll inside

/-- The tags of nodes. -/
def Node.tagsAll : List Node → List Tag
  | [] => []
  | n :: r => n.tags ++ Node.tagsAll r

end

theorem Node.tags_subset_tagsAll {n : Node} {nodes : List Node} (h : n ∈ nodes) :
    n.tags ⊆ Node.tagsAll nodes := by
  induction nodes with
  | nil => cases h
  | cons m r ih =>
      rw [Node.tagsAll]
      rcases List.mem_cons.1 h with rfl | h
      · exact List.subset_append_left _ _
      · exact List.subset_append_of_subset_right _ (ih h)

namespace Element

/-- The tags of an element, its own and those inside. -/
def tags (e : Element) : List Tag := e.node.tags

theorem tags_eq (e : Element) : e.tags = e.tag :: Node.tagsAll e.inside := by
  unfold tags node
  rw [Node.tags]

theorem tags_subset_of_mem {e c : Element} (h : c.node ∈ e.inside) : c.tags ⊆ e.tags := by
  rw [e.tags_eq]
  exact List.subset_cons_of_subset _ (Node.tags_subset_tagsAll h)

/-- The element that a node is. -/
def ofNode? : Node → Option Element
  | .element tag inside ending => some ⟨tag, inside, ending⟩
  | _ => none

/-- The elements right inside an element. -/
def children (e : Element) : List Element := e.inside.filterMap ofNode?

/-- Those of them that fill a field. -/
def childrenNamed (e : Element) (name : String) : List Element :=
  e.children.filter (·.field = name)

/-- The attributes that can be read. -/
def attributes (e : Element) : List Attribute := e.tag.attributes.filterMap Except.toOption

/-- The parts of a run of text. -/
def runOf? : Node → Option (List Piece)
  | .run pieces => some pieces
  | _ => none

/-- The runs of text right inside an element. -/
def runs (e : Element) : List (List Piece) := e.inside.filterMap runOf?

/-- An element that holds a text and no other element. -/
def HoldsText (e : Element) (text : String) : Prop :=
  e.children = [] ∧ ∃ parts, e.runs.mapM resolveRun = .ok parts ∧ text.toList = parts.flatten

-- ============================================================ visiting

theorem ensures_check {P : Unit → Prop} {e : Element} {name : String}
    (h : e.ending = .closed → P ()) : Ensures T (e.ending.check name) P := by
  unfold Ending.check
  split
  · rename_i hclosed
    exact .pure (h hclosed)
  · exact .fault _

theorem ensures_foldAttributes {I : List Attribute → σ → Prop} {e : Element}
    {f : σ → Attribute → Reading σ} {s : σ} (h0 : I [] s)
    (hstep : ∀ done a s, I done s → Ensures T (f s a) (I (done ++ [a]))) :
    Ensures T (e.foldAttributes f s) (I e.attributes) := by
  unfold foldAttributes attributes
  refine Ensures.foldlM (I := fun done => I (done.filterMap Except.toOption)) h0
    fun done a s _ hI => ?_
  rw [List.filterMap_append]
  cases a with
  | error x => exact .fault _
  | ok a => exact hstep _ a s hI

/-- Attributes that are not looked at change nothing. -/
theorem ensures_passAttributes (e : Element) (s : σ) :
    Ensures T (e.foldAttributes (fun s _ => pure s) s) (s = ·) :=
  ensures_foldAttributes (I := fun _ s' => s = s') rfl fun _ _ _ h => .pure (Q := (s = ·)) h

/-- Nodes are visited with an invariant, and then the end is there. -/
theorem ensures_foldInside {I : List Node → σ → Prop} {e : Element}
    (hT : ∀ t ∈ e.tags, T t) {onText : σ → List Char → Reading σ}
    {onChild : σ → Element → Reading σ} {s : σ} (h0 : I [] s)
    (hrun : ∀ done s pieces cs, I done s → resolveRun pieces = .ok cs →
      Ensures T (onText s cs) (I (done ++ [.run pieces])))
    (hdoctype : ∀ done s, I done s → I (done ++ [.doctype]) s)
    (hchild : ∀ done s (c : Element), (∀ t ∈ c.tags, T t) → I done s →
      Ensures T (onChild s c) (I (done ++ [c.node]))) :
    Ensures T (e.foldInside onText onChild s) (I e.inside) := by
  unfold foldInside
  refine .bind (Ensures.foldlM h0 fun done n s hn hI => ?_) fun s hI =>
    .bind (ensures_check fun _ => trivial) fun _ (_ : True) => .pure hI
  cases n with
  | run pieces => exact .bind (.ofMarkup _) fun cs hcs => hrun done s pieces cs hI hcs
  | doctype => exact .pure (hdoctype done s hI)
  | element tag inside ending =>
      have htags : ∀ t ∈ (⟨tag, inside, ending⟩ : Element).tags, T t :=
        fun t ht => hT t (tags_subset_of_mem hn ht)
      have htag : T tag := htags tag (by rw [tags_eq]; exact List.mem_cons_self ..)
      refine .bind (.ofMarkup _) fun _ _ => .bind (.enter htag) fun _ _ => ?_
      refine .bind (hchild done s _ htags hI) fun s hs => ?_
      exact .bind .leave fun _ _ => .pure hs

/-- Child elements are visited with an invariant, where text does not
touch it. -/
theorem ensures_foldChildren {I : List Element → σ → Prop} {e : Element}
    (hT : ∀ t ∈ e.tags, T t) {onText : σ → List Char → Reading σ}
    {onChild : σ → Element → Reading σ} {s : σ} (h0 : I [] s)
    (htext : ∀ done s cs, I done s → Ensures T (onText s cs) (I done))
    (hchild : ∀ done s (c : Element), (∀ t ∈ c.tags, T t) → I done s →
      Ensures T (onChild s c) (I (done ++ [c]))) :
    Ensures T (e.foldInside onText onChild s) (I e.children) := by
  refine ensures_foldInside (I := fun done => I (done.filterMap ofNode?)) hT h0 ?_ ?_ ?_
  · intro done s pieces cs hI _
    rw [List.filterMap_append]
    show Ensures T (onText s cs) (I (_ ++ []))
    rw [List.append_nil]
    exact htext _ s cs hI
  · intro done s hI
    rw [List.filterMap_append]
    show I (_ ++ []) s
    rw [List.append_nil]
    exact hI
  · intro done s c hc hI
    rw [List.filterMap_append]
    exact hchild _ s c hc hI

/-- The end of an element that is read is there. -/
theorem ensures_closed (e : Element) (onText : σ → List Char → Reading σ)
    (onChild : σ → Element → Reading σ) (s : σ) :
    Ensures (fun _ => True) (e.foldInside onText onChild s) fun _ => e.ending = .closed :=
  .bind (.any _) fun _ _ => .bind (ensures_check id) fun _ h => .pure h

-- ======================================================= passing over

theorem firstTag?_mem {nodes : List Node} {tag : Tag} (h : firstTag? nodes = some tag) :
    tag ∈ Node.tagsAll nodes := by
  unfold firstTag? at h
  split at h
  · cases h
    rw [Node.tagsAll, Node.tags]
    exact List.mem_cons_self ..
  · cases h

theorem ensures_passOver {e : Element} {nodes : List Node} (h : ∀ t ∈ Node.tagsAll nodes, T t) :
    Ensures T (e.passOver nodes) fun _ => True := by
  unfold passOver
  split
  · rename_i tag htag
    refine .bind (.ofMarkup _) fun _ _ => .bind (ensures_check fun _ => trivial) fun _ (_ : True) => ?_
    split
    · exact .enter (h tag (firstTag?_mem htag))
    · exact .pure trivial
  · exact ensures_check fun _ => trivial

theorem ensures_skipNodes {e : Element} {nodes : List Node}
    (h : ∀ t ∈ Node.tagsAll nodes, T t) : Ensures T (e.skipNodes nodes) fun _ => True := by
  induction nodes with
  | nil => exact ensures_check fun _ => trivial
  | cons n r ih =>
      rw [Node.tagsAll] at h
      have hn : ∀ t ∈ n.tags, T t := fun t ht => h t (List.mem_append_left _ ht)
      have hr : ∀ t ∈ Node.tagsAll r, T t := fun t ht => h t (List.mem_append_right _ ht)
      cases n with
      | doctype => exact ih hr
      | run pieces => exact .bind (.ofMarkup _) fun _ _ => ensures_passOver hr
      | element tag inside ending =>
          rw [Node.tags] at hn
          obtain ⟨htag, hinside⟩ := List.forall_mem_cons.1 hn
          refine .bind (.ofMarkup _) fun _ _ => .bind (.enter htag) fun _ _ => ?_
          refine .bind (ensures_passOver hinside) fun _ _ => .bind .leave fun _ _ => ?_
          exact ensures_passOver hr

theorem ensures_skip {e : Element} (hT : ∀ t ∈ e.tags, T t) :
    Ensures T e.skip fun _ => True := by
  refine ensures_skipNodes fun t ht => hT t ?_
  rw [tags_eq]
  exact List.mem_cons_of_mem _ ht

-- =============================================================== text

theorem ensures_text {e : Element} (hT : ∀ t ∈ e.tags, T t) : Ensures T e.text e.HoldsText := by
  unfold text
  refine .bind (ensures_foldInside (I := fun done cs => done.filterMap ofNode? = [] ∧
    ∃ parts, (done.filterMap runOf?).mapM resolveRun = .ok parts ∧ cs = parts.flatten)
    hT ⟨rfl, [], rfl, rfl⟩ ?_ ?_ ?_) fun cs hcs => .pure ?_
  · rintro done cs pieces part ⟨hnone, parts, hparts, rfl⟩ hpart
    refine .pure ⟨?_, parts ++ [part], ?_, ?_⟩
    · rw [List.filterMap_append, hnone]
      rfl
    · rw [List.filterMap_append, List.mapM_append, hparts]
      show (do
        let part ← [pieces].mapM resolveRun
        return parts ++ part : Except Fault _) = _
      rw [List.mapM_cons, hpart]
      rfl
    · rw [List.flatten_append, List.flatten_singleton]
  · rintro done cs ⟨hnone, hparts⟩
    have hrun : [Node.doctype].filterMap runOf? = [] := rfl
    rw [List.filterMap_append, List.filterMap_append, hnone, hrun, List.append_nil]
    exact ⟨rfl, hparts⟩
  · exact fun _ _ c _ _ => .fault _
  · obtain ⟨hnone, parts, hparts, rfl⟩ := hcs
    exact ⟨hnone, parts, hparts, String.toList_ofList⟩

end Element

-- ================================================================ nil

/-- A tag that is declared to be nil, by an attribute whose prefix some
tag of a document binds to the namespace of this declaration. -/
def Tag.MayBeNil (tags : List Tag) (tag : Tag) : Prop :=
  ∃ a ∈ tag.attributes.filterMap Except.toOption, localName a.name = "nil"
    ∧ (a.value = "1".toList ∨ a.value = "true".toList)
    ∧ ∃ pfx, prefix? a.name = some pfx ∧ ∃ t ∈ tags, (some pfx, xsiNamespace) ∈ t.bindings

theorem exists_binding_of_find? {scope : Scope} {pfx uri : String}
    (h : scope.find? pfx = some uri) : ∃ t ∈ scope, (some pfx, uri) ∈ t.bindings := by
  unfold Scope.find? at h
  split at h
  · cases h
  · obtain ⟨l₁, l₂, he, -⟩ := List.lookup_eq_some_iff.1 h
    have hmem : (some pfx, uri) ∈ scope.flatMap fun tag => tag.bindings.reverse := by
      rw [he]
      exact List.mem_append_right _ (List.mem_cons_self ..)
    obtain ⟨t, ht, hbinding⟩ := List.mem_flatMap.1 hmem
    exact ⟨t, ht, List.mem_reverse.1 hbinding⟩

theorem Tag.mayBeNil_of_isNil {tags : List Tag} {tag : Tag} {scope : Scope}
    (hscope : ∀ t ∈ scope, t ∈ tags) (h : tag.isNil scope xsiNamespace = true) :
    tag.MayBeNil tags := by
  unfold isNil at h
  obtain ⟨a, ha, h⟩ := List.any_eq_true.1 h
  simp only [Bool.and_eq_true, Bool.or_eq_true, beq_iff_eq] at h
  obtain ⟨⟨hname, hprefix⟩, hvalue⟩ := h
  obtain ⟨pfx, hpfx, hfind⟩ := Option.bind_eq_some_iff.1 hprefix
  obtain ⟨t, ht, hbinding⟩ := exists_binding_of_find? hfind
  exact ⟨a, ha, hname, hvalue, pfx, hpfx, t, hscope t ht, hbinding⟩

namespace Element

variable {tags : List Tag}

theorem ensures_isNil {e : Element} {parent : Tag} (hT : ∀ t ∈ e.tags, t ∈ tags) :
    Ensures (· ∈ tags) (e.isNil parent) fun isNil =>
      isNil = true → parent.MayBeNil tags ∨ e.tag.MayBeNil tags := by
  unfold isNil
  rintro s hs _ _ ⟨⟩
  refine ⟨fun h => ?_, hs⟩
  have hscope : ∀ t ∈ (firstTag? e.inside).toList ++ s, t ∈ tags := by
    intro t ht
    rcases List.mem_append.1 ht with ht | ht
    · refine hT t ?_
      rw [tags_eq]
      exact List.mem_cons_of_mem _ (firstTag?_mem (Option.mem_toList.1 ht))
    · exact hs t ht
  rcases Bool.or_eq_true_iff.1 h with h | h
  · exact .inl (Tag.mayBeNil_of_isNil hscope h)
  · exact .inr (Tag.mayBeNil_of_isNil hscope h)

/-- What an optional text was read from: a text, or nothing where that
may be declared. -/
def MayHold (tags : List Tag) (parent : Tag) (e : Element) : Option String → Prop
  | some text => e.HoldsText text
  | none => parent.MayBeNil tags ∨ e.tag.MayBeNil tags

theorem ensures_optionalText {e : Element} (parent : Tag) (hT : ∀ t ∈ e.tags, t ∈ tags) :
    Ensures (· ∈ tags) (e.optionalText parent) (e.MayHold tags parent) := by
  unfold optionalText
  refine .bind (ensures_isNil hT) fun isNil hnil => ?_
  split
  · rename_i h
    exact .bind (ensures_skip hT) fun _ _ => .pure (hnil h)
  · exact .bind (ensures_text hT) fun text htext => .pure htext

end Element

-- =============================================================== root

/-- What is made sure of any element that is read holds of the root of a
text, if the text is read to the end of that. -/
theorem exists_root_of_result {expected text : String} {f : Element → Reading α}
    {Q : Element → α → Prop} (hf : ∀ e, Ensures (· ∈ e.tags) (f e) (Q e))
    (hclosed : ∀ e, Ensures (fun _ => True) (f e) fun _ => e.ending = .closed) {a : α}
    (h : Reading.result (do f (← root expected text)) = .ok a) :
    ∃ e, IsRoot text e ∧ Q e a := by
  unfold Reading.result StateT.run' at h
  obtain ⟨⟨_, s⟩, hrun, rfl⟩ := exists_of_map_eq_ok h
  obtain ⟨e, scope, hroot, hread⟩ := exists_of_run_bind hrun
  obtain ⟨rfl, -⟩ := rootOf_eq_ok hroot
  have htag : ∀ t ∈ [e.tag], t ∈ e.tags := by
    rw [e.tags_eq]
    intro t ht
    rw [List.mem_singleton.1 ht]
    exact List.mem_cons_self ..
  have hending := (hclosed e _ (fun _ _ => trivial) _ s hread).1
  exact ⟨e, isRoot_of_root hroot hending, (hf e _ htag _ s hread).1⟩

end BucketAcl.Xml
