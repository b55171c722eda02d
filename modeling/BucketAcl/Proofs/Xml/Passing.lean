/-
What is passed over. Of an element that nothing is read of, a few tags
are looked at all the same: they must bind no prefix against the rules of
the two reserved ones. That is all it can fail in where the element is
well-formed, and so all that a reading can fail in that passes over such
elements and can read the others.

Main statements: `givesIf_skip` and `givesIf_fold`.
-/
import BucketAcl.Proofs.Xml.Ensures
import BucketAcl.Proofs.Xml.Reading

namespace BucketAcl.Xml

-- ============================================================ bindings

/-- A binding by the rules: `xmlns` is never bound, `xml` only to its
namespace, and no other prefix to the namespace of one of the two. -/
def IsAllowed : Option String × String → Prop
  | (none, _) => True
  | (some pfx, uri) => pfx ≠ "xmlns" ∧ uri ≠ xmlnsNamespace ∧ (pfx = "xml" ↔ uri = xmlNamespace)

instance (b : Option String × String) : Decidable (IsAllowed b) := by
  unfold IsAllowed
  split <;> infer_instance

theorem bindingFault?_eq_none_iff (b : Option String × String) :
    bindingFault? b = none ↔ IsAllowed b := by
  have hdistinct : xmlNamespace ≠ xmlnsNamespace := by decide
  unfold bindingFault? IsAllowed
  split
  · simp
  · rename_i uri
    by_cases h : uri = xmlNamespace
    · simp [h, hdistinct]
    · simp [h]
  · simp
  · rename_i pfx uri hxml hxmlns
    by_cases h : uri = xmlNamespace
    · simp [h, show pfx ≠ "xml" from hxml]
    · by_cases h' : uri = xmlnsNamespace <;> simp_all

/-- A tag that binds nothing against the rules. -/
def Tag.KeepsRules (tag : Tag) : Prop := ∀ b ∈ tag.bindings, IsAllowed b

instance (tag : Tag) : Decidable tag.KeepsRules := inferInstanceAs (Decidable (∀ b ∈ _, _))

theorem checkBindings_eq_ok_iff {tag : Tag} : tag.checkBindings = .ok () ↔ tag.KeepsRules := by
  have hnone : tag.bindings.findSome? bindingFault? = none ↔ tag.KeepsRules :=
    List.findSome?_eq_none_iff.trans <| forall₂_congr fun b _ => bindingFault?_eq_none_iff b
  rw [← hnone]
  unfold Tag.checkBindings
  cases tag.bindings.findSome? bindingFault? with
  | some f => exact iff_of_false nofun nofun
  | none => exact iff_of_true rfl rfl

theorem exists_fault_of_not_keepsRules {tag : Tag} (h : ¬ tag.KeepsRules) :
    ∃ f, tag.checkBindings = .error (.binding f) := by
  rw [← checkBindings_eq_ok_iff] at h
  unfold Tag.checkBindings at h ⊢
  cases hfault : tag.bindings.findSome? bindingFault? with
  | some f => exact ⟨f, rfl⟩
  | none =>
      rw [hfault] at h
      exact absurd rfl h

-- ============================================================ readings

variable {α β σ : Type}

/-- A reading that gives a value, in any scope, if something holds, and
that finds a binding against the rules if it does not. -/
def GivesIf (P : Prop) (r : Reading α) (a : α) : Prop :=
  ∀ s, (P → ∃ t, r.run s = .ok (a, t)) ∧ (¬ P → ∃ f, r.run s = .error (.markup (.binding f)))

namespace GivesIf

variable {P Q : Prop} {r : Reading α} {a : α}

theorem congr (h : GivesIf P r a) (hPQ : P ↔ Q) : GivesIf Q r a := by
  rwa [← propext hPQ]

theorem ofYields (h : Yields r a) : GivesIf True r a :=
  fun s => ⟨fun _ => ⟨s, h s⟩, fun hno => absurd trivial hno⟩

theorem pure (a : α) : GivesIf True (Pure.pure a) a := ofYields (.pure a)

theorem bind {f : α → Reading β} {b : β} (hr : GivesIf P r a) (hf : GivesIf Q (f a) b) :
    GivesIf (P ∧ Q) (r >>= f) b := by
  intro s
  rw [StateT.run_bind]
  by_cases hP : P
  · obtain ⟨t, ht⟩ := (hr s).1 hP
    rw [ht]
    exact ⟨fun h => (hf t).1 h.2, fun h => (hf t).2 fun hQ => h ⟨hP, hQ⟩⟩
  · obtain ⟨f', hf'⟩ := (hr s).2 hP
    rw [hf']
    exact ⟨fun h => absurd h.1 hP, fun _ => ⟨f', rfl⟩⟩

/-- What follows a reading that gives a value decides. -/
theorem andThen {f : α → Reading β} {b : β} (hr : GivesIf True r a) (hf : GivesIf Q (f a) b) :
    GivesIf Q (r >>= f) b := (hr.bind hf).congr (iff_of_eq (true_and Q))

/-- What follows a reading and always gives a value changes nothing. -/
theorem followed {f : α → Reading β} {b : β} (hr : GivesIf P r a) (hf : GivesIf True (f a) b) :
    GivesIf P (r >>= f) b := (hr.bind hf).congr (iff_of_eq (and_true P))

theorem map (f : α → β) (hr : GivesIf P r a) : GivesIf P (f <$> r) (f a) := by
  intro s
  rw [StateT.run_map]
  refine ⟨fun hP => ?_, fun hP => ?_⟩
  · obtain ⟨t, ht⟩ := (hr s).1 hP
    exact ⟨t, by rw [ht]; rfl⟩
  · obtain ⟨f', hf'⟩ := (hr s).2 hP
    exact ⟨f', by rw [hf']; rfl⟩

/-- A field that is not filled yet takes what is read for it. -/
theorem once (name : String) (hr : GivesIf P r a) : GivesIf P (Xml.once name none r) (some a) :=
  hr.map some

theorem checkBindings (tag : Tag) : GivesIf tag.KeepsRules (Reading.ofMarkup tag.checkBindings) () := by
  intro s
  refine ⟨fun h => ?_, fun h => ?_⟩
  · rw [checkBindings_eq_ok_iff.2 h]
    exact ⟨s, rfl⟩
  · obtain ⟨f, hf⟩ := exists_fault_of_not_keepsRules h
    rw [hf]
    exact ⟨f, rfl⟩

theorem enter (tag : Tag) : GivesIf True (Reading.enter tag) () :=
  fun s => ⟨fun _ => ⟨tag :: s, rfl⟩, fun hno => absurd trivial hno⟩

theorem leave : GivesIf True Reading.leave () :=
  fun s => ⟨fun _ => ⟨s.tail, rfl⟩, fun hno => absurd trivial hno⟩

/-- An element is visited if its tag keeps the rules and it can be read. -/
theorem visit {onText : σ → List Char → Reading σ} {onChild : σ → Element → Reading σ} {s t : σ}
    {e : Element} (h : GivesIf P (onChild s e) t) :
    GivesIf (e.tag.KeepsRules ∧ P) (Node.visit onText onChild s e.node) t :=
  (checkBindings e.tag).bind <| (enter e.tag).andThen <| h.followed <| leave.andThen (pure t)

end GivesIf

-- ======================================================== passing over

namespace Element

/-- The tags that are looked at inside of what is passed over: that of
the element it begins with, and of the one that begins with, and of the
one that follows what it begins with. -/
def lookedAtInside : List Node → List Tag
  | .element tag inside _ :: r => tag :: ((firstTag? inside).toList ++ (firstTag? r).toList)
  | _ :: r => (firstTag? r).toList
  | [] => []

/-- The tags that are looked at in an element that is passed over. -/
def lookedAt (e : Element) : List Tag := e.tag :: lookedAtInside e.inside

/-- An element that can be passed over. -/
def IsPassable (e : Element) : Prop := ∀ tag ∈ e.lookedAt, tag.KeepsRules

instance (e : Element) : Decidable e.IsPassable := inferInstanceAs (Decidable (∀ tag ∈ _, _))

theorem givesIf_passOver {e : Element} (he : e.ending = .closed) (nodes : List Node) :
    GivesIf (∀ tag ∈ (firstTag? nodes).toList, tag.KeepsRules) (e.passOver nodes) () := by
  unfold passOver
  rw [he]
  cases firstTag? nodes with
  | none => exact (GivesIf.pure ()).congr (iff_of_true trivial fun _ h => nomatch h)
  | some tag =>
      have henter : GivesIf True (if tag.name ≠ e.tag.name then Reading.enter tag else pure ()) () := by
        split
        · exact .enter tag
        · exact .pure ()
      refine .congr (.followed (.checkBindings tag) (.andThen (.pure ()) henter)) ?_
      rw [Option.toList_some, List.forall_mem_singleton]

/-- A well-formed element is passed over if the tags that are looked at
keep the rules. -/
theorem givesIf_skip {e : Element} (he : e.node.IsReadable) :
    GivesIf (∀ tag ∈ lookedAtInside e.inside, tag.KeepsRules) e.skip () := by
  obtain ⟨tag, inside, ending⟩ := e
  cases he with
  | element _ hinside =>
      unfold skip
      dsimp only
      cases inside with
      | nil => exact (GivesIf.pure ()).congr (iff_of_true trivial fun _ h => nomatch h)
      | cons n r =>
          obtain ⟨hn, -⟩ := List.forall_mem_cons.1 hinside
          cases hn with
          | @run pieces cs hcs =>
              have hrun : GivesIf True (Reading.ofMarkup (resolveRun pieces)) cs :=
                .ofYields (.ofMarkup hcs)
              exact hrun.andThen (givesIf_passOver rfl r)
          | element tag' _ =>
              refine .congr (.bind (.checkBindings tag') <| .andThen (.enter tag') <|
                .bind (givesIf_passOver rfl _) <| .andThen .leave (givesIf_passOver rfl r)) ?_
              unfold lookedAtInside
              rw [List.forall_mem_cons, List.forall_mem_append]

/-- An element that nothing is read of is visited if it can be passed
over. -/
theorem givesIf_visit_skip {onText : σ → List Char → Reading σ}
    {onChild : σ → Element → Reading σ} {s : σ} {e : Element} (he : e.node.IsReadable)
    (h : onChild s e = (do
      e.skip
      return s)) :
    GivesIf e.IsPassable (Node.visit onText onChild s e.node) s := by
  have hskip : GivesIf _ (onChild s e) s := h ▸ (givesIf_skip he).followed (.pure s)
  refine hskip.visit.congr ?_
  unfold IsPassable lookedAt
  rw [List.forall_mem_cons]

end Element

-- =========================================================== children

/-- Of readable nodes only the elements count, where texts between them
change nothing. -/
theorem foldlM_visit_children {onText : σ → List Char → Reading σ}
    {onChild : σ → Element → Reading σ} {ns : List Node} (hns : ∀ n ∈ ns, n.IsReadable)
    (htext : ∀ pieces cs, .run pieces ∈ ns → resolveRun pieces = .ok cs → ∀ s, onText s cs = pure s)
    (s : σ) :
    ns.foldlM (Node.visit onText onChild) s
      = (ns.filterMap Element.ofNode?).foldlM (fun s c => Node.visit onText onChild s c.node) s := by
  induction ns generalizing s with
  | nil => rfl
  | cons n r ih =>
      obtain ⟨hn, hr⟩ := List.forall_mem_cons.1 hns
      have hrest := ih hr fun pieces cs hmem => htext pieces cs (List.mem_cons_of_mem _ hmem)
      cases hn with
      | @run pieces cs hcs =>
          have hvisit : Node.visit onText onChild s (.run pieces) = pure s := by
            show (do onText s (← Reading.ofMarkup (resolveRun pieces))) = _
            rw [hcs]
            exact htext pieces cs (List.mem_cons_self ..) hcs s
          rw [List.foldlM_cons, hvisit, pure_bind, hrest]
          rfl
      | element tag _ =>
          rw [List.foldlM_cons]
          show _ = (do
            let s ← Node.visit onText onChild s (.element tag _ .closed)
            (r.filterMap Element.ofNode?).foldlM
              (fun s (c : Element) => Node.visit onText onChild s c.node) s)
          exact congrArg _ (funext hrest)

/-- Children are visited one after the other. What is known after some of
them depends on the fields that they fill only; those of some names are
filled once at most. -/
theorem GivesIf.foldlM {f : σ → Element → Reading σ} {st : List String → σ} {names : List String}
    {P : Element → Prop} {cs : List Element}
    (hone : ∀ name ∈ names, (cs.filter (·.field = name)).length ≤ 1)
    (hstep : ∀ done, ∀ c ∈ cs, (c.field ∈ names → c.field ∉ done) →
      GivesIf (P c) (f (st done) c) (st (done ++ [c.field]))) :
    GivesIf (∀ c ∈ cs, P c) (cs.foldlM f (st [])) (st (cs.map Element.field)) := by
  -- no child is left for a field of these names that is filled already
  have hall : ∀ (rest : List Element) (done : List String), (∀ c ∈ rest, c ∈ cs) →
      (∀ name ∈ names, (rest.filter (·.field = name)).length ≤ 1) →
      (∀ c ∈ rest, c.field ∈ names → c.field ∉ done) →
      GivesIf (∀ c ∈ rest, P c) (rest.foldlM f (st done)) (st (done ++ rest.map Element.field)) := by
    intro rest
    induction rest with
    | nil =>
        intro done _ _ _
        rw [List.map_nil, List.append_nil]
        exact (GivesIf.pure _).congr (iff_of_true trivial fun _ h => nomatch h)
    | cons c r ih =>
        intro done hmem hone hdone
        obtain ⟨hc, hr⟩ := List.forall_mem_cons.1 hmem
        obtain ⟨hcdone, hrdone⟩ := List.forall_mem_cons.1 hdone
        have hrone : ∀ name ∈ names, (r.filter (·.field = name)).length ≤ 1 := fun name hname =>
          Nat.le_trans (List.Sublist.length_le ((List.sublist_cons_self c r).filter _))
            (hone name hname)
        have hnext : ∀ d ∈ r, d.field ∈ names → d.field ∉ done ++ [c.field] := by
          intro d hd hname hin
          rcases List.mem_append.1 hin with hin | hin
          · exact hrdone d hd hname hin
          · have hfield : d.field = c.field := List.mem_singleton.1 hin
            have htwo := hone d.field hname
            rw [List.filter_cons_of_pos (by simp [hfield]), List.length_cons] at htwo
            have hpos : 0 < (r.filter (·.field = d.field)).length :=
              List.length_pos_iff.2 (List.ne_nil_of_mem (List.mem_filter.2 ⟨hd, by simp⟩))
            omega
        have hrest := ih (done ++ [c.field]) hr hrone hnext
        rw [List.append_assoc] at hrest
        exact ((hstep done c hc hcdone).bind hrest).congr List.forall_mem_cons.symm
  have hcs := hall cs [] (fun _ h => h) hone fun c _ _ => List.not_mem_nil
  rwa [List.nil_append] at hcs

namespace Element

/-- A well-formed element is closed. -/
theorem ending_of_isReadable {e : Element} (he : e.node.IsReadable) : e.ending = .closed := by
  obtain ⟨tag, inside, ending⟩ := e
  cases he
  rfl

/-- What is inside of a well-formed element is well-formed. -/
theorem isReadable_of_mem_inside {e : Element} (he : e.node.IsReadable) :
    ∀ n ∈ e.inside, n.IsReadable := by
  obtain ⟨tag, inside, ending⟩ := e
  cases he with
  | element _ hinside => exact hinside

theorem isReadable_of_mem_children {e c : Element} (he : e.node.IsReadable) (hc : c ∈ e.children) :
    c.node.IsReadable := by
  obtain ⟨n, hn, hnode⟩ := List.mem_filterMap.1 hc
  cases n with
  | element tag inside ending =>
      cases hnode
      exact isReadable_of_mem_inside he _ hn
  | run pieces => cases hnode
  | doctype => cases hnode

/-- An element is read child by child, where texts between them change
nothing. -/
theorem givesIf_foldInside {e : Element} (he : e.node.IsReadable)
    {onText : σ → List Char → Reading σ} {onChild : σ → Element → Reading σ}
    (htext : ∀ pieces cs, .run pieces ∈ e.inside → resolveRun pieces = .ok cs →
      ∀ s, onText s cs = pure s)
    {P : Prop} {s t : σ}
    (h : GivesIf P (e.children.foldlM (fun s c => Node.visit onText onChild s c.node) s) t) :
    GivesIf P (e.foldInside onText onChild s) t := by
  unfold foldInside
  rw [foldlM_visit_children (isReadable_of_mem_inside he) htext, ending_of_isReadable he]
  exact h.followed (.andThen (.pure ()) (.pure _))

/-- An element whose attributes are read, and that has each field of some
names once at most, is read child by child, in whichever order they
stand. -/
theorem givesIf_fold {e : Element} (he : e.node.IsReadable)
    {onAttribute : σ → Attribute → Reading σ} {onChild : σ → Element → Reading σ} {s : σ}
    {t : List String → σ} {names : List String} {P : Element → Prop}
    (ha : Yields (e.foldAttributes onAttribute s) (t []))
    (hone : ∀ name ∈ names, (e.childrenNamed name).length ≤ 1)
    (hstep : ∀ done, ∀ c ∈ e.children, (c.field ∈ names → c.field ∉ done) →
      GivesIf (P c) (Node.visit (fun s _ => pure s) onChild (t done) c.node)
        (t (done ++ [c.field]))) :
    GivesIf (∀ c ∈ e.children, P c) (e.fold onAttribute onChild s) (t (e.children.map field)) := by
  unfold fold
  exact (GivesIf.ofYields ha).andThen <|
    givesIf_foldInside he (fun _ _ _ _ _ => rfl) (GivesIf.foldlM hone hstep)

/-- A text is read where an element holds it. -/
theorem yields_of_holdsText {e : Element} (he : e.ending = .closed) {text : String}
    (h : e.HoldsText text) : Yields e.text text := by
  obtain ⟨hchildren, parts, hparts, htext⟩ := h
  have hfold : ∀ (ns : List Node) (parts : List (List Char)) (before : List Char),
      ns.filterMap ofNode? = [] → (ns.filterMap runOf?).mapM resolveRun = .ok parts →
      Yields (ns.foldlM (Node.visit (fun s t => pure (s ++ t))
        fun _ child => Reading.fault (.unexpectedStart child.tag.name)) before)
        (before ++ parts.flatten) := by
    intro ns
    induction ns with
    | nil =>
        intro parts before _ hparts
        obtain rfl : parts = [] := (Except.ok.inj hparts).symm
        rw [List.flatten_nil, List.append_nil]
        exact .pure before
    | cons n r ih =>
        intro parts before hchildren hparts
        cases n with
        | element tag inside ending => cases hchildren
        | doctype => exact .foldlM_cons (.pure before) (ih parts before hchildren hparts)
        | run pieces =>
            have hrun : ((pieces :: r.filterMap runOf?).mapM resolveRun) = .ok parts := hparts
            rw [List.mapM_cons] at hrun
            obtain ⟨part, hpart, hrun⟩ := exists_of_bind_eq_ok hrun
            obtain ⟨rest, hrest, hrun⟩ := exists_of_bind_eq_ok hrun
            cases hrun
            rw [List.flatten_cons, ← List.append_assoc]
            refine .foldlM_cons (.bind (.ofMarkup hpart) (.pure _)) ?_
            exact ih rest (before ++ part) hchildren hrest
  have hinside := hfold e.inside parts [] hchildren hparts
  rw [List.nil_append, ← htext] at hinside
  have hall : Yields e.text (String.ofList text.toList) :=
    .bind (yields_foldInside he hinside) (.pure _)
  rwa [String.ofList_toList] at hall

end Element

end BucketAcl.Xml
