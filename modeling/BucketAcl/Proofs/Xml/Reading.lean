/-
Readings that succeed. A reading yields a value if it gives it in any
scope and leaves the scope as it was; what is read one after the other
yields what each part yields.
-/
import BucketAcl.Proofs.Xml.Tree
import BucketAcl.Xml.Element

namespace BucketAcl.Xml

variable {α β σ : Type}

/-- A reading that gives a value, in any scope. -/
def Yields (r : Reading α) (a : α) : Prop := ∀ s, r.run s = .ok (a, s)

namespace Yields

theorem pure (a : α) : Yields (Pure.pure a) a := fun _ => rfl

theorem bind {r : Reading α} {f : α → Reading β} {a : α} {b : β} (hr : Yields r a)
    (hf : Yields (f a) b) : Yields (r >>= f) b := by
  intro s
  rw [StateT.run_bind, hr]
  exact hf s

theorem map {r : Reading α} {a : α} (f : α → β) (hr : Yields r a) : Yields (f <$> r) (f a) := by
  intro s
  rw [StateT.run_map, hr]
  rfl

theorem ofMarkup {e : Except Fault α} {a : α} (h : e = .ok a) : Yields (Reading.ofMarkup e) a := by
  rw [h]
  exact pure a

/-- A field that is not filled yet takes what is read for it. -/
theorem once {r : Reading α} {a : α} (name : String) (hr : Yields r a) :
    Yields (Xml.once name none r) (some a) := hr.map some

theorem required (name : String) (a : α) : Yields (Xml.required name (some a)) a := pure a

theorem result {r : Reading α} {a : α} (hr : Yields r a) : r.result = .ok a := by
  unfold Reading.result StateT.run'
  show Prod.fst <$> r.run [] = _
  rw [hr]
  rfl

theorem foldlM_cons {x : β} {xs : List β} {f : σ → β → Reading σ} {s t u : σ}
    (hx : Yields (f s x) t) (hxs : Yields (xs.foldlM f t) u) :
    Yields ((x :: xs).foldlM f s) u := hx.bind hxs

theorem foldlM_append {xs ys : List β} {f : σ → β → Reading σ} {s t u : σ}
    (hx : Yields (xs.foldlM f s) t) (hy : Yields (ys.foldlM f t) u) :
    Yields ((xs ++ ys).foldlM f s) u := by
  rw [List.foldlM_append]
  exact hx.bind hy

end Yields

-- =========================================================== elements

/-- A child is read in the scope of its own tag, which is left again. -/
theorem yields_visit {onText : σ → List Char → Reading σ} {onChild : σ → Element → Reading σ}
    {s t : σ} {tag : Tag} {inside : List Node} {ending : Ending}
    (hb : tag.checkBindings = .ok ()) (h : Yields (onChild s ⟨tag, inside, ending⟩) t) :
    Yields (Node.visit onText onChild s (.element tag inside ending)) t := by
  unfold Node.visit
  refine (Yields.ofMarkup hb).bind ?_
  intro scope
  show (do
    let s ← onChild s ⟨tag, inside, ending⟩
    Reading.leave
    return s : Reading σ).run (tag :: scope) = _
  rw [StateT.run_bind, h]
  rfl

namespace Element

/-- An element that is closed is read attribute by attribute and node by
node. -/
theorem yields_foldInside {e : Element} (he : e.ending = .closed)
    {onText : σ → List Char → Reading σ} {onChild : σ → Element → Reading σ} {s t : σ}
    (h : Yields (e.inside.foldlM (Node.visit onText onChild) s) t) :
    Yields (e.foldInside onText onChild s) t := by
  unfold foldInside
  rw [he]
  exact h.bind (Yields.pure t)

theorem yields_fold {e : Element} (he : e.ending = .closed)
    {onAttribute : σ → Attribute → Reading σ} {onChild : σ → Element → Reading σ} {s t u : σ}
    (ha : Yields (e.foldAttributes onAttribute s) t)
    (h : Yields (e.inside.foldlM (Node.visit (fun s _ => pure s) onChild) t) u) :
    Yields (e.fold onAttribute onChild s) u := by
  unfold fold
  exact ha.bind (yields_foldInside he h)

end Element

-- =============================================================== text

/-- The text of an element that was written for a text: its line ends
are normalized. -/
theorem yields_text (tag : Tag) (text : String) :
    Yields (Element.text ⟨tag, Node.normalizedAll (textNodes text), .closed⟩)
      (.ofList (Token.normalizeLineEnds text.toList)) := by
  unfold Element.text
  refine Yields.bind (Element.yields_foldInside rfl
    (t := Token.normalizeLineEnds text.toList) ?_) (Yields.pure _)
  unfold textNodes
  by_cases ht : text = ""
  · rw [if_pos ht, ht, Node.normalizedAll]
    exact Yields.pure []
  · rw [if_neg ht, Node.normalizedAll, Node.normalizedAll, Node.normalized]
    refine Yields.foldlM_cons (Yields.bind (Yields.ofMarkup (resolveRun_piecesOf _)) ?_)
      (Yields.pure _)
    exact Yields.pure _

/-- Neither an element nor the one around it is declared to be nil. -/
theorem yields_isNil {e : Element} {parent : Tag} (he : ∀ scope uri, e.tag.isNil scope uri = false)
    (hp : ∀ scope uri, parent.isNil scope uri = false) : Yields (e.isNil parent) false := by
  intro scope
  show Except.ok ((_ || _), scope) = _
  rw [he, hp]
  rfl

theorem yields_optionalText {e : Element} {parent : Tag} {text : String}
    (he : ∀ scope uri, e.tag.isNil scope uri = false)
    (hp : ∀ scope uri, parent.isNil scope uri = false) (ht : Yields e.text text) :
    Yields (e.optionalText parent) (some text) :=
  (yields_isNil he hp).bind (ht.bind (Yields.pure _))

end BucketAcl.Xml
