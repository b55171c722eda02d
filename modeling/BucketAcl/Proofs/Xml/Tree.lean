/-
Trees that are written and read again. What is written for a tree spells
this tree, so that it comes back as it was, but for the line ends of its
texts.

Main statement: `parse_write`.
-/
import BucketAcl.Proofs.Xml.Attributes
import BucketAcl.Proofs.Xml.Spelling

namespace BucketAcl.Xml

mutual

/-- A node as it is read again: line ends are normalized. -/
def Node.normalized : Node → Node
  | run pieces => .run (pieces.map Piece.normalized)
  | doctype => .doctype
  | element tag inside ending => .element tag (Node.normalizedAll inside) ending

/-- Nodes as they are read again. -/
def Node.normalizedAll : List Node → List Node
  | [] => []
  | n :: r => n.normalized :: Node.normalizedAll r

end

/-- An element as documents are written with: it holds a text, or
elements. -/
inductive Node.IsWritten : Node → Prop where
  | text {tag : Tag} {pieces : List Piece} (ht : tag.IsWritten) (hne : pieces ≠ [])
      (hp : IsRun pieces) : IsWritten (.element tag [.run pieces] .closed)
  | elements {tag : Tag} {inside : List Node} (ht : tag.IsWritten)
      (h : ∀ n ∈ inside, IsWritten n) : IsWritten (.element tag inside .closed)

-- ============================================================== runs

theorem isReference_of_entityName {c : Char} {name : List Char} (h : entityName? c = some name) :
    IsReference name := by
  rcases eq_of_entityName h with ⟨-, rfl⟩ | ⟨-, rfl⟩ | ⟨-, rfl⟩
  · exact .named (show "lt" ∈ _ by decide)
  · exact .named (show "gt" ∈ _ by decide)
  · exact .named (show "amp" ∈ _ by decide)

theorem isText_of_entityName {c : Char} (h : entityName? c = none) : Token.isText c = true := by
  unfold Token.isText
  rw [Bool.and_eq_true, bne_iff_ne, bne_iff_ne]
  refine ⟨?_, ?_⟩
  · rintro rfl
    cases h
  · rintro rfl
    cases h

/-- Behind a text of a run comes a reference, or nothing. -/
theorem head?_write_of_isRun {ps : List Piece} (hhead : ∀ t, ps.head? ≠ some (.text t)) :
    ∀ c ∈ (ps.flatMap Piece.write).head?, Token.isText c = false := by
  cases ps with
  | nil => exact nofun
  | cons p r =>
      cases p with
      | text t => exact absurd rfl (hhead t)
      | reference name =>
          rintro c ⟨⟩
          decide

/-- What is written for a run spells it. -/
theorem spells_run {ps : List Piece} (hne : ps ≠ []) (h : IsRun ps) :
    Spells (ps.flatMap Piece.write) [.run (ps.map Piece.normalized)] := by
  -- in front of a run, or of nothing, a part joins
  have hjoin (p : Piece) (r : List Piece) :
      Right.addPiece p.normalized (if r = [] then [] else [.run (r.map Piece.normalized)])
        = [.run ((p :: r).map Piece.normalized)] := by
    cases r <;> rfl
  have hall : ∀ ps : List Piece, IsRun ps → Spells (ps.flatMap Piece.write)
      (if ps = [] then [] else [.run (ps.map Piece.normalized)]) := by
    intro ps
    induction ps with
    | nil => exact fun _ => .nil
    | cons p r ih =>
        intro h
        rw [if_neg (List.cons_ne_nil _ _), ← hjoin, List.flatMap_cons]
        cases p with
        | text cs =>
            obtain ⟨⟨hne, hcs⟩, hr, hhead⟩ := h
            exact .text hne (fun c hc => isText_of_entityName (hcs c hc))
              (head?_write_of_isRun hhead) (ih hr)
        | reference name =>
            obtain ⟨⟨c, hc⟩, hr⟩ := h
            have hform : (Piece.reference name).write ++ r.flatMap Piece.write
                = '&' :: (name ++ ';' :: r.flatMap Piece.write) := by
              simp [Piece.write, writeReference]
            rw [hform]
            exact .reference (isReference_of_entityName hc) (ih hr)
  have hps := hall ps h
  rwa [if_neg hne] at hps

-- ============================================================== trees

namespace Node

theorem write_element (tag : Tag) (n : Node) (r : List Node) (ending : Ending) :
    (Node.element tag (n :: r) ending).write
      = '<' :: (tag.content ++ '>' :: (Node.writeAll (n :: r)
        ++ '<' :: '/' :: (tag.name.toList ++ ['>']))) := by
  rw [Node.write]
  simp [Tag.content]

/-- What is written for elements spells them one after the other, if it
does for each. -/
theorem spells_writeAll {ns : List Node}
    (h : ∀ n ∈ ns, ∀ r ms, Spells r ms → Spells (n.write ++ r) (n.normalized :: ms)) :
    Spells (Node.writeAll ns) (Node.normalizedAll ns) := by
  induction ns with
  | nil =>
      rw [Node.writeAll, Node.normalizedAll]
      exact .nil
  | cons n r ih =>
      obtain ⟨hn, hr⟩ := List.forall_mem_cons.1 h
      rw [Node.writeAll, Node.normalizedAll]
      exact hn _ _ (ih hr)

/-- A written element spells itself, but for its line ends. -/
theorem IsWritten.spells_append {n : Node} (h : n.IsWritten) :
    ∀ r ms, Spells r ms → Spells (n.write ++ r) (n.normalized :: ms) := by
  have hclosed {tag : Tag} (ht : tag.IsWritten) (m : Node) (ns : List Node)
      (hinside : Spells (Node.writeAll (m :: ns)) (Node.normalizedAll (m :: ns)))
      (r : List Char) (ms : List Node) (hr : Spells r ms) :
      Spells ((Node.element tag (m :: ns) .closed).write ++ r)
        ((Node.element tag (m :: ns) .closed).normalized :: ms) := by
    have hform : (Node.element tag (m :: ns) .closed).write ++ r
        = '<' :: (tag.content ++ '>' :: (Node.writeAll (m :: ns)
          ++ '<' :: '/' :: (tag.name.toList ++ ([] ++ '>' :: r)))) := by
      rw [write_element]
      simp
    rw [hform, Node.normalized]
    exact .element ht.isWellFormed hinside (fun _ h => nomatch h) hr
  induction h with
  | @text tag pieces ht hne hp =>
      refine hclosed ht _ _ ?_
      rw [Node.writeAll, Node.writeAll, Node.write, List.append_nil, Node.normalizedAll,
        Node.normalizedAll, Node.normalized]
      exact spells_run hne hp
  | @elements tag inside ht h ih =>
      cases inside with
      | nil =>
          intro r ms hr
          have hform : (Node.element tag [] .closed).write ++ r
              = '<' :: (tag.content ++ '/' :: '>' :: r) := by
            rw [Node.write]
            simp [Tag.content]
          rw [hform, Node.normalized, Node.normalizedAll]
          exact .selfClosed ht.isWellFormed hr
      | cons n ns => exact hclosed ht n ns (spells_writeAll ih)

/-- A document that is one written element spells this element. -/
theorem IsWritten.spells {n : Node} (h : n.IsWritten) : Spells n.write [n.normalized] := by
  have hall := h.spells_append [] [] .nil
  rwa [List.append_nil] at hall

theorem IsWritten.head?_write {n : Node} (h : n.IsWritten) : n.write.head? = some '<' := by
  cases h with
  | text ht hne hp =>
      rw [write_element]
      rfl
  | @elements tag inside ht h =>
      cases inside with
      | nil =>
          rw [Node.write]
          rfl
      | cons n r =>
          rw [write_element]
          rfl

/-- A document that is one written element is read as this element. -/
theorem IsWritten.parse_write {n : Node} (h : n.IsWritten) :
    Content.parse n.write = ⟨[n.normalized], none⟩ := by
  refine h.spells.parse ?_
  rw [h.head?_write]
  decide

end Node

end BucketAcl.Xml
