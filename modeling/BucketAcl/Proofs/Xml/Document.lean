/-
The tree of a document. Written back into tokens, it is what was read of
the document, in order and with nothing left out; and what an element
holds that is closed is closed itself. So the element that a document is
about is found in its tokens as a whole.

Main statement: `isRoot_of_root`.
-/
import BucketAcl.Proofs.Result
import BucketAcl.Xml.Element

namespace BucketAcl.Xml

-- ============================================================= tokens

/-- A part of a run as it was scanned. -/
def Piece.scanned : Piece → Token
  | text cs => .text cs
  | reference name => .reference name

mutual

/-- The tokens of a node. An element that is cut off has no end tag. -/
def Node.tokens : Node → List Token
  | run pieces => pieces.map Piece.scanned
  | doctype => [.doctype]
  | element tag inside .closed =>
    .start tag :: (Node.tokensAll inside ++ [.stop tag.name])
  | element tag inside (.cut _) => .start tag :: Node.tokensAll inside

/-- The tokens of nodes one after the other. -/
def Node.tokensAll : List Node → List Token
  | [] => []
  | n :: r => n.tokens ++ Node.tokensAll r

end

theorem Node.tokensAll_append (ms ns : List Node) :
    Node.tokensAll (ms ++ ns) = Node.tokensAll ms ++ Node.tokensAll ns := by
  induction ms with
  | nil => simp [Node.tokensAll]
  | cons n r ih => rw [List.cons_append, Node.tokensAll, Node.tokensAll, ih, List.append_assoc]

namespace Right

/-- The tokens of what follows a place. -/
def tokens (right : Right) : List Token :=
  Node.tokensAll right.nodes
    ++ right.stops.flatMap fun (name, outer) => .stop name :: Node.tokensAll outer

/-- A part of a text in front of nodes is in front of their tokens. -/
theorem tokensAll_addPiece (piece : Piece) (nodes : List Node) :
    Node.tokensAll (addPiece piece nodes) = piece.scanned :: Node.tokensAll nodes := by
  unfold addPiece
  split
  · rw [Node.tokensAll, Node.tokensAll, Node.tokens, Node.tokens]
    rfl
  · rw [Node.tokensAll, Node.tokens]
    rfl

/-- A token goes in front of the tokens that follow. What stands behind
an end tag that does not match is left out. -/
theorem tokens_add (token : Token) (right : Right) :
    (right.add token).tokens <+: token :: right.tokens := by
  cases token with
  | text cs =>
      unfold add tokens
      rw [tokensAll_addPiece]
      exact List.prefix_rfl
  | reference name =>
      unfold add tokens
      rw [tokensAll_addPiece]
      exact List.prefix_rfl
  | doctype =>
      unfold add tokens
      rw [Node.tokensAll, Node.tokens]
      exact List.prefix_rfl
  | stop name =>
      unfold add tokens
      rw [Node.tokensAll]
      exact List.prefix_rfl
  | start tag =>
      unfold add addStart
      obtain ⟨nodes, stops, fault⟩ := right
      cases stops with
      | nil =>
          unfold tokens
          rw [Node.tokensAll, Node.tokensAll, Node.tokens, List.append_nil]
          exact List.prefix_rfl
      | cons s r =>
          obtain ⟨name, outer⟩ := s
          dsimp only
          split
          · rename_i h
            subst h
            unfold tokens
            dsimp only
            rw [Node.tokensAll, Node.tokens, List.flatMap_cons]
            simp
          · unfold tokens
            dsimp only
            rw [Node.tokensAll, Node.tokensAll, Node.tokens, List.append_nil, List.flatMap_nil,
              List.append_nil]
            exact (List.prefix_cons_inj _).2 (List.prefix_append _ _)

theorem tokens_foldr_add (ts : List Token) (fault : Option Fault) :
    (ts.foldr add ⟨[], [], fault⟩).tokens <+: ts := by
  induction ts with
  | nil =>
      unfold tokens
      rw [List.foldr_nil, Node.tokensAll]
      exact List.prefix_rfl
  | cons t r ih =>
      rw [List.foldr_cons]
      exact (tokens_add t _).trans ((List.prefix_cons_inj t).2 ih)

end Right

-- ============================================================= closed

/-- A node of which nothing is cut off. -/
inductive Node.IsClosed : Node → Prop where
  | run (pieces : List Piece) : IsClosed (.run pieces)
  | doctype : IsClosed .doctype
  | element (tag : Tag) {inside : List Node} (h : ∀ n ∈ inside, IsClosed n) :
      IsClosed (.element tag inside .closed)

/-- A node of which nothing is cut off, unless it is itself. -/
def Node.IsSound (n : Node) : Prop :=
  ∀ tag inside, n = .element tag inside .closed → n.IsClosed

/-- Levels of nodes, from the innermost to the outermost: something may
be cut off in the outermost only. -/
def Sound (nodes : List Node) : List (List Node) → Prop
  | [] => ∀ n ∈ nodes, n.IsSound
  | outer :: r => (∀ n ∈ nodes, n.IsClosed) ∧ Sound outer r

/-- Nodes that are closed may be put to a level. -/
theorem Sound.of_closed {nodes nodes' : List Node} {levels : List (List Node)}
    (h : Sound nodes levels) (hnodes : ∀ n ∈ nodes', n.IsClosed ∨ n ∈ nodes) :
    Sound nodes' levels := by
  cases levels with
  | nil =>
      intro n hn tag inside he
      rcases hnodes n hn with hclosed | hmem
      · exact hclosed
      · exact h n hmem tag inside he
  | cons outer r =>
      refine ⟨fun n hn => ?_, h.2⟩
      rcases hnodes n hn with hclosed | hmem
      · exact hclosed
      · exact h.1 n hmem

namespace Right

/-- What follows a place, level by level, is cut off in the last level
only. -/
def IsSound (right : Right) : Prop := Sound right.nodes (right.stops.map Prod.snd)

theorem closed_or_mem_of_mem_addPiece {piece : Piece} {nodes : List Node} {n : Node}
    (h : n ∈ addPiece piece nodes) : n.IsClosed ∨ n ∈ nodes := by
  unfold addPiece at h
  split at h
  · rcases List.mem_cons.1 h with rfl | h
    · exact .inl (.run _)
    · exact .inr (List.mem_cons_of_mem _ h)
  · rcases List.mem_cons.1 h with rfl | h
    · exact .inl (.run _)
    · exact .inr h

/-- An element that is cut off is not closed. -/
theorem isSound_cut (tag : Tag) (nodes : List Node) (fault fault' : Option Fault) :
    IsSound { nodes := [.element tag nodes (.cut fault)], stops := [], fault := fault' } := by
  intro n hn tag' inside he
  rw [List.mem_singleton.1 hn] at he
  cases he

theorem isSound_add {token : Token} {right : Right} (h : right.IsSound) :
    (right.add token).IsSound := by
  cases token with
  | text cs => exact Sound.of_closed h fun n hn => closed_or_mem_of_mem_addPiece hn
  | reference name => exact Sound.of_closed h fun n hn => closed_or_mem_of_mem_addPiece hn
  | doctype =>
      refine Sound.of_closed h fun n hn => ?_
      rcases List.mem_cons.1 hn with rfl | hn
      · exact .inl .doctype
      · exact .inr hn
  | stop name => exact ⟨fun n hn => (by cases hn), h⟩
  | start tag =>
      unfold add addStart
      obtain ⟨nodes, stops, fault⟩ := right
      cases stops with
      | nil => exact isSound_cut tag nodes fault fault
      | cons s r =>
          dsimp only
          split
          · -- the nodes in front of an end tag are no outermost level
            obtain ⟨hclosed, houter⟩ := h
            refine Sound.of_closed houter fun n hn => ?_
            rcases List.mem_cons.1 hn with rfl | hn
            · exact .inl (.element tag hclosed)
            · exact .inr hn
          · exact isSound_cut tag nodes _ _

theorem isSound_foldr_add (ts : List Token) (fault : Option Fault) :
    (ts.foldr add ⟨[], [], fault⟩).IsSound := by
  induction ts with
  | nil => exact fun n hn => (by cases hn)
  | cons t r ih => exact isSound_add ih

/-- What is cut off stands at the outermost level. -/
theorem IsSound.of_mem {right : Right} (h : right.IsSound) {n : Node} (hn : n ∈ right.nodes) :
    n.IsSound := by
  obtain ⟨nodes, stops, fault⟩ := right
  cases stops with
  | nil => exact h n hn
  | cons s r => exact fun _ _ _ => h.1 n hn

end Right

-- =============================================================== root

/-- The tokens of a text, without a byte order mark at its head. -/
def tokensOf (text : String) : List Token :=
  (Token.scan (if text.toList.head? = some '\ufeff' then text.toList.drop 1 else text.toList)).1

/-- The nodes of a text are its tokens, as far as the reading goes. -/
theorem tokensAll_parse (text : String) :
    Node.tokensAll (Content.parse text.toList).nodes <+: tokensOf text := by
  unfold Content.parse tokensOf
  generalize Token.scan _ = scanned
  obtain ⟨ts, fault⟩ := scanned
  have hprefix := Right.tokens_foldr_add ts fault
  unfold Content.ofTokens
  dsimp only
  split
  · exact (List.prefix_append _ _).trans hprefix
  · exact (List.prefix_append _ _).trans hprefix

theorem isSound_of_mem_parse {text : String} {n : Node}
    (h : n ∈ (Content.parse text.toList).nodes) : n.IsSound := by
  unfold Content.parse at h
  generalize Token.scan _ = scanned at h
  obtain ⟨ts, fault⟩ := scanned
  unfold Content.ofTokens at h
  dsimp only at h
  split at h
  · exact (Right.isSound_foldr_add ts fault).of_mem h
  · exact (Right.isSound_foldr_add ts fault).of_mem h

/-- What is read one after the other is read in the scope that is left. -/
theorem exists_of_run_bind {α β : Type} {r : Reading α} {f : α → Reading β} {b : β}
    {s s' : Scope} (h : (r >>= f).run s = .ok (b, s')) :
    ∃ a t, r.run s = .ok (a, t) ∧ (f a).run t = .ok (b, s') := by
  rw [StateT.run_bind] at h
  obtain ⟨⟨a, t⟩, ha, hb⟩ := exists_of_bind_eq_ok h
  exact ⟨a, t, ha, hb⟩

/-- An element as a node. -/
def Element.node (e : Element) : Node := .element e.tag e.inside e.ending

/-- The element that a document is about: its own tokens stand together
among those of the text, with no tag in front of them, and nothing of it
is cut off. -/
structure IsRoot (text : String) (e : Element) : Prop where
  closed : e.node.IsClosed
  tokens : ∃ before after, tokensOf text = before ++ e.node.tokens ++ after
    ∧ ∀ t ∈ before, ∀ tag name, t ≠ .start tag ∧ t ≠ .stop name

/-- Nodes that are no elements have no tags. -/
theorem not_tag_of_mem_tokensAll {nodes : List Node}
    (h : ∀ n ∈ nodes, ∀ tag inside ending, n ≠ .element tag inside ending) :
    ∀ t ∈ Node.tokensAll nodes, ∀ tag name, t ≠ .start tag ∧ t ≠ .stop name := by
  induction nodes with
  | nil =>
      intro t ht
      rw [Node.tokensAll] at ht
      cases ht
  | cons n r ih =>
      intro t ht tag name
      rw [Node.tokensAll] at ht
      rcases List.mem_append.1 ht with ht | ht
      · cases n with
        | run pieces =>
            rw [Node.tokens] at ht
            obtain ⟨p, -, rfl⟩ := List.mem_map.1 ht
            cases p <;> exact ⟨nofun, nofun⟩
        | doctype =>
            rw [Node.tokens, List.mem_singleton] at ht
            rw [ht]
            exact ⟨nofun, nofun⟩
        | element tag inside ending => exact absurd rfl (h _ (List.mem_cons_self ..) _ _ _)
      · exact ih (fun m hm => h m (List.mem_cons_of_mem _ hm)) t ht tag name

/-- The root is the first of the nodes that is an element, and its tag is
in scope. -/
theorem rootOf_eq_ok {expected : String} {end? : Option Fault} {nodes : List Node} {e : Element}
    {s s' : Scope} (h : (rootOf expected end? nodes).run s = .ok (e, s')) :
    s' = e.tag :: s ∧ ∃ before after, nodes = before ++ e.node :: after
      ∧ ∀ n ∈ before, ∀ tag inside ending, n ≠ .element tag inside ending := by
  induction nodes with
  | nil =>
      unfold rootOf at h
      split at h
      · cases h
      · cases h
  | cons n r ih =>
      have hlater {n : Node} (hn : ∀ tag inside ending, n ≠ .element tag inside ending)
          (h : (rootOf expected end? r).run s = .ok (e, s')) :
          s' = e.tag :: s ∧ ∃ before after, n :: r = before ++ e.node :: after
            ∧ ∀ n ∈ before, ∀ tag inside ending, n ≠ .element tag inside ending := by
        obtain ⟨hs, before, after, hnodes, hbefore⟩ := ih h
        refine ⟨hs, n :: before, after, by rw [hnodes]; rfl, ?_⟩
        exact List.forall_mem_cons.2 ⟨hn, hbefore⟩
      cases n with
      | doctype => exact hlater (fun _ _ _ => nofun) h
      | run pieces =>
          obtain ⟨cs, t, hcs, h⟩ := exists_of_run_bind h
          cases hresolve : resolveRun pieces with
          | error f =>
              rw [hresolve] at hcs
              cases hcs
          | ok cs' =>
              rw [hresolve] at hcs
              cases hcs
              split at h
              · exact hlater (fun _ _ _ => nofun) h
              · cases h
      | element tag inside ending =>
          obtain ⟨_, t, hcheck, h⟩ := exists_of_run_bind h
          cases hbindings : tag.checkBindings with
          | error f =>
              rw [hbindings] at hcheck
              cases hcheck
          | ok u =>
              rw [hbindings] at hcheck
              cases hcheck
              cases h
              exact ⟨rfl, [], r, rfl, fun _ hn => (by cases hn)⟩

/-- The root of a text that is closed is what the text is about. -/
theorem isRoot_of_root {expected text : String} {e : Element} {s s' : Scope}
    (h : (root expected text).run s = .ok (e, s')) (hclosed : e.ending = .closed) :
    IsRoot text e := by
  obtain ⟨-, before, after, hnodes, hbefore⟩ := rootOf_eq_ok h
  have hmem : e.node ∈ (Content.parse text.toList).nodes := by
    rw [hnodes]
    exact List.mem_append_right _ (List.mem_cons_self ..)
  have hnode : e.node = .element e.tag e.inside .closed := by
    unfold Element.node
    rw [hclosed]
  refine ⟨isSound_of_mem_parse hmem _ _ hnode, ?_⟩
  obtain ⟨rest, hrest⟩ := tokensAll_parse text
  rw [hnodes, Node.tokensAll_append, Node.tokensAll] at hrest
  refine ⟨Node.tokensAll before, Node.tokensAll after ++ rest, ?_, ?_⟩
  · rw [← hrest]
    simp
  · exact not_tag_of_mem_tokensAll hbefore

end BucketAcl.Xml
