/-
Runs of text. The parts that a text is written in keep to a form in
which no two texts meet, so that they are found again one by one; and
what is read of them is the text with its line ends normalized.

Main statement: `resolveRun_piecesOf`.
-/
import BucketAcl.Xml.Writer

namespace BucketAcl.Xml

-- ========================================================= line ends

/-- A character that line ends are made of, beside the line feed. -/
def isLineEnd (c : Char) : Bool := c == '\r' || c == '\u0085' || c == '\u2028'

namespace Token

theorem normalizeLineEnds_cons {c : Char} (hc : isLineEnd c = false) (r : List Char) :
    normalizeLineEnds (c :: r) = c :: normalizeLineEnds r := by
  simp only [isLineEnd, Bool.or_eq_false_iff, beq_eq_false_iff_ne] at hc
  rw [normalizeLineEnds, if_neg]
  · rintro (h | h | h)
    · exact hc.1.1 h
    · exact hc.1.2 h
    · exact hc.2 h
  · exact fun _ h _ => hc.1.1 h
  · exact fun _ h _ => hc.1.1 h

/-- A text without such characters has its line ends as they are. -/
theorem normalizeLineEnds_eq_self {cs : List Char} (h : ∀ c ∈ cs, isLineEnd c = false) :
    normalizeLineEnds cs = cs := by
  induction cs with
  | nil => rfl
  | cons c r ih =>
      rw [normalizeLineEnds_cons (h c (List.mem_cons_self ..)),
        ih fun x hx => h x (List.mem_cons_of_mem _ hx)]

/-- A line end goes no further than its second character, so that texts
between other characters are normalized on their own. -/
theorem normalizeLineEnds_append {a b : List Char}
    (h : ∀ c ∈ b.head?, c ≠ '\n' ∧ c ≠ '\u0085') :
    normalizeLineEnds (a ++ b) = normalizeLineEnds a ++ normalizeLineEnds b := by
  fun_induction normalizeLineEnds a with
  | case1 r ih => simp [normalizeLineEnds, ih]
  | case2 r ih => simp [normalizeLineEnds, ih]
  | case3 c r h1 h2 ih =>
      have hhead {x : Char} {t : List Char} (hx : x = '\n' ∨ x = '\u0085')
          (heq : r ++ b = x :: t) : ∃ t', r = x :: t' := by
        cases r with
        | nil =>
            rw [List.nil_append] at heq
            have hb := h x (by rw [heq]; rfl)
            exact absurd hx (not_or.2 hb)
        | cons y t' =>
            rw [List.cons_append, List.cons.injEq] at heq
            exact ⟨t', by rw [heq.1]⟩
      rw [List.cons_append, normalizeLineEnds, ih]
      · rfl
      · intro t hc heq
        obtain ⟨t', ht'⟩ := hhead (.inl rfl) heq
        exact h1 t' hc ht'
      · intro t hc heq
        obtain ⟨t', ht'⟩ := hhead (.inr rfl) heq
        exact h2 t' hc ht'
  | case4 => rfl

end Token

-- ============================================================== runs

/-- The characters that a run is written of: a text keeps clear of
markup, and a reference names one of three characters. -/
def Piece.IsWritten : Piece → Prop
  | .text cs => cs ≠ [] ∧ ∀ c ∈ cs, entityName? c = none
  | .reference name => ∃ c, entityName? c = some name

/-- Parts in which no two texts meet. -/
def IsRun : List Piece → Prop
  | [] => True
  | .text cs :: r => (Piece.text cs).IsWritten ∧ IsRun r ∧ ∀ t, r.head? ≠ some (.text t)
  | .reference name :: r => (Piece.reference name).IsWritten ∧ IsRun r

/-- The parts of a text are a run. -/
theorem isRun_piecesOf (cs : List Char) : IsRun (piecesOf cs) := by
  induction cs with
  | nil => trivial
  | cons c r ih =>
      unfold piecesOf
      cases hc : entityName? c with
      | some name => exact ⟨⟨c, hc⟩, ih⟩
      | none =>
          have hone : ∀ x ∈ [c], entityName? x = none := by
            intro x hx
            rw [List.mem_singleton.1 hx]
            exact hc
          cases hp : piecesOf r with
          | nil => exact ⟨⟨List.cons_ne_nil _ _, hone⟩, trivial, fun t => by simp⟩
          | cons p ps =>
              rw [hp] at ih
              cases p with
              | reference name =>
                  exact ⟨⟨List.cons_ne_nil _ _, hone⟩, ih, fun t => by simp⟩
              | text t =>
                  obtain ⟨⟨-, ht⟩, hps, hhead⟩ := ih
                  refine ⟨⟨List.cons_ne_nil _ _, ?_⟩, hps, hhead⟩
                  intro x hx
                  rcases List.mem_cons.1 hx with rfl | hx
                  · exact hc
                  · exact ht x hx

/-- Only an empty text has no parts. -/
theorem piecesOf_ne_nil {cs : List Char} (h : cs ≠ []) : piecesOf cs ≠ [] := by
  cases cs with
  | nil => exact absurd rfl h
  | cons c r =>
      unfold piecesOf
      split
      · exact List.cons_ne_nil _ _
      · exact List.cons_ne_nil _ _
      · exact List.cons_ne_nil _ _

-- =========================================================== reading

/-- A part of a run as it is read: line ends are normalized. -/
def Piece.normalized : Piece → Piece
  | .text cs => .text (Token.normalizeLineEnds cs)
  | .reference name => .reference name

/-- The characters that are written by name. -/
theorem eq_of_entityName {c : Char} {name : List Char} (h : entityName? c = some name) :
    (c = '<' ∧ name = ['l', 't']) ∨ (c = '>' ∧ name = ['g', 't'])
      ∨ (c = '&' ∧ name = ['a', 'm', 'p']) := by
  unfold entityName? at h
  split at h
  · exact .inl ⟨rfl, (Option.some.inj h).symm⟩
  · exact .inr (.inl ⟨rfl, (Option.some.inj h).symm⟩)
  · exact .inr (.inr ⟨rfl, (Option.some.inj h).symm⟩)
  · cases h

theorem resolve_entityName {c : Char} {name : List Char} (h : entityName? c = some name)
    (start stop : Nat) : resolve start stop name = .ok c := by
  rcases eq_of_entityName h with ⟨rfl, rfl⟩ | ⟨rfl, rfl⟩ | ⟨rfl, rfl⟩ <;> rfl

/-- The characters that a part of a run is written for. -/
def Piece.plain : Piece → List Char
  | .text cs => cs
  | .reference name => (entity? name).toList

theorem plain_reference {c : Char} {name : List Char} (h : entityName? c = some name) :
    (Piece.reference name).plain = [c] := by
  rcases eq_of_entityName h with ⟨rfl, rfl⟩ | ⟨rfl, rfl⟩ | ⟨rfl, rfl⟩ <;> rfl

/-- The parts of a text are written for the text. -/
theorem flatMap_plain_piecesOf (cs : List Char) : (piecesOf cs).flatMap Piece.plain = cs := by
  induction cs with
  | nil => rfl
  | cons c r ih =>
      unfold piecesOf
      cases hc : entityName? c with
      | some name =>
          dsimp only
          rw [List.flatMap_cons, plain_reference hc, ih]
          rfl
      | none =>
          cases hp : piecesOf r with
          | nil =>
              rw [hp] at ih
              rw [← ih]
              rfl
          | cons p ps =>
              rw [hp] at ih
              cases p with
              | reference name =>
                  rw [← ih]
                  rfl
              | text t =>
                  rw [← ih]
                  rfl

theorem resolveRun_cons {p : Piece} {r : List Piece} {a b : List Char}
    (hp : p.resolve = .ok a) (hr : resolveRun r = .ok b) :
    resolveRun (p :: r) = .ok (a ++ b) := by
  unfold resolveRun at hr ⊢
  rw [List.mapM_cons, hp]
  cases hm : r.mapM Piece.resolve with
  | error f =>
      rw [hm] at hr
      cases hr
  | ok parts =>
      rw [hm] at hr
      cases hr
      rfl

/-- After a text comes nothing that its line ends could go on with. -/
theorem head?_plain_of_isRun {r : List Piece} (hr : IsRun r)
    (hhead : ∀ t, r.head? ≠ some (.text t)) :
    ∀ c ∈ (r.flatMap Piece.plain).head?, c ≠ '\n' ∧ c ≠ '\u0085' := by
  cases r with
  | nil => exact fun c hc => by cases hc
  | cons p ps =>
      cases p with
      | text t => exact absurd rfl (hhead t)
      | reference name =>
          obtain ⟨⟨c, hc⟩, -⟩ := hr
          rw [List.flatMap_cons, plain_reference hc]
          intro x hx
          cases hx
          rcases eq_of_entityName hc with ⟨rfl, -⟩ | ⟨rfl, -⟩ | ⟨rfl, -⟩ <;> decide

/-- What is read of a run is what it is written for, with line ends
normalized. -/
theorem resolveRun_of_isRun {ps : List Piece} (h : IsRun ps) :
    resolveRun (ps.map Piece.normalized)
      = .ok (Token.normalizeLineEnds (ps.flatMap Piece.plain)) := by
  induction ps with
  | nil => rfl
  | cons p r ih =>
      rw [List.map_cons, List.flatMap_cons]
      cases p with
      | text cs =>
          obtain ⟨-, hr, hhead⟩ := h
          rw [Token.normalizeLineEnds_append (head?_plain_of_isRun hr hhead)]
          exact resolveRun_cons rfl (ih hr)
      | reference name =>
          obtain ⟨⟨c, hc⟩, hr⟩ := h
          have hline : isLineEnd c = false := by
            rcases eq_of_entityName hc with ⟨rfl, -⟩ | ⟨rfl, -⟩ | ⟨rfl, -⟩ <;> decide
          rw [plain_reference hc, List.singleton_append, Token.normalizeLineEnds_cons hline]
          refine resolveRun_cons (a := [c]) ?_ (ih hr)
          show (do let x ← resolve 0 (byteLength name) name; return [x]) = _
          rw [resolve_entityName hc]
          rfl

/-- What is read of the parts of a text is the text, with its line ends
normalized. -/
theorem resolveRun_piecesOf (cs : List Char) :
    resolveRun ((piecesOf cs).map Piece.normalized) = .ok (Token.normalizeLineEnds cs) := by
  rw [resolveRun_of_isRun (isRun_piecesOf cs), flatMap_plain_piecesOf]

end BucketAcl.Xml
