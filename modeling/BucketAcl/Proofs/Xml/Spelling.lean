/-
How content is spelled. A text spells nodes if it is made of texts,
references, literal texts, comments, instructions and elements, as every
well-formed document is that declares no document type; it is read as
these nodes, whatever it is spelled with.

Main statement: `Spells.parse`.
-/
import BucketAcl.Proofs.Xml.Scan

namespace BucketAcl.Xml

open Text

-- ========================================================= references

/-- The number of digits in a base. -/
def numberOf (base : Nat) (digits : List Char) : Nat :=
  digits.foldl (fun n c => base * n + (Hex.value? c).getD 0) 0

/-- Digits that give the number of a character. -/
structure IsNumber (base : Nat) (digits : List Char) : Prop where
  ne_nil : digits ≠ []
  digit : ∀ c ∈ digits, ∃ d < base, Hex.value? c = some d
  pos : numberOf base digits ≠ 0
  char : (numberOf base digits).isValidChar

/-- What stands for a character between `&` and `;`: one of five names, or
a number. -/
inductive IsReference : List Char → Prop where
  | named {name : String} (h : name ∈ ["lt", "gt", "amp", "apos", "quot"]) :
      IsReference name.toList
  | decimal {digits : List Char} (h : IsNumber 10 digits) : IsReference ('#' :: digits)
  | hexadecimal {digits : List Char} (h : IsNumber 16 digits) : IsReference ('#' :: 'x' :: digits)

section

variable {base : Nat} {digits : List Char}

/-- Characters that are no digits do not stand in a number. -/
theorem IsNumber.ne (h : IsNumber base digits) {c d : Char} (hc : c ∈ digits)
    (hd : Hex.value? d = none) : c ≠ d := by
  rintro rfl
  obtain ⟨x, -, hx⟩ := h.digit c hc
  rw [hd] at hx
  cases hx

/-- Digits that go on only make a number larger. -/
theorem le_foldl_digits (hbase : 0 < base) (digits : List Char) (n : Nat) :
    n ≤ digits.foldl (fun n c => base * n + (Hex.value? c).getD 0) n := by
  induction digits generalizing n with
  | nil => exact Nat.le_refl n
  | cons c r ih =>
      rw [List.foldl_cons]
      exact Nat.le_trans (Nat.le_trans (Nat.le_mul_of_pos_left n hbase) (Nat.le_add_right ..)) (ih _)

/-- Digits are read one after the other if each step gives its number, as
long as this is small. No number on the way is larger than the last one. -/
theorem foldlM_digits (hbase : 0 < base) {f : Nat → Char → Except CharRefFault Nat}
    {digits : List Char}
    (hstep : ∀ n, ∀ c ∈ digits, base * n + (Hex.value? c).getD 0 < 0x100000000 →
      f n c = .ok (base * n + (Hex.value? c).getD 0)) (n : Nat)
    (hsmall : digits.foldl (fun n c => base * n + (Hex.value? c).getD 0) n < 0x100000000) :
    digits.foldlM f n = .ok (digits.foldl (fun n c => base * n + (Hex.value? c).getD 0) n) := by
  induction digits generalizing n with
  | nil => rfl
  | cons c r ih =>
      rw [List.foldl_cons] at hsmall ⊢
      have hnext := Nat.lt_of_le_of_lt (le_foldl_digits hbase r _) hsmall
      rw [List.foldlM_cons, hstep n c (List.mem_cons_self ..) hnext]
      exact ih (fun n x hx => hstep n x (List.mem_cons_of_mem _ hx)) _ hsmall

theorem IsNumber.parseNumber (h : IsNumber base digits) :
    Xml.parseNumber base digits = .ok (numberOf base digits) := by
  obtain ⟨hne, hdigit, hpos, hchar⟩ := h
  have hbase : 0 < base := by
    obtain ⟨c, r, rfl⟩ := List.exists_cons_of_ne_nil hne
    obtain ⟨d, hd, -⟩ := hdigit c (List.mem_cons_self ..)
    omega
  have hsmall : numberOf base digits < 0x100000000 := by
    unfold Nat.isValidChar at hchar
    omega
  unfold Xml.parseNumber
  split
  · exact absurd rfl hne
  · obtain ⟨d, -, hd⟩ := hdigit '+' (List.mem_cons_self ..)
    cases hd
  · obtain ⟨d, -, hd⟩ := hdigit '-' (List.mem_cons_self ..)
    cases hd
  · refine foldlM_digits hbase (fun n c hc hlt => ?_) 0 hsmall
    obtain ⟨d, hd, hvalue⟩ := hdigit c hc
    rw [hvalue, Option.getD_some] at hlt ⊢
    dsimp only
    rw [if_neg (by omega), if_neg (by omega)]

/-- A number that is read so stands for a character. -/
theorem IsNumber.exists_char (h : IsNumber base digits) {e : Except CharRefFault Nat}
    (he : e = .ok (numberOf base digits)) : ∃ c, (do
      let n ← e
      if n = 0 then .error .null
      else if h : n.isValidChar then .ok (.ofNatAux n h)
      else .error (.notScalar n) : Except CharRefFault Char) = .ok c := by
  rw [he]
  refine ⟨.ofNatAux (numberOf base digits) h.char, ?_⟩
  show (if numberOf base digits = 0 then _ else _) = _
  rw [if_neg h.pos, dif_pos h.char]

end

namespace IsReference

variable {name : List Char}

/-- A reference stands for a character. -/
theorem exists_resolve (h : IsReference name) : ∃ c, ∀ start stop, resolve start stop name = .ok c := by
  have hnumber {cs : List Char} (h : ∃ c, parseCharRef cs = .ok c) :
      ∃ c, ∀ start stop, resolve start stop ('#' :: cs) = .ok c := by
    obtain ⟨c, hc⟩ := h
    refine ⟨c, fun start stop => ?_⟩
    rw [resolve, hc]
  cases h with
  | named h =>
      have hall : ∀ s ∈ ["lt", "gt", "amp", "apos", "quot"],
          s.toList.head? ≠ some '#' ∧ (entity? s.toList).isSome = true := by decide
      obtain ⟨hhead, hentity⟩ := hall _ h
      obtain ⟨c, hc⟩ := Option.isSome_iff_exists.1 hentity
      refine ⟨c, fun start stop => ?_⟩
      unfold resolve
      split
      · rename_i heq
        rw [heq] at hhead
        exact absurd rfl hhead
      · rw [hc]
  | @decimal digits h =>
      obtain ⟨c, hc⟩ := h.exists_char h.parseNumber
      refine hnumber ⟨c, ?_⟩
      unfold parseCharRef
      extract_lets ofNumber
      split
      · exact absurd rfl (h.ne (List.mem_cons_self ..) (by decide))
      · exact hc
  | hexadecimal h => exact hnumber (h.exists_char h.parseNumber)

/-- A reference has no end of its own. -/
theorem ne_of_mem (h : IsReference name) : ∀ c ∈ name, c ≠ ';' ∧ c ≠ '<' ∧ c ≠ '&' := by
  have hdigits {base : Nat} {digits : List Char} (h : IsNumber base digits) :
      ∀ c ∈ digits, c ≠ ';' ∧ c ≠ '<' ∧ c ≠ '&' := fun c hc =>
    ⟨h.ne hc (by decide), h.ne hc (by decide), h.ne hc (by decide)⟩
  cases h with
  | named h =>
      have hall : ∀ s ∈ ["lt", "gt", "amp", "apos", "quot"],
          ∀ c ∈ s.toList, c ≠ ';' ∧ c ≠ '<' ∧ c ≠ '&' := by simp
      exact hall _ h
  | decimal h => exact List.forall_mem_cons.2 ⟨by decide, hdigits h⟩
  | hexadecimal h =>
      exact List.forall_mem_cons.2 ⟨by decide, List.forall_mem_cons.2 ⟨by decide, hdigits h⟩⟩

end IsReference

-- ============================================================= content

/-- Content as it may be spelled: what a text is read as. Texts and
references that meet are one run; comments and instructions are nothing;
an element that holds nothing may have one tag. -/
inductive Spells : List Char → List Node → Prop where
  | nil : Spells [] []
  | text {cs r : List Char} {ns : List Node} (hne : cs ≠ [])
      (hcs : ∀ c ∈ cs, Token.isText c = true) (hr : ∀ c ∈ r.head?, Token.isText c = false)
      (h : Spells r ns) :
      Spells (cs ++ r) (Right.addPiece (.text (Token.normalizeLineEnds cs)) ns)
  | reference {name r : List Char} {ns : List Node} (hname : IsReference name) (h : Spells r ns) :
      Spells ('&' :: (name ++ ';' :: r)) (Right.addPiece (.reference name) ns)
  | literal {cs r : List Char} {ns : List Node} (hcs : ¬ "]]>".toList <:+: cs) (h : Spells r ns) :
      Spells ("<![CDATA[".toList ++ (cs ++ ("]]>".toList ++ r)))
        (Right.addPiece (.text (Token.normalizeLineEnds cs)) ns)
  | comment {cs r : List Char} {ns : List Node} (hcs : ¬ "-->".toList <:+: cs) (h : Spells r ns) :
      Spells ("<!--".toList ++ (cs ++ ("-->".toList ++ r))) ns
  | instruction {cs r : List Char} {ns : List Node} (hhead : cs.head? ≠ some '>')
      (hcs : ¬ "?>".toList <:+: cs) (h : Spells r ns) :
      Spells ("<?".toList ++ (cs ++ ("?>".toList ++ r))) ns
  | selfClosed {tag : Tag} {r : List Char} {ns : List Node} (ht : tag.IsWellFormed)
      (h : Spells r ns) :
      Spells ('<' :: (tag.content ++ '/' :: '>' :: r)) (.element tag [] .closed :: ns)
  | element {tag : Tag} {cs gap r : List Char} {inside ns : List Node} (ht : tag.IsWellFormed)
      (hinside : Spells cs inside) (hgap : IsGap gap) (h : Spells r ns) :
      Spells ('<' :: (tag.content ++ '>' :: (cs
        ++ '<' :: '/' :: (tag.name.toList ++ (gap ++ '>' :: r)))))
        (.element tag inside .closed :: ns)

/-- A start tag takes what is in front of the end tag of its name. -/
theorem addStart_stop (tag : Tag) (nodes : List Node) (right : Right) :
    Right.addStart tag
        { nodes := nodes, stops := (tag.name, right.nodes) :: right.stops, fault := right.fault }
      = { right with nodes := .element tag nodes .closed :: right.nodes } := by
  unfold Right.addStart
  exact if_pos rfl

namespace Spells

variable {cs : List Char} {ns : List Node}

/-- Content in front of a tag, or at the end of a text, is scanned on its
own, and its tokens put the nodes together. -/
theorem exists_tokens (h : Spells cs ns) :
    ∃ ts, (∀ r, (∀ c ∈ r.head?, c = '<') →
        Token.scan (cs ++ r) = (ts ++ (Token.scan r).1, (Token.scan r).2))
      ∧ ∀ right : Right, right.nodes = [] → ts.foldr Right.add right = { right with nodes := ns } := by
  induction h with
  | nil => exact ⟨[], fun _ _ => rfl, fun right hright => by rw [← hright]; rfl⟩
  | @text cs r ns hne hcs hr _ ih =>
      obtain ⟨ts, hts, hns⟩ := ih
      refine ⟨.text (Token.normalizeLineEnds cs) :: ts, fun u hu => ?_, fun right hright => ?_⟩
      · have hstop : ∀ c ∈ (r ++ u).head?, Token.isText c = false := by
          cases r with
          | nil =>
              intro c hc
              rw [hu c hc]
              decide
          | cons x t => exact hr
        rw [List.append_assoc, Token.scan_text hne hcs hstop, hts u hu]
        rfl
      · rw [List.foldr_cons, hns right hright]
        rfl
  | @reference name r ns hname _ ih =>
      obtain ⟨ts, hts, hns⟩ := ih
      refine ⟨.reference name :: ts, fun u hu => ?_, fun right hright => ?_⟩
      · have hscan := Token.scan_reference hname.ne_of_mem (r ++ u)
        rw [hts u hu] at hscan
        simpa using hscan
      · rw [List.foldr_cons, hns right hright]
        rfl
  | @literal cs r ns hcs _ ih =>
      obtain ⟨ts, hts, hns⟩ := ih
      refine ⟨.text (Token.normalizeLineEnds cs) :: ts, fun u hu => ?_, fun right hright => ?_⟩
      · have hscan := Token.scan_literal hcs (r ++ u)
        rw [hts u hu] at hscan
        simpa using hscan
      · rw [List.foldr_cons, hns right hright]
        rfl
  | @comment cs r ns hcs _ ih =>
      obtain ⟨ts, hts, hns⟩ := ih
      refine ⟨ts, fun u hu => ?_, hns⟩
      have hscan := Token.scan_comment hcs (r ++ u)
      rw [hts u hu] at hscan
      simpa using hscan
  | @instruction cs r ns hhead hcs _ ih =>
      obtain ⟨ts, hts, hns⟩ := ih
      refine ⟨ts, fun u hu => ?_, hns⟩
      have hscan := Token.scan_instruction hhead hcs (r ++ u)
      rw [hts u hu] at hscan
      simpa using hscan
  | @selfClosed tag r ns ht _ ih =>
      obtain ⟨ts, hts, hns⟩ := ih
      refine ⟨.start tag :: .stop tag.name :: ts, fun u hu => ?_, fun right hright => ?_⟩
      · have hscan := Token.scan_selfClosed ht (r ++ u)
        rw [hts u hu] at hscan
        simpa using hscan
      · rw [List.foldr_cons, List.foldr_cons, hns right hright]
        exact addStart_stop tag [] { right with nodes := ns }
  | @element tag cs gap r inside ns ht _ hgap _ ihinside ih =>
      obtain ⟨us, hus, hinside⟩ := ihinside
      obtain ⟨ts, hts, hns⟩ := ih
      refine ⟨.start tag :: (us ++ .stop tag.name :: ts), fun u hu => ?_, fun right hright => ?_⟩
      · have hscan := Token.scan_start ht
          (cs ++ '<' :: '/' :: (tag.name.toList ++ (gap ++ '>' :: (r ++ u))))
        rw [hus _ (by rintro c ⟨⟩; rfl), Token.scan_stop ht.name hgap, hts u hu] at hscan
        simpa using hscan
      · rw [List.foldr_cons, List.foldr_append, List.foldr_cons, hns right hright]
        show Right.addStart tag (us.foldr Right.add
          { nodes := [], stops := (tag.name, ns) :: right.stops, fault := right.fault }) = _
        rw [hinside _ rfl]
        exact addStart_stop tag inside { right with nodes := ns }

/-- A text that spells nodes is read as these. -/
theorem parse (h : Spells cs ns) (hhead : cs.head? ≠ some '\ufeff') :
    Content.parse cs = ⟨ns, none⟩ := by
  obtain ⟨ts, hts, hns⟩ := h.exists_tokens
  have hscan : Token.scan cs = (ts, none) := by
    have hall := hts [] nofun
    rw [List.append_nil] at hall
    rw [hall, Token.scan]
    exact congrArg (fun x => (x, none)) (List.append_nil ts)
  unfold Content.parse
  rw [if_neg hhead, hscan]
  unfold Content.ofTokens
  dsimp only
  rw [hns _ rfl]

end Spells

-- ============================================================ readable

/-- A node of which nothing is cut off, and whose texts can be read. -/
inductive Node.IsReadable : Node → Prop where
  | run {pieces : List Piece} {cs : List Char} (h : resolveRun pieces = .ok cs) :
      IsReadable (.run pieces)
  | element (tag : Tag) {inside : List Node} (h : ∀ n ∈ inside, IsReadable n) :
      IsReadable (.element tag inside .closed)

/-- A part that can be read makes nothing unreadable. -/
theorem isReadable_of_mem_addPiece {piece : Piece} {cs : List Char} (hpiece : piece.resolve = .ok cs)
    {ns : List Node} (h : ∀ n ∈ ns, n.IsReadable) :
    ∀ n ∈ Right.addPiece piece ns, n.IsReadable := by
  unfold Right.addPiece
  split
  · rename_i pieces r
    obtain ⟨hrun, hr⟩ := List.forall_mem_cons.1 h
    cases hrun with
    | run hcs => exact List.forall_mem_cons.2 ⟨.run (resolveRun_cons hpiece hcs), hr⟩
  · exact List.forall_mem_cons.2 ⟨.run (resolveRun_cons hpiece (r := []) rfl), h⟩

/-- Whatever is spelled can be read. -/
theorem Spells.isReadable {cs : List Char} {ns : List Node} (h : Spells cs ns) :
    ∀ n ∈ ns, n.IsReadable := by
  induction h with
  | nil => exact fun _ hn => nomatch hn
  | text _ _ _ _ ih => exact isReadable_of_mem_addPiece rfl ih
  | @reference name r ns hname _ ih =>
      obtain ⟨c, hc⟩ := hname.exists_resolve
      have hpiece : (Piece.reference name).resolve = .ok [c] := by
        show (do let c ← resolve 0 (byteLength name) name; return [c]) = _
        rw [hc]
        rfl
      exact isReadable_of_mem_addPiece hpiece ih
  | literal _ _ ih => exact isReadable_of_mem_addPiece rfl ih
  | comment _ _ ih => exact ih
  | instruction _ _ _ ih => exact ih
  | selfClosed _ _ ih =>
      exact List.forall_mem_cons.2 ⟨.element _ (fun _ hn => nomatch hn), ih⟩
  | element _ _ _ _ ihinside ih => exact List.forall_mem_cons.2 ⟨.element _ ihinside, ih⟩

end BucketAcl.Xml
