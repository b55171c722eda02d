/-
What the markup of a document is scanned as. A tag ends at its own end,
whatever stands between the quotes of its attributes; a comment, an
instruction or a literal text ends at the first end of its kind; a
reference is found by its semicolon, and a text goes as far as the markup
behind it.
-/
import BucketAcl.Proofs.Text.Visible
import BucketAcl.Proofs.Xml.Run

namespace BucketAcl.Xml

-- ============================================================= names

/-- A character of a name. -/
def isNameChar (c : Char) : Bool := !isSpace c && !("<>/!?=&\"'".toList.contains c)

/-- A name of an element or an attribute. -/
def IsName (s : String) : Prop := s ≠ "" ∧ s.toList.all isNameChar = true

instance (s : String) : Decidable (IsName s) := inferInstanceAs (Decidable (_ ∧ _))

theorem IsName.isNameChar {s : String} (h : IsName s) {c : Char} (hc : c ∈ s.toList) :
    isNameChar c = true := List.all_eq_true.1 h.2 c hc

theorem mem_name {s : String} (h : IsName s) {c d : Char} (hc : c ∈ s.toList)
    (hd : isNameChar d = false) : c ≠ d := by
  rintro rfl
  rw [h.isNameChar hc] at hd
  cases hd

theorem isSpace_of_name {s : String} (h : IsName s) {c : Char} (hc : c ∈ s.toList) :
    isSpace c = false := by
  have := h.isNameChar hc
  unfold isNameChar at this
  simpa using (Bool.and_eq_true_iff.1 this).1

theorem IsName.exists_cons {s : String} (h : IsName s) :
    ∃ c cs, s.toList = c :: cs ∧ Xml.isNameChar c = true := by
  obtain ⟨c, cs, hc⟩ := List.exists_cons_of_ne_nil
    (fun hnil => h.1 (String.toList_eq_nil_iff.1 hnil))
  exact ⟨c, cs, hc, h.isNameChar (hc ▸ List.mem_cons_self ..)⟩

/-- White space of markup. -/
def IsGap (cs : List Char) : Prop := ∀ c ∈ cs, isSpace c = true

instance (cs : List Char) : Decidable (IsGap cs) := List.decidableBAll _ _

-- ============================================================== tags

/-- Attributes as they may stand behind the name of a tag: behind white
space each, with a value in quotes of either kind. White space may stand
around an equals sign, and behind the last value. -/
inductive Attribute.AreSpelled : List Attribute → List Char → Prop where
  | nil {gap : List Char} (hgap : IsGap gap) : AreSpelled [] gap
  | cons {before front back value r : List Char} {name : String} {quote : Char}
      {as : List Attribute} (hne : before ≠ []) (hbefore : IsGap before) (hname : IsName name)
      (hfront : IsGap front) (hback : IsGap back) (hquote : quote = '"' ∨ quote = '\'')
      (hvalue : quote ∉ value) (h : AreSpelled as r) :
      AreSpelled (⟨name, value⟩ :: as)
        (before ++ (name.toList ++ (front ++ '=' :: (back ++ quote :: (value ++ quote :: r)))))

/-- A tag that can stand in a document. -/
structure Tag.IsWellFormed (tag : Tag) : Prop where
  name : IsName tag.name
  rest : ∃ as, Attribute.AreSpelled as tag.rest

/-- What stands between `<` and `>`. -/
def Tag.content (tag : Tag) : List Char := tag.name.toList ++ tag.rest

/-- A text that a tag goes on behind. -/
def Passes (a : List Char) : Prop :=
  ∀ r, cutTag none (a ++ r) = (cutTag none r).map fun p => (a ++ p.1, p.2)

theorem Passes.append {a b : List Char} (ha : Passes a) (hb : Passes b) : Passes (a ++ b) := by
  intro r
  rw [List.append_assoc, ha, hb]
  cases cutTag none r with
  | error f => rfl
  | ok p =>
      show Except.ok (a ++ (b ++ p.1), p.2) = .ok (a ++ b ++ p.1, p.2)
      rw [List.append_assoc]

theorem Passes.nil : Passes [] := by
  intro r
  rw [List.nil_append]
  cases cutTag none r <;> rfl

/-- A tag ends behind what is passed. -/
theorem Passes.cutTag_end {a : List Char} (ha : Passes a) (r : List Char) :
    cutTag none (a ++ '>' :: r) = .ok (a, r) := by
  rw [ha, cutTag, if_pos rfl]
  exact congrArg (fun x => Except.ok (x, r)) (List.append_nil a)

/-- Text without quotes and ends is passed. -/
theorem passes_of_forall {a : List Char} (h : ∀ c ∈ a, c ≠ '>' ∧ c ≠ '"' ∧ c ≠ '\'') :
    Passes a := by
  induction a with
  | nil => exact Passes.nil
  | cons c r ih =>
      intro t
      obtain ⟨h1, h2, h3⟩ := h c (List.mem_cons_self ..)
      have hq : ¬ (c = '"' ∨ c = '\'') := not_or.2 ⟨h2, h3⟩
      rw [List.cons_append, cutTag, if_neg h1, if_neg hq,
        ih fun x hx => h x (List.mem_cons_of_mem _ hx)]
      cases cutTag none t <;> rfl

theorem passes_name {name : String} (h : IsName name) : Passes name.toList :=
  passes_of_forall fun _ hc =>
    ⟨mem_name h hc (by decide), mem_name h hc (by decide), mem_name h hc (by decide)⟩

theorem passes_gap {gap : List Char} (h : IsGap gap) : Passes gap := by
  refine passes_of_forall fun c hc => ?_
  have hspace := h c hc
  refine ⟨?_, ?_, ?_⟩
  all_goals
    rintro rfl
    exact absurd hspace (by decide)

theorem passes_singleton {c : Char} (h : c ≠ '>' ∧ c ≠ '"' ∧ c ≠ '\'') : Passes [c] :=
  passes_of_forall (List.forall_mem_singleton.2 h)

/-- Between quotes everything but the quote is passed. -/
theorem passes_quoted {quote : Char} (hquote : quote = '"' ∨ quote = '\'') {v : List Char}
    (h : quote ∉ v) : Passes (quote :: (v ++ [quote])) := by
  have hinside (r : List Char) : cutTag (some quote) (v ++ quote :: r)
      = (cutTag none r).map fun p => (v ++ quote :: p.1, p.2) := by
    induction v with
    | nil =>
        rw [List.nil_append, cutTag, if_pos rfl]
        cases cutTag none r <;> rfl
    | cons c t ih =>
        obtain ⟨hc, ht⟩ := not_or.1 (mt List.mem_cons.2 h)
        rw [List.cons_append, cutTag, if_neg (Ne.symm hc), ih ht]
        cases cutTag none r <;> rfl
  intro r
  have hend : quote ≠ '>' := by rcases hquote with rfl | rfl <;> decide
  rw [List.cons_append, List.append_assoc, List.singleton_append, cutTag, if_neg hend,
    if_pos hquote, hinside]
  cases cutTag none r with
  | error f => rfl
  | ok p =>
      show Except.ok (quote :: (v ++ quote :: p.1), p.2) = .ok (quote :: (v ++ [quote] ++ p.1), p.2)
      rw [List.append_assoc, List.singleton_append]

theorem Attribute.AreSpelled.passes {as : List Attribute} {cs : List Char}
    (h : AreSpelled as cs) : Passes cs := by
  induction h with
  | nil hgap => exact passes_gap hgap
  | @cons before front back value r name quote as _ hbefore hname hfront hback hquote hvalue _ ih =>
      have hsplit : before ++ (name.toList
            ++ (front ++ '=' :: (back ++ quote :: (value ++ quote :: r))))
          = before ++ (name.toList ++ (front ++ (['=']
            ++ (back ++ ((quote :: (value ++ [quote])) ++ r))))) := by simp
      rw [hsplit]
      exact (passes_gap hbefore).append <| (passes_name hname).append <|
        (passes_gap hfront).append <| (passes_singleton (by decide)).append <|
        (passes_gap hback).append <| (passes_quoted hquote hvalue).append ih

/-- Attributes are set off from the name in front of them. -/
theorem Attribute.AreSpelled.head_isSpace {as : List Attribute} {cs : List Char}
    (h : AreSpelled as cs) : ∀ c ∈ cs.head?, isSpace c = true := by
  cases h with
  | nil hgap => exact fun c hc => hgap c (List.mem_of_head? hc)
  | cons hne hbefore =>
      obtain ⟨x, t, rfl⟩ := List.exists_cons_of_ne_nil hne
      rintro c hc
      cases hc
      exact hbefore x (List.mem_cons_self ..)

theorem Attribute.AreSpelled.getLast?_ne {as : List Attribute} {cs : List Char}
    (h : AreSpelled as cs) : ∀ c ∈ cs.getLast?, c ≠ '/' := by
  induction h with
  | nil hgap =>
      rintro c hc rfl
      exact absurd (hgap _ (List.mem_of_getLast? hc)) (by decide)
  | @cons before front back value r name quote as _ _ _ _ _ hquote _ _ ih =>
      intro c hc
      have hsplit : before ++ (name.toList
            ++ (front ++ '=' :: (back ++ quote :: (value ++ quote :: r))))
          = (before ++ (name.toList ++ (front ++ '=' :: (back ++ quote :: value))))
            ++ ([quote] ++ r) := by simp
      rw [hsplit, List.getLast?_append, List.getLast?_append, List.getLast?_singleton] at hc
      cases hr : r.getLast? with
      | none =>
          rw [hr] at hc
          cases hc
          rcases hquote with rfl | rfl <;> decide
      | some x =>
          rw [hr] at hc
          cases hc
          exact ih _ hr

namespace Tag.IsWellFormed

variable {tag : Tag}

/-- A tag has no end before its own. -/
theorem passes (h : tag.IsWellFormed) : Passes tag.content := by
  obtain ⟨as, hrest⟩ := h.rest
  exact (passes_name h.name).append hrest.passes

/-- A tag begins with its name, which is set off from the rest. -/
theorem tagOf_content (h : tag.IsWellFormed) : tagOf tag.content = tag := by
  obtain ⟨as, hrest⟩ := h.rest
  have hname : ∀ c ∈ tag.name.toList, (!isSpace c) = true := fun c hc => by
    rw [isSpace_of_name h.name hc]
    rfl
  have hstop : (tag.rest.takeWhile fun c => !isSpace c) = []
      ∧ (tag.rest.dropWhile fun c => !isSpace c) = tag.rest := by
    have hhead := hrest.head_isSpace
    generalize tag.rest = rest at hhead
    cases rest with
    | nil => exact ⟨rfl, rfl⟩
    | cons c r =>
        have hc := hhead c rfl
        exact ⟨List.takeWhile_cons_of_neg (by simp [hc]), List.dropWhile_cons_of_neg (by simp [hc])⟩
  unfold tagOf Tag.content
  rw [List.takeWhile_append_of_pos hname, List.dropWhile_append_of_pos hname, hstop.1, hstop.2,
    List.append_nil, String.ofList_toList]

/-- A tag does not end with a slash. -/
theorem getLast?_content (h : tag.IsWellFormed) : tag.content.getLast? ≠ some '/' := by
  obtain ⟨as, hrest⟩ := h.rest
  unfold Tag.content
  rw [List.getLast?_append]
  intro hlast
  cases hr : tag.rest.getLast? with
  | none =>
      rw [hr] at hlast
      exact mem_name h.name (List.mem_of_getLast? hlast) (by decide) rfl
  | some c =>
      rw [hr] at hlast
      cases hlast
      exact hrest.getLast?_ne _ hr rfl

theorem exists_cons (h : tag.IsWellFormed) :
    ∃ c cs, tag.content = c :: cs ∧ isNameChar c = true := by
  obtain ⟨c, cs, hcs, hc⟩ := h.name.exists_cons
  exact ⟨c, cs ++ tag.rest, by rw [content, hcs, List.cons_append], hc⟩

end Tag.IsWellFormed

namespace Token

theorem scan_of_step (ts : List Token) {c : Char} {cs r : List Char}
    (h : step c cs = .ok (ts, r)) : scan (c :: cs) = (ts ++ (scan r).1, (scan r).2) := by
  rw [scan]
  split
  · rename_i heq
    rw [h] at heq
    cases heq
  · rename_i heq
    rw [h] at heq
    cases heq
    rfl

theorem step_tag {c : Char} {cs : List Char} (hc : isNameChar c = true) :
    step '<' (c :: cs) = stepStart (c :: cs) := by
  unfold step
  rw [if_pos rfl]
  split
  · rename_i heq
    cases heq
  · rename_i heq
    cases heq
    exact absurd hc (by decide)
  · rename_i heq
    cases heq
    exact absurd hc (by decide)
  · rename_i heq
    cases heq
    exact absurd hc (by decide)
  · rfl

/-- A start tag is one token. -/
theorem scan_start {tag : Tag} (h : tag.IsWellFormed) (r : List Char) :
    scan ('<' :: (tag.content ++ '>' :: r)) = (.start tag :: (scan r).1, (scan r).2) := by
  obtain ⟨c, cs, hcons, hc⟩ := h.exists_cons
  refine scan_of_step [.start tag] ?_
  have hcut : cutTag none (tag.content ++ '>' :: r) = .ok (tag.content, r) :=
    h.passes.cutTag_end r
  rw [hcons, List.cons_append, step_tag hc, ← List.cons_append, ← hcons]
  unfold stepStart
  rw [hcut]
  show (if tag.content.getLast? = some '/' then _ else _) = _
  rw [if_neg h.getLast?_content, h.tagOf_content]
  rfl

/-- A tag that closes itself is two tokens. -/
theorem scan_selfClosed {tag : Tag} (h : tag.IsWellFormed) (r : List Char) :
    scan ('<' :: (tag.content ++ '/' :: '>' :: r))
      = (.start tag :: .stop tag.name :: (scan r).1, (scan r).2) := by
  obtain ⟨c, cs, hcons, hc⟩ := h.exists_cons
  refine scan_of_step [.start tag, .stop tag.name] ?_
  have hcut : cutTag none (tag.content ++ '/' :: '>' :: r) = .ok (tag.content ++ ['/'], r) := by
    rw [← (h.passes.append (passes_singleton (by decide))).cutTag_end r, List.append_assoc]
    rfl
  rw [hcons, List.cons_append, step_tag hc, ← List.cons_append, ← hcons]
  unfold stepStart
  rw [hcut]
  show (if (tag.content ++ ['/']).getLast? = some '/' then _ else _) = _
  rw [List.getLast?_concat, if_pos rfl, List.dropLast_concat, h.tagOf_content]
  rfl

/-- The name of an end tag is set off from white space behind it. -/
theorem stopName_append {name : String} (h : IsName name) {gap : List Char} (hgap : IsGap gap) :
    stopName (name.toList ++ gap) = name.toList := by
  have hname : ∀ c ∈ name.toList.reverse, isSpace c = false := fun c hc =>
    isSpace_of_name h (List.mem_reverse.1 hc)
  have hdrop : Text.dropEndWhile isSpace (name.toList ++ gap) = name.toList := by
    unfold Text.dropEndWhile
    rw [List.reverse_append, List.dropWhile_append_of_pos fun c hc => hgap c (List.mem_reverse.1 hc),
      Text.dropWhile_of_forall hname, List.reverse_reverse]
  unfold stopName
  rw [hdrop]
  exact if_neg fun hnil => h.1 (String.toList_eq_nil_iff.1 hnil)

/-- An end tag is one token. -/
theorem scan_stop {name : String} (h : IsName name) {gap : List Char} (hgap : IsGap gap)
    (r : List Char) :
    scan ('<' :: '/' :: (name.toList ++ (gap ++ '>' :: r)))
      = (.stop name :: (scan r).1, (scan r).2) := by
  refine scan_of_step [.stop name] ?_
  have hcut : cutTag none (name.toList ++ (gap ++ '>' :: r)) = .ok (name.toList ++ gap, r) := by
    rw [← List.append_assoc]
    exact ((passes_name h).append (passes_gap hgap)).cutTag_end r
  show stepStop (name.toList ++ (gap ++ '>' :: r)) = _
  unfold stepStop
  rw [hcut]
  show Except.ok ([Token.stop (.ofList (stopName (name.toList ++ gap)))], r) = _
  rw [stopName_append h hgap, String.ofList_toList]

-- ============================================================== text

/-- A text goes as far as the markup behind it. -/
theorem scan_text {cs r : List Char} (hne : cs ≠ []) (h : ∀ c ∈ cs, isText c = true)
    (hr : ∀ c ∈ r.head?, isText c = false) :
    scan (cs ++ r) = (.text (normalizeLineEnds cs) :: (scan r).1, (scan r).2) := by
  obtain ⟨c, t, rfl⟩ := List.exists_cons_of_ne_nil hne
  have hc := h c (List.mem_cons_self ..)
  have ht : ∀ x ∈ t, isText x = true := fun x hx => h x (List.mem_cons_of_mem _ hx)
  simp only [isText, Bool.and_eq_true, bne_iff_ne] at hc
  have hstop : r.takeWhile isText = [] ∧ r.dropWhile isText = r := by
    cases r with
    | nil => exact ⟨rfl, rfl⟩
    | cons x u =>
        have hx := hr x rfl
        exact ⟨List.takeWhile_cons_of_neg (by simp [hx]), List.dropWhile_cons_of_neg (by simp [hx])⟩
  refine scan_of_step [.text (normalizeLineEnds (c :: t))] ?_
  show step c (t ++ r) = _
  unfold step
  rw [if_neg hc.1, if_neg hc.2, List.takeWhile_append_of_pos ht, List.dropWhile_append_of_pos ht,
    hstop.1, hstop.2, List.append_nil]

/-- A reference goes up to its semicolon. -/
theorem scan_reference {name : List Char} (h : ∀ c ∈ name, c ≠ ';' ∧ c ≠ '<' ∧ c ≠ '&')
    (r : List Char) :
    scan ('&' :: (name ++ ';' :: r)) = (.reference name :: (scan r).1, (scan r).2) := by
  refine scan_of_step [.reference name] ?_
  have hname : ∀ c ∈ name, (c != ';' && isText c) = true := by
    intro c hc
    obtain ⟨hsemi, hstart, hamp⟩ := h c hc
    simp [isText, hsemi, hstart, hamp]
  have htake : (name ++ ';' :: r).takeWhile (fun c => c != ';' && isText c) = name := by
    rw [List.takeWhile_append_of_pos hname, List.takeWhile_cons_of_neg (by decide),
      List.append_nil]
  show stepReference (name ++ ';' :: r) = _
  unfold stepReference
  dsimp only
  rw [htake, List.drop_left]
  rfl

-- ================================================= markup to pass over

/-- A literal that its last character stands in once does not begin in
front of itself, unless it is there as a whole. -/
theorem not_prefix_append {front cs : List Char} {last : Char} (hlast : last ∉ front)
    (hne : cs ≠ []) (h : ¬ front ++ [last] <:+: cs) (r : List Char) :
    ¬ front ++ [last] <+: cs ++ (front ++ last :: r) := by
  rintro hprefix
  by_cases hlength : (front ++ [last]).length ≤ cs.length
  · exact h (List.prefix_of_prefix_length_le hprefix (List.prefix_append _ _) hlength).isInfix
  · -- the last character would stand in what is in front of it
    obtain ⟨u, hu⟩ := hprefix
    have hcs : cs.length ≤ front.length := by
      rw [List.length_append, List.length_singleton] at hlength
      omega
    have hpos : 0 < cs.length := List.length_pos_iff.2 hne
    have hhere : (front ++ [last] ++ u)[front.length]? = some last := by simp
    rw [hu, List.getElem?_append_right hcs, List.getElem?_append_left (by omega)] at hhere
    exact hlast (List.mem_of_getElem? hhere)

theorem cutAtLiteral_append (front : List Char) {cs : List Char} {last : Char}
    (hlast : last ∉ front) (h : ¬ front ++ [last] <:+: cs) (r : List Char) :
    Text.cutAtLiteral (front ++ [last]) (cs ++ (front ++ last :: r)) = some (cs, r) := by
  induction cs with
  | nil =>
      have hhere : Text.after? (front ++ [last]) (front ++ last :: r) = some r := by
        have hsplit : front ++ last :: r = front ++ [last] ++ r := by simp
        unfold Text.after?
        rw [hsplit, if_pos (List.isPrefixOf_iff_prefix.2 (List.prefix_append _ _)), List.drop_left]
      obtain ⟨c, t, hct⟩ := List.exists_cons_of_ne_nil (l := front ++ last :: r) (by simp)
      rw [List.nil_append]
      rw [hct] at hhere ⊢
      unfold Text.cutAtLiteral
      rw [hhere]
  | cons c t ih =>
      have hnot := not_prefix_append hlast (List.cons_ne_nil c t) h r
      have hnone : Text.after? (front ++ [last]) (c :: (t ++ (front ++ last :: r))) = none := by
        unfold Text.after?
        exact if_neg fun hp => hnot (List.isPrefixOf_iff_prefix.1 hp)
      rw [List.cons_append]
      unfold Text.cutAtLiteral
      rw [hnone, ih fun hinfix => h (List.infix_cons hinfix)]
      rfl

/-- A comment is no token. -/
theorem scan_comment {cs : List Char} (h : ¬ "-->".toList <:+: cs) (r : List Char) :
    scan ("<!--".toList ++ (cs ++ ("-->".toList ++ r))) = scan r := by
  refine scan_of_step [] ?_
  have hafter : Text.after? ['-', '-'] ('-' :: '-' :: (cs ++ '-' :: '-' :: '>' :: r))
      = some (cs ++ '-' :: '-' :: '>' :: r) := rfl
  have hcut : Text.cutAtLiteral ['-', '-', '>'] (cs ++ '-' :: '-' :: '>' :: r) = some (cs, r) :=
    cutAtLiteral_append ['-', '-'] (by decide) h r
  show stepBang ('-' :: '-' :: (cs ++ '-' :: '-' :: '>' :: r)) = _
  unfold stepBang
  rw [hafter, Option.bind_some, hcut]
  rfl

/-- A literal text is a text. -/
theorem scan_literal {cs : List Char} (h : ¬ "]]>".toList <:+: cs) (r : List Char) :
    scan ("<![CDATA[".toList ++ (cs ++ ("]]>".toList ++ r)))
      = (.text (normalizeLineEnds cs) :: (scan r).1, (scan r).2) := by
  refine scan_of_step [.text (normalizeLineEnds cs)] ?_
  have hafter : Text.after? "[CDATA[".toList ("[CDATA[".toList ++ (cs ++ ']' :: ']' :: '>' :: r))
      = some (cs ++ ']' :: ']' :: '>' :: r) := rfl
  have hcut : Text.cutAtLiteral [']', ']', '>'] (cs ++ ']' :: ']' :: '>' :: r) = some (cs, r) :=
    cutAtLiteral_append [']', ']'] (by decide) h r
  show stepBang ("[CDATA[".toList ++ (cs ++ ']' :: ']' :: '>' :: r)) = _
  unfold stepBang
  split
  · rename_i heq
    cases heq
  · rw [hafter, Option.bind_some, hcut]
  · rename_i heq
    cases heq
    contradiction
  · rename_i heq
    cases heq

/-- An instruction is no token. -/
theorem scan_instruction {cs : List Char} (hhead : cs.head? ≠ some '>')
    (h : ¬ "?>".toList <:+: cs) (r : List Char) :
    scan ("<?".toList ++ (cs ++ ("?>".toList ++ r))) = scan r := by
  refine scan_of_step [] ?_
  have hcut : Text.cutAtLiteral ['?', '>'] (cs ++ '?' :: '>' :: r) = some (cs, r) :=
    cutAtLiteral_append ['?'] (by decide) h r
  show stepInstruction (cs ++ '?' :: '>' :: r) = _
  unfold stepInstruction
  rw [hcut]
  split
  · rename_i heq
    cases cs with
    | nil => cases heq
    | cons c t =>
        cases heq
        exact absurd rfl hhead
  · rename_i heq _
    cases heq
    rfl
  · rename_i heq _
    cases heq

end Token

end BucketAcl.Xml
