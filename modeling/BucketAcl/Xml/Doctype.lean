/-
The extent of a document type declaration. It ends at a `>`, but not at
one between quotes or in its internal subset. Within the subset the
brackets of the declaration are told from those in comments, in
instructions and in markup declarations; between these, nothing but its
end has a meaning.
-/
import BucketAcl.Text.Blank
import BucketAcl.Xml.Tag

namespace BucketAcl.Xml

open Text

/-- The rest after the markup that a `<` in an internal subset opens.
The declaration of an element has no quotes, the other declarations
have. -/
def afterMarkup? (cs : List Char) : Option (List Char) :=
  let close :=
    if "!--".toList.isPrefixOf cs then (cutAtLiteral "-->".toList (cs.drop 3))
    else if "?".toList.isPrefixOf cs then (cutAtLiteral "?>".toList (cs.drop 1))
    else if "!ELEMENT".toList.isPrefixOf cs then cutAtLiteral ['>'] cs
    else (cutTag none cs).toOption
  close.map Prod.snd

theorem length_of_afterMarkup? {cs r : List Char} (h : afterMarkup? cs = some r) :
    r.length ≤ cs.length := by
  obtain ⟨⟨a, b⟩, hc, rfl⟩ := Option.map_eq_some_iff.1 h
  have hdrop (n : Nat) : (cs.drop n).length ≤ cs.length := by
    rw [List.length_drop]
    omega
  split at hc
  · exact Nat.le_trans (length_of_cutAtLiteral hc) (hdrop 3)
  · split at hc
    · exact Nat.le_trans (length_of_cutAtLiteral hc) (hdrop 1)
    · split at hc
      · exact length_of_cutAtLiteral hc
      · cases ht : cutTag none cs with
        | error f => simp [ht, Except.toOption] at hc
        | ok p =>
          simp only [ht, Except.toOption, Option.some.injEq] at hc
          subst hc
          exact length_of_cutTag ht

/-- The rest after the `]` of an internal subset. -/
def afterSubset? : List Char → Option (List Char)
  | [] => none
  | c :: r =>
    if c = ']' then some r
    else if c = '<' then
      match h : afterMarkup? r with
      | none => none
      | some t =>
        have : t.length < (c :: r).length := Nat.lt_succ_of_le (length_of_afterMarkup? h)
        afterSubset? t
    else afterSubset? r
  termination_by cs => cs.length
  decreasing_by
    · exact this
    · exact Nat.lt_succ_self r.length

/-- The rest after a document type declaration, from a place before its
internal subset on that may be between quotes. -/
def afterDoctype? : Option Char → List Char → Option (List Char)
  | _, [] => none
  | some q, c :: r => afterDoctype? (if c = q then none else some q) r
  | none, c :: r =>
    if c = '>' then some r
    else if c = '[' then do
      let (_, rest) ← cutAtLiteral ['>'] (← afterSubset? r)
      return rest
    else afterDoctype? (if c = '"' ∨ c = '\'' then some c else none) r

theorem length_of_afterSubset? {cs r : List Char} (h : afterSubset? cs = some r) :
    r.length ≤ cs.length := by
  fun_induction afterSubset? cs with
  | case1 => simp at h
  | case2 t =>
    rw [← Option.some.inj h, List.length_cons]
    omega
  | case3 => simp at h
  | case4 t _ u hu hl ih =>
    exact Nat.le_trans (ih h) (Nat.le_of_lt hl)
  | case5 c t _ _ ih =>
    have := ih h
    rw [List.length_cons]
    omega

theorem length_of_afterDoctype? {q : Option Char} {cs r : List Char}
    (h : afterDoctype? q cs = some r) : r.length ≤ cs.length := by
  induction cs generalizing q with
  | nil => cases q <;> simp [afterDoctype?] at h
  | cons c t ih =>
    have hlift {q : Option Char} (h : afterDoctype? q t = some r) :
        r.length ≤ (c :: t).length := by
      have := ih h
      rw [List.length_cons]
      omega
    cases q with
    | some q => exact hlift h
    | none =>
      simp only [afterDoctype?] at h
      split at h
      · rw [← Option.some.inj h, List.length_cons]
        omega
      · split at h
        · obtain ⟨u, hu, hr⟩ := Option.bind_eq_some_iff.1 h
          obtain ⟨⟨a, b⟩, hb, hr⟩ := Option.bind_eq_some_iff.1 hr
          have h1 := length_of_afterSubset? hu
          have h2 := length_of_cutAtLiteral hb
          have h3 : b = r := Option.some.inj hr
          rw [← h3, List.length_cons]
          omega
        · exact hlift h

end BucketAcl.Xml
