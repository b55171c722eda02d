/-
What the fields of an object say of the headers that they are taken from.
Every double quote at either end of a value is taken off, be it one of a
pair or not, so that a field is true to its header only where these are
no part of the value.

Main statement: `ofHeaders_reports`.
-/
import BucketAcl.Proofs.Metadata

namespace BucketAcl.ObjectInfo

-- ============================================================== quotes

/-- A text neither begins nor ends with a double quote. -/
def HasNoOuterQuote (s : String) : Prop :=
  s.toList.head? ≠ some '"' ∧ s.toList.getLast? ≠ some '"'

instance (s : String) : Decidable (HasNoOuterQuote s) := inferInstanceAs (Decidable (_ ∧ _))

/-- The second text is the first one, or what stands in it between a pair
of double quotes. -/
def LosesPair (s t : String) : Prop := t = s ∨ s = "\"" ++ t ++ "\""

/-- The second text is what is left of the first one without the double
quotes at its ends, however many there are at each. -/
structure LosesQuotes (s t : String) : Prop where
  ends : ∃ before behind : Nat,
    s.toList = List.replicate before '"' ++ t.toList ++ List.replicate behind '"'
  bare : HasNoOuterQuote t

theorem hasNoOuterQuote_iff {s : String} : HasNoOuterQuote s
    ↔ (∀ c ∈ s.toList.head?, (c == '"') = false) ∧ ∀ c ∈ s.toList.getLast?, (c == '"') = false := by
  have hend (end? : Option Char) : end? ≠ some '"' ↔ ∀ c ∈ end?, (c == '"') = false := by
    cases end? with
    | none => simp
    | some c => simp
  exact and_congr (hend _) (hend _)

theorem unquoted_eq_iff {s t : String} : unquoted s = t ↔ LosesQuotes s t := by
  have hlist : unquoted s = t ↔ Text.trimWhile (· == '"') s.toList = t.toList := by
    unfold unquoted
    rw [← String.toList_inj, String.toList_ofList]
  rw [hlist, Text.trimWhile_eq_iff, ← hasNoOuterQuote_iff]
  constructor
  · rintro ⟨⟨front, back, hs, hfront, hback⟩, hbare⟩
    have hquotes (cs : List Char) (hcs : ∀ c ∈ cs, (c == '"') = true) :
        cs = List.replicate cs.length '"' :=
      List.eq_replicate_iff.2 ⟨rfl, fun c hc => beq_iff_eq.1 (hcs c hc)⟩
    rw [hquotes front hfront, hquotes back hback] at hs
    exact ⟨⟨_, _, hs⟩, hbare⟩
  · rintro ⟨⟨before, behind, hs⟩, hbare⟩
    exact ⟨⟨_, _, hs, fun c hc => beq_iff_eq.2 (List.eq_of_mem_replicate hc),
      fun c hc => beq_iff_eq.2 (List.eq_of_mem_replicate hc)⟩, hbare⟩

theorem losesQuotes_unquoted (s : String) : LosesQuotes s (unquoted s) := unquoted_eq_iff.1 rfl

/-- A text is left as it is only where there is nothing to take off. -/
theorem unquoted_eq_self_iff {s : String} : unquoted s = s ↔ HasNoOuterQuote s := by
  constructor
  · intro h
    exact h ▸ (losesQuotes_unquoted s).bare
  · intro h
    exact unquoted_eq_iff.2 ⟨⟨0, 0, by simp⟩, h⟩

theorem unquoted_of_pair {t : String} (h : HasNoOuterQuote t) :
    unquoted ("\"" ++ t ++ "\"") = t :=
  unquoted_eq_iff.2 ⟨⟨1, 1, by simp⟩, h⟩

/-- Nothing but a pair is taken off exactly where there is nothing to
take off, or one pair with no further quote inside of it. -/
theorem losesPair_unquoted_iff {s : String} : LosesPair s (unquoted s)
    ↔ HasNoOuterQuote s ∨ ∃ t, HasNoOuterQuote t ∧ s = "\"" ++ t ++ "\"" := by
  constructor
  · rintro (hsame | hpair)
    · exact .inl (unquoted_eq_self_iff.1 hsame)
    · exact .inr ⟨unquoted s, (losesQuotes_unquoted s).bare, hpair⟩
  · rintro (hbare | ⟨t, hbare, rfl⟩)
    · exact .inl (unquoted_eq_self_iff.2 hbare)
    · rw [unquoted_of_pair hbare]
      exact .inr rfl

-- ============================================================== fields

/-- The values of a header, none if there is no such header. -/
def valuesOf (headers : Index (List String)) (name : String) : List String :=
  (headers.get? name).getD []

/-- What a field says of the values of its header. -/
structure Reports (values : List String) (field : Option String) : Prop where
  /-- It is absent exactly if there is no value. -/
  none_iff : field = none ↔ values = []
  /-- It is the first value without the quotes at its ends. -/
  of_first : ∀ first ∈ values.head?, ∃ text, field = some text ∧ LosesQuotes first text
  /-- It is the value as it was sent only if this has no such quotes. -/
  whole_iff : ∀ first ∈ values.head?, field = some first ↔ HasNoOuterQuote first
  /-- It lacks a pair of them at most only if there are no others. -/
  pair_iff : ∀ first ∈ values.head?, (∃ text, field = some text ∧ LosesPair first text)
    ↔ HasNoOuterQuote first ∨ ∃ text, HasNoOuterQuote text ∧ first = "\"" ++ text ++ "\""

theorem reports_unquoted (values : List String) :
    Reports values (values.head?.map unquoted) := by
  cases values with
  | nil => exact ⟨by simp, by simp, by simp, by simp⟩
  | cons value others =>
      refine ⟨by simp, ?first, ?whole, ?pair⟩
      all_goals
        rintro first hfirst
        cases hfirst
        rw [List.head?_cons, Option.map_some]
      case first => exact ⟨unquoted value, rfl, losesQuotes_unquoted value⟩
      case whole => rw [Option.some_inj, unquoted_eq_self_iff]
      case pair => simpa using losesPair_unquoted_iff

theorem bind_head?_get? (headers : Index (List String)) (name : String) :
    (headers.get? name).bind List.head? = (valuesOf headers name).head? := by
  unfold valuesOf
  cases headers.get? name <;> rfl

/-- The metadata of an object is the headers as they were sent, and each
of the three fields of text tells of the first value of its header what
is left without the quotes at its ends. -/
theorem ofHeaders_reports {headers : Index (List String)}
    (hlower : ∀ name ∈ headers.names, lowerName name = name) (key : String) :
    (ofHeaders key headers).metadata = headers
      ∧ Reports (valuesOf headers "etag") (ofHeaders key headers).etag
      ∧ Reports (valuesOf headers "content-type") (ofHeaders key headers).contentType
      ∧ Reports (valuesOf headers "x-amz-version-id") (ofHeaders key headers).versionId := by
  unfold ofHeaders
  dsimp only
  simp only [bind_head?_get?]
  exact ⟨metadata_ofHeaders hlower key, reports_unquoted _, reports_unquoted _, reports_unquoted _⟩

/-- A type with a quoted parameter, a weak tag, and a version with a quote
in front. -/
def quotedHeaders : Index (List String) :=
  .ofList [("content-type", ["text/plain; charset=\"utf-8\""]), ("etag", ["W/\"9b2c\""]),
    ("x-amz-version-id", ["\"v1"])]

/-- None of the three fields is what its header says. -/
theorem ofHeaders_reports_quotedHeaders :
    (∀ name ∈ quotedHeaders.names, lowerName name = name)
      ∧ (ofHeaders "cat.png" quotedHeaders).metadata = quotedHeaders
      ∧ (ofHeaders "cat.png" quotedHeaders).contentType ≠ some "text/plain; charset=\"utf-8\""
      ∧ (¬∃ text, (ofHeaders "cat.png" quotedHeaders).etag = some text
          ∧ LosesPair "W/\"9b2c\"" text)
      ∧ (ofHeaders "cat.png" quotedHeaders).versionId ≠ some "\"v1" := by
  have hlower : ∀ name ∈ quotedHeaders.names, lowerName name = name := by decide +kernel
  obtain ⟨hmetadata, hetag, htype, hversion⟩ := ofHeaders_reports hlower "cat.png"
  refine ⟨hlower, hmetadata, ?type, ?etag, ?version⟩
  case type =>
    rw [ne_eq, htype.whole_iff _ (by decide +kernel)]
    decide +kernel
  case etag =>
    rw [hetag.pair_iff _ (by decide +kernel)]
    rintro (hbare | ⟨text, -, htext⟩)
    · exact absurd hbare (by decide +kernel)
    · have hhead := congrArg (fun s : String => s.toList.head?) htext
      simp at hhead
  case version =>
    rw [ne_eq, hversion.whole_iff _ (by decide +kernel)]
    decide +kernel

end BucketAcl.ObjectInfo
