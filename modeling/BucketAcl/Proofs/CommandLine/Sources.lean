/-
What a command to put takes from its options. One of a label, a file and
grants is given, and is the source of what is put, with the owner that
grants need. Nothing else of it is left out but an owner without grants:
that is not refused beside a label or a file, and goes nowhere.

Main statement: `Invocation.put_ignores_only_owner`.
-/
import BucketAcl.Proofs.CommandLine.Spelled
import BucketAcl.Proofs.CommandLine.Start

namespace BucketAcl.CommandLine

open Item

/-- The options that stand for a source of their own. -/
def Opt.IsSource (o : Opt) : Prop := o = .acl ∨ o = .file ∨ o = .grant

/-- The options that a source is made of. -/
def Source.options : Source → List Opt
  | canned _ => [.acl]
  | file _ => [.file]
  | grants _ _ => [.owner, .grant]

/-- A source that is all that its options were given: the one label, the
one path, or the one owner with every grant in order. -/
inductive Source.IsGiven (isFile : String → Bool) (items : List Item) : Source → Prop
  | canned {a : Argument} {acl : CannedAcl} : values .acl items = [a] → ReadsLabel a acl →
      IsGiven isFile items (.canned acl)
  | file {a : Argument} {path : String} : values .file items = [a] → ReadsPath isFile a path →
      IsGiven isFile items (.file path)
  | grants {a : Argument} {owner : String} {grants : List Grant} : values .owner items = [a] →
      a.text? = some owner → values .grant items ≠ [] →
      List.Forall₂ ReadsGrant (values .grant items) grants →
      IsGiven isFile items (.grants owner grants)

-- ============================================================== options

/-- Values that read as something at most once are one value or none. -/
theorem eq_singleton_of_forall₂_some {α : Type} {R : Argument → α → Prop} {as : List Argument}
    {x : α} (h : List.Forall₂ R as (some x).toList) : ∃ a, as = [a] ∧ R a x := by
  obtain _ | ⟨hR, hnil⟩ := h
  cases hnil
  exact ⟨_, rfl, hR⟩

theorem eq_nil_of_forall₂_nil {α : Type} {R : Argument → α → Prop} {as : List Argument}
    (h : List.Forall₂ R as []) : as = [] := by
  cases h
  rfl

theorem ne_nil_of_forall₂ {α : Type} {R : Argument → α → Prop} {as : List Argument}
    {xs : List α} (h : List.Forall₂ R as xs) (hxs : xs ≠ []) : as ≠ [] := by
  rintro rfl
  cases h
  exact hxs rfl

namespace PutOptions

variable {isFile : String → Bool} {items : List Item} {p : PutOptions}

/-- What is accepted has a label, a path, or an owner with grants, and
not two of them. -/
theorem AreGiven.cases (h : p.AreGiven isFile items) :
    (∃ acl, p.acl = some acl ∧ p.file = none ∧ p.grants = [])
      ∨ (∃ path, p.acl = none ∧ p.file = some path ∧ p.grants = [])
      ∨ ∃ owner, p.acl = none ∧ p.file = none ∧ p.grants ≠ [] ∧ p.owner = some owner := by
  obtain ⟨hcount, howner⟩ := h.source
  rcases p with ⟨location, _ | acl, _ | path, owner, _ | ⟨g, gs⟩⟩
  case none.none.cons =>
    obtain ⟨owner, rfl⟩ := Option.ne_none_iff_exists'.1 (howner (List.cons_ne_nil g gs))
    exact .inr (.inr ⟨owner, rfl, rfl, List.cons_ne_nil g gs, rfl⟩)
  case none.some.nil => exact .inr (.inl ⟨path, rfl, rfl, rfl⟩)
  case some.none.nil => exact .inl ⟨acl, rfl, rfl, rfl⟩
  -- nothing, or more than one, was given
  all_goals simp [sourceCount] at hcount

/-- The source is all that its options were given, and no option of
another one was given. -/
theorem AreGiven.exists_source (h : p.AreGiven isFile items) :
    ∃ source, p.source? = some source ∧ source.IsGiven isFile items
      ∧ ∀ o : Opt, o.IsSource → (values o items ≠ [] ↔ o ∈ source.options) := by
  have hacl := h.acl
  have hfile := h.file
  have hgrant := h.grants
  have howner := h.owner
  rcases h.cases with ⟨acl, hone, hno, hnone⟩ | ⟨path, hno, hone, hnone⟩
    | ⟨owner, hno, hno', hgrants, hone⟩
  · rw [hone] at hacl
    rw [hno] at hfile
    rw [hnone] at hgrant
    obtain ⟨a, ha, hlabel⟩ := eq_singleton_of_forall₂_some hacl
    refine ⟨.canned acl, by rw [source?, hone], .canned ha hlabel, ?_⟩
    rintro o (rfl | rfl | rfl)
    · simp [ha, Source.options]
    · simp [eq_nil_of_forall₂_nil hfile, Source.options]
    · simp [eq_nil_of_forall₂_nil hgrant, Source.options]
  · rw [hno] at hacl
    rw [hone] at hfile
    rw [hnone] at hgrant
    obtain ⟨a, ha, hpath⟩ := eq_singleton_of_forall₂_some hfile
    refine ⟨.file path, by rw [source?, hno, hone], .file ha hpath, ?_⟩
    rintro o (rfl | rfl | rfl)
    · simp [eq_nil_of_forall₂_nil hacl, Source.options]
    · simp [ha, Source.options]
    · simp [eq_nil_of_forall₂_nil hgrant, Source.options]
  · rw [hno] at hacl
    rw [hno'] at hfile
    rw [hone] at howner
    obtain ⟨a, ha, htext⟩ := eq_singleton_of_forall₂_some howner
    have hne : values .grant items ≠ [] := ne_nil_of_forall₂ hgrant hgrants
    refine ⟨.grants owner p.grants, by rw [source?, hno, hno', hone],
      .grants ha htext hne hgrant, ?_⟩
    rintro o (rfl | rfl | rfl)
    · simp [eq_nil_of_forall₂_nil hacl, Source.options]
    · simp [eq_nil_of_forall₂_nil hfile, Source.options]
    · simp [hne, Source.options]

end PutOptions

namespace Source

/-- A source is made of one option that stands for a source. -/
theorem existsUnique_option (source : Source) :
    ∃! o : Opt, o.IsSource ∧ o ∈ source.options := by
  cases source with
  | canned acl =>
      exact ⟨.acl, ⟨.inl rfl, List.mem_singleton_self _⟩, fun o ho => List.mem_singleton.1 ho.2⟩
  | file path =>
      exact ⟨.file, ⟨.inr (.inl rfl), List.mem_singleton_self _⟩,
        fun o ho => List.mem_singleton.1 ho.2⟩
  | grants owner grants =>
      refine ⟨.grant, ⟨.inr (.inr rfl), by simp [options]⟩, ?_⟩
      rintro o ⟨rfl | rfl | rfl, ho⟩
      · simp [options] at ho
      · simp [options] at ho
      · rfl

/-- The owner belongs to grants. -/
theorem owner_mem_options (source : Source) :
    Opt.owner ∈ source.options ↔ Opt.grant ∈ source.options := by
  cases source <;> simp [options]

end Source

namespace Invocation

/-- What a command line to put takes from the options behind its word. It
was given exactly one of a label, a file and grants, and an owner with
grants; the source that it starts with is all that these were given. An
option that was given and is no part of the source is the owner, where no
grants were given. -/
theorem put_ignores_only_owner {isFile : String → Bool} {defaultConfig : String}
    {args : List Argument} {i : Invocation} {p : PutOptions}
    (hi : ofArguments isFile defaultConfig args = .ok i) (hp : i.command = .put p) :
    ∃ front rest items, Spells .top none args front (some (.put, rest))
      ∧ Spells Verb.put.level none rest items none
      ∧ p.AreGiven isFile items
      ∧ (∃! o : Opt, o.IsSource ∧ values o items ≠ [])
      ∧ (values .grant items ≠ [] → values .owner items ≠ [])
      ∧ ∃ source : Source, source.IsGiven isFile items
        ∧ Start.Gives (Start.source p) (source = ·)
        ∧ ∀ o : Opt, o.IsSource ∨ o = .owner → (values o items ≠ [] ∧ o ∉ source.options
          ↔ o = .owner ∧ values .owner items ≠ [] ∧ values .grant items = []) := by
  obtain ⟨front, verb, rest, items, hfront, hbehind, hcommand, -, -⟩ := isSpelledBy_ofArguments hi
  rw [hp] at hcommand
  cases hcommand with
  | put hgiven =>
      obtain ⟨source, hsource, hall, hoptions⟩ := hgiven.exists_source
      have hgrant := hoptions .grant (.inr (.inr rfl))
      refine ⟨front, rest, items, hfront, hbehind, hgiven, ?one, fun hne => ?owner, source, hall,
        .congr (Start.gives_source p) fun x => ?gives, fun o ho => ?ignored⟩
      case one =>
        exact (existsUnique_congr fun o => and_congr_right (hoptions o)).2
          source.existsUnique_option
      case owner =>
        obtain ⟨x, hx⟩ := Option.ne_none_iff_exists'.1
          (hgiven.source.2 fun hnil => hne (eq_nil_of_forall₂_nil (hnil ▸ hgiven.grants)))
        exact ne_nil_of_forall₂ hgiven.owner (by simp [hx])
      case gives => rw [hsource, Option.some.injEq]
      case ignored =>
        rcases ho with ho | rfl
        · have hne : o ≠ .owner := by rcases ho with rfl | rfl | rfl <;> decide
          exact iff_of_false (fun h => h.2 ((hoptions o ho).1 h.1)) fun h => hne h.1
        · rw [source.owner_mem_options, ← hgrant, Decidable.not_not]
          exact (and_iff_right rfl).symm

/-- A command line with an owner beside a label. -/
def labelledArguments : List Argument :=
  ["put", "s3/photos", "--acl", "private", "--owner", "abc"].map Argument.ofText

/-- It is read, but the owner goes nowhere. -/
theorem put_ignores_only_owner_besideLabel :
    ∃ i p items, ofArguments (fun _ => true) "config.yml" labelledArguments = .ok i
      ∧ i.command = .put p ∧ p.AreGiven (fun _ => true) items ∧ p.owner = some "abc"
      ∧ ∃ source : Source, Start.Gives (Start.source p) (source = ·)
        ∧ values .owner items ≠ [] ∧ .owner ∉ source.options := by
  obtain ⟨i, hi, rfl⟩ : ∃ i, ofArguments (fun _ => true) "config.yml" labelledArguments = .ok i
      ∧ i = ⟨"config.yml", 0, false, .put ⟨"s3/photos", some .ownerOnly, none, some "abc", []⟩⟩ :=
    exists_of_any_toOption (by decide +kernel)
  obtain ⟨-, -, items, -, -, hgiven, -, -, source, -, hgives, hignored⟩ :=
    put_ignores_only_owner hi rfl
  have hgrant : values .grant items = [] := eq_nil_of_forall₂_nil hgiven.grants
  have howner : values .owner items ≠ [] := ne_nil_of_forall₂ hgiven.owner (List.cons_ne_nil _ _)
  exact ⟨_, _, items, hi, rfl, hgiven, rfl, source, hgives,
    (hignored .owner (.inr rfl)).2 ⟨rfl, howner, hgrant⟩⟩

end Invocation

end BucketAcl.CommandLine
