/-
The one-line form of a grant. A line stands for one grant at most, and
the reading gives it; what is no such line is refused, and of the two
things that may be wrong with it the permission goes first.

Main statement: `parse_grantLine`.
-/
import BucketAcl.Acl.Grant
import BucketAcl.Proofs.Text.Normal
import Mathlib.Data.Option.Basic

namespace BucketAcl

open Text

-- ============================================================= grammar

/-- How a line names a grantee. -/
inductive Naming where
  | id
  | uri
  | emailAddress
  deriving DecidableEq

namespace Naming

/-- The word in front of the value. -/
def word : Naming → String
  | id => "id"
  | uri => "uri"
  | emailAddress => "emailAddress"

/-- The grantee of a value: of its names only this one is filled in. -/
def grantee (value : String) : Naming → Grantee
  | id => { type := .canonicalUser, id := some value }
  | uri => { type := .group, uri := some value }
  | emailAddress => { type := .amazonCustomerByEmail, emailAddress := some value }

end Naming

/-- A text whose ASCII letters are put in upper case. -/
def Text.raised (s : String) : String := .ofList (s.toList.map Char.toUpper)

/-- A line of two parts around a colon, which the first part has none
of. White space at the ends of the parts does not count. The first names
the permission, in upper or lower case; the second is a word, an equals
sign and a value that is not empty. -/
inductive GrantLine : String → Grant → Prop where
  | line {front back name value : String} {permission : Permission} {naming : Naming}
      (colon : ':' ∉ front.toList) (trims_front : Trims front name)
      (names : raised name = permission.name)
      (trims_back : Trims back (naming.word ++ "=" ++ value)) (filled : value ≠ "") :
      GrantLine (front ++ ":" ++ back) ⟨naming.grantee value, permission⟩

/-- The part in front of the first colon, in upper case, if that names
no permission. -/
def NamesNoPermission (s name : String) : Prop :=
  ∃ front back t : String, s = front ++ ":" ++ back ∧ ':' ∉ front.toList ∧ Trims front t
    ∧ name = raised t ∧ ∀ q : Permission, q.name ≠ name

-- =============================================================== parts

/-- The text of a list of characters without the white space at its
ends. -/
theorem trims_ofList_iff {cs : List Char} {t : String} :
    Trims (.ofList cs) t ↔ trim cs = t.toList := by
  rw [trims_iff, trimmed, String.toList_ofList]
  constructor
  · rintro rfl
    rw [String.toList_ofList]
  · intro h
    rw [h, String.ofList_toList]

theorem equals_not_mem_word (naming : Naming) : '=' ∉ naming.word.toList := by
  cases naming <;> decide

/-- The grantee of a text is that of the word and the value that are left
of it. -/
theorem granteeOf?_eq_some_iff {cs : List Char} {g : Grantee} :
    Grant.granteeOf? cs = some g
      ↔ ∃ (naming : Naming) (value : String), Trims (.ofList cs) (naming.word ++ "=" ++ value)
        ∧ value ≠ "" ∧ g = naming.grantee value := by
  constructor
  · intro h
    obtain ⟨⟨kind, value⟩, hcut, h⟩ := Option.bind_eq_some_iff.1 h
    obtain ⟨⟨⟩, hguard, h⟩ := Option.bind_eq_some_iff.1 h
    obtain ⟨htrim, -⟩ := eq_of_cutAt hcut
    have hnaming : ∃ naming : Naming, naming.word = String.ofList kind
        ∧ g = naming.grantee (.ofList value) := by
      split at h
      · rename_i hkind
        exact ⟨.id, hkind.symm, (Option.some.inj h).symm⟩
      · rename_i hkind
        exact ⟨.uri, hkind.symm, (Option.some.inj h).symm⟩
      · rename_i hkind
        exact ⟨.emailAddress, hkind.symm, (Option.some.inj h).symm⟩
      · cases h
    obtain ⟨naming, hword, hg⟩ := hnaming
    refine ⟨naming, .ofList value, ?_, ?_, hg⟩
    · rw [trims_ofList_iff, htrim, hword]
      simp
    · intro hempty
      have hnil : value = [] := by simpa using hempty
      rw [hnil] at hguard
      cases hguard
  · rintro ⟨naming, value, htrims, hvalue, rfl⟩
    have hcut : cutAt '=' (trim cs) = some (naming.word.toList, value.toList) := by
      have htext : (naming.word ++ "=" ++ value).toList
          = naming.word.toList ++ '=' :: value.toList := by simp
      rw [trims_ofList_iff.1 htrims, htext, cutAt_append (equals_not_mem_word naming)]
    have hfilled : value.toList ≠ [] := fun hnil => hvalue (String.toList_eq_nil_iff.1 hnil)
    refine Option.bind_eq_some_iff.2 ⟨_, hcut, Option.bind_eq_some_iff.2
      ⟨(), (Option.guard_eq_some' ()).2 hfilled, ?_⟩⟩
    rw [String.ofList_toList, String.ofList_toList]
    cases naming <;> rfl

namespace Grant

-- ============================================================= reading

/-- A text without a colon is no line. -/
theorem parse_of_no_colon {s : String} (h : ':' ∉ s.toList) : parse s = .error (.grant s) := by
  unfold parse
  rw [(cutAt_eq_none_iff ':' s.toList).2 h]

/-- The first colon divides a line, and the permission is looked at
first. -/
theorem parse_of_colon {front back : String} (h : ':' ∉ front.toList) :
    parse (front ++ ":" ++ back) = (do
      let permission ← Permission.parse (raised (trimmed front))
      match granteeOf? back.toList with
      | none => .error (.grant (front ++ ":" ++ back))
      | some grantee => .ok ⟨grantee, permission⟩) := by
  have htext : (front ++ ":" ++ back).toList = front.toList ++ ':' :: back.toList := by
    simp
  unfold parse
  rw [htext, cutAt_append h]
  unfold raised trimmed
  rewrite [String.toList_ofList]
  rfl

theorem exists_of_colon {s : String} (h : ':' ∈ s.toList) :
    ∃ front back : String, s = front ++ ":" ++ back ∧ ':' ∉ front.toList := by
  cases hcut : cutAt ':' s.toList with
  | none => exact absurd h ((cutAt_eq_none_iff ':' s.toList).1 hcut)
  | some parts =>
      obtain ⟨hs, hno⟩ := eq_of_cutAt (b := parts.2) hcut
      refine ⟨.ofList parts.1, .ofList parts.2, ?_, by simpa using hno⟩
      apply String.toList_injective
      simp [hs]

theorem parse_of_grantLine {s : String} {g : Grant} (h : GrantLine s g) : parse s = .ok g := by
  obtain @⟨front, back, name, value, permission, naming, hcolon, hfront, hnames, hback,
    hfilled⟩ := h
  rw [← String.ofList_toList (s := back)] at hback
  have hgrantee := granteeOf?_eq_some_iff.2 ⟨naming, value, hback, hfilled, rfl⟩
  rw [parse_of_colon hcolon, trims_iff.1 hfront, Permission.parse_eq_ok_iff.2 hnames]
  show (match granteeOf? back.toList with
    | none => .error (.grant (front ++ ":" ++ back))
    | some grantee => .ok ⟨grantee, permission⟩ : Except MalformedAcl Grant) = _
  rw [hgrantee]

/-- What does not name a permission is reported, whatever comes behind
it. -/
theorem parse_of_namesNoPermission {s name : String} (h : NamesNoPermission s name) :
    parse s = .error (.permission name) := by
  obtain ⟨front, back, t, rfl, hcolon, htrims, rfl, hno⟩ := h
  rw [parse_of_colon hcolon, trims_iff.1 htrims, Permission.parse_eq_error_iff.2 ⟨hno, rfl⟩]
  rfl

/-- What becomes of a text: it is a line, or its permission is none, or
it is wrong as a whole. -/
theorem parse_cases (s : String) :
    (∃ g, parse s = .ok g ∧ GrantLine s g)
      ∨ (∃ name, parse s = .error (.permission name) ∧ NamesNoPermission s name)
      ∨ parse s = .error (.grant s) := by
  by_cases hcolon : ':' ∈ s.toList
  · obtain ⟨front, back, rfl, hno⟩ := exists_of_colon hcolon
    have hfront : Trims front (trimmed front) := trims_iff.2 rfl
    rw [parse_of_colon hno]
    cases hpermission : Permission.parse (raised (trimmed front)) with
    | error e =>
        obtain ⟨hnone, rfl⟩ := Permission.parse_eq_error_iff.1 hpermission
        exact .inr (.inl ⟨_, rfl, front, back, _, rfl, hno, hfront, rfl, hnone⟩)
    | ok q =>
        have hnames := Permission.parse_eq_ok_iff.1 hpermission
        cases hgrantee : granteeOf? back.toList with
        | none => exact .inr (.inr rfl)
        | some grantee =>
            obtain ⟨naming, value, hback, hfilled, rfl⟩ := granteeOf?_eq_some_iff.1 hgrantee
            rw [String.ofList_toList] at hback
            exact .inl ⟨_, rfl, .line hno hfront hnames hback hfilled⟩
  · exact .inr (.inr (parse_of_no_colon hcolon))

theorem parse_eq_ok_iff {s : String} {g : Grant} : parse s = .ok g ↔ GrantLine s g := by
  refine ⟨fun h => ?_, parse_of_grantLine⟩
  rcases parse_cases s with ⟨g', hg, hline⟩ | ⟨name, he, -⟩ | he
  · rw [h, Except.ok.injEq] at hg
    exact hg ▸ hline
  · rw [h] at he
    cases he
  · rw [h] at he
    cases he

/-- What is no line is refused for the one of two reasons that it gives. -/
theorem parse_eq_error_iff {s : String} {e : MalformedAcl} :
    parse s = .error e ↔ (∀ g, ¬GrantLine s g)
      ∧ ((∃ name, NamesNoPermission s name ∧ e = .permission name)
        ∨ (∀ name, ¬NamesNoPermission s name) ∧ e = .grant s) := by
  constructor
  · intro h
    have hno (g : Grant) : ¬GrantLine s g := fun hline => by
      rw [parse_of_grantLine hline] at h
      cases h
    refine ⟨hno, ?_⟩
    by_cases hnone : ∃ name, NamesNoPermission s name
    · obtain ⟨name, hname⟩ := hnone
      rw [parse_of_namesNoPermission hname, Except.error.injEq] at h
      exact .inl ⟨name, hname, h.symm⟩
    · refine .inr ⟨fun name hname => hnone ⟨name, hname⟩, ?_⟩
      rcases parse_cases s with ⟨g, -, hline⟩ | ⟨name, -, hname⟩ | he
      · exact absurd hline (hno g)
      · exact absurd ⟨name, hname⟩ hnone
      · rw [h] at he
        exact Except.error.inj he
  · rintro ⟨hno, ⟨name, hname, rfl⟩ | ⟨hnone, rfl⟩⟩
    · exact parse_of_namesNoPermission hname
    · rcases parse_cases s with ⟨g, -, hline⟩ | ⟨name, -, hname⟩ | he
      · exact absurd hline (hno g)
      · exact absurd hname (hnone name)
      · exact he

/-- What is read of a text, whatever it is. A line gives its grant, whose
value is all that stands behind the first equals sign. Any other text is
refused: by the name of a permission if there is a colon and what stands
in front of the first one is no permission, and else as a whole. -/
theorem parse_grantLine (s : String) :
    (∀ g, parse s = .ok g ↔ GrantLine s g)
      ∧ ∀ e, parse s = .error e ↔ (∀ g, ¬GrantLine s g)
        ∧ ((∃ name, NamesNoPermission s name ∧ e = .permission name)
          ∨ (∀ name, ¬NamesNoPermission s name) ∧ e = .grant s) :=
  ⟨fun _ => parse_eq_ok_iff, fun _ => parse_eq_error_iff⟩

/-- Both separators may stand in a value, and what is wrong with the
grantee does not count beside a permission that is none. -/
example : parse " read :\turi=http://[::1]/?a=b\n"
      = .ok ⟨.ofGroup "http://[::1]/?a=b", .read⟩
    ∧ parse "list:id=" = .error (.permission "LIST")
    ∧ parse "read:ID=reader" = .error (.grant "read:ID=reader") := by
  decide

end Grant

end BucketAcl
