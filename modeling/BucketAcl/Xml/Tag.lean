/-
Tags: their content, which ends at the first `>` that is not between
quotes, and the name that it begins with.
-/
import BucketAcl.Xml.Fault

namespace BucketAcl.Xml

/-- White space in markup. -/
def isSpace (c : Char) : Bool := c == ' ' || c == '\t' || c == '\r' || c == '\n'

/-- A start tag: its name, and all that follows the name as it stands. -/
structure Tag where
  name : String
  rest : List Char
  deriving DecidableEq

/-- What stands before the `>` of a tag, and the rest after it. A `>`
between quotes is not the one. -/
def cutTag : Option Char → List Char → Except Fault (List Char × List Char)
  | none, [] => .error .unclosedTag
  | some q, [] => .error (.unclosedQuote q)
  | none, c :: r =>
    if c = '>' then .ok ([], r)
    else do
      let (a, b) ← cutTag (if c = '"' ∨ c = '\'' then some c else none) r
      return (c :: a, b)
  | some q, c :: r => do
    let (a, b) ← cutTag (if c = q then none else some q) r
    return (c :: a, b)

/-- The tag of what stands between `<` and `>`. -/
def tagOf (content : List Char) : Tag where
  name := .ofList (content.takeWhile fun c => !isSpace c)
  rest := content.dropWhile fun c => !isSpace c

theorem length_of_cutTag {q : Option Char} {cs a b : List Char}
    (h : cutTag q cs = .ok (a, b)) : b.length ≤ cs.length := by
  induction cs generalizing q a with
  | nil => cases q <;> simp [cutTag] at h
  | cons c r ih =>
    cases q with
    | none =>
      simp only [cutTag] at h
      split at h
      · simp only [Except.ok.injEq, Prod.mk.injEq] at h
        simp [← h.2]
      · cases hr : cutTag (if c = '"' ∨ c = '\'' then some c else none) r with
        | error f => simp [hr, bind, Except.bind] at h
        | ok p =>
          simp only [hr, bind, Except.bind, pure, Except.pure, Except.ok.injEq,
            Prod.mk.injEq] at h
          obtain ⟨-, rfl⟩ := h
          have := ih hr
          rw [List.length_cons]
          omega
    | some q =>
      simp only [cutTag] at h
      cases hr : cutTag (if c = q then none else some q) r with
      | error f => simp [hr, bind, Except.bind] at h
      | ok p =>
        simp only [hr, bind, Except.bind, pure, Except.pure, Except.ok.injEq,
          Prod.mk.injEq] at h
        obtain ⟨-, rfl⟩ := h
        have := ih hr
        rw [List.length_cons]
        omega

end BucketAcl.Xml
