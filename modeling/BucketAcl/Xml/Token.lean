/-
The tokens of a document: runs of text, references, tags. Comments,
instructions and declarations leave no token, a tag that closes itself
leaves two. Reading stops at the first fault; what was read before it
stands.
-/
import BucketAcl.Xml.Doctype
import BucketAcl.Xml.Reference

namespace BucketAcl.Xml

open Text

/-- A token of a document. -/
inductive Token where
  | text (cs : List Char)
  | reference (name : List Char)
  | start (tag : Tag)
  | stop (name : String)
  | doctype
  deriving DecidableEq

namespace Token

/-- What a text begins with: a fault, or tokens and a rest. -/
abbrev Step : Type := Except Fault (List Token × List Char)

-- ============================================================== text

/-- A text with every line end put as one line feed. -/
def normalizeLineEnds : List Char → List Char
  | '\r' :: '\n' :: r => '\n' :: normalizeLineEnds r
  | '\r' :: '\u0085' :: r => '\n' :: normalizeLineEnds r
  | c :: r =>
    (if c = '\r' ∨ c = '\u0085' ∨ c = '\u2028' then '\n' else c) :: normalizeLineEnds r
  | [] => []

/-- Characters that go on with a text. -/
def isText (c : Char) : Bool := c != '<' && c != '&'

/-- A reference, after its `&`. -/
def stepReference (cs : List Char) : Step :=
  let name := cs.takeWhile fun c => c != ';' && isText c
  match cs.drop name.length with
  | ';' :: r => .ok ([reference name], r)
  | _ => .error .unclosedReference

-- ============================================================== tags

/-- A start tag, after its `<`. -/
def stepStart (cs : List Char) : Step := do
  let (content, r) ← cutTag none cs
  if content.getLast? = some '/' then
    let tag := tagOf content.dropLast
    return ([start tag, stop tag.name], r)
  else return ([start (tagOf content)], r)

/-- The name in an end tag: white space after it does not count. -/
def stopName (content : List Char) : List Char :=
  let name := dropEndWhile isSpace content
  if name = [] then content else name

/-- An end tag, after its `</`. -/
def stepStop (cs : List Char) : Step := do
  let (content, r) ← cutTag none cs
  return ([stop (.ofList (stopName content))], r)

-- ============================================= markup without content

/-- An instruction or the declaration, after its `<?`. -/
def stepInstruction (cs : List Char) : Step :=
  match cs, cutAtLiteral ['?', '>'] cs with
  | '>' :: _, _ => .error .unclosedInstruction
  | _, some (_, r) => .ok ([], r)
  | _, none =>
    match after? "xml".toList cs with
    | some [] => .error .unclosedDeclaration
    | some (c :: _) =>
      if isSpace c then .error .unclosedDeclaration else .error .unclosedInstruction
    | none => .error .unclosedInstruction

/-- A document type declaration, after its `<!`. -/
def stepDoctype (cs : List Char) : Step := do
  let some r := afterDoctype? none cs | .error .unclosedDoctype
  if (cs.take 7).map Char.toUpper ≠ "DOCTYPE".toList then .error .unclosedDoctype
  if ((cs.drop 7).dropWhile isSpace).head? = some '>' then .error .namelessDoctype
  return ([doctype], r)

/-- A comment, a literal text or a document type, after its `<!`. -/
def stepBang (cs : List Char) : Step :=
  match cs with
  | '-' :: _ =>
    match (after? ['-', '-'] cs).bind (cutAtLiteral ['-', '-', '>']) with
    | some (_, r) => .ok ([], r)
    | none => .error .unclosedComment
  | '[' :: _ =>
    match (after? "[CDATA[".toList cs).bind (cutAtLiteral [']', ']', '>']) with
    | some (content, r) => .ok ([text (normalizeLineEnds content)], r)
    | none => .error .unclosedCData
  | c :: _ => if c = 'D' ∨ c = 'd' then stepDoctype cs else .error .unknownMarkup
  | [] => .error .unknownMarkup

-- ============================================================== scan

/-- What a text that is not empty begins with. -/
def step (c : Char) (cs : List Char) : Step :=
  if c = '<' then
    match cs with
    | [] => .error .unclosedTag
    | '!' :: r => stepBang r
    | '?' :: r => stepInstruction r
    | '/' :: r => stepStop r
    | _ => stepStart cs
  else if c = '&' then stepReference cs
  else
    .ok ([text (normalizeLineEnds (c :: cs.takeWhile isText))], cs.dropWhile isText)

-- ================================================ steps go forward

theorem length_of_stepStart {cs : List Char} {ts : List Token} {r : List Char}
    (h : stepStart cs = .ok (ts, r)) : r.length ≤ cs.length := by
  cases hc : cutTag none cs with
  | error f => simp [stepStart, hc, bind, Except.bind] at h
  | ok p =>
    have hl := length_of_cutTag hc
    simp only [stepStart, hc, bind, Except.bind] at h
    split at h <;>
    · simp only [pure, Except.pure, Except.ok.injEq, Prod.mk.injEq] at h
      rw [← h.2]
      exact hl

theorem length_of_stepStop {cs : List Char} {ts : List Token} {r : List Char}
    (h : stepStop cs = .ok (ts, r)) : r.length ≤ cs.length := by
  cases hc : cutTag none cs with
  | error f => simp [stepStop, hc, bind, Except.bind] at h
  | ok p =>
    simp only [stepStop, hc, bind, Except.bind, pure, Except.pure, Except.ok.injEq,
      Prod.mk.injEq] at h
    rw [← h.2]
    exact length_of_cutTag hc

theorem length_of_stepInstruction {cs : List Char} {ts : List Token} {r : List Char}
    (h : stepInstruction cs = .ok (ts, r)) : r.length ≤ cs.length := by
  simp only [stepInstruction] at h
  split at h
  · simp at h
  · rename_i hc
    simp only [Except.ok.injEq, Prod.mk.injEq] at h
    rw [← h.2]
    exact length_of_cutAtLiteral hc
  · split at h
    · simp at h
    · split at h <;> simp at h
    · simp at h

theorem length_of_stepDoctype {cs : List Char} {ts : List Token} {r : List Char}
    (h : stepDoctype cs = .ok (ts, r)) : r.length ≤ cs.length := by
  cases hs : afterDoctype? none cs with
  | none => simp [stepDoctype, hs] at h
  | some t =>
    have hl := length_of_afterDoctype? hs
    simp only [stepDoctype, hs, bind, Except.bind, pure, Except.pure] at h
    split at h
    · simp at h
    · split at h
      · simp at h
      · simp only [Except.ok.injEq, Prod.mk.injEq] at h
        rw [← h.2]
        exact hl

theorem length_of_bind_cutAtLiteral {open_ close cs a b : List Char}
    (h : (after? open_ cs).bind (cutAtLiteral close) = some (a, b)) :
    b.length ≤ cs.length := by
  obtain ⟨t, ht, hb⟩ := Option.bind_eq_some_iff.1 h
  exact Nat.le_trans (length_of_cutAtLiteral hb) (length_of_after? ht)

theorem length_of_stepBang {cs : List Char} {ts : List Token} {r : List Char}
    (h : stepBang cs = .ok (ts, r)) : r.length ≤ cs.length := by
  simp only [stepBang] at h
  split at h
  · split at h
    · rename_i hc
      simp only [Except.ok.injEq, Prod.mk.injEq] at h
      rw [← h.2]
      exact length_of_bind_cutAtLiteral hc
    · simp at h
  · split at h
    · rename_i hc
      simp only [Except.ok.injEq, Prod.mk.injEq] at h
      rw [← h.2]
      exact length_of_bind_cutAtLiteral hc
    · simp at h
  · split at h
    · exact length_of_stepDoctype h
    · simp at h
  · simp at h

theorem length_of_stepReference {cs : List Char} {ts : List Token} {r : List Char}
    (h : stepReference cs = .ok (ts, r)) : r.length ≤ cs.length := by
  simp only [stepReference] at h
  split at h
  · rename_i t hd
    simp only [Except.ok.injEq, Prod.mk.injEq] at h
    have := congrArg List.length hd
    rw [List.length_drop, List.length_cons] at this
    rw [← h.2]
    omega
  · simp at h

/-- A step never goes back. -/
theorem length_of_step {c : Char} {cs : List Char} {ts : List Token} {r : List Char}
    (h : step c cs = .ok (ts, r)) : r.length ≤ cs.length := by
  simp only [step] at h
  split at h
  · split at h
    · simp at h
    · rename_i t _
      have := length_of_stepBang h
      rw [List.length_cons]
      omega
    · have := length_of_stepInstruction h
      rw [List.length_cons]
      omega
    · have := length_of_stepStop h
      rw [List.length_cons]
      omega
    · exact length_of_stepStart h
  · split at h
    · exact length_of_stepReference h
    · simp only [Except.ok.injEq, Prod.mk.injEq] at h
      rw [← h.2]
      exact length_dropWhile_le isText cs

/-- The tokens of a text, and the fault that ended the reading, if one
did. -/
def scan : List Char → List Token × Option Fault
  | [] => ([], none)
  | c :: cs =>
    match h : step c cs with
    | .error f => ([], some f)
    | .ok (ts, r) =>
      have : r.length < (c :: cs).length := Nat.lt_succ_of_le (length_of_step h)
      let (rest, fault) := scan r
      (ts ++ rest, fault)
  termination_by cs => cs.length
  decreasing_by exact this

end Token

end BucketAcl.Xml
