/-
What is reported of a reply that does not grant its request. All that
the reply says is kept: a document gives the code and the message, and a
body that is no document is kept itself; and each id is taken from its
header, or else from the document. Nothing in a report comes from
anywhere else.

Main statement: `reports_iff`.
-/
import BucketAcl.Proofs.Reply.ErrorDocument
import BucketAcl.Reply.Refusal

namespace BucketAcl

open Text Http

-- ============================================================= headers

namespace Http

/-- Printable ASCII, as it may stand in a header: from the space to the
tilde, and the tab. -/
def IsPrintable (b : UInt8) : Prop := b = 0x09 ∨ 0x20 ≤ b ∧ b < 0x7f

theorem isPrintable_iff {b : UInt8} :
    (b == 0x09 || (0x20 ≤ b && b < 0x7f)) = true ↔ IsPrintable b := by
  simp [IsPrintable]

theorem toNat_lt_of_isPrintable {b : UInt8} (h : IsPrintable b) : b.toNat < 128 := by
  rcases h with rfl | ⟨-, h⟩
  · decide
  · exact Nat.lt_trans (UInt8.lt_iff_toNat_lt.1 h) (by decide)

namespace Reply

/-- An id that is taken from a reply. The first header of a name gives
it, if that can be printed, even if it is empty; else it is the one of
the document, if there is any. -/
inductive TakesId (reply : Reply) (name : String) (inDocument : Option String) :
    Option String → Prop where
  | header {text : String} (first : reply.headers.lookup name = some (Utf8.bytes text))
      (printable : ∀ b ∈ Utf8.bytes text, IsPrintable b) :
      TakesId reply name inDocument (some text)
  | document (unprintable : ∀ value, reply.headers.lookup name = some value →
      ∃ b ∈ value, ¬IsPrintable b) : TakesId reply name inDocument inDocument

theorem takesId_header? (reply : Reply) (name : String) (inDocument : Option String) :
    reply.TakesId name inDocument ((reply.header? name).or inDocument) := by
  unfold header?
  cases hvalue : reply.headers.lookup name with
  | none =>
      refine .document fun value h => ?_
      rw [hvalue] at h
      cases h
  | some value =>
      dsimp only
      split
      · rename_i hall
        have hprintable : ∀ b ∈ value, IsPrintable b :=
          fun b hb => isPrintable_iff.1 (List.all_eq_true.1 hall b hb)
        have hbytes := Utf8.bytes_of_ascii fun b hb => toNat_lt_of_isPrintable (hprintable b hb)
        refine .header ?_ ?_
        · rw [hbytes, hvalue]
        · rw [hbytes]
          exact hprintable
      · rename_i hall
        refine .document fun value' h => ?_
        rw [hvalue, Option.some.injEq] at h
        subst h
        by_contra hno
        refine hall (List.all_eq_true.2 fun b hb => isPrintable_iff.2 ?_)
        by_contra hunprintable
        exact hno ⟨b, hb, hunprintable⟩

/-- There is one id that can be taken. -/
theorem TakesId.unique {reply : Reply} {name : String} {inDocument id id' : Option String}
    (h : reply.TakesId name inDocument id) (h' : reply.TakesId name inDocument id') : id = id' := by
  cases h with
  | header hfirst hprintable =>
      cases h' with
      | header hfirst' _ =>
          rw [hfirst, Option.some.injEq] at hfirst'
          have htext := congrArg Utf8.lossy hfirst'
          rw [Utf8.lossy_bytes, Utf8.lossy_bytes] at htext
          rw [htext]
      | document hno =>
          obtain ⟨b, hb, hunprintable⟩ := hno _ hfirst
          exact absurd (hprintable b hb) hunprintable
  | document hno =>
      cases h' with
      | header hfirst hprintable =>
          obtain ⟨b, hb, hunprintable⟩ := hno _ hfirst
          exact absurd (hprintable b hb) hunprintable
      | document _ => rfl

/-- The document that a reply comes with, if its body is one. -/
def document? (reply : Reply) : Option ErrorDocument :=
  (ErrorDocument.ofXml (Utf8.lossy reply.body)).toOption

theorem document?_eq_some_iff {reply : Reply} {d : ErrorDocument} :
    reply.document? = some d ↔ ErrorDocument.ofXml (Utf8.lossy reply.body) = .ok d := by
  unfold document?
  cases ErrorDocument.ofXml (Utf8.lossy reply.body) with
  | error fault => exact ⟨nofun, nofun⟩
  | ok d' => exact ⟨fun h => congrArg Except.ok (Option.some.inj h), congrArg Except.toOption⟩

/-- The body of a reply as text, if there is any. -/
def rawBody? (reply : Reply) : Option String :=
  if reply.body = [] then none else some (Utf8.lossy reply.body)

theorem rawBody?_eq (reply : Reply) :
    reply.rawBody? = if reply.text = "" then none else some reply.text := by
  unfold rawBody? text
  by_cases h : reply.body = []
  · rw [if_pos h, if_pos (Utf8.lossy_eq_empty_iff.2 h)]
  · rw [if_neg h, if_neg (mt Utf8.lossy_eq_empty_iff.1 h)]

end Reply

end Http

namespace Refusal

-- ============================================================= reports

/-- How a text is shown: one that is missing or empty as a dash. -/
inductive ShownAs : Option String → String → Prop where
  | missing : ShownAs none "-"
  | empty : ShownAs (some "") "-"
  | text {s : String} (h : s ≠ "") : ShownAs (some s) s

/-- A refusal that reports a reply to a request on a bucket and a key. -/
structure Reports (e : Refusal) (reply : Reply) (bucket : String) (key : Option String) :
    Prop where
  status_eq : e.status = reply.status
  bucket_eq : e.bucket = bucket
  key_eq : e.key = key
  said : match reply.document? with
    | some d => (∃ root, Xml.IsRoot (Utf8.lossy reply.body) root ∧ d.IsReadFrom root)
      ∧ e.code = some d.code ∧ e.message = some d.message ∧ e.body = none
    | none => e.code = none ∧ e.message = none ∧ e.body = reply.rawBody?
  requestId : reply.TakesId "x-amz-request-id" (reply.document?.bind (·.requestId)) e.requestId
  hostId : reply.TakesId "x-amz-id-2" (reply.document?.bind (·.hostId)) e.hostId
  shown : ∃ key code message, ShownAs e.key key ∧ ShownAs e.code code
    ∧ ShownAs (e.message.or e.body) message
    ∧ e.text = "HTTP Status Code: " ++ e.status.text ++ ", Bucket: " ++ e.bucket ++ ", Key: " ++ key
      ++ ", Code: " ++ code ++ ", Message: " ++ message

theorem shownAs_orDash (s : Option String) : ShownAs s (orDash s) := by
  unfold orDash
  cases s with
  | none => exact .missing
  | some s =>
      dsimp only [Option.getD_some]
      by_cases h : s = ""
      · rw [if_pos h, h]
        exact .empty
      · rw [if_neg h]
        exact .text h

/-- What any refusal shows. -/
theorem shown_text (e : Refusal) : ∃ key code message, ShownAs e.key key ∧ ShownAs e.code code
    ∧ ShownAs (e.message.or e.body) message
    ∧ e.text = "HTTP Status Code: " ++ e.status.text ++ ", Bucket: " ++ e.bucket ++ ", Key: " ++ key
      ++ ", Code: " ++ code ++ ", Message: " ++ message := by
  refine ⟨_, _, _, shownAs_orDash e.key, shownAs_orDash e.code, shownAs_orDash _, ?_⟩
  rw [Option.or_eq_orElse]
  rfl

variable {reply : Reply} {bucket : String} {key : Option String} {e e' : Refusal}

/-- The refusal that a reply makes, part by part. -/
theorem ofReply_eq (reply : Reply) (bucket : String) (key : Option String) :
    ofReply reply bucket key =
      { status := reply.status, bucket, key
        code := reply.document?.map (·.code)
        message := reply.document?.map (·.message)
        requestId := (reply.header? "x-amz-request-id").or (reply.document?.bind (·.requestId))
        hostId := (reply.header? "x-amz-id-2").or (reply.document?.bind (·.hostId))
        body := match reply.document? with
          | some _ => none
          | none => reply.rawBody? } := by
  rw [Reply.rawBody?_eq]
  unfold ofReply Reply.text Reply.document?
  cases ErrorDocument.ofXml (Utf8.lossy reply.body) with
  | ok d =>
      rw [Option.or_eq_orElse, Option.or_eq_orElse]
      rfl
  | error fault =>
      dsimp only [Except.toOption, Option.bind_none]
      rw [Option.or_none, Option.or_none]
      split
      · rfl
      · rfl

theorem reports_ofReply (reply : Reply) (bucket : String) (key : Option String) :
    (ofReply reply bucket key).Reports reply bucket key := by
  rw [ofReply_eq]
  refine ⟨rfl, rfl, rfl, ?_, reply.takesId_header? _ _, reply.takesId_header? _ _, shown_text _⟩
  cases hd : reply.document? with
  | none => exact ⟨rfl, rfl, rfl⟩
  | some d =>
      have hread := Reply.document?_eq_some_iff.1 hd
      exact ⟨ErrorDocument.exists_root_of_ofXml hread, rfl, rfl, rfl⟩

/-- There is one report of a reply. -/
theorem Reports.unique (h : e.Reports reply bucket key) (h' : e'.Reports reply bucket key) :
    e = e' := by
  have hsaid : e.code = e'.code ∧ e.message = e'.message ∧ e.body = e'.body := by
    have hs := h.said
    have hs' := h'.said
    cases hd : reply.document? with
    | some d =>
        rw [hd] at hs hs'
        obtain ⟨-, hcode, hmessage, hbody⟩ := hs
        obtain ⟨-, hcode', hmessage', hbody'⟩ := hs'
        exact ⟨hcode.trans hcode'.symm, hmessage.trans hmessage'.symm, hbody.trans hbody'.symm⟩
    | none =>
        rw [hd] at hs hs'
        obtain ⟨hcode, hmessage, hbody⟩ := hs
        obtain ⟨hcode', hmessage', hbody'⟩ := hs'
        exact ⟨hcode.trans hcode'.symm, hmessage.trans hmessage'.symm, hbody.trans hbody'.symm⟩
  obtain ⟨hcode, hmessage, hbody⟩ := hsaid
  have hstatus := h.status_eq.trans h'.status_eq.symm
  have hbucket := h.bucket_eq.trans h'.bucket_eq.symm
  have hkey := h.key_eq.trans h'.key_eq.symm
  have hrequestId := h.requestId.unique h'.requestId
  have hhostId := h.hostId.unique h'.hostId
  cases e
  cases e'
  rw [mk.injEq]
  exact ⟨hstatus, hbucket, hkey, hcode, hmessage, hrequestId, hhostId, hbody⟩

/-- The refusal that a reply makes is the one that reports it. -/
theorem reports_iff : e.Reports reply bucket key ↔ e = .ofReply reply bucket key := by
  constructor
  · intro h
    exact h.unique (reports_ofReply reply bucket key)
  · rintro rfl
    exact reports_ofReply reply bucket key

end Refusal

end BucketAcl
