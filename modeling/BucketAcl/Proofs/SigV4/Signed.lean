/-
The signature of the requests of a handle, as a verifier sees it. The
request agrees with the verifier in everything but the order of the
pairs in the query, and there as long as the names keep the order.

Main statement: `signedAs_of_request`.
-/
import BucketAcl.Proofs.Call.Run
import BucketAcl.Proofs.SigV4.Verifier

namespace BucketAcl.SigV4

open Text Digest

namespace Received

-- ======================================================= what is read

variable {r : Http.Request}

/-- The path ends at the question mark that begins the query. -/
theorem cutAt_target (hu : Url.IsService r.url) :
    cutAt '?' (ofRequest r).target
      = r.url.query.map fun q => (r.url.path.text.toList, q.toList) := by
  obtain ⟨ss, hp, -, hc⟩ := hu.path
  have hno : '?' ∉ r.url.path.text.toList := by
    rw [hp]
    exact Url.Path.question_not_mem_text hc
  unfold ofRequest
  cases r.url.query with
  | none =>
      refine (cutAt_eq_none_iff '?' _).2 ?_
      rw [String.toList_append]
      simpa using hno
  | some q =>
      rw [String.toList_append, Option.elim_some, String.toList_append]
      exact cutAt_append hno q.toList

theorem path_ofRequest (hu : Url.IsService r.url) :
    (ofRequest r).path = r.url.path.text.toList := by
  unfold path
  rw [cutAt_target hu]
  cases hq : r.url.query with
  | none =>
      unfold ofRequest
      rw [hq, String.toList_append]
      exact List.append_nil _
  | some q => rfl

theorem queryPairs_ofRequest (hu : Url.IsService r.url) :
    (ofRequest r).queryPairs = r.url.queryPairs := by
  unfold queryPairs Url.queryPairs
  rw [cutAt_target hu]
  cases r.url.query with
  | none => rfl
  | some q => rfl

end Received

-- ====================================================== what is signed

section

variable {h : Handle} {now : Time.Instant} {a : Action} {u : Url}

/-- The headers of the request of an action before it is signed. -/
def unsigned (a : Action) (u : Url) (now : Time.Instant) : Index String :=
  requestHeaders .empty u now a.payload a.customHeaders

theorem get?_unsigned_authorization : (unsigned a u now).get? "authorization" = none := by
  unfold unsigned
  exact get?_requestHeaders_eq_none (by decide) (Action.headerName_customHeaders_ne (by decide))

/-- The value of the header that carries the signature loses nothing:
it begins with a letter and ends with a visible character. -/
theorem trimmed_authorization (accessKey scope names : String) {signature : String}
    (hv : ∀ c ∈ signature.toList, IsVisible c) :
    trimmed (authorization accessKey scope names signature)
      = authorization accessKey scope names signature := by
  have hlast : ∃ cs b, (", Signature=" ++ signature).toList = cs ++ [b] ∧ isBlank b = false := by
    rw [String.toList_append]
    rcases List.eq_nil_or_concat signature.toList with hnil | ⟨cs, b, hcs⟩
    · exact ⟨", Signature".toList, '=', by rw [hnil]; decide, by decide⟩
    · rw [List.concat_eq_append] at hcs
      refine ⟨", Signature=".toList ++ cs, b, by rw [hcs, List.append_assoc], ?_⟩
      exact (hv b (hcs ▸ List.mem_append_right _ (List.mem_singleton_self b))).isBlank
  have hfirst : ∃ a cs, "AWS4-HMAC-SHA256 Credential=".toList = a :: cs ∧ isBlank a = false :=
    ⟨'A', _, rfl, by decide⟩
  have hsplit : authorization accessKey scope names signature
      = "AWS4-HMAC-SHA256 Credential=" ++ (accessKey ++ "/" ++ scope ++ ", SignedHeaders=" ++ names)
        ++ (", Signature=" ++ signature) := by
    unfold authorization
    simp only [String.append_assoc]
  rw [hsplit]
  exact trimmed_append_of_ends hfirst hlast _

/-- What a signature for requests of the store holds for. -/
theorem scope_store (date region : String) :
    scope date region "s3" = date ++ "/" ++ region ++ "/s3/aws4_request" := by
  have hliteral : "/" ++ "s3" ++ "/aws4_request" = "/s3/aws4_request" := by decide
  unfold scope
  rw [← hliteral]
  simp only [String.append_assoc]

theorem authorization_eq (accessKey date region names signature : String) :
    authorization accessKey (scope date region "s3") names signature
      = "AWS4-HMAC-SHA256 Credential=" ++ accessKey ++ "/" ++ date ++ "/" ++ region
        ++ "/s3/aws4_request, SignedHeaders=" ++ names ++ ", Signature=" ++ signature := by
  have hliteral : "/s3/aws4_request" ++ ", SignedHeaders=" = "/s3/aws4_request, SignedHeaders=" :=
    by decide
  rw [scope_store, ← hliteral]
  unfold authorization
  simp only [String.append_assoc]

/-- The verifier signs as the signer does. -/
theorem signature_eq (secretKey region canonical : String) (now : Time.Instant) :
    signature secretKey now region "s3" canonical
      = signatureUnder secretKey now.basicText now.basicDate region canonical := by
  have hliteral : "/s3/aws4_request" ++ "\n" = "/s3/aws4_request\n" := by decide
  have htext (hash : String) :
      stringToSign now.basicText (scope now.basicDate region "s3") hash
        = "AWS4-HMAC-SHA256\n" ++ now.basicText ++ "\n" ++ now.basicDate ++ "/" ++ region
          ++ "/s3/aws4_request\n" ++ hash := by
    rw [scope_store, ← hliteral]
    unfold stringToSign
    simp only [String.append_assoc]
  unfold signature
  dsimp only
  rw [htext]
  rfl

/-- The headers of a signed request: the ones that were hashed, and the
signature. -/
theorem sign_eq (hs : h.isAnonymous = false) (method : String) :
    ({ handle := h, now } : Signer).sign .empty method u a.payload a.customHeaders
      = (unsigned a u now).insert "authorization"
        (authorization h.credentials.accessKey (scope now.basicDate (signingRegion h) "s3")
          (signedHeaders (unsigned a u now))
          (signature h.credentials.secretKey now (signingRegion h) "s3"
            (canonicalRequest method u (unsigned a u now) (Hex.text a.payload.digest)))) := by
  have hvisible : ∀ c ∈ (signature h.credentials.secretKey now (signingRegion h) "s3"
      (canonicalRequest method u (unsigned a u now) (Hex.text a.payload.digest))).toList,
      IsVisible c := fun c hc => isVisible_of_mem_hex hc
  unfold Signer.sign
  rw [hs]
  exact congrArg ((unsigned a u now).insert "authorization")
    (trimmed_authorization h.credentials.accessKey (scope now.basicDate (signingRegion h) "s3")
      (signedHeaders (unsigned a u now)) hvisible)

/-- Without a signature the headers are sent as they were set. -/
theorem sign_of_anonymous (hs : h.isAnonymous = true) (method : String) (a : Action) (u : Url) :
    ({ handle := h, now } : Signer).sign .empty method u a.payload a.customHeaders
      = unsigned a u now := by
  unfold Signer.sign
  rw [hs]
  rfl

/-- The headers that the signature holds for are the ones that were
hashed. -/
theorem filter_entries_insert_authorization (value : String) :
    ((unsigned a u now).insert "authorization" value).entries.filter
        (fun e => e.1 ≠ "authorization")
      = (unsigned a u now).entries := by
  rw [Index.filter_insert, Index.filter_entries_of_get?_eq_none get?_unsigned_authorization]

end

namespace Received

variable {h : Handle} {now : Time.Instant} {a : Action} {r : Http.Request}

/-- The verifier puts together what was hashed, but for the order of the
query. -/
theorem canonicalRequest_ofRequest (hu : Url.IsService r.url) {headers : Index String}
    (hc : (ofRequest r).covered = headers.entries) :
    (ofRequest r).canonicalRequest byText
      = SigV4.canonicalRequest r.method.name r.url headers
        (Hex.text (Sha256.hash (Utf8.bytes r.body))) := by
  have hquery : orderedQuery byText (ofRequest r).queryPairs = canonicalQuery r.url := by
    rw [queryPairs_ofRequest hu, canonicalQuery_eq]
  have hnames : ";".intercalate (ofRequest r).coveredNames = signedHeaders headers := by
    rw [coveredNames, hc]
    rfl
  unfold canonicalRequest
  rw [path_ofRequest hu, hquery, hc, hnames]
  rfl

theorem isService_of_request (hr : a.request h now = .ok r) : Url.IsService r.url := by
  obtain ⟨e, he, rfl⟩ := Action.request_eq hr
  exact Action.isService_url a (Action.isService_endpoint he)

/-- The headers of a request, by what else is in it. -/
theorem headers_of_request (hs : h.isAnonymous = false) (hr : a.request h now = .ok r) :
    r.headers = (unsigned a r.url now).insert "authorization"
      (authorization h.credentials.accessKey (scope now.basicDate (signingRegion h) "s3")
        (signedHeaders (unsigned a r.url now))
        (signature h.credentials.secretKey now (signingRegion h) "s3"
          (SigV4.canonicalRequest r.method.name r.url (unsigned a r.url now)
            (Hex.text (Sha256.hash (Utf8.bytes r.body)))))) := by
  obtain ⟨e, -, rfl⟩ := Action.request_eq hr
  rw [sign_eq hs, Action.payload_digest]

/-- All headers but the signature are sent as they were set. -/
theorem get?_headers_of_request (hr : a.request h now = .ok r) {name : String}
    (hne : name ≠ "authorization") : r.headers.get? name = (unsigned a r.url now).get? name := by
  cases hs : h.isAnonymous with
  | true =>
      obtain ⟨e, -, rfl⟩ := Action.request_eq hr
      dsimp only
      rw [sign_of_anonymous hs]
  | false => rw [headers_of_request hs hr, Index.get?_insert, if_neg hne]

/-- The request of an action is signed as what the verifier puts
together with the query in the order of texts. -/
theorem signedAs_of_request (hs : h.isAnonymous = false) (hr : a.request h now = .ok r) :
    (ofRequest r).SignedAs h.credentials (signingRegion h) now.basicText now.basicDate
      ((ofRequest r).canonicalRequest byText) := by
  have hheaders := headers_of_request hs hr
  have hcovered : (ofRequest r).covered = (unsigned a r.url now).entries := by
    unfold covered ofRequest
    rw [hheaders]
    exact filter_entries_insert_authorization _
  have hnames : (ofRequest r).coveredNames = (unsigned a r.url now).names := by
    unfold coveredNames
    rw [hcovered]
    rfl
  have hlookup (name : String) (hne : name ≠ "authorization") :
      (ofRequest r).header? name = (unsigned a r.url now).get? name :=
    get?_headers_of_request hr hne
  have hdigest : a.payload.digest = Sha256.hash (Utf8.bytes r.body) := by
    obtain ⟨e, -, rfl⟩ := Action.request_eq hr
    exact Action.payload_digest a
  refine ⟨?timestamp, Time.cutAt_basicText now, ?digest, ?ascending, ?authorization⟩
  case timestamp =>
    rw [hlookup _ (by decide)]
    exact get?_requestHeaders_date (Action.headerName_customHeaders_ne (by decide)) _
  case digest =>
    rw [hlookup _ (by decide)]
    refine (get?_requestHeaders_digest
      (Action.headerName_customHeaders_ne (by decide)) _).trans ?_
    rw [hdigest]
    rfl
  case ascending =>
    rw [hnames]
    exact List.pairwise_map.2 (unsigned a r.url now).ascending
  case authorization =>
    show r.headers.get? "authorization" = _
    rw [hnames, canonicalRequest_ofRequest (isService_of_request hr) hcovered]
    conv => lhs; rw [hheaders]
    rw [Index.get?_insert, if_pos rfl]
    rw [signature_eq, authorization_eq]
    rfl

end Received

end BucketAcl.SigV4
