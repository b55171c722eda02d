/-
Whom a request of an action asks, and for what. The bucket, the key and
the version are written into the URL of the service behind delimiters
that none of their characters can be, so that the URL has the server and
the fragment of the service, and its query beside the pairs that the
action stands for.

Main statement: `sign_asks_service`.
-/
import BucketAcl.Proofs.Request

namespace BucketAcl

namespace Url

/-- The port that is asked. -/
def portOrDefault? (u : Url) : Option Nat := u.port? <|> defaultPort? u.scheme

/-- The pairs of a query. -/
def Parts.queryPairs (p : Parts) : List (List Char × List Char) := p.query.elim [] Form.pairs

-- ===================================================== the host header

/-- The header names the host, and the port unless the scheme implies
it. -/
theorem IsDelimited.hostHeader_eq {u : Url} (h : IsDelimited u) :
    ∃ port, u.portOrDefault? = some port ∧ SigV4.hostHeader u = u.hostText
      ++ (if defaultPort? u.scheme = some port then "" else ":" ++ toString port) := by
  obtain ⟨a, ha, hwritten⟩ := h.authority
  have hport : u.port? = a.port := by
    unfold port?
    rw [ha, Option.bind_some]
  unfold SigV4.hostHeader portOrDefault?
  rw [hport]
  cases hp : a.port with
  | some p =>
      refine ⟨p, rfl, ?_⟩
      rw [if_neg (hwritten.port p hp), Option.elim_some]
  | none =>
      obtain ⟨p, hdefault⟩ : ∃ p, defaultPort? u.scheme = some p := by
        rcases h.isService.scheme with hs | hs
        · exact ⟨80, by rw [hs]; rfl⟩
        · exact ⟨443, by rw [hs]; rfl⟩
      refine ⟨p, hdefault, ?_⟩
      rw [if_pos hdefault, Option.elim_none]

/-- The host header is what follows the user in the authority. -/
theorem Authority.text_eq {u : Url} {a : Authority} (ha : u.authority = some a) :
    a.text = a.userInfo ++ SigV4.hostHeader u := by
  unfold Authority.text SigV4.hostHeader hostText port?
  rw [ha, String.append_assoc]
  rfl

/-- So it is sent as it is put together. -/
theorem IsDelimited.trimmed_hostHeader {u : Url} (h : IsDelimited u) :
    Text.trimmed (SigV4.hostHeader u) = SigV4.hostHeader u := by
  obtain ⟨a, ha, hwritten⟩ := h.authority
  apply Text.trimmed_of_isVisible
  intro c hc
  have hmem : c ∈ a.text.toList := by
    rw [Authority.text_eq ha, String.toList_append]
    exact List.mem_append_right _ hc
  exact (hwritten.inAuthority c hmem).1

end Url

namespace Action

-- =========================================================== the query

/-- The version that an action is about. -/
def versionId? : Action → Option String
  | getBucketAcl | putBucketAcl _ => none
  | getObjectAcl _ v | headObject _ v | putObjectAcl _ _ v => v

/-- The pairs that an action stands for: the access control, unless only
the headers of an object are asked for, and the version. -/
def askedPairs (a : Action) : List (List Char × List Char) :=
  (if a.method = .head then [] else [("acl".toList, [])])
    ++ a.versionId?.toList.map fun v => ("versionId".toList, v.toList)

theorem addedPairs_eq (a : Action) : a.addedPairs = a.askedPairs := by
  cases a with
  | getBucketAcl => rfl
  | putBucketAcl acl => rfl
  | getObjectAcl key versionId => cases versionId <;> rfl
  | putObjectAcl key acl versionId => cases versionId <;> rfl
  | headObject key versionId => cases versionId <;> rfl

-- ============================================================= the URL

theorem isDelimited_url (a : Action) {e : Url} (he : e.IsDelimited) : (a.url e).IsDelimited :=
  url_induction (P := Url.IsDelimited) (fun _ k h => h.pushSegment k)
    (fun _ n v h => h.appendPair n v) a he

variable {h : Handle} {service : Url}

theorem queryPairs_url_bucketUrl (a : Action) (service : Url) (bucket : Option String) :
    (a.url (Handle.bucketUrl service bucket)).queryPairs
      = service.queryPairs ++ a.askedPairs := by
  rw [queryPairs_url, addedPairs_eq]
  unfold Url.queryPairs
  rw [bucketUrl_query]

/-- Two delimited URLs of one server are read alike but for the path and
the query. -/
theorem parts_of_sameServer {u v : Url} (hu : u.IsDelimited) (hv : v.IsDelimited)
    (huv : u.SameServer v) :
    ∃ p q, Url.Parts.ofText? u.text.toList = some p ∧ Url.Parts.ofText? v.text.toList = some q
      ∧ p.scheme = q.scheme ∧ p.authority = q.authority ∧ p.fragment = q.fragment
      ∧ p.queryPairs = u.queryPairs ∧ q.queryPairs = v.queryPairs := by
  have hpairs (w : Url) : (w.query.map String.toList).elim [] Url.Form.pairs = w.queryPairs := by
    unfold Url.queryPairs
    cases w.query <;> rfl
  obtain ⟨a, ha, -⟩ := hu.authority
  refine ⟨_, _, hu.ofText?_text ha, hv.ofText?_text (huv.authority ▸ ha), ?_, rfl, ?_,
    hpairs u, hpairs v⟩
  · exact congrArg String.toList huv.scheme
  · exact congrArg (Option.map String.toList) huv.fragment

-- ========================================================= the headers

theorem get?_sign_host (signer : SigV4.Signer) (a : Action) (u : Url) (payload : SigV4.Payload) :
    (signer.sign .empty a.method.name u payload a.customHeaders).get? "host"
      = some (Text.trimmed (SigV4.hostHeader u)) := by
  have hcustom : ∀ e ∈ a.customHeaders.entries, SigV4.headerName e.1 ≠ "host" :=
    headerName_customHeaders_ne (by decide)
  have hhost : (SigV4.requestHeaders .empty u signer.now payload a.customHeaders).get? "host"
      = some (Text.trimmed (SigV4.hostHeader u)) :=
    SigV4.get?_requestHeaders_host hcustom .empty
  unfold SigV4.Signer.sign
  split
  · exact hhost
  · rw [SigV4.get?_setHeader, if_neg (by decide)]
    exact hhost

-- ===================================================== the main result

theorem sign_of_service (hs : h.service = .ok service) (a : Action) (now : Time.Instant)
    (payload : SigV4.Payload) :
    a.sign h now payload = .ok (a.url (Handle.bucketUrl service h.bucket),
      ({ handle := h, now } : SigV4.Signer).sign .empty a.method.name
        (a.url (Handle.bucketUrl service h.bucket)) payload a.customHeaders) := by
  unfold sign Handle.endpoint
  rw [hs]
  rfl

/-- Whatever the bucket, the key and the version are, an action is
signed for the server of the service. Its query is the one of the
service and the pairs that the action stands for, and who reads the URL
by its delimiters finds just that. The header names the host, with the
port where the scheme does not imply it. -/
theorem sign_asks_service (hs : h.service = .ok service) (a : Action) (now : Time.Instant)
    (payload : SigV4.Payload) :
    ∃ u headers port, a.sign h now payload = .ok (u, headers)
      ∧ u.SameServer service ∧ u.queryPairs = service.queryPairs ++ a.askedPairs
      ∧ (∃ p q, Url.Parts.ofText? u.text.toList = some p
        ∧ Url.Parts.ofText? service.text.toList = some q
        ∧ p.scheme = q.scheme ∧ p.authority = q.authority ∧ p.fragment = q.fragment
        ∧ p.queryPairs = q.queryPairs ++ a.askedPairs)
      ∧ service.portOrDefault? = some port
      ∧ headers.get? "host" = some (service.hostText
        ++ if Url.defaultPort? service.scheme = some port then "" else ":" ++ toString port) := by
  have hservice := Url.isDelimited_of_service hs
  have hurl := isDelimited_url a (hservice.bucketUrl h.bucket)
  have hsame := sameServer_url a ((Url.SameServer.refl service).bucketUrl h.bucket)
  have hquery := queryPairs_url_bucketUrl a service h.bucket
  obtain ⟨p, q, hp, hq, hscheme, hauthority, hfragment, hpu, hqs⟩ :=
    parts_of_sameServer hurl hservice hsame
  have hparts : p.queryPairs = q.queryPairs ++ a.askedPairs := by
    rw [hpu, hquery, hqs]
  obtain ⟨port, hport, hhost⟩ := hservice.hostHeader_eq
  refine ⟨_, _, port, sign_of_service hs a now payload, hsame, hquery,
    ⟨p, q, hp, hq, hscheme, hauthority, hfragment, hparts⟩, hport, ?_⟩
  rw [get?_sign_host, hurl.trimmed_hostHeader, hostHeader_of_sameServer hsame, hhost]

/-- A handle on a service with a user, a port, a query and a fragment. -/
def furnishedHandle : Handle where
  credentials := { accessKey := "access", secretKey := "secret" }
  region := .custom "" "http://user@[::1]:9000/base?x=1#top"
  bucket := some "@evil:80/?#"
  isAnonymous := false

theorem service_furnishedHandle :
    ∃ s, furnishedHandle.service = .ok s ∧ s.scheme = "http" ∧ s.hostText = "[::1]"
      ∧ s.port? = some 9000 ∧ s.queryPairs = [("x".toList, "1".toList)] :=
  exists_of_any_toOption (by decide +kernel)

/-- A key and a version that look like another server, and like more
pairs, stay a key and a version. -/
theorem sign_asks_service_furnishedHandle :
    ∃ s u headers, furnishedHandle.service = .ok s
      ∧ (getObjectAcl "//evil/..?acl&x#" (some "1&x=2#")).sign furnishedHandle { seconds := 0 }
        { digest := [] } = .ok (u, headers)
      ∧ u.authority = s.authority
      ∧ u.queryPairs = [("x".toList, "1".toList), ("acl".toList, []),
        ("versionId".toList, "1&x=2#".toList)]
      ∧ headers.get? "host" = some "[::1]:9000" := by
  obtain ⟨s, hs, hscheme, hhost, hport, hquery⟩ := service_furnishedHandle
  obtain ⟨u, headers, port, hsign, hsame, hpairs, -, hknown, hheader⟩ :=
    sign_asks_service hs (getObjectAcl "//evil/..?acl&x#" (some "1&x=2#")) { seconds := 0 }
      { digest := [] }
  refine ⟨s, u, headers, hs, hsign, hsame.authority, ?_, ?_⟩
  · rw [hpairs, hquery]
    rfl
  · have hasked : port = 9000 := by
      unfold Url.portOrDefault? at hknown
      rw [hport] at hknown
      exact (Option.some.inj hknown).symm
    rw [hheader, hscheme, hhost, hasked]
    decide

end Action

end BucketAcl
