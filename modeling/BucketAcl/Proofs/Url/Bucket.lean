/-
Where the URL of an object stands. The bucket is one segment below the
service, and the object is below the bucket only if the moves that the
parts of its key make end there: a key may leave the bucket, or name
the bucket itself.

Main statement: `request_isInBucket_iff`.
-/
import BucketAcl.Proofs.Request
import BucketAcl.Proofs.Url.Walks

namespace BucketAcl

namespace Url

open Percent Segments

variable {special : Bool}

-- ====================================================== texts of paths

namespace Path

/-- A path is written with a slash between segments, and one in front. -/
theorem toList_text_eq_intercalate (ss : List String) :
    (Path.segments ss).text.toList = ['/'].intercalate ([] :: ss.map String.toList) := by
  rw [toList_text_segments]
  induction ss with
  | nil => rfl
  | cons s r ih =>
      rw [List.flatMap_cons, List.map_cons, List.intercalate_cons_cons, ih]
      cases r with
      | nil => simp
      | cons t u => simp [List.intercalate_cons_cons]

/-- Segments without slashes are found again in the text of a path. -/
theorem splitOn_text {ss : List String} (h : ∀ s ∈ ss, '/' ∉ s.toList) :
    (Path.segments ss).text.toList.splitOn '/' = [] :: ss.map String.toList := by
  rw [toList_text_eq_intercalate]
  refine List.splitOn_intercalate '/' ?_ (List.cons_ne_nil _ _)
  intro cs hcs
  rcases List.mem_cons.1 hcs with rfl | hcs
  · exact List.not_mem_nil
  · obtain ⟨s, hs, rfl⟩ := List.mem_map.1 hcs
    exact h s hs

theorem eq_of_text_eq {ss ts : List String} (hs : ∀ s ∈ ss, '/' ∉ s.toList)
    (ht : ∀ t ∈ ts, '/' ∉ t.toList) (h : (Path.segments ss).text = (Path.segments ts).text) :
    ss = ts := by
  have hsplit := congrArg (fun t : String => t.toList.splitOn '/') h
  simp only [splitOn_text hs, splitOn_text ht, List.cons.injEq, true_and] at hsplit
  exact (List.map_inj_right fun _ _ => String.toList_inj.1).1 hsplit

theorem text_append (ss ts : List String) :
    (Path.segments (ss ++ ts)).text = (Path.segments ss).text ++ (Path.segments ts).text := by
  apply String.toList_inj.1
  rw [String.toList_append, toList_text_segments, toList_text_segments, toList_text_segments,
    List.flatMap_append]

theorem text_cons (s : String) (r : List String) :
    (Path.segments (s :: r)).text = "/" ++ (s ++ (Path.segments r).text) := by
  apply String.toList_inj.1
  rw [String.toList_append, String.toList_append, toList_text_segments, toList_text_segments,
    List.flatMap_cons]
  rfl

/-- Whatever follows a slash is the text of a path. -/
theorem exists_text_eq (rest : String) : ∃ r : List String, r ≠ [] ∧ (∀ s ∈ r, '/' ∉ s.toList)
    ∧ (Path.segments r).text = "/" ++ rest := by
  have hne : rest.toList.splitOn '/' ≠ [] := List.splitOn_ne_nil '/' _
  have hmap : ((rest.toList.splitOn '/').map String.ofList).map String.toList
      = rest.toList.splitOn '/' := by
    rw [List.map_map]
    exact (List.map_congr_left fun _ _ => String.toList_ofList).trans (List.map_id _)
  refine ⟨(rest.toList.splitOn '/').map String.ofList, ?_, ?_, ?_⟩
  · exact fun h => hne (List.map_eq_nil_iff.1 h)
  · intro s hs
    obtain ⟨cs, hcs, rfl⟩ := List.mem_map.1 hs
    rw [String.toList_ofList]
    exact not_mem_of_mem_splitOn hcs
  · apply String.toList_inj.1
    rw [toList_text_eq_intercalate, hmap, List.intercalate_cons_of_ne_nil hne,
      List.intercalate_splitOn, String.toList_append]
    rfl

end Path

theorem Segments.Clean.slash_not_mem {ss : List String} (h : Clean ss) :
    ∀ s ∈ ss, '/' ∉ s.toList := fun s hs hc => (h s hs '/' hc).2 rfl

/-- A clean path stands strictly below another one exactly if its text
goes on with a slash and more. -/
theorem isBelow_iff_text {ss ts : List String} (hs : Clean ss) (ht : Clean ts) :
    IsBelow ss ts ↔ ∃ rest, rest ≠ ""
      ∧ (Path.segments ts).text = (Path.segments ss).text ++ "/" ++ rest := by
  constructor
  · rintro ⟨r, rfl, hne, hblank⟩
    cases r with
    | nil => exact absurd rfl hne
    | cons t u =>
        refine ⟨t ++ (Path.segments u).text, ?_, ?_⟩
        · intro hempty
          cases u with
          | nil =>
              apply hblank
              have htext : t ++ "" = "" := hempty
              rw [String.append_empty] at htext
              rw [htext]
          | cons v w =>
              have hlist := congrArg String.toList hempty
              rw [Path.text_cons, String.toList_append, String.toList_append] at hlist
              exact absurd hlist (by simp)
        · rw [Path.text_append, Path.text_cons, String.append_assoc]
  · rintro ⟨rest, hrest, htext⟩
    obtain ⟨r, hr, hslash, hr'⟩ := Path.exists_text_eq rest
    refine ⟨r, ?_, hr, ?_⟩
    · rw [String.append_assoc, ← hr', ← Path.text_append] at htext
      refine Path.eq_of_text_eq ht.slash_not_mem ?_ htext
      intro s hsr
      rcases List.mem_append.1 hsr with hsr | hsr
      · exact hs.slash_not_mem s hsr
      · exact hslash s hsr
    · rintro rfl
      apply hrest
      have hlist := congrArg String.toList hr'
      rw [String.toList_append] at hlist
      exact String.toList_inj.1 (List.cons.inj hlist).2.symm

-- =========================================================== the bucket

namespace Segments

/-- The segments of a path without the blank one that a last slash
stands for. -/
def trunk (ss : List String) : List String :=
  if ss.getLast? = some "" then ss.dropLast else ss

theorem clean_trunk {ss : List String} (h : Clean ss) : Clean (trunk ss) := by
  unfold trunk
  split
  · exact clean_dropLast h
  · exact h

theorem trunk_append_blank (ss : List String) : trunk (ss ++ [""]) = ss := by
  unfold trunk
  rw [List.getLast?_concat, if_pos rfl, List.dropLast_concat]

theorem trunk_of_ne {ss : List String} (h : ss.getLast? ≠ some "") : trunk ss = ss := if_neg h

/-- Only a root path has no trunk. -/
theorem trunk_eq_nil_iff {ss : List String} (h : ss ≠ []) : trunk ss = [] ↔ ss = [""] := by
  by_cases hlast : ss.getLast? = some ""
  · obtain ⟨ts, rfl⟩ := List.getLast?_eq_some_iff.1 hlast
    rw [trunk_append_blank, List.append_eq_singleton_iff]
    constructor
    · exact fun ht => .inl ⟨ht, rfl⟩
    · rintro (⟨ht, -⟩ | ⟨-, ht⟩)
      · exact ht
      · cases ht
  · rw [trunk_of_ne hlast]
    constructor
    · exact fun ht => absurd ht h
    · rintro rfl
      exact absurd rfl hlast

/-- A segment is appended to the trunk, unless the path is two slashes:
of those both are left out. -/
theorem forAppending_popEmpty {ss : List String} (h : ss ≠ ["", ""]) :
    forAppending (popEmpty ss) = trunk ss := by
  unfold popEmpty
  by_cases hlast : ss.getLast? = some ""
  · obtain ⟨ts, rfl⟩ := List.getLast?_eq_some_iff.1 hlast
    rw [trunk_append_blank]
    by_cases hts : ts = []
    · subst hts
      rfl
    · have hlen : 2 ≤ (ts ++ [""]).length := by
        have := List.length_pos_iff.2 hts
        rw [List.length_append, List.length_singleton]
        omega
      rw [if_pos ⟨hlen, hlast⟩, List.dropLast_concat]
      apply forAppending_of_ne
      rintro rfl
      exact h rfl
  · rw [trunk_of_ne hlast, if_neg fun hc => hlast hc.2]
    apply forAppending_of_ne
    rintro rfl
    exact hlast rfl

/-- A text that keeps all its characters and is no dot segment is a
name. -/
theorem move?_eq_name {s : String} (hs : s.toList ≠ []) (hhere : s ≠ ".") (habove : s ≠ "..")
    (hkept : kept s.toList = s.toList) : move? s = some (.name s.toList hs) := by
  have hone : s.toList ≠ ['.'] := fun h => hhere (String.toList_inj.1 h)
  have htwo : s.toList ≠ ['.', '.'] := fun h => habove (String.toList_inj.1 h)
  unfold move?
  rw [if_neg (not_or.2 ⟨hhere, habove⟩)]
  simp only [hkept, if_neg hone, if_neg htwo, dif_neg hs]

theorem of_move?_eq_name {s : String} {text : List Char} {h : text ≠ []}
    (hm : move? s = some (.name text h)) : s ≠ "." ∧ s ≠ ".." ∧ text = kept s.toList := by
  unfold move? at hm
  split at hm
  · cases hm
  · rename_i hd
    obtain ⟨hhere, habove⟩ := not_or.1 hd
    refine ⟨hhere, habove, ?_⟩
    split at hm
    · cases hm
    · split at hm
      · cases hm
      · split at hm
        · cases hm
        · cases hm
          rfl

theorem slash_not_mem_written (text : List Char) : '/' ∉ (written special text).toList := by
  have hkeep : keepInSegment special '/' = false := by cases special <;> decide
  unfold written
  rw [String.toList_ofList]
  exact not_mem_encode hkeep (by decide) (by decide) text

theorem decodeText_written (text : List Char) :
    decodeText (written special text).toList = text := by
  unfold written
  rw [String.toList_ofList]
  exact decodeText_encode (keepInSegment_percent special) text

end Segments

/-- The path of a service takes a name as one segment more: the name is
no dot segment, and a URL keeps all its characters. -/
structure TakesName (service : Url) (name : String) : Prop where
  path : service.path ≠ .segments ["", ""]
  here : name ≠ "."
  above : name ≠ ".."
  kept : kept name.toList = name.toList

/-- The path that a service gets for a name, if it takes the name. -/
theorem TakesName.push_eq {service : Url} {ss : List String} {name : String}
    (h : service.TakesName name) (hp : service.path = .segments ss) (hn : name ≠ "") :
    push special (popEmpty ss) name = trunk ss ++ [written special name.toList] := by
  have hne : name.toList ≠ [] := fun hnil => hn (String.toList_eq_nil_iff.1 hnil)
  have hpath : ss ≠ ["", ""] := by
    rintro rfl
    exact h.path hp
  rw [Segments.push_eq, move?_eq_name hne h.here h.above h.kept, Option.elim_some,
    forAppending_popEmpty hpath]
  rfl

/-- A service whose path is longer by one segment that stands for the
name takes the name. -/
theorem takesName_of_push_eq {service : Url} {ss : List String} {name segment : String}
    (hp : service.path = .segments ss) (hn : name ≠ "")
    (hd : decodeText segment.toList = name.toList)
    (h : push special (popEmpty ss) name = trunk ss ++ [segment]) : service.TakesName name := by
  have hsegment : segment ≠ "" := by
    rintro rfl
    have hnil : decodeText [] = [] := decodeText_encode (keepInSegment_percent true) []
    exact hn (String.toList_eq_nil_iff.1 (hd.symm.trans hnil))
  rw [Segments.push_eq] at h
  have hpath : ss ≠ ["", ""] := by
    rintro rfl
    have hlen := congrArg List.length h
    cases hm : move? name with
    | none =>
        rw [hm] at hlen
        exact absurd (show 1 = 2 from hlen) (by decide)
    | some m =>
        rw [hm] at hlen
        cases m <;> exact absurd (show 1 = 2 from hlen) (by decide)
  have hblank {ts : List String} (hts : ts ++ [""] = trunk ss ++ [segment]) : False := by
    have hlast : [""] = [segment] := List.append_inj_right' hts rfl
    exact hsegment (List.singleton_inj.1 hlast).symm
  cases hm : move? name with
  | none =>
      rw [hm, Option.elim_none] at h
      by_cases hroot : popEmpty ss = [""]
      · exact (hblank (hroot ▸ h : [] ++ [""] = _)).elim
      · rw [← forAppending_popEmpty hpath, forAppending_of_ne hroot] at h
        exact absurd (List.self_eq_append_right.1 h) (List.cons_ne_nil _ _)
  | some m =>
  rw [hm, Option.elim_some, forAppending_popEmpty hpath] at h
  cases m with
  | up => exact (hblank h).elim
  | blank => exact (hblank h).elim
  | name text ht =>
      obtain ⟨hhere, habove, htext⟩ := of_move?_eq_name hm
      have hwritten : written special text = segment :=
        List.singleton_inj.1 (List.append_cancel_left h)
      rw [← hwritten, decodeText_written, htext] at hd
      refine ⟨fun hc => hpath ?_, hhere, habove, hd⟩
      rw [hp] at hc
      cases hc
      rfl

/-- A URL that stands strictly inside a bucket of a service. The path of
the bucket is the one of the service and a segment that stands for its
name; the path of the URL goes on from there with a slash and more. -/
def IsInBucket (service : Url) (bucket : String) (u : Url) : Prop :=
  ∃ ss segment rest, service.path = .segments ss
    ∧ '/' ∉ segment.toList ∧ decodeText segment.toList = bucket.toList
    ∧ (Handle.bucketUrl service (some bucket)).path.text
      = (Path.segments (trunk ss ++ [segment])).text
    ∧ rest ≠ "" ∧ u.path.text = (Handle.bucketUrl service (some bucket)).path.text ++ "/" ++ rest

theorem path_bucketUrl {service : Url} {ss : List String} (hp : service.path = .segments ss)
    (bucket : String) : (Handle.bucketUrl service (some bucket)).path
      = .segments (push (isSpecial service.scheme) (popEmpty ss) bucket) := by
  unfold Handle.bucketUrl popEmptySegment pushSegment
  rw [hp]

theorem path_foldl_pushSegment (ks : List String) {u : Url} {ss : List String}
    (hp : u.path = .segments ss) : (ks.foldl pushSegment u).path
      = .segments (ks.foldl (push (isSpecial u.scheme)) ss) := by
  induction ks generalizing u ss with
  | nil => exact hp
  | cons k r ih =>
      have hstep : u.pushSegment k
          = { u with path := .segments (push (isSpecial u.scheme) ss k) } := by
        unfold pushSegment
        rw [hp]
      rw [List.foldl_cons, List.foldl_cons, hstep]
      exact ih rfl

end Url

namespace Action

open Url Segments

/-- The moves that the parts of a key make below a bucket. -/
def moves (key : String) : List Move := (keyPath key).filterMap move?

/-- The path of an action on an object is a walk from the bucket. -/
theorem path_url {a : Action} {key : String} (hk : a.key? = some key) {e : Url}
    {ss : List String} (hp : e.path = .segments ss) :
    (a.url e).path = .segments (walk (Url.isSpecial e.scheme) ss (moves key)) := by
  have hpairs : ∀ (ps : List (String × String)) (u : Url),
      (ps.foldl (fun u p => u.appendPair p.1 p.2) u).path = u.path := by
    intro ps
    induction ps with
    | nil => exact fun u => rfl
    | cons p r ih => exact fun u => ih _
  have hpath : a.path?.getD [] = keyPath key := by
    unfold path?
    rw [hk]
    rfl
  unfold url moves
  rw [hpairs, hpath, path_foldl_pushSegment _ hp, foldl_push_eq]

/-- Below a service that takes the name of the bucket, the URL of an
object stands strictly below the one of the bucket if the key stays
there. -/
theorem staysBelow_iff_text {service : Url} (hs : IsService service) {bucket : String}
    (hb : bucket ≠ "") (hname : service.TakesName bucket) {a : Action} {key : String}
    (hk : a.key? = some key) {e : Url} (he : e = Handle.bucketUrl service (some bucket)) :
    StaysBelow (service.path = .segments [""]) bucket.toList (moves key)
      ↔ ∃ rest, rest ≠ "" ∧ (a.url e).path.text = e.path.text ++ "/" ++ rest := by
  obtain ⟨ss, hp, hne, hclean⟩ := hs.path
  have hbucket : bucket.toList ≠ [] := fun hnil => hb (String.toList_eq_nil_iff.1 hnil)
  have hpath : e.path
      = .segments (trunk ss ++ [written (Url.isSpecial service.scheme) bucket.toList]) := by
    rw [he, path_bucketUrl hp, hname.push_eq hp hb]
  have hscheme : e.scheme = service.scheme := by
    rw [he]
    unfold Handle.bucketUrl popEmptySegment pushSegment
    rw [hp]
  have hservice : IsService e := he ▸ hs.bucketUrl (some bucket)
  have hroot : (service.path = .segments [""]) = (trunk ss = []) := by
    rw [hp, Path.segments.injEq, trunk_eq_nil_iff hne]
  obtain ⟨ts, hts, -, hbefore⟩ := hservice.path
  rw [hpath, Path.segments.injEq] at hts
  obtain ⟨us, hus, -, hafter⟩ := (isService_url a hservice).path
  rw [path_url hk hpath, hscheme, Path.segments.injEq] at hus
  rw [path_url hk hpath, hpath, hscheme, hroot, ← isBelow_walk_iff hbucket]
  exact isBelow_iff_text (hts ▸ hbefore) (hus ▸ hafter)

/-- The URL of an object stands strictly inside the bucket exactly if the
service takes the name of the bucket and the key stays below it. -/
theorem isInBucket_url_iff {service : Url} (hs : IsService service) {bucket : String}
    (hb : bucket ≠ "") {a : Action} {key : String} (hk : a.key? = some key) :
    service.IsInBucket bucket (a.url (Handle.bucketUrl service (some bucket)))
      ↔ service.TakesName bucket
        ∧ StaysBelow (service.path = .segments [""]) bucket.toList (moves key) := by
  obtain ⟨ss, hp, hne, hclean⟩ := hs.path
  have hpush := path_bucketUrl hp bucket
  constructor
  · rintro ⟨ts, segment, rest, hts, hslash, hd, htext, hrest, hobject⟩
    rw [hp, Path.segments.injEq] at hts
    subst hts
    have hsegments : push (Url.isSpecial service.scheme) (popEmpty ss) bucket
        = trunk ss ++ [segment] := by
      rw [hpush] at htext
      refine Path.eq_of_text_eq ?_ ?_ htext
      · exact (clean_push (clean_popEmpty hclean) _ _).slash_not_mem
      · intro s hsmem
        rcases List.mem_append.1 hsmem with hsmem | hsmem
        · exact (clean_trunk hclean).slash_not_mem s hsmem
        · rw [List.mem_singleton.1 hsmem]
          exact hslash
    have hname := takesName_of_push_eq hp hb hd hsegments
    exact ⟨hname, (staysBelow_iff_text hs hb hname hk rfl).2 ⟨rest, hrest, hobject⟩⟩
  · rintro ⟨hname, hstays⟩
    obtain ⟨rest, hrest, hobject⟩ := (staysBelow_iff_text hs hb hname hk rfl).1 hstays
    refine ⟨ss, written (Url.isSpecial service.scheme) bucket.toList, rest, hp,
      slash_not_mem_written _, decodeText_written _, ?_, hrest, hobject⟩
    rw [hpush, hname.push_eq hp hb]

/-- A handle with a valid endpoint and a bucket signs a request of every
action on an object. Its URL stands strictly inside the bucket exactly if
the service takes the name of the bucket as a segment and the moves of
the key stay below it; a key of dot segments, or with white space that a
URL drops around dots, need not. -/
theorem request_isInBucket_iff {h : Handle} {service : Url} {bucket key : String} {a : Action}
    (hs : h.service = .ok service) (hb : h.bucket = some bucket) (hne : bucket ≠ "")
    (hk : a.key? = some key) (now : Time.Instant) :
    ∃ r, a.request h now = .ok r ∧ (service.IsInBucket bucket r.url
      ↔ service.TakesName bucket
        ∧ StaysBelow (service.path = .segments [""]) bucket.toList (moves key)) := by
  have he : h.endpoint = .ok (Handle.bucketUrl service (some bucket)) := by
    unfold Handle.endpoint
    rw [hs, hb]
    rfl
  obtain ⟨r, hr, hurl⟩ := exists_request he a now
  refine ⟨r, hr, ?_⟩
  rw [hurl]
  exact isInBucket_url_iff (isService_of_service hs) hne hk

/-- A handle on a bucket of a service at a loopback address. -/
def loopbackHandle : Handle where
  credentials := { accessKey := "access", secretKey := "secret" }
  region := .custom "" "http://[::1]:9000"
  bucket := some "photos"
  isAnonymous := false

theorem service_loopbackHandle :
    ∃ s, loopbackHandle.service = .ok s ∧ s.path = .segments [""] :=
  exists_of_any_toOption (by decide +kernel)

/-- Its request for the policy of one object is inside the bucket, and
that for another is not: the parts of its key are left out. -/
theorem isInBucket_loopbackHandle :
    ∃ s r t, loopbackHandle.service = .ok s
      ∧ (getObjectAcl "2024/cat.png" none).request loopbackHandle { seconds := 0 } = .ok r
      ∧ s.IsInBucket "photos" r.url
      ∧ (getObjectAcl ".." none).request loopbackHandle { seconds := 0 } = .ok t
      ∧ ¬s.IsInBucket "photos" t.url := by
  obtain ⟨s, hs, hpath⟩ := service_loopbackHandle
  obtain ⟨r, hr, hinside⟩ := request_isInBucket_iff
    (a := getObjectAcl "2024/cat.png" none) hs rfl (by decide) rfl { seconds := 0 }
  obtain ⟨t, ht, houtside⟩ := request_isInBucket_iff
    (a := getObjectAcl ".." none) hs rfl (by decide) rfl { seconds := 0 }
  have hname : s.TakesName "photos" :=
    ⟨by rw [hpath]; decide, by decide, by decide, by decide⟩
  have hdescends : Descends (moves "2024/cat.png") :=
    ⟨by decide, .inl ⟨.name "cat.png".toList (by decide), by decide, by decide⟩⟩
  refine ⟨s, r, t, hs, hr, hinside.2 ⟨hname, .descends hdescends⟩, ht, fun h => ?_⟩
  have hnone : moves ".." = [] := by decide
  have hstays := (houtside.1 h).2
  rw [hnone] at hstays
  rcases hstays with ⟨h⟩
  exact h.elim

-- ======================================================= kinds of keys

/-- A key whose parts are no dot segments, and keep all their characters,
stays below the bucket. -/
theorem isInBucket_url_of_names {service : Url} (hs : IsService service) {bucket : String}
    (hb : bucket ≠ "") (hname : service.TakesName bucket) {a : Action} {key : String}
    (hk : a.key? = some key) (hne : keyPath key ≠ [])
    (hparts : ∀ k ∈ keyPath key, k ≠ "." ∧ k ≠ ".." ∧ kept k.toList = k.toList) :
    service.IsInBucket bucket (a.url (Handle.bucketUrl service (some bucket))) := by
  have hmove : ∀ k ∈ keyPath key, ∃ text ht, move? k = some (.name text ht) := by
    intro k hkmem
    obtain ⟨hhere, habove, hkept⟩ := hparts k hkmem
    have htext : k.toList ≠ [] := by
      obtain ⟨cs, hcs, rfl⟩ := List.mem_map.1 hkmem
      rw [String.toList_ofList]
      exact of_decide_eq_true (List.mem_filter.1 hcs).2
    exact ⟨_, _, move?_eq_name htext hhere habove hkept⟩
  have hmoves : ∀ m ∈ moves key, m ≠ .up ∧ m ≠ .blank := by
    intro m hm
    obtain ⟨k, hkmem, hkm⟩ := List.mem_filterMap.1 hm
    obtain ⟨text, ht, htext⟩ := hmove k hkmem
    rw [htext] at hkm
    cases hkm
    exact ⟨Move.noConfusion, Move.noConfusion⟩
  refine (isInBucket_url_iff hs hb hk).2 ⟨hname, .descends ?_⟩
  cases hms : moves key with
  | nil =>
      obtain ⟨k, r, hkr⟩ := List.exists_cons_of_ne_nil hne
      obtain ⟨text, ht, htext⟩ := hmove k (by rw [hkr]; exact List.mem_cons_self ..)
      have hmem : Move.name text ht ∈ moves key :=
        List.mem_filterMap.2 ⟨k, by rw [hkr]; exact List.mem_cons_self .., htext⟩
      rw [hms] at hmem
      cases hmem
  | cons m r =>
      rw [hms] at hmoves
      refine ⟨(hmoves m (List.mem_cons_self ..)).1, ?_⟩
      cases r with
      | nil => exact .inr (.inr ⟨rfl, (hmoves m (List.mem_cons_self ..)).2⟩)
      | cons n t =>
          have hn : n ∈ m :: n :: t := List.mem_cons_of_mem _ (List.mem_cons_self ..)
          exact .inl ⟨n, List.mem_cons_self .., (hmoves n hn).1⟩

/-- A key whose parts are all dot segments stands for the bucket: what
is asked of the object is asked of the bucket. -/
theorem path_url_of_dots {a : Action} {key : String} (hk : a.key? = some key) {e : Url}
    (he : IsService e) (hparts : ∀ k ∈ keyPath key, k = "." ∨ k = "..") :
    (a.url e).path = e.path := by
  obtain ⟨ss, hp, -, -⟩ := he.path
  have hnone : moves key = [] := by
    unfold moves
    rw [List.filterMap_eq_nil_iff]
    exact fun k hkmem => if_pos (hparts k hkmem)
  rw [path_url hk hp, hnone, hp]
  rfl

end Action

end BucketAcl
