/-
Which object the URL of a request names. Names that a URL keeps come out
of its path as they went in, one segment for the bucket and one for each
part of the key, below the segments of the service. The canonical form
of the path has the same names, and escapes them byte by byte.

Main statement: `sign_names_object`.
-/
import BucketAcl.Proofs.Url.Bucket
import BucketAcl.SigV4.Canonical
import Mathlib.Data.List.Basic

namespace BucketAcl

namespace Url

open Percent Segments

variable {special : Bool}

-- ======================================================= byte by byte

namespace Percent

variable {keep : Char → Bool}

/-- A byte as it is written where the characters of a set are kept. -/
def encodeByte (keep : Char → Bool) (b : UInt8) : List Char :=
  if keep (Char.ofNat b.toNat) then [Char.ofNat b.toNat] else escape b

/-- The bytes of a character beyond ASCII are beyond ASCII. -/
theorem le_of_mem_utf8EncodeChar {c : Char} (hc : 128 ≤ c.toNat) {b : UInt8}
    (hb : b ∈ String.utf8EncodeChar c) : 128 ≤ b.toNat := by
  have hval : c.val.toNat = c.toNat := rfl
  have hlarge {n m : Nat} (hn : 128 ≤ n % 256) (hm : b = UInt8.ofNat m) (h : m = n) :
      128 ≤ b.toNat := by
    rw [hm, h, UInt8.toNat_ofNat']
    exact hn
  unfold String.utf8EncodeChar at hb
  simp only [hval] at hb
  rw [if_neg (by omega)] at hb
  split at hb
  · simp only [List.mem_cons, List.not_mem_nil, or_false] at hb
    rcases hb with hb | hb
    · exact hlarge (by omega) hb rfl
    · exact hlarge (by omega) hb rfl
  · split at hb
    · simp only [List.mem_cons, List.not_mem_nil, or_false] at hb
      rcases hb with hb | hb | hb
      · exact hlarge (by omega) hb rfl
      · exact hlarge (by omega) hb rfl
      · exact hlarge (by omega) hb rfl
    · simp only [List.mem_cons, List.not_mem_nil, or_false] at hb
      rcases hb with hb | hb | hb | hb
      · exact hlarge (by omega) hb rfl
      · exact hlarge (by omega) hb rfl
      · exact hlarge (by omega) hb rfl
      · exact hlarge (by omega) hb rfl

/-- A set within ASCII may be asked for bytes as well as for characters. -/
theorem encodeChar_eq_flatMap (hkeep : ∀ c, keep c = true → c.toNat < 128) (c : Char) :
    encodeChar keep c = (String.utf8EncodeChar c).flatMap (encodeByte keep) := by
  by_cases hc : c.toNat < 128
  · have hchar : Char.ofNat (UInt8.ofNat c.toNat).toNat = c := by
      rw [UInt8.toNat_ofNat', Nat.mod_eq_of_lt (by omega), Char.ofNat_toNat]
    unfold encodeChar
    rw [Text.Utf8.utf8EncodeChar_of_lt hc, List.flatMap_singleton, List.flatMap_singleton]
    unfold encodeByte
    rw [hchar]
  · have hnot : keep c = false := Bool.eq_false_iff.2 fun h => hc (hkeep c h)
    unfold encodeChar
    rw [hnot]
    refine List.flatMap_congr fun b hb => ?_
    have hlarge := le_of_mem_utf8EncodeChar (Nat.le_of_not_lt hc) hb
    have hbyte : keep (Char.ofNat b.toNat) = false := by
      refine Bool.eq_false_iff.2 fun h => ?_
      have hsmall := hkeep _ h
      rw [Text.Utf8.toNat_ofNat_byte] at hsmall
      omega
    unfold encodeByte
    rw [hbyte]
    rfl

/-- A text is encoded byte by byte. -/
theorem encode_eq_flatMap (hkeep : ∀ c, keep c = true → c.toNat < 128) (cs : List Char) :
    encode keep cs = (Text.Utf8.encode cs).flatMap (encodeByte keep) := by
  unfold encode Text.Utf8.encode
  rw [List.flatMap_assoc]
  exact List.flatMap_congr fun c _ => encodeChar_eq_flatMap hkeep c

/-- What the canonical form of a path keeps: letters, digits, four marks
and the slash. -/
def keepInCanonical (c : Char) : Bool := isUnreserved c || c == '/'

theorem toNat_lt_of_keepInCanonical {c : Char} (h : keepInCanonical c = true) :
    c.toNat < 128 := by
  have hnat : c.toNat = c.val.toNat := rfl
  unfold keepInCanonical isUnreserved at h
  simp only [Bool.or_eq_true, beq_iff_eq] at h
  rcases h with ((((h | rfl) | rfl) | rfl) | rfl) | rfl
  · unfold Char.isAlphanum Char.isAlpha Char.isUpper Char.isLower Char.isDigit at h
    simp only [Bool.or_eq_true, Bool.and_eq_true, decide_eq_true_eq, ge_iff_le,
      UInt32.le_iff_toNat_le] at h
    have hupper : 'Z'.val.toNat = 90 := rfl
    have hlower : 'z'.val.toNat = 122 := rfl
    have hdigit : '9'.val.toNat = 57 := rfl
    omega
  · decide
  · decide
  · decide
  · decide
  · decide

/-- Encoded texts are decoded one after the other. -/
theorem decode_encode_append (h : keep '%' = false) (cs r : List Char) :
    decode (encode keep cs ++ r) = Text.Utf8.encode cs ++ decode r := by
  induction cs with
  | nil => rfl
  | cons c t ih =>
      show decode ((encodeChar keep c ++ encode keep t) ++ r) = _
      rw [List.append_assoc, decode_encodeChar_append h, ih, ← List.append_assoc]
      rfl

end Percent

-- ============================================================== names

namespace Segments

/-- A text that is the name of one segment by itself: no dot segment, and
without the tabs and line ends that no URL keeps. -/
def IsSegmentName (cs : List Char) : Prop :=
  cs ≠ ['.'] ∧ cs ≠ ['.', '.'] ∧ ∀ c ∈ cs, isDropped c = false

instance (cs : List Char) : Decidable (IsSegmentName cs) :=
  let _ : Decidable (∀ c ∈ cs, isDropped c = false) := List.decidableBAll _ _
  inferInstanceAs (Decidable (_ ∧ _ ∧ _))

theorem IsSegmentName.kept_eq {cs : List Char} (h : IsSegmentName cs) : kept cs = cs := by
  refine List.filter_eq_self.2 fun c hc => ?_
  rw [h.2.2 c hc]
  rfl

/-- A name goes to the end of the path. -/
theorem push_name (ss : List String) {name : String} (h : IsSegmentName name.toList)
    (hne : name ≠ "") : push special ss name
      = forAppending ss ++ [written special name.toList] := by
  have hlist : name.toList ≠ [] := fun hnil => hne (String.toList_eq_nil_iff.1 hnil)
  have hhere : name ≠ "." := fun he => h.1 (congrArg String.toList he)
  have habove : name ≠ ".." := fun he => h.2.1 (congrArg String.toList he)
  rw [push_eq, move?_eq_name hlist hhere habove h.kept_eq]
  rfl

/-- Names go to the end of a path one after the other, once there is one
that it ends with. -/
theorem foldl_push_names {ks : List String}
    (h : ∀ k ∈ ks, IsSegmentName k.toList ∧ k ≠ "") (ss : List String) {s : String} (hs : s ≠ "") :
    ks.foldl (push special) (ss ++ [s])
      = ss ++ s :: ks.map fun k => written special k.toList := by
  induction ks generalizing ss s with
  | nil => rfl
  | cons k r ih =>
      obtain ⟨hk, hne⟩ := h k (List.mem_cons_self ..)
      have hlist : k.toList ≠ [] := fun hnil => hne (String.toList_eq_nil_iff.1 hnil)
      rw [List.foldl_cons, push_name _ hk hne, forAppending_of_ne (append_ne_root ss hs),
        ih (fun x hx => h x (List.mem_cons_of_mem _ hx)) _ (written_ne_empty hlist),
        List.append_assoc]
      rfl

end Segments

-- ==================================================== segments of a URL

/-- The segments of the path of a URL, as they stand between the slashes
of its text. -/
def pathSegments (u : Url) : List (List Char) := (u.path.text.toList.splitOn '/').tail

/-- The segments without the blank one that a last slash stands for. -/
def withoutLastBlank (ss : List (List Char)) : List (List Char) :=
  if ss.getLast? = some [] then ss.dropLast else ss

/-- The segments of a service that a bucket is put below: not the blank
one that a last slash stands for, and none where the path is two slashes
and nothing else. -/
def bucketParent (ss : List (List Char)) : List (List Char) :=
  if ss = [[], []] then [] else withoutLastBlank ss

theorem pathSegments_eq {u : Url} {ss : List String} (hp : u.path = .segments ss)
    (hc : Clean ss) : u.pathSegments = ss.map String.toList := by
  unfold pathSegments
  rw [hp, Path.splitOn_text hc.slash_not_mem, List.tail_cons]

theorem bucketParent_map (ss : List String) :
    bucketParent (ss.map String.toList) = (forAppending (popEmpty ss)).map String.toList := by
  unfold bucketParent withoutLastBlank
  by_cases htwo : ss = ["", ""]
  · subst htwo
    rfl
  · have hmap : ss.map String.toList ≠ [[], []] := by
      intro h
      have hinj : ss.map String.toList = ["", ""].map String.toList := h
      exact htwo ((List.map_inj_right fun _ _ => String.toList_inj.1).1 hinj)
    have hlast : (ss.map String.toList).getLast? = some [] ↔ ss.getLast? = some "" := by
      rw [List.getLast?_map, Option.map_eq_some_iff]
      constructor
      · rintro ⟨s, hs, hnil⟩
        rw [hs, String.toList_eq_nil_iff.1 hnil]
      · exact fun hs => ⟨"", hs, rfl⟩
    rw [if_neg hmap, forAppending_popEmpty htwo]
    unfold trunk
    by_cases hblank : ss.getLast? = some ""
    · rw [if_pos (hlast.2 hblank), if_pos hblank, List.map_dropLast]
    · rw [if_neg (mt hlast.1 hblank), if_neg hblank]

/-- The text of a path of written names is decoded to the names, with a
slash before each. -/
theorem decodeText_text_written (names : List (List Char)) :
    decodeText (Path.segments (names.map (written special))).text.toList
      = names.flatMap fun n => '/' :: n := by
  have hdecode : decode ((names.map (written special)).flatMap fun s => '/' :: s.toList)
      = Text.Utf8.encode (names.flatMap fun n => '/' :: n) := by
    induction names with
    | nil => rfl
    | cons n r ih =>
        rw [List.map_cons, List.flatMap_cons, List.flatMap_cons, List.cons_append,
          decode_cons (by decide), Text.Utf8.encode_append, ← ih]
        show _ ++ decode ((written special n).toList ++ _) = _
        unfold written
        rw [String.toList_ofList, decode_encode_append (keepInSegment_percent special)]
        rfl
  rw [Path.toList_text_segments]
  unfold decodeText
  rw [hdecode, Text.Utf8.decodeLossy_encode]

theorem flatMap_slash_eq_intercalate {names : List (List Char)} (h : names ≠ []) :
    (names.flatMap fun n => '/' :: n) = '/' :: ['/'].intercalate names := by
  induction names with
  | nil => exact absurd rfl h
  | cons n r ih =>
      cases r with
      | nil => simp
      | cons m t =>
          rw [List.flatMap_cons, ih (List.cons_ne_nil _ _), List.intercalate_cons_cons]
          simp

end Url

namespace Action

open Url Segments Percent

/-- The names that the path of an object goes through: the bucket, and
the parts of the key between slashes that are not empty. -/
def objectNames (bucket key : String) : List (List Char) :=
  bucket.toList :: (key.toList.splitOn '/').filter (· ≠ [])

/-- The path of an object whose bucket and key have names that a URL
keeps. -/
theorem path_url_of_names {service : Url} {ss : List String} (hp : service.path = .segments ss)
    {bucket key : String} (hne : bucket ≠ "") {a : Action} (hk : a.key? = some key)
    (hbucket : IsSegmentName bucket.toList)
    (hkey : ∀ part ∈ key.toList.splitOn '/', IsSegmentName part) :
    (a.url (Handle.bucketUrl service (some bucket))).path
      = .segments (forAppending (popEmpty ss)
        ++ (objectNames bucket key).map (written (Url.isSpecial service.scheme))) := by
  have hlist : bucket.toList ≠ [] := fun hnil => hne (String.toList_eq_nil_iff.1 hnil)
  have hparts : ∀ k ∈ keyPath key, IsSegmentName k.toList ∧ k ≠ "" := by
    intro k hkmem
    obtain ⟨cs, hcs, rfl⟩ := List.mem_map.1 hkmem
    obtain ⟨hmem, hnil⟩ := List.mem_filter.1 hcs
    rw [String.toList_ofList]
    refine ⟨hkey cs hmem, fun he => of_decide_eq_true hnil ?_⟩
    rw [← String.toList_ofList (l := cs), he]
    rfl
  have hscheme : (Handle.bucketUrl service (some bucket)).scheme = service.scheme := by
    unfold Handle.bucketUrl popEmptySegment pushSegment
    rw [hp]
  have hpath := path_bucketUrl hp bucket
  rw [push_name _ hbucket hne] at hpath
  rw [path_url hk hpath, hscheme]
  unfold moves
  rw [← foldl_push_eq, foldl_push_names hparts _ (written_ne_empty hlist)]
  unfold objectNames keyPath
  rw [List.map_map, List.map_cons]
  refine congrArg (fun t => Path.segments (_ ++ _ :: t)) (List.map_congr_left fun cs _ => ?_)
  show written _ (String.ofList cs).toList = _
  rw [String.toList_ofList]

/-- An action on a handle with a valid endpoint has a signed URL. -/
theorem exists_sign {h : Handle} {service : Url} (hs : h.service = .ok service) (a : Action)
    (now : Time.Instant) (payload : SigV4.Payload) :
    ∃ headers, a.sign h now payload = .ok (a.url (Handle.bucketUrl service h.bucket), headers) := by
  unfold sign Handle.endpoint
  rw [hs]
  exact ⟨_, rfl⟩

/-- The path of an object, segment by segment. -/
theorem pathSegments_url {service : Url} (hs : IsService service) {bucket key : String}
    (hne : bucket ≠ "") {a : Action} (hk : a.key? = some key)
    (hbucket : IsSegmentName bucket.toList)
    (hkey : ∀ part ∈ key.toList.splitOn '/', IsSegmentName part) :
    ∃ names, (a.url (Handle.bucketUrl service (some bucket))).pathSegments
        = bucketParent service.pathSegments ++ names
      ∧ names.map decodeText = objectNames bucket key := by
  obtain ⟨ss, hp, -, hclean⟩ := hs.path
  have hpath := path_url_of_names hp hne hk hbucket hkey
  obtain ⟨ts, hts, -, hafter⟩ := (isService_url a (hs.bucketUrl (some bucket))).path
  rw [hpath, Path.segments.injEq] at hts
  refine ⟨(objectNames bucket key).map fun n =>
    (written (Url.isSpecial service.scheme) n).toList, ?_, ?_⟩
  · rw [pathSegments_eq hpath (hts ▸ hafter), pathSegments_eq hp hclean, bucketParent_map,
      List.map_append, List.map_map]
    rfl
  · rw [List.map_map]
    exact (List.map_congr_left fun n _ => decodeText_written n).trans (List.map_id _)

/-- The canonical form of the path of an object, below a service without
a path. -/
theorem canonicalUri_url {service : Url} (hs : IsService service)
    (hroot : service.path.text = "/") {bucket key : String} (hne : bucket ≠ "") {a : Action}
    (hk : a.key? = some key) (hbucket : IsSegmentName bucket.toList)
    (hkey : ∀ part ∈ key.toList.splitOn '/', IsSegmentName part) :
    (SigV4.canonicalUri (a.url (Handle.bucketUrl service (some bucket)))).toList
      = (Text.Utf8.encode ('/' :: ['/'].intercalate (objectNames bucket key))).flatMap
        (encodeByte keepInCanonical) := by
  obtain ⟨ss, hp, -, hclean⟩ := hs.path
  have hblank : ss = [""] := by
    refine Path.eq_of_text_eq hclean.slash_not_mem clean_empty_segment.slash_not_mem ?_
    rw [← hp, hroot]
    decide
  subst hblank
  have hnames : objectNames bucket key ≠ [] := List.cons_ne_nil _ _
  unfold SigV4.canonicalUri
  rw [path_url_of_names hp hne hk hbucket hkey, String.toList_ofList]
  show encode keepInCanonical (decodeText (Path.segments ((objectNames bucket key).map
    (written (Url.isSpecial service.scheme)))).text.toList) = _
  rw [decodeText_text_written, flatMap_slash_eq_intercalate hnames,
    encode_eq_flatMap fun _ => toNat_lt_of_keepInCanonical]

/-- A handle with a valid endpoint and a bucket signs a URL of every
action on an object. If the bucket and the parts of the key are names
that a URL keeps, its path goes on from the segments that a bucket is put
below, unchanged, with segments that are decoded to the bucket and the
parts of the key. Below a service without a path, the canonical form of
the path is these names behind slashes, with every byte escaped but the
unreserved characters and slashes. -/
theorem sign_names_object {h : Handle} {service : Url} {bucket key : String} {a : Action}
    (hs : h.service = .ok service) (hb : h.bucket = some bucket) (hne : bucket ≠ "")
    (hk : a.key? = some key) (hbucket : IsSegmentName bucket.toList)
    (hkey : ∀ part ∈ key.toList.splitOn '/', IsSegmentName part) (now : Time.Instant)
    (payload : SigV4.Payload) :
    ∃ u headers, a.sign h now payload = .ok (u, headers)
      ∧ (∃ names, u.pathSegments = bucketParent service.pathSegments ++ names
        ∧ names.map decodeText = objectNames bucket key)
      ∧ (service.path.text = "/" → (SigV4.canonicalUri u).toList
        = (Text.Utf8.encode ('/' :: ['/'].intercalate (objectNames bucket key))).flatMap
          (encodeByte keepInCanonical)) := by
  have hservice := isService_of_service hs
  obtain ⟨headers, hsign⟩ := exists_sign hs a now payload
  rw [hb] at hsign
  exact ⟨_, headers, hsign, pathSegments_url hservice hne hk hbucket hkey,
    fun hroot => canonicalUri_url hservice hroot hne hk hbucket hkey⟩

/-- The names come out as they went in, escapes, separators and text
beyond ASCII included. -/
theorem sign_names_object_loopbackHandle :
    ∃ u headers, (getObjectAcl "a b//50%2F?#/\u00fc" none).sign loopbackHandle { seconds := 0 }
        { digest := [] } = .ok (u, headers)
      ∧ u.pathSegments.map decodeText
        = ["photos".toList, "a b".toList, "50%2F?#".toList, ['\u00fc']]
      ∧ (SigV4.canonicalUri u).toList = "/photos/a%20b/50%252F%3F%23/%C3%BC".toList := by
  obtain ⟨s, hs, hroot⟩ := service_loopbackHandle
  obtain ⟨u, headers, hsign, ⟨names, hsegments, hnames⟩, hcanonical⟩ := sign_names_object
    (a := getObjectAcl "a b//50%2F?#/\u00fc" none) hs rfl (by decide) rfl (by decide) (by decide)
    { seconds := 0 } { digest := [] }
  have hparent : bucketParent s.pathSegments = [] := by
    rw [pathSegments_eq hroot clean_empty_segment]
    decide
  refine ⟨u, headers, hsign, ?_, ?_⟩
  · rw [hsegments, hparent, List.nil_append, hnames]
    decide
  · rw [hcanonical (by rw [hroot]; decide)]
    decide +kernel

/-- A handle on a bucket of a service whose path is two slashes. -/
def slashedHandle : Handle := { loopbackHandle with region := .custom "" "http://[::1]:9000//" }

theorem service_slashedHandle :
    ∃ s, slashedHandle.service = .ok s ∧ s.path = .segments ["", ""] :=
  exists_of_any_toOption (by decide +kernel)

/-- Of a path of two slashes the bucket replaces both segments, not only
the last one. -/
theorem pathSegments_ne_of_slashedHandle :
    ∃ s u headers, slashedHandle.service = .ok s
      ∧ (getObjectAcl "cat.png" none).sign slashedHandle { seconds := 0 } { digest := [] }
        = .ok (u, headers)
      ∧ IsSegmentName "photos".toList
      ∧ (∀ part ∈ "cat.png".toList.splitOn '/', IsSegmentName part)
      ∧ u.pathSegments.map decodeText
        ≠ (withoutLastBlank s.pathSegments).map decodeText
          ++ objectNames "photos" "cat.png" := by
  obtain ⟨s, hs, hslashes⟩ := service_slashedHandle
  have hclean : Clean ["", ""] := clean_append.2 ⟨clean_empty_segment, clean_empty_segment⟩
  have hbucket : IsSegmentName "photos".toList := by decide
  have hkey : ∀ part ∈ "cat.png".toList.splitOn '/', IsSegmentName part := by decide
  obtain ⟨headers, hsign⟩ := exists_sign hs (getObjectAcl "cat.png" none) { seconds := 0 }
    { digest := [] }
  obtain ⟨names, hsegments, hnames⟩ := pathSegments_url (isService_of_service hs)
    (a := getObjectAcl "cat.png" none) (by decide) rfl hbucket hkey
  refine ⟨s, _, headers, hs, hsign, hbucket, hkey, ?_⟩
  show List.map decodeText (pathSegments (Action.url _ (Handle.bucketUrl s (some "photos")))) ≠ _
  rw [hsegments, pathSegments_eq hslashes hclean, List.map_append, hnames]
  intro h
  have hlength := congrArg List.length h
  rw [List.length_append, List.length_append, List.length_map, List.length_map] at hlength
  exact absurd hlength (by decide)

end Action

end BucketAcl
