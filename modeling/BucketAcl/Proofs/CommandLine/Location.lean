/-
Locations lose nothing. A text is taken for a location at its first slash
and, if there is one, at its second; the parts joined again are the text,
and behind its host and its bucket they are its key, slash for slash. A
command about it works with that host, that bucket and that key.

Main statement: `Location.parse_lossless`.
-/
import BucketAcl.Proofs.CommandLine.Start

namespace BucketAcl.CommandLine

namespace Location

-- ================================================================= cuts

/-- A text cut into a location at its first slash, and at its second if
the location has a path. -/
structure IsCut (text : String) (l : Location) : Prop where
  text_eq : l.text = text
  slash_not_mem_host : '/' ∉ l.host.toList
  slash_not_mem_bucket : '/' ∉ l.bucket.toList

section

variable {text : String} {l : Location}

theorem toList_text (l : Location) :
    l.text.toList = l.host.toList ++ '/' :: (l.bucket.toList
      ++ (l.path.map fun path => '/' :: path.toList).getD []) := by
  unfold Location.text
  cases l.path <;> simp

/-- Every text with a slash can be cut. -/
theorem exists_isCut (h : '/' ∈ text.toList) : ∃ l, IsCut text l := by
  cases hfirst : Text.cutAt '/' text.toList with
  | none => exact absurd h ((Text.cutAt_eq_none_iff ..).1 hfirst)
  | some x =>
      obtain ⟨host, r⟩ := x
      obtain ⟨htext, hhost⟩ := Text.eq_of_cutAt hfirst
      cases hsecond : Text.cutAt '/' r with
      | none =>
          refine ⟨⟨.ofList host, .ofList r, none⟩, ?_, ?_, ?_⟩
          · apply String.toList_inj.1
            rw [toList_text, htext]
            simp
          · rwa [String.toList_ofList]
          · rw [String.toList_ofList]
            exact (Text.cutAt_eq_none_iff ..).1 hsecond
      | some y =>
          obtain ⟨bucket, path⟩ := y
          obtain ⟨hr, hbucket⟩ := Text.eq_of_cutAt hsecond
          refine ⟨⟨.ofList host, .ofList bucket, some (.ofList path)⟩, ?_, ?_, ?_⟩
          · apply String.toList_inj.1
            rw [toList_text, htext, hr]
            simp
          · rwa [String.toList_ofList]
          · rwa [String.toList_ofList]

/-- A text that is cut is read as the location, unless its path begins
with one more slash. -/
theorem parse_of_isCut (h : IsCut text l) :
    parse text = if l.path.bind (·.toList.head?) = some '/' then .error .leadingSlash
      else .ok l := by
  obtain ⟨rfl, hhost, hbucket⟩ := h
  unfold parse
  rw [toList_text, Text.cutAt_append hhost]
  dsimp only
  rcases l with ⟨host, bucket, path | path⟩
  · rw [Option.map_none, Option.getD_none, List.append_nil,
      (Text.cutAt_eq_none_iff ..).2 hbucket]
    dsimp only
    rw [String.ofList_toList, String.ofList_toList]
    rfl
  · rw [Option.map_some, Option.getD_some, Text.cutAt_append hbucket]
    dsimp only
    rw [String.ofList_toList, String.ofList_toList, String.ofList_toList]
    rfl

theorem parse_of_slash_not_mem (h : '/' ∉ text.toList) : parse text = .error .bucketMissing := by
  unfold parse
  rw [(Text.cutAt_eq_none_iff ..).2 h]

theorem parse_eq_ok_iff :
    parse text = .ok l ↔ IsCut text l ∧ l.path.bind (·.toList.head?) ≠ some '/' := by
  by_cases hslash : '/' ∈ text.toList
  · obtain ⟨m, hm⟩ := exists_isCut hslash
    constructor
    · intro h
      rw [parse_of_isCut hm] at h
      split at h
      · cases h
      · rename_i hhead
        cases h
        exact ⟨hm, hhead⟩
    · rintro ⟨hl, hhead⟩
      rw [parse_of_isCut hl, if_neg hhead]
  · rw [parse_of_slash_not_mem hslash]
    refine ⟨nofun, ?_⟩
    rintro ⟨⟨rfl, -, -⟩, -⟩
    rw [toList_text] at hslash
    exact absurd (List.mem_append_right _ (List.mem_cons_self ..)) hslash

end

-- ================================================================ parts

/-- A text cut at all its slashes and joined again. -/
theorem intercalate_splitOn (text : String) :
    "/".intercalate ((text.toList.splitOn '/').map String.ofList) = text := by
  apply String.toList_inj.1
  rw [String.toList_intercalate, List.map_map]
  have hid : String.toList ∘ String.ofList = id := funext fun _ => String.toList_ofList
  rw [hid, List.map_id]
  exact List.intercalate_splitOn '/'

/-- The parts joined again are the text of the location. -/
theorem intercalate_parts (l : Location) : "/".intercalate l.parts = l.text := by
  unfold parts Location.text
  cases hpath : l.path with
  | none =>
      show "/".intercalate [l.host, l.bucket] = l.host ++ "/" ++ l.bucket ++ ""
      rw [String.intercalate_cons_of_ne_nil (List.cons_ne_nil _ _), String.intercalate_singleton,
        String.append_empty]
  | some path =>
      have hne : (path.toList.splitOn '/').map String.ofList ≠ [] :=
        fun h => List.splitOn_ne_nil '/' _ (List.map_eq_nil_iff.1 h)
      rw [Option.map_some, Option.getD_some, Option.map_some, Option.getD_some,
        String.intercalate_cons_of_ne_nil (List.cons_ne_nil _ _),
        String.intercalate_cons_of_ne_nil hne, intercalate_splitOn]
      simp only [String.append_assoc]

/-- The parts behind the host and the bucket, joined again, are the key
unless they are nothing. -/
theorem key?_eq_intercalate (l : Location) :
    l.key? = (some ("/".intercalate (l.parts.drop 2))).filter (· ≠ "") := by
  unfold key? parts
  cases l.path with
  | none => rfl
  | some path =>
      show _ = (some ("/".intercalate ((path.toList.splitOn '/').map String.ofList))).filter _
      rw [intercalate_splitOn]

theorem key?_eq_some_iff {l : Location} {key : String} :
    l.key? = some key ↔ l.path = some key ∧ key ≠ "" := by
  unfold key?
  rw [Option.filter_eq_some_iff, decide_eq_true_iff]

/-- There is no key exactly if there is no path or nothing in it. -/
theorem key?_eq_none_iff {l : Location} : l.key? = none ↔ l.path = none ∨ l.path = some "" := by
  rw [Option.eq_none_iff_forall_ne_some]
  simp only [ne_eq, key?_eq_some_iff, not_and, Decidable.not_not]
  cases l.path with
  | none => exact ⟨fun _ => .inl rfl, fun _ _ => nofun⟩
  | some path =>
      refine ⟨fun h => .inr (congrArg some (h path rfl)), ?_⟩
      rintro (h | h) key hkey
      · cases h
      · cases h
        cases hkey
        rfl

end Location

-- ============================================================= commands

/-- The text of the location that a command is about. -/
def Command.location? : Command → Option String
  | get location _ => some location
  | put p => some p.location
  | «show» => none

/-- The work that a command asks for on what a key names, or on the bucket
where there is no key. -/
inductive Command.Asks (key : Option String) : Command → Task → Prop where
  | get (location : String) (isDecoded : Bool) :
      Asks key (.get location isDecoded) (.get key isDecoded)
  | put {p : PutOptions} {source : Source} : p.source? = some source →
      Asks key (.put p) (.put key source)

/-- A command about a location begins where that leads, with the work it
asks for on the key of the location. -/
theorem Start.gives_begin {s : Setting} {i : Invocation} {text : String}
    (hi : i.command.location? = some text) :
    Gives (begin s i) fun x => ∃ l h task, Leads s i text l h
      ∧ Command.Asks l.key? i.command task ∧ x = .inr (h, task) := by
  cases hcommand : i.command with
  | get location isDecoded =>
      rw [hcommand] at hi
      cases hi
      refine .congr (gives_begin_get hcommand) fun x => ?_
      constructor
      · rintro ⟨l, h, hl, rfl⟩
        exact ⟨l, h, _, hl, .get text isDecoded, rfl⟩
      · rintro ⟨l, h, task, hl, htask, rfl⟩
        cases htask
        exact ⟨l, h, hl, rfl⟩
  | put p =>
      rw [hcommand] at hi
      cases hi
      refine .congr (gives_begin_put hcommand) fun x => ?_
      constructor
      · rintro ⟨l, h, source, hl, hsource, rfl⟩
        exact ⟨l, h, _, hl, .put hsource, rfl⟩
      · rintro ⟨l, h, task, hl, htask, rfl⟩
        cases htask with
        | put hsource => exact ⟨l, h, _, hl, hsource, rfl⟩
  | «show» =>
      rw [hcommand] at hi
      cases hi

namespace Location

/-- A text that begins with two parts and then two slashes at once. -/
theorem exists_isCut_leadingSlash_iff {text : String} :
    (∃ l, IsCut text l ∧ l.path.bind (·.toList.head?) = some '/')
      ↔ ∃ host bucket rest, '/' ∉ host.toList ∧ '/' ∉ bucket.toList
        ∧ text = host ++ "/" ++ bucket ++ "//" ++ rest := by
  constructor
  · rintro ⟨⟨host, bucket, path⟩, ⟨rfl, hhost, hbucket⟩, hhead⟩
    obtain ⟨path, rfl, hhead⟩ := Option.bind_eq_some_iff.1 hhead
    obtain ⟨rest, hrest⟩ := List.head?_eq_some_iff.1 hhead
    refine ⟨host, bucket, .ofList rest, hhost, hbucket, String.toList_inj.1 ?_⟩
    rw [toList_text]
    simp [hrest]
  · rintro ⟨host, bucket, rest, hhost, hbucket, rfl⟩
    refine ⟨⟨host, bucket, some ("/" ++ rest)⟩, ⟨String.toList_inj.1 ?_, hhost, hbucket⟩, ?_⟩
    · rw [toList_text]
      simp
    · simp

/-- A text is read as a location exactly if it has a slash and does not
go on with one behind its second. The location is then the text cut at
its first two slashes: its parts joined are the text, those behind host
and bucket are the key, and a command about the text looks the host up,
wants a bucket with a name, and works with these and the key. -/
theorem parse_lossless (text : String) :
    ((∃ l, parse text = .ok l) ↔ '/' ∈ text.toList
      ∧ ¬∃ host bucket rest, '/' ∉ host.toList ∧ '/' ∉ bucket.toList
        ∧ text = host ++ "/" ++ bucket ++ "//" ++ rest)
    ∧ ∀ l, parse text = .ok l →
      IsCut text l
      ∧ "/".intercalate l.parts = text
      ∧ (∃ rest, l.parts = l.host :: l.bucket :: rest
        ∧ l.key? = (some ("/".intercalate rest)).filter (· ≠ ""))
      ∧ (∀ key, l.key? = some key ↔ l.path = some key ∧ key ≠ "")
      ∧ (l.key? = none ↔ l.path = none ∨ l.path = some "")
      ∧ (∀ bucket, l.requireBucket = .ok bucket ↔ l.bucket ≠ "" ∧ l.bucket = bucket)
      ∧ ∀ s i, i.command.location? = some text → Start.Gives (Start.begin s i) fun x =>
        ∃ h task, Leads s i text l h ∧ Command.Asks l.key? i.command task ∧ x = .inr (h, task) := by
  refine ⟨?accepted, fun l hl => ?lossless⟩
  case accepted =>
    rw [← exists_isCut_leadingSlash_iff]
    constructor
    · rintro ⟨l, hl⟩
      obtain ⟨hcut, hhead⟩ := parse_eq_ok_iff.1 hl
      refine ⟨Decidable.byContradiction fun hslash => ?_, ?_⟩
      · rw [parse_of_slash_not_mem hslash] at hl
        cases hl
      · rintro ⟨m, hm, hslash⟩
        rw [parse_of_isCut hm, if_pos hslash] at hl
        cases hl
    · rintro ⟨hslash, hhead⟩
      obtain ⟨l, hcut⟩ := exists_isCut hslash
      exact ⟨l, parse_eq_ok_iff.2 ⟨hcut, fun h => hhead ⟨l, hcut, h⟩⟩⟩
  case lossless =>
    have hcut := (parse_eq_ok_iff.1 hl).1
    refine ⟨hcut, (intercalate_parts l).trans hcut.text_eq, ⟨_, rfl, key?_eq_intercalate l⟩,
      fun key => key?_eq_some_iff, key?_eq_none_iff,
      fun bucket => Start.requireBucket_eq_ok_iff, fun s i hi => ?_⟩
    refine .congr (Start.gives_begin hi) fun x => ?_
    constructor
    · rintro ⟨m, h, task, hm, htask, rfl⟩
      -- where a text leads, it is read as one location
      obtain rfl : m = l := by
        obtain ⟨-, -, -, -, hparse, -⟩ := hm
        rw [hl] at hparse
        exact (Except.ok.inj hparse).symm
      exact ⟨h, task, hm, htask, rfl⟩
    · rintro ⟨h, task, hlead, htask, rfl⟩
      exact ⟨l, h, task, hlead, htask, rfl⟩

end Location

end BucketAcl.CommandLine
