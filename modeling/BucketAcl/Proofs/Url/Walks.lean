/-
Where a walk of moves ends. Below a place a move touches only what is
below it; only from the place itself a move up leaves it, and a path
that is left for its root may be entered again by name.

Main statement: `isBelow_walk_iff`.
-/
import BucketAcl.Proofs.Url.Moves

namespace BucketAcl.Url.Segments

variable {special : Bool}

-- ======================================================= below a place

/-- The place that a walk goes on from: a root path has none. -/
theorem forAppending_of_ne {ss : List String} (h : ss ≠ [""]) : forAppending ss = ss := by
  unfold forAppending
  split
  · exact absurd rfl h
  · rfl

/-- Segments that end with a name are no root path. -/
theorem append_ne_root (ss : List String) {s : String} (hs : s ≠ "") : ss ++ [s] ≠ [""] := by
  intro h
  have hlast := congrArg List.getLast? h
  rw [List.getLast?_append, List.getLast?_singleton, Option.some_or] at hlast
  exact hs (Option.some.inj hlast)

theorem above_append (ss : List String) {ts : List String} (h : ts ≠ []) :
    above (ss ++ ts) = ss ++ above ts := by
  unfold above
  rw [List.getLast?_append]
  cases ht : ts.getLast? with
  | none => exact absurd (List.getLast?_eq_none_iff.1 ht) h
  | some t =>
      rw [Option.some_or]
      dsimp only
      split
      · rfl
      · exact List.dropLast_append_of_ne_nil h

namespace Move

theorem go_ne_nil (m : Move) (ss : List String) : m.go special ss ≠ [] := by
  cases m <;> exact List.append_ne_nil_of_right_ne_nil _ (List.cons_ne_nil _ _)

/-- A move below a place leaves what is above it. -/
theorem go_append (m : Move) (ss : List String) {ts : List String} (h : ts ≠ []) :
    m.go special (ss ++ ts) = ss ++ m.go special ts := by
  cases m with
  | up =>
      show above (ss ++ ts) ++ [""] = ss ++ (above ts ++ [""])
      rw [above_append ss h, List.append_assoc]
  | blank => exact List.append_assoc ..
  | name text h => exact List.append_assoc ..

theorem length_go {m : Move} (hm : m ≠ .up) (ss : List String) :
    (m.go special ss).length = ss.length + 1 := by
  cases m with
  | up => exact absurd rfl hm
  | blank => exact List.length_append
  | name text h => exact List.length_append

/-- One that goes up leaves no segment without another in its place. -/
theorem length_le_length_go (m : Move) (ss : List String) :
    ss.length ≤ (m.go special ss).length := by
  by_cases hm : m = .up
  · subst hm
    show _ ≤ (above ss ++ [""]).length
    unfold above
    rw [List.length_append, List.length_singleton]
    cases hs : ss.getLast? with
    | none =>
        rw [List.getLast?_eq_none_iff.1 hs]
        exact Nat.zero_le _
    | some s =>
        dsimp only
        split
        · omega
        · rw [List.length_dropLast]
          omega
  · rw [length_go hm]
    omega

end Move

/-- A walk that begins below a place leaves what is above it. -/
theorem walk_append {ss ts : List String} (hs : ss ≠ []) (ht : ts ≠ []) (ms : List Move) :
    walk special (ss ++ ts) ms = ss ++ ms.foldl (Move.go special) ts := by
  unfold walk
  induction ms generalizing ts with
  | nil => rfl
  | cons m r ih =>
      have hne : ss ++ ts ≠ [""] := by
        intro h
        have hlen := congrArg List.length h
        have := List.length_pos_iff.2 hs
        have := List.length_pos_iff.2 ht
        rw [List.length_append, List.length_singleton] at hlen
        omega
      rw [List.foldl_cons, List.foldl_cons, forAppending_of_ne hne, m.go_append ss ht,
        ih (m.go_ne_nil ts)]

theorem length_le_length_foldl_go (ms : List Move) (ts : List String) :
    ts.length ≤ (ms.foldl (Move.go special) ts).length := by
  induction ms generalizing ts with
  | nil => exact Nat.le_refl _
  | cons m r ih => exact Nat.le_trans (m.length_le_length_go ts) (ih _)

/-- A walk of more than moves up leaves more than it begins with. -/
theorem length_lt_length_foldl_go {ms : List Move} (h : ∃ m ∈ ms, m ≠ .up) (ts : List String) :
    ts.length < (ms.foldl (Move.go special) ts).length := by
  obtain ⟨m, hm, hne⟩ := h
  obtain ⟨a, b, rfl⟩ := List.mem_iff_append.1 hm
  rw [List.foldl_append, List.foldl_cons]
  have hstart : ts.length ≤ (a.foldl (Move.go special) ts).length :=
    length_le_length_foldl_go a ts
  have hend : (m.go special (a.foldl (Move.go special) ts)).length
      ≤ (b.foldl (Move.go special) (m.go special (a.foldl (Move.go special) ts))).length :=
    length_le_length_foldl_go b _
  rw [Move.length_go hne] at hend
  omega

theorem go_up_singleton (t : String) :
    Move.up.go special [t] = if isDrive t.toList then [t, ""] else [""] := by
  show above [t] ++ [""] = _
  unfold above
  rw [List.getLast?_singleton]
  dsimp only
  split
  · rfl
  · rfl

/-- A segment is left by a move up, unless it is a drive. -/
theorem walk_up (ss : List String) {s : String} (hs : s ≠ "") (ms : List Move) :
    walk special (ss ++ [s]) (.up :: ms)
      = walk special (ss ++ if isDrive s.toList then [s, ""] else [""]) ms := by
  unfold walk
  rw [List.foldl_cons, forAppending_of_ne (append_ne_root ss hs),
    Move.up.go_append ss (List.cons_ne_nil _ _), go_up_singleton]

/-- A blank segment stays where it is. -/
theorem exists_go_blank (m : Move) (ts : List String) :
    ∃ us, m.go special ("" :: ts) = "" :: us := by
  cases ts with
  | nil =>
      have hblank : isDrive "".toList = false := by decide
      cases m with
      | up => exact ⟨[], by rw [go_up_singleton, hblank]; rfl⟩
      | blank => exact ⟨_, rfl⟩
      | name text h => exact ⟨_, rfl⟩
  | cons t r => exact ⟨_, m.go_append [""] (List.cons_ne_nil t r)⟩

theorem exists_foldl_go_blank (ms : List Move) (ts : List String) :
    ∃ us, ms.foldl (Move.go special) ("" :: ts) = "" :: us := by
  induction ms generalizing ts with
  | nil => exact ⟨ts, rfl⟩
  | cons m r ih =>
      obtain ⟨us, hus⟩ : ∃ us, m.go special ("" :: ts) = "" :: us := exists_go_blank m ts
      rw [List.foldl_cons, hus]
      exact ih us

/-- From a blank segment no move goes further up. -/
theorem foldl_go_blank {ms : List Move} (h : ∀ m ∈ ms, m = .up) :
    ms.foldl (Move.go special) [""] = [""] := by
  induction ms with
  | nil => rfl
  | cons m r ih =>
      have hblank : isDrive "".toList = false := by decide
      rw [List.foldl_cons, h m (List.mem_cons_self ..), go_up_singleton, hblank]
      exact ih fun n hn => h n (List.mem_cons_of_mem _ hn)

/-- Nothing but a blank segment is left of one segment by moves up, one
at least unless it is blank; only a drive is not left. -/
theorem foldl_go_singleton_eq_blank_iff {t : String} {ms : List Move} :
    ms.foldl (Move.go special) [t] = [""]
      ↔ (∀ m ∈ ms, m = .up) ∧ isDrive t.toList = false ∧ (ms = [] → t = "") := by
  constructor
  · intro h
    have hup : ∀ m ∈ ms, m = .up := by
      intro m hm
      refine Decidable.byContradiction fun hne => ?_
      have hlen : [t].length < (ms.foldl (Move.go special) [t]).length :=
        length_lt_length_foldl_go ⟨m, hm, hne⟩ [t]
      rw [h] at hlen
      exact absurd hlen (Nat.lt_irrefl _)
    refine ⟨hup, ?_, ?_⟩
    · cases ms with
      | nil =>
          rw [show t = "" from List.singleton_inj.1 h]
          decide
      | cons m r =>
          refine Bool.eq_false_iff.2 fun hd => ?_
          have hlen : [t, ""].length ≤ (r.foldl (Move.go special) [t, ""]).length :=
            length_le_length_foldl_go r [t, ""]
          rw [List.foldl_cons, hup m (List.mem_cons_self ..), go_up_singleton, hd, if_pos rfl] at h
          rw [h] at hlen
          exact absurd hlen (Nat.not_succ_le_self 1)
    · rintro rfl
      exact List.singleton_inj.1 h
  · rintro ⟨hup, hd, hnil⟩
    cases ms with
    | nil => rw [hnil rfl, List.foldl_nil]
    | cons m r =>
        rw [List.foldl_cons, hup m (List.mem_cons_self ..), go_up_singleton, hd]
        exact foldl_go_blank fun n hn => hup n (List.mem_cons_of_mem _ hn)

-- ======================================================== strictly below

namespace Move

/-- The segment that a move adds at its place. -/
def segment (special : Bool) : Move → String
  | up | blank => ""
  | name text _ => written special text

/-- The move adds a drive letter, which no move up leaves again. -/
def isDrive : Move → Bool
  | name text _ => Segments.isDrive text
  | _ => false

theorem go_eq_append {m : Move} (hm : m ≠ .up) (ss : List String) :
    m.go special ss = ss ++ [m.segment special] := by
  cases m with
  | up => exact absurd rfl hm
  | blank => rfl
  | name text h => rfl

theorem segment_eq_empty_iff {m : Move} (hm : m ≠ .up) :
    m.segment special = "" ↔ m = .blank := by
  cases m with
  | up => exact absurd rfl hm
  | blank => exact ⟨fun _ => rfl, fun _ => rfl⟩
  | name text h => exact ⟨fun he => absurd he (written_ne_empty h), fun he => nomatch he⟩

theorem isDrive_segment (m : Move) :
    Segments.isDrive (m.segment special).toList = m.isDrive := by
  have hblank : Segments.isDrive "".toList = false := by decide
  cases m with
  | up => exact hblank
  | blank => exact hblank
  | name text h => exact isDrive_written text

end Move

/-- Segments that stand strictly below others: more follows them than a
blank segment. -/
def IsBelow (ss ts : List String) : Prop := ∃ r, ts = ss ++ r ∧ r ≠ [] ∧ r ≠ [""]

/-- A walk that ends strictly below where it begins, and never leaves
this place: it does not begin with a move up, and such moves do not undo
all that it adds. -/
def Descends : List Move → Prop
  | [] => False
  | m :: r => m ≠ .up ∧ ((∃ n ∈ r, n ≠ .up) ∨ m.isDrive = true ∨ (r = [] ∧ m ≠ .blank))

theorem foldl_go_ne_nil (ms : List Move) {ts : List String} (h : ts ≠ []) :
    ms.foldl (Move.go special) ts ≠ [] := by
  intro he
  have hlen : ts.length ≤ (ms.foldl (Move.go special) ts).length := length_le_length_foldl_go ms ts
  rw [he] at hlen
  exact h (List.length_eq_zero_iff.1 (Nat.le_zero.1 hlen))

/-- What a walk adds to one segment below a place decides whether it
ends strictly below it. -/
theorem isBelow_walk_append_iff {ss : List String} (hs : ss ≠ []) (t : String) (ms : List Move) :
    IsBelow ss (walk special (ss ++ [t]) ms)
      ↔ (∃ m ∈ ms, m ≠ .up) ∨ isDrive t.toList = true ∨ (ms = [] ∧ t ≠ "") := by
  rw [walk_append hs (List.cons_ne_nil _ _)]
  have hbelow : IsBelow ss (ss ++ ms.foldl (Move.go special) [t])
      ↔ ms.foldl (Move.go special) [t] ≠ [""] := by
    constructor
    · rintro ⟨r, hr, _, hne⟩
      rw [List.append_cancel_left hr]
      exact hne
    · exact fun hne => ⟨_, rfl, foldl_go_ne_nil ms (List.cons_ne_nil _ _), hne⟩
  rw [hbelow, Ne, foldl_go_singleton_eq_blank_iff]
  simp only [Classical.not_and_iff_not_or_not, Classical.not_forall, Bool.not_eq_false,
    exists_prop, ne_eq]

theorem walk_cons {ss : List String} (hroot : ss ≠ [""]) {m : Move} (hm : m ≠ .up)
    (r : List Move) :
    walk special ss (m :: r) = walk special (ss ++ [m.segment special]) r := by
  unfold walk
  rw [List.foldl_cons, forAppending_of_ne hroot, Move.go_eq_append hm]

theorem isBelow_walk_cons_iff {ss : List String} (hs : ss ≠ []) (hroot : ss ≠ [""]) {m : Move}
    (hm : m ≠ .up) (r : List Move) :
    IsBelow ss (walk special ss (m :: r)) ↔ Descends (m :: r) := by
  rw [walk_cons hroot hm, isBelow_walk_append_iff hs, Move.isDrive_segment, Ne,
    Move.segment_eq_empty_iff hm]
  exact ⟨fun h => ⟨hm, h⟩, fun h => h.2⟩

-- ======================================================= round the root

/-- A walk from the root of a path back to it: blank segments and moves
up stay there, and a name is left again at once. -/
inductive Wanders : List Move → Prop where
  | nil : Wanders []
  | up {ms : List Move} (h : Wanders ms) : Wanders (.up :: ms)
  | blank {ms : List Move} (h : Wanders ms) : Wanders (.blank :: ms)
  | visit {text : List Char} (ht : text ≠ []) {ms : List Move} (hd : isDrive text = false)
      (h : Wanders ms) : Wanders (.name text ht :: .up :: ms)

theorem walk_root_name {text : List Char} (ht : text ≠ []) (ms : List Move) :
    walk special [""] (.name text ht :: ms) = walk special [written special text] ms := rfl

theorem Wanders.walk_eq {ms : List Move} (h : Wanders ms) (ns : List Move) :
    walk special [""] (ms ++ ns) = walk special [""] ns := by
  induction h with
  | nil => rfl
  | up h ih => exact ih
  | blank h ih => exact ih
  | @visit text ht ms hd h ih =>
      rw [List.cons_append, List.cons_append, walk_root_name]
      show walk special ([] ++ [written special text]) _ = _
      rw [walk_up [] (written_ne_empty ht), isDrive_written, hd]
      exact ih

/-- Below a single segment stands only what begins with it. -/
theorem IsBelow.head_eq {s t : String} {r : List String} (h : IsBelow [s] (t :: r)) : t = s := by
  obtain ⟨u, hu, -⟩ := h
  exact (List.cons.inj hu).1

/-- A walk from the root that ends strictly below a name comes to this
name, and came back to the root from any before. -/
theorem exists_wanders {b : List Char} (hb : b ≠ []) (hd : isDrive b = false) {ms : List Move}
    (h : IsBelow [written special b] (walk special [""] ms)) :
    ∃ lead rest, ms = lead ++ .name b hb :: rest ∧ Wanders lead ∧ Descends rest := by
  -- a name that is left at once takes two moves
  induction hn : ms.length using Nat.strongRecOn generalizing ms with
  | ind n ih =>
  cases ms with
  | nil => exact absurd h.head_eq.symm (written_ne_empty hb)
  | cons m r =>
  rw [List.length_cons] at hn
  cases m with
  | up =>
      have h : IsBelow [written special b] (walk special [""] r) := h
      obtain ⟨lead, rest, rfl, hlead, hrest⟩ := ih r.length (by omega) h rfl
      exact ⟨.up :: lead, rest, rfl, hlead.up, hrest⟩
  | blank =>
      have h : IsBelow [written special b] (walk special [""] r) := h
      obtain ⟨lead, rest, rfl, hlead, hrest⟩ := ih r.length (by omega) h rfl
      exact ⟨.blank :: lead, rest, rfl, hlead.blank, hrest⟩
  | name text ht =>
  have hy : written special text ≠ "" := written_ne_empty ht
  have hroot : [written special text] ≠ [""] := append_ne_root [] hy
  rw [walk_root_name] at h
  cases r with
  | nil =>
      obtain ⟨u, hu, hne, -⟩ := h
      exact absurd (List.cons.inj hu).2.symm hne
  | cons m r =>
  rw [List.length_cons] at hn
  by_cases hm : m = .up
  · subst hm
    rw [show walk special [written special text] (.up :: r) = _ from walk_up [] hy r,
      isDrive_written] at h
    cases htext : isDrive text with
    | true =>
        rw [htext, if_pos rfl] at h
        have hwalk : walk special [written special text, ""] r
            = [written special text] ++ r.foldl (Move.go special) [""] := by
          show walk special ([written special text] ++ [""]) r = _
          exact walk_append (List.cons_ne_nil _ _) (List.cons_ne_nil _ _) r
        rw [List.nil_append, hwalk] at h
        rw [written_injective h.head_eq, hd] at htext
        cases htext
    | false =>
        rw [htext] at h
        have h : IsBelow [written special b] (walk special [""] r) := h
        obtain ⟨lead, rest, rfl, hlead, hrest⟩ := ih r.length (by omega) h rfl
        exact ⟨_, rest, rfl, .visit ht htext hlead, hrest⟩
  · have hname : text = b := by
      rw [walk_cons hroot hm, walk_append (List.cons_ne_nil _ _) (List.cons_ne_nil _ _)] at h
      exact written_injective h.head_eq
    subst hname
    exact ⟨[], _, rfl, .nil, (isBelow_walk_cons_iff (List.cons_ne_nil _ _) hroot hm r).1 h⟩

/-- Where a walk below a bucket named `b` ends strictly below it. The
bucket is at the root of its path or it is not. -/
inductive StaysBelow (atRoot : Prop) (b : List Char) : List Move → Prop where
  /-- The walk never leaves the bucket. -/
  | descends {ms : List Move} (h : Descends ms) : StaysBelow atRoot b ms
  /-- A bucket that is named like a drive is not left by moves up. -/
  | drive {ms : List Move} (hb : isDrive b = true) (h : ∃ m ∈ ms, m ≠ .up) :
      StaysBelow atRoot b (.up :: ms)
  /-- The walk leaves the bucket and comes back to it from the root. -/
  | again {lead rest : List Move} (hb : b ≠ []) (hroot : atRoot) (hd : isDrive b = false)
      (hlead : Wanders lead) (h : Descends rest) :
      StaysBelow atRoot b (.up :: (lead ++ .name b hb :: rest))

/-- Below a bucket that is named like a drive, after a move up. -/
theorem isBelow_drive_iff {ss : List String} {b : List Char} {atRoot : Prop}
    (hd : isDrive b = true) (ms : List Move) :
    IsBelow (ss ++ [written special b]) (walk special (ss ++ [written special b, ""]) ms)
      ↔ StaysBelow atRoot b (.up :: ms) := by
  have hsplit : ss ++ [written special b, ""] = ss ++ [written special b] ++ [""] := by
    rw [List.append_assoc]
    rfl
  have hblank : isDrive "".toList = false := by decide
  rw [hsplit, isBelow_walk_append_iff (List.append_ne_nil_of_right_ne_nil ss
    (List.cons_ne_nil _ _)), hblank]
  constructor
  · rintro (h | h | h)
    · exact .drive hd h
    · cases h
    · exact absurd rfl h.2
  · intro h
    cases h with
    | descends h => exact absurd rfl h.1
    | drive _ h => exact .inl h
    | again _ _ hno _ _ =>
        rw [hd] at hno
        cases hno

/-- Below where a bucket was that a move up left. -/
theorem isBelow_left_iff {ss : List String} {b : List Char} (hb : b ≠ []) (hd : isDrive b = false)
    (ms : List Move) :
    IsBelow (ss ++ [written special b]) (walk special (ss ++ [""]) ms)
      ↔ StaysBelow (ss = []) b (.up :: ms) := by
  constructor
  · intro h
    by_cases hs : ss = []
    · subst hs
      obtain ⟨lead, rest, rfl, hlead, hrest⟩ := exists_wanders hb hd h
      exact .again hb rfl hd hlead hrest
    · -- what was left is a blank segment now, and stays one
      obtain ⟨us, hus⟩ : ∃ us, ms.foldl (Move.go special) [""] = "" :: us :=
        exists_foldl_go_blank ms []
      rw [walk_append hs (List.cons_ne_nil _ _), hus] at h
      obtain ⟨r, hr, -⟩ := h
      rw [List.append_assoc] at hr
      exact absurd (List.cons.inj (List.append_cancel_left hr)).1.symm (written_ne_empty hb)
  · intro h
    cases h with
    | descends h => exact absurd rfl h.1
    | drive hyes _ =>
        rw [hd] at hyes
        cases hyes
    | @again lead rest hb hs _ hlead h =>
        subst hs
        show IsBelow [written special b] (walk special [""] (lead ++ .name b hb :: rest))
        rw [hlead.walk_eq, walk_root_name]
        have hne : [written special b] ≠ [""] := append_ne_root [] (written_ne_empty hb)
        cases rest with
        | nil => exact h.elim
        | cons m r => exact (isBelow_walk_cons_iff (List.cons_ne_nil _ _) hne h.1 r).2 h

/-- A walk below a bucket ends strictly below it in exactly these ways. -/
theorem isBelow_walk_iff {ss : List String} {b : List Char} (hb : b ≠ []) (ms : List Move) :
    IsBelow (ss ++ [written special b]) (walk special (ss ++ [written special b]) ms)
      ↔ StaysBelow (ss = []) b ms := by
  have hx : written special b ≠ "" := written_ne_empty hb
  have hne : ss ++ [written special b] ≠ [] :=
    List.append_ne_nil_of_right_ne_nil ss (List.cons_ne_nil _ _)
  have hroot : ss ++ [written special b] ≠ [""] := append_ne_root ss hx
  cases ms with
  | nil =>
      constructor
      · rintro ⟨r, hr, hnil, -⟩
        exact absurd (List.self_eq_append_right.1 hr) hnil
      · rintro ⟨h⟩
        exact h.elim
  | cons m r =>
  by_cases hm : m = .up
  · subst hm
    rw [walk_up ss hx, isDrive_written]
    cases hd : isDrive b with
    | true => exact isBelow_drive_iff hd r
    | false => exact isBelow_left_iff hb hd r
  · rw [isBelow_walk_cons_iff hne hroot hm]
    constructor
    · exact .descends
    · intro h
      cases h with
      | descends h => exact h
      | drive hd h => exact absurd rfl hm
      | again hb hroot hd hlead h => exact absurd rfl hm

end BucketAcl.Url.Segments
