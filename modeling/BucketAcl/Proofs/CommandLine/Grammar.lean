/-
What arguments spell. An option goes by its name or its letter, its value
is attached or comes next, and behind two dashes alone there are only
locations. What is read of a level of a command line is spelled like
this: each step of the reading gives what one argument spells.

Main statement: `exists_spells_of_run`.
-/
import BucketAcl.Proofs.CommandLine.Items

namespace BucketAcl.CommandLine

-- ============================================================ grammar

namespace Argument

/-- Two dashes alone. -/
def dashes : Argument := ofText "--"

/-- An option by its name. -/
def long (o : Opt) : Argument := dashes ++ ofText o.name

/-- An argument that is no option. -/
def IsPlain (a : Argument) : Prop := ∀ c rest, a ≠ some '-' :: c :: rest

end Argument

open Argument

/-- Letters of options, the items that they give, and the option whose
value is to come next. What stands behind the letter of an option with a
value is that value, less an equals sign. -/
inductive Letters (options : List Opt) : Argument → List Item → Option Opt → Prop where
  | nil : Letters options [] [] none
  | flag {o : Opt} {c : Char} {rest : Argument} {items : List Item} {next? : Option Opt}
      (ho : o ∈ options) (hc : o.letter? = some c) (hv : o.takesValue = false)
      (hrest : Letters options rest items next?) :
      Letters options (some c :: rest) (.flag o :: items) next?
  | named {o : Opt} {c : Char} (ho : o ∈ options) (hc : o.letter? = some c)
      (hv : o.takesValue = true) : Letters options [some c] [] (some o)
  | equals {o : Opt} {c : Char} (ho : o ∈ options) (hc : o.letter? = some c)
      (hv : o.takesValue = true) (a : Argument) :
      Letters options (some c :: some '=' :: a) [.value o a] none
  | attached {o : Opt} {c : Char} (ho : o ∈ options) (hc : o.letter? = some c)
      (hv : o.takesValue = true) {a : Argument} (hne : a ≠ []) (heq : a.head? ≠ some (some '=')) :
      Letters options (some c :: a) [.value o a] none

/-- An argument that begins with a dash, in the same way. -/
inductive Dashed (options : List Opt) : Argument → List Item → Option Opt → Prop where
  | flag {o : Opt} (ho : o ∈ options) (hv : o.takesValue = false) :
      Dashed options (long o) [.flag o] none
  | named {o : Opt} (ho : o ∈ options) (hv : o.takesValue = true) :
      Dashed options (long o) [] (some o)
  | attached {o : Opt} (ho : o ∈ options) (hv : o.takesValue = true) (a : Argument) :
      Dashed options (long o ++ some '=' :: a) [.value o a] none
  | letters {c : Option Char} {cs : Argument} {items : List Item} {next? : Option Opt}
      (hc : c ≠ some '-') (h : Letters options (c :: cs) items next?) :
      Dashed options (some '-' :: c :: cs) items next?

/-- The arguments of a level, after an option whose value is to come next
if there is one: the items that they give, and the command that the level
ends with, with the arguments behind it. -/
inductive Spells (level : Level) :
    Option Opt → List Argument → List Item → Option (Verb × List Argument) → Prop where
  | done : Spells level none [] [] none
  | command {verb : Verb} (h : verb ∈ level.verbs) (rest : List Argument) :
      Spells level none (ofText verb.name :: rest) [] (some (verb, rest))
  | dashes {rest : List Argument} (h : rest = [] ∨ level.hasLocation = true) :
      Spells level none (dashes :: rest) (rest.map .location) none
  | option {a : Argument} {front items : List Item} {awaited? : Option Opt}
      {rest : List Argument} {next? : Option (Verb × List Argument)}
      (h : Dashed level.options a front awaited?)
      (hrest : Spells level awaited? rest items next?) :
      Spells level none (a :: rest) (front ++ items) next?
  | value {o : Opt} {a : Argument} {items : List Item} {rest : List Argument}
      {next? : Option (Verb × List Argument)} (ha : a.IsPlain)
      (hrest : Spells level none rest items next?) :
      Spells level (some o) (a :: rest) (.value o a :: items) next?
  | location {a : Argument} {items : List Item} {rest : List Argument}
      {next? : Option (Verb × List Argument)} (ha : a.IsPlain) (h : level.hasLocation = true)
      (hrest : Spells level none rest items next?) :
      Spells level none (a :: rest) (.location a :: items) next?

-- ============================================================ reading

theorem Argument.text?_eq_some_iff {a : Argument} {s : String} : a.text? = some s ↔ a = ofText s := by
  have hmap (a : Argument) (cs : List Char) : a.mapM id = some cs ↔ a = cs.map some := by
    induction a generalizing cs with
    | nil => cases cs <;> simp
    | cons c r ih => cases cs <;> simp [List.mapM_cons, Option.bind_eq_some_iff, ih]
  unfold text? ofText
  rw [Option.map_eq_some_iff]
  constructor
  · rintro ⟨cs, hcs, rfl⟩
    rw [String.toList_ofList]
    exact (hmap a cs).1 hcs
  · exact fun h => ⟨s.toList, (hmap a _).2 h, String.ofList_toList⟩

namespace Reading

variable {isFile : String → Bool} {level : Level} {items : List Item} {awaited? : Option Opt}
  {r r' : Reading} {g : Given}

/-- What was read and is not judged yet. -/
def pendingItems (r : Reading) : List Item :=
  match r.pending with
  | some (.option o (some a)) => [.value o a]
  | some (.location a) => [.location a]
  | _ => []

/-- A reading of a level that was given some items, one location at most
among them, and that awaits the value of an option or none. -/
structure Stands (isFile : String → Bool) (items : List Item) (awaited? : Option Opt)
    (r : Reading) : Prop where
  taken : ∃ judged, judged.foldlM (Given.take isFile) {} = .ok r.given
    ∧ items = judged ++ r.pendingItems
  awaited : r.awaited? = awaited?
  location : (Item.locations items).length ≤ 1

theorem stands_start : Stands isFile [] none {} := ⟨⟨[], rfl, rfl⟩, rfl, Nat.zero_le 1⟩

/-- What awaits no value takes what it has not judged yet. -/
theorem settle_eq (h : r.awaited? = none) :
    r.settle isFile = r.pendingItems.foldlM (Given.take isFile) r.given := by
  unfold Reading.awaited? at h
  unfold settle pendingItems
  split at h
  · cases h
  · rename_i hpending
    split
    · rename_i hnone
      rw [hnone]
      rfl
    · rename_i o hnone
      exact absurd hnone (hpending o)
    · rename_i o a hvalue
      rw [hvalue, List.foldlM_cons]
      exact (bind_pure _).symm
    · rename_i a hlocation
      rw [hlocation, List.foldlM_cons]
      exact (bind_pure _).symm

/-- Only what awaits no value can be judged. -/
theorem Stands.settle (hr : r.Stands isFile items awaited?) (hg : r.settle isFile = .ok g) :
    awaited? = none ∧ items.foldlM (Given.take isFile) {} = .ok g := by
  obtain ⟨⟨judged, hjudged, rfl⟩, rfl, -⟩ := hr
  have hnone : r.awaited? = none := by
    unfold Reading.awaited?
    unfold Reading.settle at hg
    split at hg
    · rename_i h
      rw [h]
    · cases hg
    · rename_i h
      rw [h]
    · rename_i h
      rw [h]
  refine ⟨hnone, ?_⟩
  rw [List.foldlM_append, hjudged, ← hg, settle_eq hnone]
  rfl

-- ============================================================== steps

variable {o : Opt} {a : Argument}

/-- Where all is judged, nothing is awaited. -/
theorem stands_judged (h : items.foldlM (Given.take isFile) {} = .ok g)
    (hone : (Item.locations items).length ≤ 1) : Stands isFile items none { given := g } :=
  ⟨⟨items, h, (List.append_nil _).symm⟩, rfl, hone⟩

/-- What is given goes to the end of what was given. -/
theorem foldlM_take_append {item : Item} {g' : Given}
    (h : items.foldlM (Given.take isFile) {} = .ok g) (hitem : g.take isFile item = .ok g') :
    (items ++ [item]).foldlM (Given.take isFile) {} = .ok g' := by
  rw [List.foldlM_append, h]
  show [item].foldlM (Given.take isFile) g = _
  rw [List.foldlM_cons, hitem]
  rfl

/-- Options give no locations. -/
theorem length_locations_append {items front : List Item} (h : Item.locations front = [])
    (hone : (Item.locations items).length ≤ 1) :
    (Item.locations (items ++ front)).length ≤ 1 := by
  rw [Item.locations_append, h, List.append_nil]
  exact hone

theorem stands_raise (hr : r.Stands isFile items awaited?) (hg : r.settle isFile = .ok g)
    {g' : Given} (hraise : g.raise o = .ok g') :
    Stands isFile (items ++ [.flag o]) none { given := g' } :=
  stands_judged (foldlM_take_append (hr.settle hg).2 hraise)
    (length_locations_append rfl hr.location)

/-- An option takes what is attached to it, or awaits its value. -/
theorem stands_takeOption (hr : r.Stands isFile items awaited?) {attached : Option Argument}
    (h : r.takeOption isFile o attached = .ok r') :
    awaited? = none ∧ match attached with
      | some a => r'.Stands isFile (items ++ [.value o a]) none
      | none => r'.Stands isFile items (some o) := by
  obtain ⟨g, hg, h⟩ := exists_of_bind_eq_ok h
  obtain ⟨hawaited, htaken⟩ := hr.settle hg
  refine ⟨hawaited, ?_⟩
  cases attached with
  | none =>
      cases h
      exact ⟨⟨items, htaken, (List.append_nil _).symm⟩, rfl, hr.location⟩
  | some a =>
      obtain ⟨g', hg', h⟩ := exists_of_bind_eq_ok h
      cases h
      exact stands_judged (foldlM_take_append htaken hg') (length_locations_append rfl hr.location)

/-- Without a location, none was given. -/
theorem Stands.locations_eq_nil (hr : r.Stands isFile items awaited?)
    (h : r.hasLocation = false) : Item.locations items = [] := by
  obtain ⟨⟨judged, hjudged, rfl⟩, -, -⟩ := hr
  unfold hasLocation at h
  obtain ⟨hgiven, hpending⟩ := Bool.or_eq_false_iff.1 h
  have hlast := (Given.holds_of_foldlM hjudged).location
  rw [Option.isSome_eq_false_iff, Option.isNone_iff_eq_none] at hgiven
  rw [hgiven] at hlast
  have hjudgedNil : Item.locations judged = [] := by
    cases hl : (Item.locations judged).getLast? with
    | none => exact List.getLast?_eq_none_iff.1 hl
    | some a =>
        rw [hl] at hlast
        cases hlast
  rw [Item.locations_append, hjudgedNil]
  unfold pendingItems
  split
  · rfl
  · rename_i hlocation
    rw [hlocation] at hpending
    cases hpending
  · rfl

theorem stands_takePlain (hr : r.Stands isFile items awaited?)
    (h : r.takePlain isFile level a = .ok r') :
    awaited? = none ∧ level.hasLocation = true
      ∧ r'.Stands isFile (items ++ [.location a]) none := by
  unfold takePlain at h
  split at h
  · rename_i hroom
    obtain ⟨hlevel, hnone⟩ := Bool.and_eq_true_iff.1 hroom
    obtain ⟨g, hg, h⟩ := exists_of_bind_eq_ok h
    cases h
    obtain ⟨hawaited, htaken⟩ := hr.settle hg
    refine ⟨hawaited, hlevel, ⟨items, htaken, rfl⟩, rfl, ?_⟩
    rw [Item.locations_append, hr.locations_eq_nil (Bool.not_eq_true' _ ▸ hnone)]
    exact Nat.le_refl 1
  · cases h

/-- Letters are taken one after the other. -/
theorem exists_letters {cs : Argument} (hr : r.Stands isFile items awaited?)
    (hne : cs ≠ [] ∨ awaited? = none) (h : r.takeLetters isFile level cs = .ok r') :
    awaited? = none ∧ ∃ front next?, Letters level.options cs front next?
      ∧ r'.Stands isFile (items ++ front) next? := by
  induction cs generalizing r items awaited? with
  | nil =>
      cases h
      obtain rfl := hne.resolve_left fun h => h rfl
      exact ⟨rfl, [], none, .nil, (List.append_nil items).symm ▸ hr⟩
  | cons c rest ih =>
      unfold takeLetters at h
      split at h
      · cases h
      · rename_i o hfound
        obtain ⟨d, rfl, hoption⟩ := Option.bind_eq_some_iff.1 hfound
        have ho := List.mem_of_find?_eq_some hoption
        have hfits := List.find?_some hoption
        have hletter : o.letter? = some d := beq_iff_eq.1 hfits
        split at h
        · rename_i hvalue
          split at h
          · obtain ⟨hawaited, hstands⟩ := stands_takeOption hr h
            exact ⟨hawaited, [], some o, .named ho hletter hvalue,
              (List.append_nil items).symm ▸ hstands⟩
          · obtain ⟨hawaited, hstands⟩ := stands_takeOption hr h
            exact ⟨hawaited, _, none, .equals ho hletter hvalue _, hstands⟩
          · rename_i hnil hequals
            obtain ⟨hawaited, hstands⟩ := stands_takeOption hr h
            refine ⟨hawaited, _, none, .attached ho hletter hvalue hnil fun hhead => ?_, hstands⟩
            obtain ⟨a, ha⟩ := List.head?_eq_some_iff.1 hhead
            exact hequals a ha
        · rename_i hflag
          obtain ⟨g, hg, h⟩ := exists_of_bind_eq_ok h
          obtain ⟨g', hg', h⟩ := exists_of_bind_eq_ok h
          obtain ⟨-, front, next?, hletters, hstands⟩ :=
            ih (stands_raise hr hg hg') (.inr rfl) h
          refine ⟨(hr.settle hg).1, .flag o :: front, next?,
            .flag ho hletter (Bool.not_eq_true _ ▸ hflag) hletters, ?_⟩
          rw [List.append_cons]
          exact hstands

/-- A name is that of an option, which takes what is attached to it. -/
theorem exists_named {name : Argument} {attached : Option Argument}
    (hr : r.Stands isFile items awaited?)
    (h : r.takeNamed isFile level name attached = .ok r') :
    awaited? = none ∧ ∃ front next?, r'.Stands isFile (items ++ front) next?
      ∧ Dashed level.options (dashes ++ name ++ (attached.map (some '=' :: ·)).getD []) front
        next? := by
  unfold takeNamed at h
  split at h
  · cases h
  · rename_i o hoption
    have ho := List.mem_of_find?_eq_some hoption
    have hfits := List.find?_some hoption
    obtain rfl : name = ofText o.name := text?_eq_some_iff.1 (beq_iff_eq.1 hfits)
    split at h
    · rename_i hvalue
      obtain ⟨hawaited, hstands⟩ := stands_takeOption hr h
      refine ⟨hawaited, ?_⟩
      cases attached with
      | none =>
          refine ⟨[], some o, (List.append_nil items).symm ▸ hstands, ?_⟩
          exact (List.append_nil (long o)).symm ▸ .named ho hvalue
      | some a => exact ⟨_, none, hstands, .attached ho hvalue a⟩
    · rename_i hflag
      split at h
      · cases h
      · rename_i hattached
        obtain rfl := Option.not_isSome_iff_eq_none.1 hattached
        obtain ⟨g, hg, h⟩ := exists_of_bind_eq_ok h
        obtain ⟨g', hg', h⟩ := exists_of_bind_eq_ok h
        cases h
        refine ⟨(hr.settle hg).1, _, none, stands_raise hr hg hg', ?_⟩
        exact (List.append_nil (long o)).symm ▸ .flag ho (Bool.not_eq_true _ ▸ hflag)

/-- What stands behind a name is nothing, or begins with an equals sign. -/
theorem behind_name (rest : Argument) :
    let name := rest.takeWhile (· ≠ some '=')
    rest.drop name.length = [] ∧ name = rest
      ∨ ∃ a, rest.drop name.length = some '=' :: a ∧ name ++ some '=' :: a = rest := by
  intro name
  have hsplit : name ++ rest.dropWhile (· ≠ some '=') = rest := List.takeWhile_append_dropWhile
  have hdrop : rest.drop name.length = rest.dropWhile (· ≠ some '=') := by
    have hprefix := congrArg (List.drop name.length) hsplit
    rw [List.drop_left] at hprefix
    exact hprefix.symm
  rw [hdrop]
  cases hbehind : rest.dropWhile (· ≠ some '=') with
  | nil =>
      rw [hbehind, List.append_nil] at hsplit
      exact .inl ⟨rfl, hsplit⟩
  | cons c a =>
      have hc := List.head_dropWhile_not (· ≠ some '=') (l := rest)
        (hbehind ▸ List.cons_ne_nil c a)
      simp only [hbehind, List.head_cons] at hc
      obtain rfl := of_not_not (of_decide_eq_false hc)
      exact .inr ⟨a, rfl, hbehind ▸ hsplit⟩

theorem exists_dashed {next : Except Stop Reading} (hr : r.Stands isFile items awaited?)
    (hnext : r.takeDashed? isFile level a = some next) (h : next = .ok r') :
    awaited? = none ∧ ∃ front next?, Dashed level.options a front next?
      ∧ r'.Stands isFile (items ++ front) next? := by
  subst h
  unfold takeDashed? at hnext
  split at hnext
  · rename_i rest
    obtain ⟨hawaited, front, next?, hstands, hdashed⟩ :=
      exists_named hr (Option.some.inj hnext)
    refine ⟨hawaited, front, next?, ?_, hstands⟩
    rcases behind_name rest with ⟨hnil, hname⟩ | ⟨a, hequals, hname⟩
    · rw [hnil, hname] at hdashed
      show Dashed level.options (dashes ++ rest) front next?
      rw [← List.append_nil (dashes ++ rest)]
      exact hdashed
    · rw [hequals, List.append_assoc] at hdashed
      exact hname ▸ hdashed
  · rename_i c rest hc
    obtain ⟨hawaited, front, next?, hletters, hstands⟩ :=
      exists_letters hr (.inl (List.cons_ne_nil _ _)) (Option.some.inj hnext)
    exact ⟨hawaited, front, next?, .letters (fun he => hc he) hletters, hstands⟩
  · cases hnext

theorem isPlain_of_takeDashed (h : r.takeDashed? isFile level a = none) : a.IsPlain := by
  rintro c rest rfl
  unfold takeDashed? at h
  split at h
  · cases h
  · cases h
  · rename_i hother
    exact hother c rest rfl

/-- The value that was awaited is not judged yet. -/
theorem Stands.value (hr : r.Stands isFile items (some o)) (a : Argument) :
    Stands isFile (items ++ [.value o a]) none { r with pending := some (.option o (some a)) } := by
  obtain ⟨⟨judged, hjudged, hitems⟩, hawaited, hone⟩ := hr
  refine ⟨⟨judged, hjudged, ?_⟩, rfl, length_locations_append rfl hone⟩
  have hnone : r.pendingItems = [] := by
    unfold Reading.awaited? at hawaited
    unfold pendingItems
    split at hawaited
    · rename_i hpending
      rw [hpending]
    · cases hawaited
  rw [hitems, hnone, List.append_nil]
  rfl

-- ================================================================ runs

variable {args : List Argument} {next? : Option (Verb × List Argument)}

/-- Behind two dashes there are only locations. -/
theorem stands_run_plain (hr : r.Stands isFile items awaited?)
    (h : r.run isFile level true args = .ok (r', next?)) :
    next? = none ∧ (args = [] ∧ r' = r ∨ awaited? = none ∧ level.hasLocation = true
      ∧ r'.Stands isFile (items ++ args.map .location) none) := by
  induction args generalizing r items awaited? with
  | nil =>
      cases h
      exact ⟨rfl, .inl ⟨rfl, rfl⟩⟩
  | cons a rest ih =>
      rw [run, if_pos rfl] at h
      obtain ⟨q, hq, h⟩ := exists_of_bind_eq_ok h
      obtain ⟨hawaited, hlevel, hstands⟩ := stands_takePlain hr hq
      obtain ⟨hnext, hrest⟩ := ih hstands h
      refine ⟨hnext, .inr ⟨hawaited, hlevel, ?_⟩⟩
      rw [List.map_cons, List.append_cons]
      rcases hrest with ⟨rfl, rfl⟩ | ⟨-, -, hstands⟩
      · exact (List.append_nil _).symm ▸ hstands
      · exact hstands

/-- The arguments of a level that can be judged spell what it was given. -/
theorem exists_spells_of_run (hr : r.Stands isFile items awaited?)
    (h : r.run isFile level false args = .ok (r', next?)) (hg : r'.settle isFile = .ok g) :
    ∃ later, Spells level awaited? args later next?
      ∧ (items ++ later).foldlM (Given.take isFile) {} = .ok g
      ∧ (Item.locations (items ++ later)).length ≤ 1 := by
  induction args generalizing r items awaited? with
  | nil =>
      cases h
      obtain ⟨rfl, htaken⟩ := hr.settle hg
      exact ⟨[], .done, (List.append_nil items).symm ▸ ⟨htaken, hr.location⟩⟩
  | cons a rest ih =>
      rw [run, if_neg Bool.false_ne_true] at h
      dsimp only at h
      split at h
      · rename_i verb hverb
        cases h
        obtain ⟨rfl, htaken⟩ := hr.settle hg
        have hfound : level.verbs.find? (fun v => a.text? == some v.name) = some verb := by
          split at hverb
          · cases hverb
          · exact hverb
        have hword := List.find?_some hfound
        obtain rfl : a = ofText verb.name := text?_eq_some_iff.1 (beq_iff_eq.1 hword)
        exact ⟨[], .command (List.mem_of_find?_eq_some hfound) rest,
          (List.append_nil items).symm ▸ ⟨htaken, hr.location⟩⟩
      · split at h
        · rename_i hdashes
          obtain rfl : a = dashes := hdashes
          obtain ⟨rfl, ⟨rfl, rfl⟩ | ⟨rfl, hlevel, hstands⟩⟩ := stands_run_plain hr h
          · obtain ⟨rfl, htaken⟩ := hr.settle hg
            exact ⟨[], .dashes (.inl rfl), (List.append_nil items).symm ▸ ⟨htaken, hr.location⟩⟩
          · exact ⟨_, .dashes (.inr hlevel), (hstands.settle hg).2, hstands.location⟩
        · split at h
          · rename_i next hnext
            obtain ⟨q, hq, h⟩ := exists_of_bind_eq_ok h
            obtain ⟨rfl, front, following?, hdashed, hstands⟩ := exists_dashed hr hnext hq
            obtain ⟨later, hspells, htaken, hone⟩ := ih hstands h
            rw [List.append_assoc] at htaken hone
            exact ⟨front ++ later, .option hdashed hspells, htaken, hone⟩
          · rename_i o hnone hawaited
            obtain rfl := hr.awaited.symm.trans hawaited
            obtain ⟨later, hspells, htaken, hone⟩ := ih (hr.value a) h
            rw [← List.append_cons] at htaken hone
            exact ⟨_, .value (isPlain_of_takeDashed hnone) hspells, htaken, hone⟩
          · rename_i hnone _
            obtain ⟨q, hq, h⟩ := exists_of_bind_eq_ok h
            obtain ⟨rfl, hlevel, hstands⟩ := stands_takePlain hr hq
            obtain ⟨later, hspells, htaken, hone⟩ := ih hstands h
            rw [← List.append_cons] at htaken hone
            exact ⟨_, .location (isPlain_of_takeDashed hnone) hlevel hspells, htaken, hone⟩

end Reading

end BucketAcl.CommandLine
