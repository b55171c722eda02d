/-
What a command line asks for. It is spelled at two levels, in front of
its command and behind it, and asks for what is given there: the one
location, the values of the options, and the flags. The flag for requests
without a signature is written in one way only, so it is given exactly
where it stands in front of two dashes alone.

Main statement: `isSpelledBy_ofArguments`.
-/
import BucketAcl.Proofs.CommandLine.Grammar

namespace BucketAcl.CommandLine

open Argument

-- ============================================================= the flag

namespace Argument

/-- The flag, in the only way that it is written. -/
def noSignRequest : Argument := ofText "--no-sign-request"

/-- The arguments that may be options. -/
def inFrontOfDashes (args : List Argument) : List Argument := args.takeWhile (· ≠ dashes)

theorem inFrontOfDashes_cons {a : Argument} {args : List Argument} (h : a ≠ dashes) :
    inFrontOfDashes (a :: args) = a :: inFrontOfDashes args :=
  List.takeWhile_cons_of_pos (p := (· ≠ dashes)) (decide_eq_true h)

/-- What is no option is neither the flag nor two dashes. -/
theorem IsPlain.ne {a : Argument} (h : a.IsPlain) : a ≠ dashes ∧ a ≠ noSignRequest :=
  ⟨h (some '-') [], h (some '-') _⟩

end Argument

/-- The flag has no letter. -/
theorem Letters.not_mem {options : List Opt} {cs : Argument} {items : List Item}
    {next? : Option Opt} (h : Letters options cs items next?) : .flag .anonymous ∉ items := by
  induction h with
  | nil => exact List.not_mem_nil
  | named => exact List.not_mem_nil
  | equals => simp
  | attached => simp
  | flag _ hc _ _ ih =>
      rintro (_ | ⟨_, hmem⟩)
      · cases hc
      · exact ih hmem

/-- An argument that begins with a dash is the flag, or gives another
item. -/
theorem Dashed.anonymous_mem_iff {options : List Opt} {a : Argument} {items : List Item}
    {next? : Option Opt} (h : Dashed options a items next?) :
    a ≠ dashes ∧ (.flag .anonymous ∈ items ↔ a = noSignRequest) := by
  have hlong (o : Opt) : long o ≠ dashes ∧ (long o = noSignRequest ↔ o = .anonymous) := by
    cases o <;> decide
  cases h with
  | @flag o ho hv =>
      refine ⟨(hlong o).1, ?_⟩
      rw [(hlong o).2, List.mem_singleton, Item.flag.injEq, eq_comm]
  | @named o ho hv =>
      refine ⟨(hlong o).1, ?_⟩
      rw [(hlong o).2]
      refine ⟨fun hmem => absurd hmem List.not_mem_nil, ?_⟩
      rintro rfl
      cases hv
  | @attached o ho hv a =>
      -- there is no equals sign in the name of the flag
      have hmem : some '=' ∈ long o ++ some '=' :: a :=
        List.mem_append_right _ (List.mem_cons_self ..)
      refine ⟨fun he => absurd (he ▸ hmem) (by decide), ?_⟩
      refine ⟨fun hflag => by simp at hflag, fun he => absurd (he ▸ hmem) (by decide)⟩
  | letters hc h =>
      refine ⟨fun he => hc (List.cons.inj (List.cons.inj he).2).1, ?_⟩
      exact iff_of_false h.not_mem fun he => hc (List.cons.inj (List.cons.inj he).2).1

/-- The arguments of the command that one level ends with. -/
def left (next? : Option (Verb × List Argument)) : List Argument :=
  (next?.map Prod.snd).getD []

/-- The flag is given where it stands among the arguments of a level, up
to its command or to two dashes. -/
theorem Spells.anonymous_mem_iff {level : Level} {awaited? : Option Opt} {args : List Argument}
    {items : List Item} {next? : Option (Verb × List Argument)}
    (h : Spells level awaited? args items next?) :
    ∃ front, inFrontOfDashes args = front ++ inFrontOfDashes (left next?)
      ∧ (.flag .anonymous ∈ items ↔ noSignRequest ∈ front) := by
  induction h with
  | done => exact ⟨[], rfl, by simp⟩
  | @command verb hverb rest =>
      have hne : ofText verb.name ≠ Argument.dashes ∧ noSignRequest ≠ ofText verb.name := by
        cases verb <;> decide
      refine ⟨[ofText verb.name], inFrontOfDashes_cons hne.1, ?_⟩
      rw [List.mem_singleton]
      exact iff_of_false List.not_mem_nil hne.2
  | dashes => exact ⟨[], rfl, by simp⟩
  | @option a items later awaited? rest next? hdashed _ ih =>
      obtain ⟨front, hfront, hflag⟩ := ih
      obtain ⟨hne, hitems⟩ := hdashed.anonymous_mem_iff
      refine ⟨a :: front, by rw [inFrontOfDashes_cons hne, hfront]; rfl, ?_⟩
      rw [List.mem_append, hitems, hflag, List.mem_cons, eq_comm]
  | @value o a items rest next? ha _ ih =>
      obtain ⟨front, hfront, hflag⟩ := ih
      refine ⟨a :: front, by rw [inFrontOfDashes_cons ha.ne.1, hfront]; rfl, ?_⟩
      rw [List.mem_cons, List.mem_cons, hflag, or_iff_right nofun, or_iff_right ha.ne.2.symm]
  | @location a items rest next? ha _ _ ih =>
      obtain ⟨front, hfront, hflag⟩ := ih
      refine ⟨a :: front, by rw [inFrontOfDashes_cons ha.ne.1, hfront]; rfl, ?_⟩
      rw [List.mem_cons, List.mem_cons, hflag, or_iff_right nofun, or_iff_right ha.ne.2.symm]

/-- Behind a word no other one follows. -/
theorem Spells.next?_eq_none {level : Level} (hlevel : level.verbs = []) {awaited? : Option Opt}
    {args : List Argument} {items : List Item} {next? : Option (Verb × List Argument)}
    (h : Spells level awaited? args items next?) : next? = none := by
  induction h with
  | done => rfl
  | dashes => rfl
  | command hverb =>
      rw [hlevel] at hverb
      cases hverb
  | option _ _ ih => exact ih
  | value _ _ ih => exact ih
  | location _ _ _ ih => exact ih

-- ======================================================== invocations

/-- The one location that was given. -/
def IsLocation (items : List Item) (text : String) : Prop :=
  ∃ a, Item.locations items = [a] ∧ a.text? = some text

/-- What was given to `put`: one value at most for each option, but any
number of grants, in their order. -/
structure PutOptions.AreGiven (isFile : String → Bool) (items : List Item) (p : PutOptions) :
    Prop where
  location : IsLocation items p.location
  acl : List.Forall₂ ReadsLabel (Item.values .acl items) p.acl.toList
  file : List.Forall₂ (ReadsPath isFile) (Item.values .file items) p.file.toList
  owner : List.Forall₂ (fun a s => a.text? = some s) (Item.values .owner items) p.owner.toList
  grants : List.Forall₂ ReadsGrant (Item.values .grant items) p.grants
  source : p.sourceCount = 1 ∧ (p.grants ≠ [] → p.owner ≠ none)

/-- What a command asks for, from what was given behind its word. -/
inductive Command.IsGiven (isFile : String → Bool) (items : List Item) : Verb → Command → Prop
  | get {text : String} {isDecoded : Bool} (hl : IsLocation items text)
      (hinfo : isDecoded = true ↔ .flag .info ∈ items) :
      IsGiven isFile items .get (.get text isDecoded)
  | put {p : PutOptions} (hp : p.AreGiven isFile items) : IsGiven isFile items .put (.put p)
  | show : IsGiven isFile items .show .show

/-- What a command line asks for, from how its two levels are spelled: a
command, a configuration file that is named behind it or else in front of
it, and whether requests go without a signature. -/
def Invocation.IsSpelledBy (isFile : String → Bool) (defaultConfig : String)
    (args : List Argument) (i : Invocation) : Prop :=
  ∃ front verb rest behind, Spells .top none args front (some (verb, rest))
    ∧ Spells verb.level none rest behind none
    ∧ i.command.IsGiven isFile behind verb
    ∧ ((Item.values .config behind ++ Item.values .config front).head?.elim
      (i.config = defaultConfig) fun a => a.text? = some i.config)
    ∧ (i.isAnonymous = true ↔ .flag .anonymous ∈ front ++ behind)

namespace Invocation

variable {isFile : String → Bool} {defaultConfig : String}

theorem settle_of_close {r : Reading} {g : Given} (h : close isFile defaultConfig r = .ok g) :
    r.settle isFile = .ok g := by
  obtain ⟨g', hg', h⟩ := exists_of_bind_eq_ok h
  split at h
  · obtain ⟨-, -, h⟩ := exists_of_bind_eq_ok h
    cases h
    exact hg'
  · cases h
    exact hg'

theorem helpOn_ne_ok (args : List Argument) (x : Given × Command) : helpOn args ≠ .ok x := by
  intro h
  unfold helpOn at h
  split at h
  · cases h
  · split at h
    · cases h
    · split at h
      · cases h
      · cases h

theorem isLocation_of_location {items : List Item} {g : Given} (hg : g.Holds isFile items)
    (hone : (Item.locations items).length ≤ 1) {text : String} (h : location g = .ok text) :
    IsLocation items text := by
  have hgiven : g.location = some text := by
    unfold location at h
    split at h
    · cases h
      assumption
    · cases h
  have hlast := hg.location
  rw [hgiven] at hlast
  cases hl : (Item.locations items).getLast? with
  | none =>
      rw [hl] at hlast
      cases hlast
  | some a =>
      rw [hl] at hlast
      obtain ⟨ys, hys⟩ := List.getLast?_eq_some_iff.1 hl
      rw [hys, List.length_append, List.length_singleton] at hone
      obtain rfl := List.eq_nil_of_length_eq_zero (Nat.le_zero.1 (Nat.le_of_succ_le_succ hone))
      cases hlast with
      | some htext => exact ⟨a, hys, htext⟩

theorem check_eq_ok {p q : PutOptions} (h : p.check = .ok q) :
    q = p ∧ p.sourceCount = 1 ∧ (p.grants ≠ [] → p.owner ≠ none) := by
  unfold PutOptions.check at h
  split at h
  · cases h
  · rename_i hmany
    split at h
    · cases h
    · rename_i hnone
      split at h
      · cases h
      · rename_i howner
        cases h
        exact ⟨rfl, by omega, fun hgrants hno => howner ⟨hgrants, hno⟩⟩

theorem isGiven_of_commandOf {verb : Verb} {items : List Item} {g : Given}
    (hg : g.Holds isFile items) (hone : (Item.locations items).length ≤ 1) {c : Command}
    (h : commandOf verb g = .ok c) : c.IsGiven isFile items verb := by
  unfold commandOf at h
  cases verb with
  | get =>
      obtain ⟨text, htext, h⟩ := exists_of_bind_eq_ok h
      cases h
      refine .get (isLocation_of_location hg hone htext) ?_
      have hinfo := hg.flags .info
      rw [and_iff_left (.inr rfl)] at hinfo
      exact hinfo
  | put =>
      obtain ⟨text, htext, h⟩ := exists_of_bind_eq_ok h
      obtain ⟨p, hp, h⟩ := exists_of_bind_eq_ok h
      cases h
      obtain ⟨rfl, hsource⟩ := check_eq_ok hp
      exact .put ⟨isLocation_of_location hg hone htext, hg.values .acl, hg.values .file,
        hg.values .owner, hg.values .grant, hsource⟩
  | «show» =>
      cases h
      exact .show
  | help => cases h

/-- What stands behind a word is spelled, and gives its command. -/
theorem exists_spells_of_readCommand {verb : Verb} {args : List Argument} {g : Given}
    {c : Command} (h : readCommand isFile defaultConfig verb args = .ok (g, c)) :
    ∃ items, Spells verb.level none args items none ∧ g.Holds isFile items
      ∧ c.IsGiven isFile items verb := by
  unfold readCommand at h
  split at h
  · exact absurd h (helpOn_ne_ok args _)
  · obtain ⟨⟨r, next?⟩, hr, h⟩ := exists_of_bind_eq_ok h
    obtain ⟨g', hg', h⟩ := exists_of_bind_eq_ok h
    obtain ⟨c', hc', h⟩ := exists_of_bind_eq_ok h
    cases h
    obtain ⟨items, hspells, htaken, hone⟩ :=
      Reading.exists_spells_of_run Reading.stands_start hr (settle_of_close hg')
    have hholds : g.Holds isFile items := Given.holds_of_foldlM htaken
    have hlast : next? = none := hspells.next?_eq_none (by cases verb <;> rfl)
    exact ⟨items, hlast ▸ hspells, hholds, isGiven_of_commandOf hholds hone hc'⟩

/-- The configuration file is named behind the word, else in front of it. -/
theorem config_of_values {xs ys : List Argument} {c d : Option String}
    (hx : List.Forall₂ (ReadsPath isFile) xs c.toList)
    (hy : List.Forall₂ (ReadsPath isFile) ys d.toList) :
    (xs ++ ys).head?.elim ((c <|> d).getD defaultConfig = defaultConfig)
      fun a => a.text? = some ((c <|> d).getD defaultConfig) := by
  cases c with
  | some path =>
      obtain _ | ⟨hpath, -⟩ := hx
      exact hpath.1
  | none =>
      cases hx
      cases d with
      | some path =>
          obtain _ | ⟨hpath, -⟩ := hy
          exact hpath.1
      | none =>
          cases hy
          rfl

/-- A command line that is read is spelled, and asks for what was given. -/
theorem isSpelledBy_ofArguments {args : List Argument} {i : Invocation}
    (h : ofArguments isFile defaultConfig args = .ok i) :
    i.IsSpelledBy isFile defaultConfig args := by
  obtain ⟨⟨r, verb?⟩, hr, h⟩ := exists_of_bind_eq_ok h
  obtain ⟨behind, hbehind, h⟩ := exists_of_bind_eq_ok h
  obtain ⟨before, hbefore, h⟩ := exists_of_bind_eq_ok h
  obtain ⟨front, hfront, htaken, -⟩ :=
    Reading.exists_spells_of_run Reading.stands_start hr (settle_of_close hbefore)
  have hholds : before.Holds isFile front := Given.holds_of_foldlM htaken
  cases verb? with
  | none =>
      cases hbehind
      cases h
  | some next =>
      obtain ⟨verb, rest⟩ := next
      obtain ⟨⟨g, c⟩, hg, hsome⟩ := exists_of_bind_eq_ok hbehind
      cases hsome
      cases h
      obtain ⟨items, hspells, hitems, hcommand⟩ := exists_spells_of_readCommand hg
      refine ⟨front, verb, rest, items, hfront, hspells, hcommand, ?_, ?_⟩
      · exact config_of_values (hitems.values .config) (hholds.values .config)
      · have hflags (g : Given) (items : List Item) (h : g.Holds isFile items) :
            g.isAnonymous = true ↔ .flag .anonymous ∈ items := by
          have hflag := h.flags .anonymous
          rw [and_iff_left (.inl rfl)] at hflag
          exact hflag
        show (g.isAnonymous || before.isAnonymous) = true ↔ _
        rw [Bool.or_eq_true, hflags g items hitems, hflags before front hholds, List.mem_append,
          or_comm]

/-- Requests go without a signature exactly where the flag is among the
arguments in front of two dashes. -/
theorem isAnonymous_of_isSpelledBy {args : List Argument} {i : Invocation}
    (h : i.IsSpelledBy isFile defaultConfig args) :
    i.isAnonymous = true ↔ noSignRequest ∈ inFrontOfDashes args := by
  obtain ⟨front, verb, rest, behind, hfront, hbehind, -, -, hflag⟩ := h
  obtain ⟨before, hbefore, hitems⟩ := hfront.anonymous_mem_iff
  obtain ⟨after, hafter, hlater⟩ := hbehind.anonymous_mem_iff
  have hend : inFrontOfDashes (left none) = [] := rfl
  rw [hend, List.append_nil] at hafter
  rw [hflag, List.mem_append, hitems, hlater, hbefore, List.mem_append,
    show left (some (verb, rest)) = rest from rfl, hafter]

end Invocation

end BucketAcl.CommandLine
