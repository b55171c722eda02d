/-
What is given at one level of a command line: flags, values of options
and locations, one after the other. Where all of them are taken, an
option that may be given once has the value of its only argument, and
the grants are those of all of theirs, in their order.

Main statement: `holds_of_foldlM`.
-/
import BucketAcl.CommandLine.Invocation
import BucketAcl.Proofs.Result
import Mathlib.Data.List.Forall2

namespace BucketAcl.CommandLine

-- =============================================================== items

/-- Something that is given. -/
inductive Item where
  | flag (o : Opt)
  | value (o : Opt) (a : Argument)
  | location (a : Argument)

namespace Item

/-- The value, if it is one of some option. -/
def valueOf? (o : Opt) : Item → Option Argument
  | value o' a => if o' = o then some a else none
  | _ => none

/-- The location, if it is one. -/
def location? : Item → Option Argument
  | location a => some a
  | _ => none

/-- The values of an option, in their order. -/
def values (o : Opt) (items : List Item) : List Argument := items.filterMap (valueOf? o)

/-- The locations, in their order. -/
def locations (items : List Item) : List Argument := items.filterMap location?

theorem values_append (o : Opt) (xs ys : List Item) :
    values o (xs ++ ys) = values o xs ++ values o ys := List.filterMap_append

theorem locations_append (xs ys : List Item) :
    locations (xs ++ ys) = locations xs ++ locations ys := List.filterMap_append

end Item

open Item

-- ============================================================== values

theorem Argument.text_eq_ok_iff {a : Argument} {s : String} : a.text = .ok s ↔ a.text? = some s := by
  unfold text
  cases a.text? <;> simp

/-- An argument that is the path of a file that is there. -/
def ReadsPath (isFile : String → Bool) (a : Argument) (path : String) : Prop :=
  a.text? = some path ∧ isFile path = true

/-- An argument that is the label of a canned list. -/
def ReadsLabel (a : Argument) (acl : CannedAcl) : Prop :=
  ∃ s, a.text? = some s ∧ CannedAcl.ofLabel? s = some acl

/-- An argument that is the one-line form of a grant. -/
def ReadsGrant (a : Argument) (g : Grant) : Prop :=
  ∃ s, a.text? = some s ∧ Grant.parse s = .ok g

variable {isFile : String → Bool}

theorem readPath_eq_ok {o : Opt} {s path : String} (h : readPath isFile o s = .ok path) :
    s = path ∧ isFile path = true := by
  unfold readPath at h
  split at h
  · cases h
    exact ⟨rfl, ‹_›⟩
  · cases h

theorem readCanned_eq_ok {s : String} {acl : CannedAcl} (h : readCanned s = .ok acl) :
    CannedAcl.ofLabel? s = some acl := by
  unfold readCanned at h
  split at h
  · cases h
    assumption
  · split at h
    · cases h
    · cases h

theorem readGrant_eq_ok {s : String} {g : Grant} (h : readGrant s = .ok g) :
    Grant.parse s = .ok g := by
  unfold readGrant at h
  split at h
  · cases h
    assumption
  · cases h

namespace Given

/-- What a level was given by the values of an option: one at most, but
for grants. -/
def Gave (isFile : String → Bool) (g : Given) : Opt → List Argument → Prop
  | .config, as => List.Forall₂ (ReadsPath isFile) as g.config.toList
  | .acl, as => List.Forall₂ ReadsLabel as g.acl.toList
  | .file, as => List.Forall₂ (ReadsPath isFile) as g.file.toList
  | .owner, as => List.Forall₂ (fun a s => a.text? = some s) as g.owner.toList
  | .grant, as => List.Forall₂ ReadsGrant as g.grants
  | .verbose, _ | .anonymous, _ | .version, _ | .help, _ | .info, _ => True

/-- Whether a flag was raised. -/
def Raised (g : Given) : Opt → Prop
  | .anonymous => g.isAnonymous = true
  | .info => g.hasInfo = true
  | _ => False

/-- Takes what is given. -/
def take (isFile : String → Bool) (g : Given) : Item → Except Stop Given
  | .flag o => g.raise o
  | .value o a => g.accept isFile o a
  | .location a => do return { g with location := some (← a.text) }

variable {g g' : Given} {o : Opt} {a : Argument} {as : List Argument}

/-- What may be given once is given first. -/
theorem forall₂_of_once {α : Type} {P : Argument → α → Prop} {former value : Option α}
    {read : Except Stop α} (h : List.Forall₂ P as former.toList)
    (hvalue : once former o read = .ok value) (hread : ∀ x, read = .ok x → P a x) :
    List.Forall₂ P (as ++ [a]) value.toList := by
  unfold once at hvalue
  split at hvalue
  · cases hvalue
  · rename_i hformer
    obtain ⟨x, hx, hsome⟩ := exists_of_bind_eq_ok hvalue
    cases hsome
    rw [Option.not_isSome_iff_eq_none.1 hformer] at h
    cases h
    exact .cons (hread x hx) .nil

theorem gave_accept (h : g.Gave isFile o as) (hg : g.accept isFile o a = .ok g') :
    g'.Gave isFile o (as ++ [a]) := by
  have hpath {path : String} (hread : (do readPath isFile o (← a.text)) = .ok path) :
      ReadsPath isFile a path := by
    obtain ⟨s, hs, hpath⟩ := exists_of_bind_eq_ok hread
    obtain ⟨rfl, hfile⟩ := readPath_eq_ok hpath
    exact ⟨Argument.text_eq_ok_iff.1 hs, hfile⟩
  cases o with
  | config | file =>
      obtain ⟨x, hx, hg⟩ := exists_of_bind_eq_ok hg
      cases hg
      exact forall₂_of_once h hx fun path => hpath
  | acl =>
      obtain ⟨x, hx, hg⟩ := exists_of_bind_eq_ok hg
      cases hg
      refine forall₂_of_once h hx fun acl hread => ?_
      obtain ⟨s, hs, hacl⟩ := exists_of_bind_eq_ok hread
      exact ⟨s, Argument.text_eq_ok_iff.1 hs, readCanned_eq_ok hacl⟩
  | owner =>
      obtain ⟨x, hx, hg⟩ := exists_of_bind_eq_ok hg
      cases hg
      exact forall₂_of_once h hx fun s hs => Argument.text_eq_ok_iff.1 hs
  | grant =>
      obtain ⟨s, hs, hg⟩ := exists_of_bind_eq_ok hg
      obtain ⟨x, hx, hg⟩ := exists_of_bind_eq_ok hg
      cases hg
      exact List.rel_append h
        (.cons ⟨s, Argument.text_eq_ok_iff.1 hs, readGrant_eq_ok hx⟩ .nil)
  | verbose | anonymous | version | help | info => cases hg

/-- The value of one option is nothing to the others. -/
theorem accept_keeps (hg : g.accept isFile o a = .ok g') :
    (∀ o' ≠ o, ∀ as, g'.Gave isFile o' as ↔ g.Gave isFile o' as)
      ∧ (∀ o', g'.Raised o' ↔ g.Raised o') ∧ g'.location = g.location := by
  cases o with
  | config | acl | file | owner =>
      obtain ⟨x, -, hg⟩ := exists_of_bind_eq_ok hg
      cases hg
      refine ⟨fun o' hne as => ?_, fun o' => Iff.rfl, rfl⟩
      cases o' <;> simp [Gave] at hne ⊢
  | grant =>
      obtain ⟨s, -, hg⟩ := exists_of_bind_eq_ok hg
      obtain ⟨x, -, hg⟩ := exists_of_bind_eq_ok hg
      cases hg
      refine ⟨fun o' hne as => ?_, fun o' => Iff.rfl, rfl⟩
      cases o' <;> simp [Gave] at hne ⊢
  | verbose | anonymous | version | help | info => cases hg

/-- A flag is raised, and is nothing to the values. -/
theorem raise_keeps (isFile : String → Bool) (hg : g.raise o = .ok g') :
    (∀ o' as, g'.Gave isFile o' as ↔ g.Gave isFile o' as)
      ∧ (∀ o', g'.Raised o' ↔ g.Raised o' ∨ o' = o ∧ (o = .anonymous ∨ o = .info))
      ∧ g'.location = g.location := by
  unfold raise at hg
  cases o with
  | verbose =>
      cases hg
      exact ⟨fun o' as => Iff.rfl, fun o' => by simp [Raised], rfl⟩
  | anonymous | info =>
      dsimp only at hg
      split at hg
      · cases hg
      · cases hg
        refine ⟨fun o' as => Iff.rfl, fun o' => ?_, rfl⟩
        cases o' <;> simp [Raised]
  | config | acl | file | owner | grant | version | help => cases hg

-- =============================================================== taken

/-- What is known of a level that was given some items: for each option
what its values gave, the flags, and the location that came last. -/
structure Holds (isFile : String → Bool) (items : List Item) (g : Given) : Prop where
  values : ∀ o, g.Gave isFile o (values o items)
  flags : ∀ o, g.Raised o ↔ .flag o ∈ items ∧ (o = .anonymous ∨ o = .info)
  location : Option.Rel (fun a l => a.text? = some l) (locations items).getLast? g.location

variable {items : List Item} {item : Item}

theorem holds_nil : Holds isFile [] {} where
  values o := by
    cases o with
    | config | acl | file | owner | grant => exact .nil
    | verbose | anonymous | version | help | info => trivial
  flags o := by cases o <;> simp [Raised]
  location := .none

theorem Holds.take (h : g.Holds isFile items) (hg : g.take isFile item = .ok g') :
    g'.Holds isFile (items ++ [item]) := by
  cases item with
  | flag o =>
      obtain ⟨hvalues, hflags, hlocation⟩ := raise_keeps isFile hg
      refine ⟨fun o' => ?_, fun o' => ?_, ?_⟩
      · rw [values_append, hvalues]
        exact (List.append_nil _).symm ▸ h.values o'
      · rw [hflags, h.flags]
        simp only [List.mem_append, List.mem_singleton, Item.flag.injEq]
        constructor
        · rintro (⟨hmem, hkind⟩ | ⟨rfl, hkind⟩)
          · exact ⟨.inl hmem, hkind⟩
          · exact ⟨.inr rfl, hkind⟩
        · rintro ⟨hmem | rfl, hkind⟩
          · exact .inl ⟨hmem, hkind⟩
          · exact .inr ⟨rfl, hkind⟩
      · rw [locations_append, hlocation]
        exact (List.append_nil _).symm ▸ h.location
  | value o a =>
      obtain ⟨hvalues, hflags, hlocation⟩ := accept_keeps hg
      refine ⟨fun o' => ?_, fun o' => ?_, ?_⟩
      · rw [values_append]
        by_cases ho : o' = o
        · subst ho
          rw [show Item.values o' [.value o' a] = [a] by simp [Item.values, valueOf?]]
          exact gave_accept (h.values o') hg
        · rw [show Item.values o' [.value o a] = [] by simp [Item.values, valueOf?, Ne.symm ho],
            List.append_nil, hvalues o' ho]
          exact h.values o'
      · rw [hflags, h.flags]
        simp
      · rw [locations_append, hlocation]
        exact (List.append_nil _).symm ▸ h.location
  | location a =>
      obtain ⟨s, hs, hg⟩ := exists_of_bind_eq_ok hg
      cases hg
      refine ⟨fun o' => ?_, fun o' => ?_, ?_⟩
      · rw [values_append]
        exact (List.append_nil _).symm ▸ h.values o'
      · rw [List.mem_append, List.mem_singleton, or_iff_left nofun]
        exact h.flags o'
      · rw [locations_append, show locations [.location a] = [a] from rfl, List.getLast?_concat]
        exact .some (Argument.text_eq_ok_iff.1 hs)

/-- All items are taken one after the other. -/
theorem holds_of_foldlM (h : items.foldlM (Given.take isFile) {} = .ok g) :
    g.Holds isFile items := by
  have hfrom (done items : List Item) (f : Given) (hf : f.Holds isFile done)
      (h : items.foldlM (Given.take isFile) f = .ok g) : g.Holds isFile (done ++ items) := by
    induction items generalizing done f with
    | nil =>
        cases h
        exact (List.append_nil _).symm ▸ hf
    | cons item r ih =>
        rw [List.foldlM_cons] at h
        obtain ⟨f', hitem, h⟩ := exists_of_bind_eq_ok h
        rw [List.append_cons]
        exact ih _ f' (hf.take hitem) h
  exact hfrom [] items {} holds_nil h

end Given

end BucketAcl.CommandLine
