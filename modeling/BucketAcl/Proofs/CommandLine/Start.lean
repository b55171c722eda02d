/-
How a command is begun. What the steps of the beginning can give is said
by one rule for each kind of step, whatever was noted before; what is
left of them is where a location leads, and what there is to put.
-/
import BucketAcl.CommandLine.Program

namespace BucketAcl.CommandLine

namespace Start

-- =============================================================== rules

variable {α β ε : Type}

/-- What steps give, and the notes after them. -/
def outcome (x : Start α) (notes : List Note) : Except StartFault α × List Note := x.run notes

/-- What follows steps goes on from their notes, unless they fail. -/
theorem outcome_bind (x : Start α) (f : α → Start β) (notes : List Note) :
    outcome (x >>= f) notes =
      match outcome x notes with
      | (.ok a, later) => outcome (f a) later
      | (.error e, later) => (.error e, later) := by
  show (x.run >>= ExceptT.bindCont f) notes = _
  unfold outcome
  show (match x.run notes with
    | (a, later) => ExceptT.bindCont f a later) = _
  rcases x.run notes with ⟨a | a, later⟩
  · rfl
  · rfl

theorem outcome_ofExcept (f : ε → StartFault) (e : Except ε α) (notes : List Note) :
    outcome (ofExcept f e) notes = (e.mapError f, notes) := by
  cases e <;> rfl

/-- Steps that give exactly the results of some kind, whatever was noted
before. -/
def Gives (x : Start α) (P : α → Prop) : Prop :=
  ∀ notes a, (outcome x notes).1 = .ok a ↔ P a

theorem Gives.pure (a : α) : Gives (Pure.pure a) (a = ·) := by
  intro notes b
  show Except.ok a = Except.ok b ↔ a = b
  rw [Except.ok.injEq]

theorem Gives.throw (f : StartFault) : Gives (throw f : Start α) fun _ => False := by
  intro notes b
  refine ⟨fun h => ?_, False.elim⟩
  cases h

theorem Gives.note (w : Weight) (source text : String) :
    Gives (Start.note w source text) fun _ => True :=
  fun _ _ => ⟨fun _ => trivial, fun _ => rfl⟩

theorem Gives.ofExcept (f : ε → StartFault) (e : Except ε α) :
    Gives (Start.ofExcept f e) (e = .ok ·) := by
  intro notes a
  rw [outcome_ofExcept]
  cases e with
  | error e => exact ⟨nofun, nofun⟩
  | ok b =>
      show Except.ok b = Except.ok a ↔ Except.ok b = Except.ok a
      rw [Except.ok.injEq, Except.ok.injEq]

/-- What follows steps is looked at for each of their results. -/
theorem Gives.bind {x : Start α} {f : α → Start β} {P : α → Prop} {Q : α → β → Prop}
    (hx : Gives x P) (hf : ∀ a, P a → Gives (f a) (Q a)) :
    Gives (x >>= f) fun b => ∃ a, P a ∧ Q a b := by
  intro notes b
  have hP := hx notes
  rw [outcome_bind]
  generalize outcome x notes = o at hP ⊢
  rcases o with ⟨e | a, later⟩
  · refine ⟨nofun, ?_⟩
    rintro ⟨a, ha, -⟩
    cases (hP a).2 ha
  · have ha : P a := (hP a).1 rfl
    refine (hf a ha later b).trans ⟨fun h => ⟨a, ha, h⟩, ?_⟩
    rintro ⟨a', ha', h⟩
    cases (hP a').2 ha'
    exact h

/-- The same results, said in another way. -/
theorem Gives.congr {x : Start α} {P Q : α → Prop} (hx : Gives x P) (h : ∀ a, P a ↔ Q a) :
    Gives x Q := fun notes a => (hx notes a).trans (h a)

/-- A note changes no result of the steps behind it. -/
theorem Gives.afterNote {x : Start α} {P : α → Prop} (hx : Gives x P) (w : Weight)
    (source text : String) : Gives (do Start.note w source text; x) P :=
  .congr (.bind (.note w source text) fun _ _ => hx) fun _ =>
    ⟨fun ⟨_, _, h⟩ => h, fun h => ⟨(), trivial, h⟩⟩

/-- A note changes no result of the steps in front of it. -/
theorem Gives.andNote {x : Start α} {P : α → Prop} (hx : Gives x P) (w : Weight)
    (source : String) (text : α → String) :
    Gives (do
      let a ← x
      Start.note w source (text a)
      return a) P :=
  .congr (.bind hx fun a _ => .afterNote (.pure a) w source (text a)) fun a =>
    ⟨fun ⟨_, ha, he⟩ => he ▸ ha, fun ha => ⟨a, ha, rfl⟩⟩

end Start

-- ============================================================ location

/-- Where a location leads: the configuration can be read and has the
host, the host has a region, and the bucket has a name. The keys are
those of the environment, and each of them else that of the host. -/
def Leads (s : Setting) (i : Invocation) (text : String) (l : Location) (h : Handle) : Prop :=
  ∃ config host region, Config.load i.config (s.file? i.config) = .ok config
    ∧ Location.parse text = .ok l
    ∧ config.hosts.get? l.host = some host
    ∧ host.findRegion = .ok region
    ∧ l.bucket ≠ ""
    ∧ h = {
      credentials := {
        accessKey := (s.environment.get? "AWS_ACCESS_KEY_ID").getD host.accessKey
        secretKey := (s.environment.get? "AWS_SECRET_ACCESS_KEY").getD host.secretKey }
      region
      bucket := some l.bucket
      isAnonymous := i.isAnonymous }

namespace Start

variable {s : Setting} {i : Invocation}

theorem gives_readConfig :
    Gives (readConfig s i) (Config.load i.config (s.file? i.config) = .ok ·) :=
  .afterNote (.andNote (.ofExcept _ _) _ _ _) _ _ _

theorem gives_readLocation (verb : Verb) (text : String) :
    Gives (readLocation verb text) (Location.parse text = .ok ·) :=
  .afterNote (.andNote (.ofExcept _ _) _ _ _) _ _ _

theorem findHost_eq_ok_iff {config : Config} {name : String} {host : Host} :
    config.findHost name = .ok host ↔ config.hosts.get? name = some host := by
  unfold Config.findHost
  cases config.hosts.get? name <;> simp

theorem requireBucket_eq_ok_iff {l : Location} {bucket : String} :
    l.requireBucket = .ok bucket ↔ l.bucket ≠ "" ∧ l.bucket = bucket := by
  unfold Location.requireBucket
  split
  · rename_i h
    exact ⟨nofun, fun he => absurd h he.1⟩
  · rename_i h
    rw [Except.ok.injEq]
    exact (and_iff_right h).symm

/-- The handle for a location of a configuration. -/
theorem gives_handle (config : Config) (l : Location) :
    Gives (handle s i config l) fun h => ∃ host region, config.findHost l.host = .ok host
      ∧ host.findRegion = .ok region ∧ ∃ bucket, l.requireBucket = .ok bucket
      ∧ h = ⟨host.credentials s.environment, region, some bucket, i.isAnonymous⟩ := by
  unfold handle
  refine .congr (.bind (.ofExcept _ _) fun host _ => .bind (.ofExcept _ _) fun region _ =>
    .bind (.ofExcept _ _) fun bucket _ => .afterNote (.pure _) _ _ _) fun h => ?_
  constructor
  · rintro ⟨host, hhost, region, hregion, bucket, hbucket, rfl⟩
    exact ⟨host, region, hhost, hregion, bucket, hbucket, rfl⟩
  · rintro ⟨host, region, hhost, hregion, bucket, hbucket, rfl⟩
    exact ⟨host, hhost, region, hregion, bucket, hbucket, rfl⟩

/-- The steps up to the handle lead where the location does. -/
theorem gives_readHandle {β : Type} (verb : Verb) (text : String)
    {f : Location → Handle → Start β} {Q : Location → Handle → β → Prop}
    (hf : ∀ l h, Gives (f l h) (Q l h)) :
    Gives (do
      let config ← readConfig s i
      let location ← readLocation verb text
      let handle ← handle s i config location
      f location handle) fun x => ∃ l h, Leads s i text l h ∧ Q l h x := by
  refine .congr (.bind gives_readConfig fun config _ => .bind (gives_readLocation verb text)
    fun l _ => .bind (gives_handle config l) fun h _ => hf l h) fun x => ?_
  constructor
  · rintro ⟨config, hconfig, l, hl, h, ⟨host, region, hhost, hregion, bucket, hbucket, rfl⟩, hx⟩
    obtain ⟨hne, rfl⟩ := requireBucket_eq_ok_iff.1 hbucket
    exact ⟨l, _, ⟨config, host, region, hconfig, hl, findHost_eq_ok_iff.1 hhost, hregion, hne,
      rfl⟩, hx⟩
  · rintro ⟨l, h, ⟨config, host, region, hconfig, hl, hhost, hregion, hne, rfl⟩, hx⟩
    exact ⟨config, hconfig, l, hl, _, ⟨host, region, findHost_eq_ok_iff.2 hhost, hregion, _,
      requireBucket_eq_ok_iff.2 ⟨hne, rfl⟩, rfl⟩, hx⟩

theorem gives_done (task : Task) : Gives (begin.done task) (task = ·) :=
  .afterNote (.pure task) _ _ _

theorem gives_source (p : PutOptions) : Gives (source p) (p.source? = some ·) := by
  unfold source
  cases p.source? with
  | none => exact .congr (.throw _) fun _ => ⟨False.elim, nofun⟩
  | some x =>
      refine .congr (.afterNote (.pure x) _ _ _) fun y => ?_
      rw [Option.some.injEq]

-- =========================================================== beginnings

theorem gives_begin_get {text : String} {isDecoded : Bool}
    (hi : i.command = .get text isDecoded) :
    Gives (begin s i) fun x =>
      ∃ l h, Leads s i text l h ∧ x = .inr (h, .get l.key? isDecoded) := by
  unfold begin
  rw [hi]
  refine .congr (gives_readHandle .get text fun l h =>
    .bind (gives_done _) fun task _ => .pure _) fun x => ?_
  constructor
  · rintro ⟨l, h, hl, task, rfl, rfl⟩
    exact ⟨l, h, hl, rfl⟩
  · rintro ⟨l, h, hl, rfl⟩
    exact ⟨l, h, hl, _, rfl, rfl⟩

theorem gives_begin_show (hi : i.command = .show) :
    Gives (begin s i) fun x => ∃ config, Config.load i.config (s.file? i.config) = .ok config
      ∧ x = .inl config.hosts.names := by
  unfold begin
  rw [hi]
  refine .congr (.bind gives_readConfig fun config _ => .pure _) fun x => ?_
  exact exists_congr fun config => and_congr_right fun _ => eq_comm

theorem gives_begin_put {p : PutOptions} (hi : i.command = .put p) :
    Gives (begin s i) fun x => ∃ l h source, Leads s i p.location l h ∧ p.source? = some source
      ∧ x = .inr (h, .put l.key? source) := by
  unfold begin
  rw [hi]
  refine .congr (gives_readHandle .put p.location fun l h => .bind (gives_source p)
    fun source _ => .bind (gives_done _) fun task _ => .pure _) fun x => ?_
  constructor
  · rintro ⟨l, h, hl, source, hsource, task, rfl, rfl⟩
    exact ⟨l, h, source, hl, hsource, rfl⟩
  · rintro ⟨l, h, source, hl, hsource, rfl⟩
    exact ⟨l, h, hl, source, hsource, _, rfl, rfl⟩

end Start

end BucketAcl.CommandLine
