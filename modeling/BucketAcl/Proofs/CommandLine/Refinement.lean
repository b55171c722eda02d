/-
What a run does with a command. To get or put access control it begins
only where the configuration, the location, its host and its bucket, and
what is put, are all as they should be, and else gives up without a
request. Where it begins, it does to the network what one call of the
library does, and writes what that call gives.

Main statement: `run_command`.
-/
import BucketAcl.Proofs.Call.Run
import BucketAcl.Proofs.CommandLine.Spelled
import BucketAcl.Proofs.CommandLine.Start

namespace BucketAcl.CommandLine

-- =============================================================== tasks

namespace Work

variable {α : Type}

/-- What a task gives, and the network after it. -/
def outcome (w : Work α) (n : Http.Network) : Except TaskFault α × Http.Network := w.run n

theorem outcome_ofCall (c : Call α) (n : Http.Network) :
    outcome (ofCall c) n = ((Call.outcome c n).1.mapError .call, (Call.outcome c n).2) := by
  have hrun : outcome (ofCall c) n = _ := StateT.run_bind c.run _ n
  unfold Call.outcome
  rw [hrun, StateT.run]
  rcases ExceptT.run c n with ⟨e | a, m⟩
  · rfl
  · rfl

/-- What a call gives is written down once it is over. -/
theorem outcome_written (c : Call α) (f : α → String) (n : Http.Network) :
    outcome (do return f (← ofCall c)) n
      = ((Call.outcome c n).1.mapError .call |>.map f, (Call.outcome c n).2) := by
  show (match outcome (ofCall c) n with
    | (r, m) => ExceptT.bindCont (fun a => (return f a : Work String)) r m) = _
  rw [outcome_ofCall]
  rcases Call.outcome c n with ⟨e | a, m⟩
  · rfl
  · rfl

end Work

/-- A run that is given up: it ends with 1, writes nothing, and leaves the
network as it is. -/
structure GivesUp (n : Http.Network) (o : Outcome × Http.Network) : Prop where
  exitCode : o.1.exitCode = 1
  output : o.1.output = ""
  network : o.2 = n

/-- A run that does to the network what a call does. It ends with 0 and
writes what the call gives, or with 1 and writes nothing where the call
gives nothing. -/
structure Follows {α : Type} (c : Call α) (write : α → String) (n : Http.Network)
    (o : Outcome × Http.Network) : Prop where
  network : o.2 = (Call.outcome c n).2
  ending : match (Call.outcome c n).1 with
    | .ok a => o.1.exitCode = 0 ∧ o.1.output = write a
    | .error _ => o.1.exitCode = 1 ∧ o.1.output = ""

/-- What `put` is given to put: a label, or else the text of a file, or
else an owner and grants in their order. -/
inductive IsPut (s : Setting) (p : PutOptions) : AclBody → Prop where
  | label {acl : CannedAcl} : p.acl = some acl → IsPut s p (.canned acl)
  | file {path : String} {bytes : List UInt8} {text : String} : p.acl = none →
      p.file = some path → s.file? path = some bytes → Text.Utf8.strict? bytes = some text →
      IsPut s p (.xml text)
  | grants {owner : String} : p.acl = none → p.file = none → p.owner = some owner →
      IsPut s p (.ofPolicy ⟨⟨owner, none⟩, p.grants⟩)

theorem isPut_iff {s : Setting} {p : PutOptions} {acl : AclBody} :
    IsPut s p acl ↔ ∃ source, p.source? = some source ∧ source.body s = .ok acl := by
  constructor
  · rintro (hacl | ⟨hacl, hfile, hbytes, htext⟩ | ⟨hacl, hfile, howner⟩)
    · exact ⟨.canned _, by rw [PutOptions.source?, hacl], rfl⟩
    · refine ⟨.file _, by rw [PutOptions.source?, hacl, hfile], ?_⟩
      rw [Source.body, hbytes, Option.bind_some, htext]
    · exact ⟨.grants _ _, by rw [PutOptions.source?, hacl, hfile, howner], rfl⟩
  · rintro ⟨source, hsource, hbody⟩
    unfold PutOptions.source? at hsource
    split at hsource
    · rename_i hacl
      cases hsource
      cases hbody
      exact .label hacl
    · rename_i path hacl hfile
      cases hsource
      unfold Source.body at hbody
      dsimp only at hbody
      split at hbody
      · rename_i text htext
        cases hbody
        obtain ⟨bytes, hbytes, htext⟩ := Option.bind_eq_some_iff.1 htext
        exact .file hacl hfile hbytes htext
      · cases hbody
    · rename_i owner hacl hfile howner
      cases hsource
      cases hbody
      exact .grants hacl hfile howner
    · cases hsource

-- ================================================================ runs

section

variable {s : Setting} {i : Invocation} {P : List String ⊕ Handle × Task → Prop}
  {n : Http.Network}

/-- A run is its beginning, and then the task that is begun. -/
theorem run_perform (s : Setting) (i : Invocation) (n : Http.Network) :
    let shown := journal (.ofNotices s.environment) s.now i.verbosity
    (i.perform s).run n = match Start.outcome (Start.begin s i) [] with
      | (.error fault, notes) =>
        (failed s.environment (shown notes) (fault.message (.ofReports s.environment)), n)
      | (.ok (.inl names), notes) =>
        ({ exitCode := 0, output := hostList names, errors := shown notes }, n)
      | (.ok (.inr (h, task)), notes) =>
        match Work.outcome (task.perform s h) n with
        | (.error fault, m) => (failed s.environment (shown notes) fault.message, m)
        | (.ok output, m) =>
          ({ exitCode := 0, output, errors := shown (notes ++ task.notes) }, m) := by
  have hbegin : (Start.begin s i).run.run [] = Start.outcome (Start.begin s i) [] := rfl
  unfold Invocation.perform
  dsimp only
  rw [hbegin]
  rcases Start.outcome (Start.begin s i) [] with ⟨fault | names | ⟨h, task⟩, notes⟩
  · rfl
  · rfl
  · have htask : (task.perform s h).run.run n = Work.outcome (task.perform s h) n := rfl
    dsimp only
    rw [StateT.run_bind, htask]
    rcases Work.outcome (task.perform s h) n with ⟨fault | output, m⟩
    · rfl
    · rfl

/-- Where nothing can be begun, nothing is sent. -/
theorem givesUp_of_not (hP : Start.Gives (Start.begin s i) P) (hno : ∀ x, ¬ P x) :
    GivesUp n ((i.perform s).run n) := by
  have hstart := hP []
  rw [run_perform]
  generalize Start.outcome (Start.begin s i) [] = o at hstart ⊢
  rcases o with ⟨fault | x, notes⟩
  · exact ⟨rfl, rfl, rfl⟩
  · exact absurd ((hstart x).1 rfl) (hno x)

/-- Where hosts are to be shown, they are. -/
theorem run_perform_of_hosts {names : List String} (hP : Start.Gives (Start.begin s i) P)
    (hnames : P (.inl names)) :
    ∃ notes, (i.perform s).run n
      = ({ exitCode := 0, output := hostList names, errors := notes }, n) := by
  have hstart := (hP [] _).2 hnames
  rw [run_perform]
  generalize Start.outcome (Start.begin s i) [] = o at hstart ⊢
  rcases o with ⟨begun, notes⟩
  cases hstart
  exact ⟨_, rfl⟩

/-- A task that is begun is carried out, and decides how the run ends. -/
theorem run_perform_of_task {h : Handle} {task : Task} (hP : Start.Gives (Start.begin s i) P)
    (htask : P (.inr (h, task))) :
    ∃ notes notes', (i.perform s).run n = match Work.outcome (task.perform s h) n with
      | (.error fault, m) => (failed s.environment notes fault.message, m)
      | (.ok output, m) => ({ exitCode := 0, output, errors := notes' }, m) := by
  have hstart := (hP [] _).2 htask
  rw [run_perform]
  generalize Start.outcome (Start.begin s i) [] = o at hstart ⊢
  rcases o with ⟨begun, notes⟩
  cases hstart
  exact ⟨_, _, rfl⟩

end

-- ==================================================== tasks and calls

namespace Task

variable {s : Setting} {h : Handle} {n : Http.Network}

/-- What is put is a call, once there is a body. -/
theorem outcome_put {source : Source} {acl : AclBody} (hbody : source.body s = .ok acl)
    (key : Option String) :
    Work.outcome ((Task.put key source).perform s h) n
      = Work.outcome (do
        return (fun _ => "") (← Work.ofCall (match key with
          | some k => h.putObjectAcl s.now k acl
          | none => h.putBucketAcl s.now acl))) n := by
  unfold perform
  dsimp only
  rw [hbody]
  cases key <;> rfl

/-- Without a body nothing is sent. -/
theorem outcome_put_of_fault {source : Source} {fault : TaskFault}
    (hbody : source.body s = .error fault) (key : Option String) :
    Work.outcome ((Task.put key source).perform s h) n = (.error fault, n) := by
  unfold perform
  dsimp only
  rw [hbody]
  rfl

end Task

section

variable {s : Setting} {i : Invocation} {P : List String ⊕ Handle × Task → Prop}
  {n : Http.Network} {α : Type}

theorem follows_of_task {h : Handle} {task : Task} (hP : Start.Gives (Start.begin s i) P)
    (htask : P (.inr (h, task))) {c : Call α} {write : α → String}
    (hc : Work.outcome (task.perform s h) n
      = Work.outcome (do return write (← Work.ofCall c)) n) :
    Follows c write n ((i.perform s).run n) := by
  obtain ⟨notes, notes', hrun⟩ := run_perform_of_task (n := n) hP htask
  rw [hc, Work.outcome_written] at hrun
  rw [hrun]
  refine ⟨?_, ?_⟩
  · rcases Call.outcome c n with ⟨e | a, m⟩
    · rfl
    · rfl
  · rcases Call.outcome c n with ⟨e | a, m⟩
    · exact ⟨rfl, rfl⟩
    · exact ⟨rfl, rfl⟩

theorem givesUp_of_fault {h : Handle} {task : Task} (hP : Start.Gives (Start.begin s i) P)
    (htask : P (.inr (h, task))) {fault : TaskFault}
    (hc : Work.outcome (task.perform s h) n = (.error fault, n)) :
    GivesUp n ((i.perform s).run n) := by
  obtain ⟨notes, notes', hrun⟩ := run_perform_of_task (n := n) hP htask
  rw [hc] at hrun
  rw [hrun]
  exact ⟨rfl, rfl, rfl⟩

end

-- ============================================================ commands

section

variable {s : Setting} {i : Invocation} {n : Http.Network} {l : Location} {h : Handle}

/-- What a location leads to is asked for by one call. -/
theorem follows_of_get {text : String} (hl : Leads s i text l h) {isDecoded : Bool} :
    let o := (i.perform s).run n
    let palette := Palette.ofReports s.environment
    i.command = .get text isDecoded → match l.key?, isDecoded with
      | some key, true => Follows (h.getObjectAcl s.now key s.later) (objectReport palette) n o
      | some key, false => Follows (h.getObjectAclText s.now key) (· ++ "\n") n o
      | none, true => Follows (h.getBucketAcl s.now) (policyReport palette) n o
      | none, false => Follows (h.getBucketAclText s.now) (· ++ "\n") n o := by
  intro o palette hcommand
  have hP := Start.gives_begin_get (s := s) hcommand
  have htask : ∃ l' h', Leads s i text l' h'
      ∧ (.inr (h, .get l.key? isDecoded) : List String ⊕ Handle × Task)
        = .inr (h', .get l'.key? isDecoded) := ⟨l, h, hl, rfl⟩
  cases hkey : l.key? with
  | none =>
      rw [hkey] at htask
      cases isDecoded with
      | true => exact follows_of_task hP htask rfl
      | false => exact follows_of_task hP htask rfl
  | some key =>
      rw [hkey] at htask
      cases isDecoded with
      | true => exact follows_of_task hP htask rfl
      | false => exact follows_of_task hP htask rfl

/-- What there is to put is put by one call. -/
theorem follows_of_put {p : PutOptions} (hcommand : i.command = .put p)
    (hl : Leads s i p.location l h) {acl : AclBody} (hacl : IsPut s p acl) :
    let o := (i.perform s).run n
    match l.key? with
      | some key => Follows (h.putObjectAcl s.now key acl) (fun _ => "") n o
      | none => Follows (h.putBucketAcl s.now acl) (fun _ => "") n o := by
  obtain ⟨source, hsource, hbody⟩ := isPut_iff.1 hacl
  have hfollows := follows_of_task (n := n) (Start.gives_begin_put hcommand)
    ⟨l, h, source, hl, hsource, rfl⟩ (Task.outcome_put hbody l.key?)
  intro o
  cases hkey : l.key? with
  | none =>
      rw [hkey] at hfollows
      exact hfollows
  | some key =>
      rw [hkey] at hfollows
      exact hfollows

/-- Nothing is sent where there is nowhere to put it, or nothing to put. -/
theorem givesUp_of_put {p : PutOptions} (hcommand : i.command = .put p)
    (hno : ∀ l h acl, Leads s i p.location l h → ¬ IsPut s p acl) :
    GivesUp n ((i.perform s).run n) := by
  have hP := Start.gives_begin_put (s := s) hcommand
  by_cases hleads : ∃ l h source, Leads s i p.location l h ∧ p.source? = some source
  · obtain ⟨l, h, source, hl, hsource⟩ := hleads
    cases hbody : source.body s with
    | ok acl => exact absurd (isPut_iff.2 ⟨source, hsource, hbody⟩) (hno l h acl hl)
    | error fault =>
        exact givesUp_of_fault hP ⟨l, h, source, hl, hsource, rfl⟩
          (Task.outcome_put_of_fault hbody l.key?)
  · exact givesUp_of_not hP fun x ⟨l, h, source, hl, hsource, _⟩ =>
      hleads ⟨l, h, source, hl, hsource⟩

end

/-- A setting with one host, which names a region. -/
def hostedSetting : Setting where
  home := "/root"
  environment := .ofList [("AWS_ACCESS_KEY_ID", Text.Utf8.bytes "AKIAENVIRONMENT")]
  file? path := if path = "/root/.config/s3acl/config.yml" then
      some (Text.Utf8.bytes
        "hosts:\n  s3:\n    region: eu-central-1\n    access_key: AKIAHOST\n    secret_key: hush\n")
    else none
  now := { seconds := 0 }
  later := { seconds := 1 }

/-- The handle that it has for a bucket, for requests that go without a
signature or with one. -/
def hostedHandle (isAnonymous : Bool) : Handle where
  credentials := ⟨"AKIAENVIRONMENT", "hush"⟩
  region := .known "eu-central-1" (by decide)
  bucket := some "photos"
  isAnonymous := isAnonymous

/-- A command line that asks about an object without a signature. -/
def askingArguments : List (List UInt8) :=
  ["get", "--no-sign-request", "-i", "s3/photos/2024/cat.png"].map Text.Utf8.bytes

theorem ofArguments_askingArguments :
    ∃ i, Invocation.ofArguments hostedSetting.isFile hostedSetting.defaultConfig
        (askingArguments.map Argument.ofBytes) = .ok i
      ∧ i = ⟨hostedSetting.defaultConfig, 0, true, .get "s3/photos/2024/cat.png" true⟩ :=
  exists_of_any_toOption (by decide +kernel)

/-- A command line that grants two users something on an object. -/
def grantingArguments : List (List UInt8) :=
  ["put", "-g", "read:id=reader", "s3/photos/2024/cat.png", "--grant=WRITE:id=writer",
    "--owner", "owner"].map Text.Utf8.bytes

/-- The policy that it puts, with the grants as they are given. -/
def grantedPolicy : Policy where
  owner := { id := "owner" }
  grants := [⟨.ofUser "reader" none, .read⟩, ⟨.ofUser "writer" none, .write⟩]

theorem ofArguments_grantingArguments :
    ∃ i, Invocation.ofArguments hostedSetting.isFile hostedSetting.defaultConfig
        (grantingArguments.map Argument.ofBytes) = .ok i
      ∧ i = ⟨hostedSetting.defaultConfig, 0, false,
        .put ⟨"s3/photos/2024/cat.png", none, none, some "owner", grantedPolicy.grants⟩⟩ :=
  exists_of_any_toOption (by decide +kernel)

theorem load_hostedSetting :
    ∃ config, Config.load hostedSetting.defaultConfig
        (hostedSetting.file? hostedSetting.defaultConfig) = .ok config
      ∧ config.hosts.get? "s3" = some ⟨none, some "eu-central-1", "AKIAHOST", "hush"⟩ :=
  exists_of_any_toOption (by decide +kernel)

/-- A location leads to the bucket with the one key of the environment
and the other one of the host. -/
theorem leads_hostedSetting {i : Invocation} (hi : i.config = hostedSetting.defaultConfig) :
    Leads hostedSetting i "s3/photos/2024/cat.png" ⟨"s3", "photos", some "2024/cat.png"⟩
      (hostedHandle i.isAnonymous) := by
  obtain ⟨config, hconfig, hhost⟩ := load_hostedSetting
  have hkeys : hostedSetting.environment.get? "AWS_ACCESS_KEY_ID" = some "AKIAENVIRONMENT"
      ∧ hostedSetting.environment.get? "AWS_SECRET_ACCESS_KEY" = none := by decide +kernel
  refine ⟨config, _, .known "eu-central-1" (by decide), hi ▸ hconfig, rfl, hhost, rfl, by decide,
    ?_⟩
  rw [hkeys.1, hkeys.2]
  rfl

end BucketAcl.CommandLine
