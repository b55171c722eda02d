/-
A run of the program. First the command line is read, then the
configuration, and only then the command itself is looked at: its
location, the host it is on, and the bucket. What is left is a task for
a handle, which is the only part that sends anything.
-/
import BucketAcl.Call
import BucketAcl.CommandLine.Invocation
import BucketAcl.CommandLine.Journal
import BucketAcl.CommandLine.Location
import BucketAcl.CommandLine.Notice
import BucketAcl.CommandLine.Report
import BucketAcl.CommandLine.Shown
import BucketAcl.Config

namespace BucketAcl.CommandLine

/-- What a run depends on: the home directory, the environment, the
bytes of each file that is there, and the time; and, as the clock is read
for each request, the time at which a second one is made. -/
structure Setting where
  home : String
  environment : Environment
  file? : String → Option (List UInt8)
  now : Time.Instant
  later : Time.Instant := now

namespace Setting

/-- The directory of the configuration. -/
def configDirectory (s : Setting) : String := s.home ++ "/.config/s3acl"

/-- The configuration file that is meant where none is named. -/
def defaultConfig (s : Setting) : String := s.configDirectory ++ "/config.yml"

/-- Whether a path is that of a file. -/
def isFile (s : Setting) (path : String) : Bool := (s.file? path).isSome

end Setting

/-- What is left of a run: how it ended, and what it wrote. -/
structure Outcome where
  exitCode : Nat
  output : String := ""
  errors : String := ""
  deriving DecidableEq

-- ============================================================== tasks

/-- What is to be done with a handle, for an object or else for the
bucket. -/
inductive Task where
  | get (key : Option String) (isDecoded : Bool)
  | put (key : Option String) (source : Source)
  deriving DecidableEq

/-- Why a task failed. -/
inductive TaskFault where
  | call (fault : CallFault)
  | unreadable (path : String)

/-- The wording of the fault. -/
def TaskFault.message : TaskFault → String
  | call fault => fault.message
  | unreadable path => "unable to read: " ++ path

/-- A task that is carried out over a network. -/
abbrev Work (α : Type) : Type := ExceptT TaskFault (StateM Http.Network) α

/-- A call as a part of a task. -/
def Work.ofCall {α : Type} (c : Call α) : Work α := ExceptT.mk do
  match ← c.run with
  | .ok a => return .ok a
  | .error fault => return .error (.call fault)

/-- The body that a source makes. -/
def Source.body (s : Setting) : Source → Except TaskFault AclBody
  | .canned acl => .ok (.canned acl)
  | .file path =>
    match (s.file? path).bind Text.Utf8.strict? with
    | some xml => .ok (.xml xml)
    | none => .error (.unreadable path)
  | .grants owner given => .ok (.ofPolicy ⟨⟨owner, none⟩, given⟩)

namespace Task

/-- Carries a task out and gives what is to be written. -/
def perform (s : Setting) (h : Handle) : Task → Work String
  | get (some key) true => do
    return objectReport (.ofReports s.environment) (← .ofCall (h.getObjectAcl s.now key s.later))
  | get (some key) false => do return (← .ofCall (h.getObjectAclText s.now key)) ++ "\n"
  | get none true => do
    return policyReport (.ofReports s.environment) (← .ofCall (h.getBucketAcl s.now))
  | get none false => do return (← .ofCall (h.getBucketAclText s.now)) ++ "\n"
  | put key source => do
    let acl ← (liftM (source.body s) : Work AclBody)
    match key with
    | some key => .ofCall (h.putObjectAcl s.now key acl)
    | none => .ofCall (h.putBucketAcl s.now acl)
    return ""

/-- What is noted once a task is done. -/
def notes : Task → List Note
  | get _ _ => []
  | put key _ => [⟨.info, "actions::acl", "ACL updated: " ++ key.getD "<bucket>"⟩]

end Task

namespace Shown

/-- A source. -/
def ofSource : Source → Shown
  | .canned acl => tuple "Canned" (ofCanned acl)
  | .file path => tuple "File" (Shown.path path)
  | .grants owner grants =>
    record "Grants" [("owner", text owner), ("grants", list (grants.map ofGrant))]

/-- A task. -/
def ofTask : Task → Shown
  | .get key isDecoded =>
    record "GetAcl"
      [("key", optionalText key), ("info", word (if isDecoded then "true" else "false"))]
  | .put key source =>
    record "PutAcl" [("key", optionalText key), ("policy", ofSource source)]

end Shown

-- ========================================================== beginning

/-- Why a command is not begun. -/
inductive StartFault where
  | config (fault : ConfigFault)
  | location (fault : LocationFault)
  | unknownHost (name config : String)
  | host (fault : HostFault)
  | locationMissing
  | ownerMissing
  deriving DecidableEq

/-- The wording of the fault. -/
def StartFault.message (p : Palette) : StartFault → String
  | config fault => fault.message
  | location fault => fault.message
  | unknownHost name path =>
    "Could not find host: \"" ++ p.paint .red name ++ "\". Check config file " ++ path
      ++ ", For more information try " ++ p.paint .green "--help"
  | host fault => fault.message
  | locationMissing => "arguments missing"
  | ownerMissing => "--owner is required with --grant"

/-- Steps before a task, which may fail and leave notes. -/
abbrev Start (α : Type) : Type := ExceptT StartFault (StateM (List Note)) α

namespace Start

/-- Leaves a note. -/
def note (weight : Weight) (source text : String) : Start Unit :=
  modify (· ++ [⟨weight, source, text⟩])

/-- A result whose fault is told in the words of the start. -/
def ofExcept {ε α : Type} (f : ε → StartFault) : Except ε α → Start α
  | .ok a => pure a
  | .error e => throw (f e)

/-- Reads the configuration. -/
def readConfig (s : Setting) (i : Invocation) : Start Config := do
  note .info "start" ("config path: " ++ s.configDirectory)
  let config ← ofExcept .config (Config.load i.config (s.file? i.config))
  note .debug "start" ("config hosts: " ++ Shown.list (config.hosts.names.map Shown.text) none)
  return config

/-- Reads a location. -/
def readLocation (verb : Verb) (text : String) : Start Location := do
  note .debug "matches" ("subcommand: " ++ verb.name)
  let location ← ofExcept .location (Location.parse text)
  note .info "start" ("hbp: " ++ Shown.list (location.parts.map Shown.text) none)
  return location

/-- The handle for a location: its host has to be in the configuration
and to have a region, and its bucket has to have a name. -/
def handle (s : Setting) (i : Invocation) (config : Config) (l : Location) : Start Handle := do
  let host ← ofExcept (fun _ => .unknownHost l.host i.config) (config.findHost l.host)
  let region ← ofExcept .host host.findRegion
  let bucket ← ofExcept .location l.requireBucket
  let handle : Handle :=
    ⟨host.credentials s.environment, region, some bucket, i.isAnonymous⟩
  note .debug "start" ("S3:\n" ++ handle.text)
  return handle

/-- The source of what is put. -/
def source (p : PutOptions) : Start Source := do
  match p.source? with
  | some source =>
    note .info "dispatch" ("put ACL from: " ++ Shown.ofSource source none)
    return source
  | none => throw .ownerMissing

/-- The task of a command, and the handle for it; or the hosts, where
they are to be shown. -/
def begin (s : Setting) (i : Invocation) : Start (List String ⊕ Handle × Task) := do
  let config ← readConfig s i
  match i.command with
  | .show => return .inl config.hosts.names
  | .get text isDecoded =>
    let location ← readLocation .get text
    let handle ← handle s i config location
    return .inr (handle, ← done (.get location.key? isDecoded))
  | .put options =>
    let location ← readLocation .put options.location
    let handle ← handle s i config location
    return .inr (handle, ← done (.put location.key? (← source options)))
where
  done (task : Task) : Start Task := do
    note .debug "start" ("action: " ++ Shown.ofTask task (some 0))
    return task

end Start

-- ================================================================ runs

/-- The names of the hosts, one on a line. -/
def hostList (names : List String) : String :=
  "Hosts:\n" ++ String.join (names.map fun name => "   - " ++ name ++ "\n")

/-- A short account of the program. -/
def helpLines : List String :=
  ["Read and write S3 bucket and object ACLs",
    "",
    "Usage: s3acl [OPTIONS] <COMMAND>",
    "",
    "Commands:",
    "  get [-i] <LOCATION>",
    "  put <LOCATION> --acl <acl> | --file <policy.xml> | --owner <owner> --grant <grant>...",
    "  show",
    "",
    "Options:",
    "  -c, --config <config.yml>",
    "  -v, --verbose",
    "      --no-sign-request",
    "  -h, --help",
    "  -V, --version"]

/-- The outcome where there is nothing to carry out. -/
def Stop.outcome (env : Environment) : Stop → Outcome
  | version => { exitCode := 0, output := "s3acl 0.1.0\n" }
  | help => { exitCode := 0, output := String.join (helpLines.map (· ++ "\n")) }
  | usage fault => { exitCode := 2, errors := (Palette.ofNotices env).notice fault.notice }

/-- The outcome of a command that failed, with the notes before it. -/
def failed (env : Environment) (notes message : String) : Outcome where
  exitCode := 1
  errors := notes ++ (Palette.ofReports env).paint .red "Error:" ++ " " ++ message ++ "\n"

/-- Carries an invocation out. -/
def Invocation.perform (s : Setting) (i : Invocation) : StateM Http.Network Outcome := do
  let env := s.environment
  let shown := journal (.ofNotices env) s.now i.verbosity
  let (begun, notes) := ((Start.begin s i).run).run []
  match begun with
  | .error fault => return failed env (shown notes) (fault.message (.ofReports env))
  | .ok (.inl names) =>
    return { exitCode := 0, output := hostList names, errors := shown notes }
  | .ok (.inr (handle, task)) =>
    match ← (task.perform s handle).run with
    | .error fault => return failed env (shown notes) fault.message
    | .ok output =>
      return { exitCode := 0, output, errors := shown (notes ++ task.notes) }

/-- A run with some arguments. -/
def run (s : Setting) (args : List (List UInt8)) : StateM Http.Network Outcome :=
  match Invocation.ofArguments s.isFile s.defaultConfig (args.map Argument.ofBytes) with
  | .ok i => i.perform s
  | .error stop => return stop.outcome s.environment

end BucketAcl.CommandLine
