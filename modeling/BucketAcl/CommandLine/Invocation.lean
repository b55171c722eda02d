/-
Invocations: what a command line asks for. Arguments are read from left
to right. The value of an option is judged when the next option or
location follows, or at once if it is attached; until then an option
that is not known is the graver fault. What stands behind a command is
judged as a whole before what stands in front of it.
-/
import BucketAcl.CommandLine.Option
import BucketAcl.Text.Utf8

namespace BucketAcl.CommandLine

/-- An argument: its characters, and nothing for bytes that are none. -/
abbrev Argument : Type := List (Option Char)

namespace Argument

/-- The argument of some bytes. -/
def ofBytes (bytes : List UInt8) : Argument := Text.Utf8.decode bytes

/-- The argument of a text. -/
def ofText (s : String) : Argument := s.toList.map some

/-- The text of an argument, if it is one. -/
def text? (a : Argument) : Option String := (a.mapM id).map String.ofList

/-- The argument as messages show it. -/
def shown (a : Argument) : String := .ofList (a.map (·.getD '\ufffd'))

/-- The text of an argument that has to be one. -/
def text (a : Argument) : Except Stop String :=
  match a.text? with
  | some s => .ok s
  | none => .error (.usage .notText)

end Argument

-- ============================================================= values

/-- What was given at one level of a command line. -/
structure Given where
  config : Option String := none
  verbosity : Nat := 0
  isAnonymous : Bool := false
  hasInfo : Bool := false
  location : Option String := none
  acl : Option CannedAcl := none
  file : Option String := none
  owner : Option String := none
  grants : List Grant := []

/-- The path of a file, which has to be there. -/
def readPath (isFile : String → Bool) (o : Opt) (s : String) : Except Stop String :=
  if isFile s then .ok s
  else .error (.usage (.invalidValue o s
    (some ("Invalid file path or file does not exist: '" ++ s ++ "'"))))

/-- The canned list of a label. -/
def readCanned (s : String) : Except Stop CannedAcl :=
  match CannedAcl.ofLabel? s with
  | some a => .ok a
  | none =>
    if s = "" then .error (.usage (.missingValue .acl))
    else .error (.usage (.invalidValue .acl s none))

/-- The grant of its one-line form. -/
def readGrant (s : String) : Except Stop Grant :=
  match Grant.parse s with
  | .ok g => .ok g
  | .error fault => .error (.usage (.invalidValue .grant s (some fault.message)))

namespace Given

/-- A value that may be given once only. -/
def once {α : Type} (former : Option α) (o : Opt) (read : Except Stop α) :
    Except Stop (Option α) := do
  if former.isSome then .error (.usage (.repeated o)) else return some (← read)

/-- Takes the value of an option. -/
def accept (isFile : String → Bool) (g : Given) (o : Opt) (a : Argument) :
    Except Stop Given := do
  let path := do readPath isFile o (← a.text)
  match o with
  | .config => return { g with config := ← once g.config o path }
  | .acl => return { g with acl := ← once g.acl o (do readCanned (← a.text)) }
  | .file => return { g with file := ← once g.file o path }
  | .owner => return { g with owner := ← once g.owner o a.text }
  | .grant => return { g with grants := g.grants ++ [← readGrant (← a.text)] }
  | _ => .error (.usage (.unexpectedValue o))

/-- Takes a flag. -/
def raise (g : Given) (o : Opt) : Except Stop Given :=
  match o with
  | .verbose => .ok { g with verbosity := g.verbosity + 1 }
  | .anonymous =>
    if g.isAnonymous then .error (.usage (.repeated o)) else .ok { g with isAnonymous := true }
  | .info => if g.hasInfo then .error (.usage (.repeated o)) else .ok { g with hasInfo := true }
  | .version => .error .version
  | .help => .error .help
  | _ => .error (.usage (.missingValue o))

end Given

-- ============================================================ reading

/-- What was read last and is not judged yet: an option, with its value
once that is read, or a location. -/
inductive Pending where
  | option (o : Opt) (value : Option Argument)
  | location (value : Argument)

/-- A command line that is read in part. -/
structure Reading where
  given : Given := {}
  pending : Option Pending := none

namespace Reading

/-- Whether the value of an option comes next. -/
def awaited? (r : Reading) : Option Opt :=
  match r.pending with
  | some (.option o none) => some o
  | _ => none

/-- Whether a location was read. -/
def hasLocation (r : Reading) : Bool :=
  r.given.location.isSome
    || match r.pending with
      | some (.location _) => true
      | _ => false

/-- Judges what was read last. -/
def settle (isFile : String → Bool) (r : Reading) : Except Stop Given :=
  match r.pending with
  | none => .ok r.given
  | some (.option o none) => .error (.usage (.missingValue o))
  | some (.option o (some a)) => r.given.accept isFile o a
  | some (.location a) => do return { r.given with location := some (← a.text) }

variable (isFile : String → Bool) (level : Level)

/-- Takes an option whose value may be attached to it. -/
def takeOption (r : Reading) (o : Opt) (attached : Option Argument) : Except Stop Reading := do
  let given ← r.settle isFile
  match attached with
  | some a => return { given := ← given.accept isFile o a }
  | none => return { given, pending := some (.option o none) }

/-- Takes an option by its name, with what follows an equals sign. -/
def takeNamed (r : Reading) (name : Argument) (attached : Option Argument) :
    Except Stop Reading := do
  match level.options.find? fun o => name.text? == some o.name with
  | none => .error (.usage (.unexpected ("--" ++ name.shown)))
  | some o =>
    if o.takesValue then r.takeOption isFile o attached
    else if attached.isSome then .error (.usage (.unexpectedValue o))
    else return { given := ← (← r.settle isFile).raise o }

/-- Takes options by their letters. What follows the letter of an option
with a value is that value, less an equals sign. -/
def takeLetters (r : Reading) : Argument → Except Stop Reading
  | [] => .ok r
  | c :: rest =>
    match c.bind fun c => level.options.find? fun o => o.letter? == some c with
    | none => .error (.usage (.unexpected ("-" ++ Argument.shown [c])))
    | some o =>
      if o.takesValue then
        match rest with
        | [] => r.takeOption isFile o none
        | some '=' :: value => r.takeOption isFile o (some value)
        | value => r.takeOption isFile o (some value)
      else do
        let given ← (← r.settle isFile).raise o
        takeLetters { given } rest

/-- Takes an argument that is no option. -/
def takePlain (r : Reading) (a : Argument) : Except Stop Reading := do
  if level.hasLocation && !r.hasLocation then
    return { given := ← r.settle isFile, pending := some (.location a) }
  else .error (.usage (.unexpected a.shown))

/-- Takes an argument that begins with dashes, if it does so as an
option. -/
def takeDashed? (r : Reading) (a : Argument) : Option (Except Stop Reading) :=
  match a with
  | some '-' :: some '-' :: rest =>
    let name := rest.takeWhile (· ≠ some '=')
    let attached :=
      match rest.drop name.length with
      | _ :: value => some value
      | [] => none
    some (r.takeNamed isFile level name attached)
  | some '-' :: c :: rest => some (r.takeLetters isFile level (c :: rest))
  | _ => none

/-- Reads one level up to its end, or up to a command, which comes with
the arguments behind it. After two dashes alone, no argument is an
option or a command. -/
def run (r : Reading) (isPlain : Bool) :
    List Argument → Except Stop (Reading × Option (Verb × List Argument))
  | [] => .ok (r, none)
  | a :: rest =>
    if isPlain then do (← r.takePlain isFile level a).run true rest
    else
      let verb? :=
        if r.awaited?.isSome then none
        else level.verbs.find? fun v => a.text? == some v.name
      match verb? with
      | some verb => .ok (r, some (verb, rest))
      | none =>
        if a = [some '-', some '-'] then r.run true rest
        else
          match r.takeDashed? isFile level a, r.awaited? with
          | some next, _ => do (← next).run false rest
          | none, some o => { r with pending := some (.option o (some a)) }.run false rest
          | none, none => do (← r.takePlain isFile level a).run false rest

end Reading

-- ======================================================== invocations

/-- What `put` was given. -/
structure PutOptions where
  location : String
  acl : Option CannedAcl
  file : Option String
  owner : Option String
  grants : List Grant
  deriving DecidableEq

/-- Where the access control to put comes from. -/
inductive Source where
  | canned (acl : CannedAcl)
  | file (path : String)
  | grants (owner : String) (grants : List Grant)
  deriving DecidableEq

namespace PutOptions

/-- How many of the sources were given. -/
def sourceCount (p : PutOptions) : Nat :=
  p.acl.isSome.toNat + p.file.isSome.toNat + (!p.grants.isEmpty).toNat

/-- Accepts what was given if it has one source, and an owner for
grants. An owner alone wants grants, but not beside another source. -/
def check (p : PutOptions) : Except Stop PutOptions :=
  if 1 < p.sourceCount then .error (.usage .severalSources)
  else if p.sourceCount = 0 then
    .error (.usage (if p.owner.isSome then .missingGrant else .missingSource))
  else if p.grants ≠ [] ∧ p.owner = none then .error (.usage .missingOwner)
  else .ok p

/-- The source: a label, else a file, else an owner and grants. -/
def source? (p : PutOptions) : Option Source :=
  match p.acl, p.file, p.owner with
  | some acl, _, _ => some (.canned acl)
  | none, some path, _ => some (.file path)
  | none, none, some owner => some (.grants owner p.grants)
  | none, none, none => none

end PutOptions

/-- A command with what it needs. -/
inductive Command where
  | get (location : String) (isDecoded : Bool)
  | put (options : PutOptions)
  | show
  deriving DecidableEq

/-- What a command line asks for. -/
structure Invocation where
  config : String
  verbosity : Nat
  isAnonymous : Bool
  command : Command
  deriving DecidableEq

namespace Invocation

/-- The location that was given. -/
def location (g : Given) : Except Stop String :=
  match g.location with
  | some l => .ok l
  | none => .error (.usage .missingLocation)

/-- The command of a word, from what was given behind it. -/
def commandOf (verb : Verb) (g : Given) : Except Stop Command := do
  match verb with
  | .get => return .get (← location g) g.hasInfo
  | .put =>
    let options : PutOptions := ⟨← location g, g.acl, g.file, g.owner, g.grants⟩
    return .put (← options.check)
  | .show => return .show
  | .help => .error .help

/-- Judges one level as a whole. Where it does not name a configuration
file, the one that is meant otherwise has to be there. -/
def close (isFile : String → Bool) (defaultConfig : String) (r : Reading) :
    Except Stop Given := do
  let given ← r.settle isFile
  if given.config = none then
    let _ ← readPath isFile .config defaultConfig
  return given

/-- What follows the command for help: another command, or nothing. -/
def helpOn : List Argument → Except Stop (Given × Command)
  | [] => .error .help
  | a :: rest =>
    match a.text?.bind Verb.ofName? with
    | none => .error (.usage (.unexpected a.shown))
    | some _ =>
      match rest with
      | [] => .error .help
      | b :: _ => .error (.usage (.unexpected b.shown))

/-- The command and what stands behind it. -/
def readCommand (isFile : String → Bool) (defaultConfig : String) (verb : Verb)
    (args : List Argument) : Except Stop (Given × Command) := do
  if verb = .help then helpOn args
  else
    let (r, _) ← Reading.run isFile verb.level {} false args
    let given ← close isFile defaultConfig r
    return (given, ← commandOf verb given)

/-- The invocation of some arguments. What stands behind the command
wins over what stands in front of it. -/
def ofArguments (isFile : String → Bool) (defaultConfig : String) (args : List Argument) :
    Except Stop Invocation := do
  let (r, verb?) ← Reading.run isFile .top {} false args
  let behind ← verb?.mapM fun (verb, rest) => readCommand isFile defaultConfig verb rest
  let front ← close isFile defaultConfig r
  match behind with
  | none => .error (.usage .missingCommand)
  | some (given, command) =>
    return {
      config := (given.config <|> front.config).getD defaultConfig
      verbosity := if given.verbosity = 0 then front.verbosity else given.verbosity
      isAnonymous := given.isAnonymous || front.isAnonymous
      command }

end Invocation

end BucketAcl.CommandLine
