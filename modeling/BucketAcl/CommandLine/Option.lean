/-
The options and the commands: how they are written, and which options a
command has. What a command line may do wrong is here too.
-/
import BucketAcl.Acl.Canned

namespace BucketAcl.CommandLine

-- ============================================================ options

/-- The options. -/
inductive Opt where
  | config
  | verbose
  | anonymous
  | version
  | help
  | info
  | acl
  | file
  | owner
  | grant
  deriving DecidableEq

namespace Opt

/-- The name, behind two dashes. -/
def name : Opt → String
  | config => "config"
  | verbose => "verbose"
  | anonymous => "no-sign-request"
  | version => "version"
  | help => "help"
  | info => "info"
  | acl => "acl"
  | file => "file"
  | owner => "owner"
  | grant => "grant"

/-- The letter, behind one dash. -/
def letter? : Opt → Option Char
  | config => some 'c'
  | verbose => some 'v'
  | anonymous => none
  | version => some 'V'
  | help => some 'h'
  | info => some 'i'
  | acl => some 'a'
  | file => some 'f'
  | owner => some 'o'
  | grant => some 'g'

/-- What the value of an option is called; a flag has none. -/
def valueName? : Opt → Option String
  | config => some "config.yml"
  | acl => some "acl"
  | file => some "policy.xml"
  | owner => some "owner"
  | grant => some "grant"
  | _ => none

/-- Whether a value follows. -/
def takesValue (o : Opt) : Bool := o.valueName?.isSome

/-- The option as messages show it. -/
def text (o : Opt) : String :=
  "--" ++ o.name ++ (o.valueName?.map fun v => " <" ++ v ++ ">").getD ""

end Opt

-- =========================================================== commands

/-- The words that stand for a command. -/
inductive Verb where
  | get
  | put
  | show
  | help
  deriving DecidableEq

namespace Verb

/-- Every command. -/
def all : List Verb := [get, put, «show», help]

/-- The word. -/
def name : Verb → String
  | get => "get"
  | put => "put"
  | «show» => "show"
  | help => "help"

/-- The command of a word. -/
def ofName? (s : String) : Option Verb := all.find? fun v => v.name == s

end Verb

/-- A stretch of a command line: the options that may stand there, the
commands that may follow, and whether a location may stand there. -/
structure Level where
  options : List Opt
  verbs : List Verb := []
  hasLocation : Bool := false

/-- The options that may stand anywhere. -/
def commonOptions : List Opt := [.config, .verbose, .anonymous, .help]

/-- What stands in front of a command. -/
def Level.top : Level where
  options := .version :: commonOptions
  verbs := Verb.all

/-- What stands behind a command. -/
def Verb.level : Verb → Level
  | get => { options := .info :: commonOptions, hasLocation := true }
  | put => { options := [.acl, .file, .owner, .grant] ++ commonOptions, hasLocation := true }
  | «show» => { options := commonOptions }
  | help => { options := [] }

-- ============================================================= faults

/-- What is wrong with a command line. -/
inductive UsageFault where
  | invalidValue (o : Opt) (value : String) (reason : Option String)
  | missingValue (o : Opt)
  | unexpectedValue (o : Opt)
  | repeated (o : Opt)
  | notText
  | unexpected (argument : String)
  | missingCommand
  | missingLocation
  | missingSource
  | severalSources
  | missingOwner
  | missingGrant
  deriving DecidableEq

/-- Why no command is carried out: it was asked for the version or for
help, or the command line is wrong. -/
inductive Stop where
  | version
  | help
  | usage (fault : UsageFault)
  deriving DecidableEq

end BucketAcl.CommandLine
