/-
Reading a URL. The text is cut into its parts from left to right (the
scheme, then user, host and port where there is an authority, the path,
the query, the fragment), and each part is brought to its encoded form.
-/
import BucketAcl.Url.Basic
import BucketAcl.Url.File

namespace BucketAcl.Url

open Text

-- ============================================================= scheme

/-- Characters of a scheme after its first letter. -/
def isSchemeChar (c : Char) : Bool := c.isAlphanum || c == '+' || c == '-' || c == '.'

/-- The lower-case scheme and the rest after its colon. -/
def cutScheme? (cs : List Char) : Option (String × List Char) := do
  let (scheme, rest) ← cutAt ':' cs
  let scheme := Segments.kept scheme
  let first ← scheme.head?
  guard (first.isAlpha ∧ scheme.all isSchemeChar)
  return (.ofList (scheme.map Char.toLower), rest)

-- ========================================================== authority

/-- A slash, or a backslash where the scheme is special. -/
def isSlash (special : Bool) (c : Char) : Bool := c == '/' || (special && c == '\\')

/-- The characters that end an authority. -/
def endsAuthority (special : Bool) (c : Char) : Bool :=
  isSlash special c || c == '?' || c == '#'

/-- The user part of an authority in its encoded form. An empty
password loses its colon, and an empty user part its `@`. -/
def userInfoText (cs : List Char) : String :=
  let enc (part : List Char) : List Char := Percent.encode Percent.keepInUserInfo part
  let written :=
    match cutAt ':' cs with
    | some (user, []) => enc user
    | some (user, password) => enc user ++ ':' :: enc password
    | none => enc cs
  if written = [] then "" else .ofList (written ++ ['@'])

/-- The length of the host at the head of an authority: up to a colon
that is not between brackets. -/
def hostLength : Bool → List Char → Nat
  | _, [] => 0
  | inBrackets, c :: r =>
    if c = ':' ∧ !inBrackets then 0
    else if c = '[' then hostLength true r + 1
    else if c = ']' then hostLength false r + 1
    else hostLength inBrackets r + 1

/-- The port after a host: digits only, at most 65535; none if there are
no digits or the scheme implies it. -/
def parsePort (scheme : String) (cs : List Char) : Except Fault (Option Nat) :=
  match Address.digits? 10 cs with
  | none => .error .invalidPort
  | some n =>
    if 65535 < n then .error .invalidPort
    else if cs = [] ∨ defaultPort? scheme = some n then .ok none
    else .ok (some n)

/-- Host and port of the part of an authority after the user, and what
is left of that part: a port ends before a backslash. -/
def parseHostPort (scheme userInfo : String) (cs : List Char) :
    Except Fault (Authority × List Char) := do
  let n := hostLength false cs
  let hostPart := cs.take n
  let special := isSpecial scheme
  if special ∧ hostPart = [] then .error .emptyHost
  let host ← if special then Host.parse hostPart else Host.parseElsewhere hostPart
  if host = .name "" ∧ (cs.drop n ≠ [] ∨ userInfo ≠ "") then .error .emptyHost
  let afterColon := (cs.drop n).drop 1
  let port ← parsePort scheme (afterColon.takeWhile (· != '\\'))
  return (⟨userInfo, host, port⟩, afterColon.dropWhile (· != '\\'))

/-- The authority at the head of a text, and the rest. A user part that
is empty may not be followed by the end of the authority. -/
def parseAuthority (scheme : String) (cs : List Char) :
    Except Fault (Authority × List Char) := do
  let isEnd := endsAuthority (isSpecial scheme)
  let part := cs.takeWhile fun c => !isEnd c
  let rest := cs.dropWhile fun c => !isEnd c
  let (userInfo, hostPort) ←
    match cutAtLast '@' part with
    | some ([], []) => if rest = [] then .ok ("", []) else .error .emptyHost
    | some (user, hostPort) => .ok (userInfoText user, hostPort)
    | none => .ok ("", part)
  let (authority, unread) ← parseHostPort scheme userInfo hostPort
  return (authority, unread ++ rest)

-- ====================================================== path and after

/-- The segments of the text after the first slash of a path. -/
def readSegments (special : Bool) (cs : List Char) : List String :=
  Segments.read [] (Segments.pieces special cs)

/-- The characters that end a path. -/
def endsPath (c : Char) : Bool := c == '?' || c == '#'

/-- Query and fragment of what follows a path. -/
def readAfterPath (special : Bool) (cs : List Char) : Option String × Option String :=
  let fragmentOf (r : List Char) : String := .ofList (Percent.encode Percent.keepInFragment r)
  let queryOf (r : List Char) : String := .ofList (Percent.encode (Percent.keepInQuery special) r)
  match cs with
  | '?' :: r =>
    match cutAt '#' r with
    | some (query, fragment) => (some (queryOf query), some (fragmentOf fragment))
    | none => (some (queryOf r), none)
  | '#' :: r => (none, some (fragmentOf r))
  | _ => (none, none)

/-- The URL of a path, read by `path`, and what follows it. -/
def withPath (scheme : String) (authority : Option Authority) (path : List Char → Path)
    (cs : List Char) : Url :=
  let (query, fragment) := readAfterPath (isSpecial scheme) (cs.dropWhile fun c => !endsPath c)
  { scheme, authority, path := path (cs.takeWhile fun c => !endsPath c), query, fragment }

/-- The path after an authority: its first slash is left out, and a
special scheme has one even where the text has none. -/
def readPath (special : Bool) (cs : List Char) : Path :=
  match cs with
  | c :: r =>
    .segments (readSegments special (if isSlash special c then r else cs))
  | [] => .segments (if special then [""] else [])

-- ============================================================== files

/-- The URL of a file, and its host if it has one that is not this
computer. Without one, the text `cs` is all of the path. -/
def withFilePath (host : Option Host) (cs : List Char) : Url :=
  let path := FilePath.parse (cs.takeWhile fun c => !endsPath c)
  let host := if path.isOnDrive then .name "" else host.getD (.name "")
  let rest := Segments.kept (cs.dropWhile fun c => !endsPath c)
  withPath "file" (some ⟨"", host, none⟩) (fun _ => path.path) rest

/-- The text after a slash, which a backslash may stand for, at its
head. -/
def afterSlash? (cs : List Char) : Option (List Char) :=
  match cs.dropWhile Segments.isDropped with
  | c :: r => if isSlash true c then some r else none
  | [] => none

/-- A file URL, after its scheme. After two slashes there is a host,
which is none where the path begins with a drive there, and where it is
empty or `localhost`; the slash after no host makes an empty segment. -/
def parseFile (cs : List Char) : Except Fault Url := do
  match afterSlash? cs with
  | none => return withFilePath none cs
  | some path =>
    match afterSlash? path with
    | none => return withFilePath none path
    | some r =>
      let hostPart := Segments.kept (r.takeWhile fun c => !endsAuthority true c)
      let rest := r.dropWhile fun c => !endsAuthority true c
      if Segments.isDrive hostPart then return withFilePath none r
      if hostPart = [] then return withFilePath none rest
      let host ← Host.parse hostPart
      if host = .name "localhost" then return withFilePath none rest
      return withFilePath host ((afterSlash? rest).getD rest)

-- ================================================================ url

/-- Characters dropped from the ends of a text that is to be a URL. -/
def isMargin (c : Char) : Bool := c ≤ ' '

/-- The URL of a text. -/
def parse (s : String) : Except Fault Url := do
  match cutScheme? (trimWhile isMargin s.toList) with
  | none => .error .noScheme
  | some (scheme, text) =>
    let rest := Segments.kept text
    if scheme = "file" then parseFile text
    else if isSpecial scheme then
      let (authority, rest) ← parseAuthority scheme (rest.dropWhile (isSlash true))
      return withPath scheme (some authority) (readPath true) rest
    else
      match rest with
      | '/' :: '/' :: r =>
        let (authority, rest) ← parseAuthority scheme r
        return withPath scheme (some authority) (readPath false) rest
      | '/' :: _ => return withPath scheme none (readPath false) rest
      | _ =>
        let rootless (cs : List Char) : Path :=
          .rootless (.ofList (Percent.encode Percent.keepInRootless cs))
        return withPath scheme none rootless rest

end BucketAcl.Url
