/-
The tree of a configuration text: scalars, sequences, mappings, and
aliases that stand for a node elsewhere in the text. The grammar is read
by descent over the tokens; `steps` bounds the depth of the descent, and
as four steps down take at least one token, a bound of four times their
number is never reached.
-/
import BucketAcl.Yaml.Token

namespace BucketAcl.Yaml

/-- A scalar: its text, its tag if it has one, and whether it was plain. -/
structure Scalar where
  text : String
  tag : Option String
  isPlain : Bool
  deriving DecidableEq

/-- Nothing at all, where a scalar is wanted. -/
def Scalar.nothing : Scalar := ⟨"", none, true⟩

/-- A scalar that is written out. The mark of a tag alone is no tag. -/
def Scalar.written (text : String) (tag : Option String) (isPlain : Bool) : Scalar :=
  ⟨text, tag.filter (· != "!"), isPlain⟩

/-- A node of the tree. An alias has the number of an anchor. -/
inductive Node where
  | scalar (s : Scalar)
  | sequence (items : List Node)
  | mapping (pairs : List (Node × Node))
  | alias (number : Nat)

/-- The node that is not there. -/
def Node.nothing : Node := .scalar .nothing

mutual

/-- The size of a node: one for what has nothing inside, and two more
than what is inside for the others. -/
def Node.size : Node → Nat
  | .scalar _ | .alias _ => 1
  | .sequence items => 2 + sizeOfItems items
  | .mapping pairs => 2 + sizeOfPairs pairs

/-- The size of items together. -/
def Node.sizeOfItems : List Node → Nat
  | [] => 0
  | n :: r => n.size + sizeOfItems r

/-- The size of pairs together. -/
def Node.sizeOfPairs : List (Node × Node) → Nat
  | [] => 0
  | (key, value) :: r => key.size + value.size + sizeOfPairs r

end

/-- A node with an anchor: the anchor's number, how many anchors were
before it, and the node. -/
structure Anchored where
  number : Nat
  rank : Nat
  node : Node

/-- A text with one document. -/
structure Document where
  root : Node
  anchored : List Anchored

/-- What an alias stands for: of the nodes with its number the last. -/
def Document.resolve (d : Document) : Node → Node
  | .alias number =>
    let found := d.anchored.filter (·.number == number)
    (found.foldl (fun last a =>
      match last with
      | some b => if b.rank < a.rank then some a else last
      | none => some a) none).elim .nothing Anchored.node
  | n => n

-- ========================================================== the reader

/-- What the grammar reads from: the tokens left, the beginnings that
tag handles have, and the anchors so far. An anchor has as its number
how many names were in use before it; the number of a name that is used
again can thus come up once more. -/
structure Feed where
  tokens : List Token
  handles : List (String × String) := knownHandles
  numbers : List (String × Nat) := []
  count : Nat := 0
  anchored : List Anchored := []

/-- A reader of tokens, which may refuse. -/
abbrev Grammar : Type → Type := StateT Feed Option

namespace Grammar

/-- The next token. -/
def peek : Grammar (Option Token) := do return (← get).tokens.head?

/-- Passes over the next token. -/
def skip : Grammar Unit := modify fun f => { f with tokens := f.tokens.tail }

/-- Whether the next token is one of these. -/
def isAt (ts : List Token) : Grammar Bool := do return (← peek).any ts.contains

/-- Passes over a token if it is the next. -/
def accept (t : Token) : Grammar Bool := do
  let isNext ← isAt [t]
  if isNext then skip
  return isNext

/-- Passes over a token that has to be the next. -/
def expect (t : Token) : Grammar Unit := do
  if !(← accept t) then failure

/-- The anchor's name at the head, if there is one. -/
def anchor? : Grammar (Option String) := do
  match ← peek with
  | some (.anchor name) => skip; return some name
  | _ => return none

/-- The whole tag at the head, if there is one. -/
def tag? : Grammar (Option String) := do
  match ← peek with
  | some (.tag t) => do
    skip
    some <$> (t.text? (← get).handles : Option String)
  | _ => return none

/-- The anchor and the tag of a node, in either order. -/
def properties : Grammar (Option String × Option String) := do
  match ← anchor? with
  | some name => return (some name, ← tag?)
  | none =>
    let tag ← tag?
    return (← anchor?, tag)

/-- Gives an anchor its number, before its node is read, and says how
many anchors were before it. -/
def enter (name : String) : Grammar (Nat × Nat) := do
  let f ← get
  let number := f.numbers.length
  let others := f.numbers.filter fun e => e.1 != name
  set { f with numbers := (name, number) :: others, count := f.count + 1 }
  return (number, f.count)

/-- The node that a name stands for, once it is in use. -/
def aliasNode (name : String) : Grammar Node := do
  let number ← ((← get).numbers.lookup name : Option Nat)
  return .alias number

/-- A reader, or nothing where one of these tokens is next. -/
def unlessAt (ts : List Token) (read : Grammar Node) : Grammar Node := do
  if ← isAt ts then return .nothing else read

-- ========================================================= the grammar

mutual

/-- A node. Block collections are allowed in a block only, and a
sequence without depth of its own only as a part of a mapping. -/
def node (inBlock inMapping : Bool) : Nat → Grammar Node
  | 0 => failure
  | steps + 1 => do
    match ← peek with
    | some (.alias name) => skip; aliasNode name
    | _ =>
      let (name, tag) ← properties
      let entered ← name.mapM enter
      let content ← content inBlock inMapping (name.isSome || tag.isSome) tag steps
      if let some (number, rank) := entered then
        modify fun f => { f with anchored := ⟨number, rank, content⟩ :: f.anchored }
      return content

/-- What follows the anchor and the tag of a node; nothing may, if there
are any. -/
def content (inBlock inMapping mayBeNothing : Bool) (tag : Option String) :
    Nat → Grammar Node
  | 0 => failure
  | steps + 1 => do
    match ← peek with
    | some (.scalar text isPlain) => skip; return .scalar (.written text tag isPlain)
    | some .flowSequence => skip; .sequence <$> flowItems true steps
    | some .flowMapping => skip; .mapping <$> flowPairs true steps
    | next =>
      if inMapping ∧ next = some .dash then .sequence <$> looseItems steps
      else if inBlock ∧ next = some .blockSequence then
        skip; .sequence <$> blockItems steps
      else if inBlock ∧ next = some .blockMapping then
        skip; .mapping <$> blockPairs steps
      else if mayBeNothing then return .scalar ⟨"", tag, true⟩
      else failure

/-- The items of a block sequence up to its end. -/
def blockItems : Nat → Grammar (List Node)
  | 0 => failure
  | steps + 1 => do
    if ← accept .dash then
      let item ← unlessAt [.dash, .blockEnd] (node true false steps)
      return item :: (← blockItems steps)
    else
      expect .blockEnd
      return []

/-- The items of a sequence that has no depth of its own. -/
def looseItems : Nat → Grammar (List Node)
  | 0 => failure
  | steps + 1 => do
    if ← accept .dash then
      let item ← unlessAt [.dash, .question, .colon, .blockEnd] (node true false steps)
      return item :: (← looseItems steps)
    else return []

/-- The pairs of a block mapping up to its end. -/
def blockPairs : Nat → Grammar (List (Node × Node))
  | 0 => failure
  | steps + 1 => do
    if ← accept .question then
      let key ← unlessAt [.question, .colon, .blockEnd] (node true true steps)
      let value ←
        if ← accept .colon then
          unlessAt [.question, .colon, .blockEnd] (node true true steps)
        else pure .nothing
      return (key, value) :: (← blockPairs steps)
    else
      expect .blockEnd
      return []

/-- The items of a sequence in brackets up to its end. An item behind a
question mark, or with a key, is a mapping with this pair. A question
mark without a key takes the next token with it. -/
def flowItems (isFirst : Bool) : Nat → Grammar (List Node)
  | 0 => failure
  | steps + 1 => do
    if ← accept .flowSequenceEnd then return []
    if !isFirst then expect .comma
    if ← accept .question then
      let key ←
        if ← isAt [.colon, .comma, .flowSequenceEnd] then skip; pure .nothing
        else node false false steps
      let value ← flowValue .flowSequenceEnd steps
      return .mapping [(key, value)] :: (← flowItems false steps)
    if ← accept .flowSequenceEnd then return []
    let item ← node false false steps
    return item :: (← flowItems false steps)

/-- The pairs of a mapping in braces up to its end. -/
def flowPairs (isFirst : Bool) : Nat → Grammar (List (Node × Node))
  | 0 => failure
  | steps + 1 => do
    if ← accept .flowMappingEnd then return []
    if !isFirst then expect .comma
    if ← accept .question then
      let key ← unlessAt [.colon, .comma, .flowMappingEnd] (node false false steps)
      let value ← flowValue .flowMappingEnd steps
      return (key, value) :: (← flowPairs false steps)
    if ← accept .flowMappingEnd then return []
    let key ← node false false steps
    return (key, .nothing) :: (← flowPairs false steps)

/-- The value of a pair between brackets, if a colon opens one. -/
def flowValue (closing : Token) : Nat → Grammar Node
  | 0 => failure
  | steps + 1 => do
    if ← accept .colon then unlessAt [.comma, closing] (node false false steps)
    else return .nothing

end

-- ========================================================== documents

/-- The directives before a document. No version and no handle is given
twice. -/
def directives : List Token → Grammar (List Directive)
  | .directive d :: r => do
    skip
    let later ← directives r
    let isTwice : Directive → Bool
      | .version => d == .version
      | .handle name _ => match d with
        | .handle other _ => other == name
        | .version => false
    if later.any isTwice then failure
    return d :: later
  | _ => return []

/-- Whether a document has no content of its own here. -/
def isAtEnd : Grammar Bool := do
  match ← peek with
  | none | some .documentStart | some .documentEnd | some (.directive _) => return true
  | some _ => return false

/-- The root of the only document. -/
def root : Grammar Node := do
  let tokens := (← get).tokens
  let steps := 4 * tokens.length + 4
  match tokens with
  | [] => failure
  | .directive _ :: _ | .documentStart :: _ =>
    let given := (← directives tokens).filterMap fun
      | .handle name beginning => some (name, beginning)
      | .version => none
    modify fun f => { f with handles := given ++ f.handles }
    expect .documentStart
    if ← isAtEnd then return .nothing else node true false steps
  | _ => node true false steps

/-- The document of a text that has one and no more. -/
def document : Grammar Document := do
  let root ← root
  let f ← get
  if f.tokens.all (· == .documentEnd) then return ⟨root, f.anchored⟩ else failure

end Grammar

/-- The document of a text, if it is well-formed and has just one. -/
def Document.ofBytes? (bytes : List UInt8) : Option Document := do
  let tokens ← tokens? (← placed? bytes)
  (Grammar.document.run' { tokens })

end BucketAcl.Yaml
