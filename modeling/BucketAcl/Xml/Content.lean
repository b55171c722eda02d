/-
The content of a document as a tree: runs of text between elements, and
elements with what is inside them.

Reading may end before the document does, at a fault or at the end of
the text. What was read then still has its place in the tree: the
elements that were open at that point, each the last of its siblings,
are cut off, and say why. An element that is closed has only closed
elements inside.

The tree is put together from the right: `Right` is what follows a
place, level by level, and each token is put in front of it.
-/
import BucketAcl.Xml.Attribute

namespace BucketAcl.Xml

/-- A part of a run of text. -/
inductive Piece where
  | text (cs : List Char)
  | reference (name : List Char)
  deriving DecidableEq

/-- How the reading of an element ended: with its end tag, with a
fault, or, where there is none, with the end of the text. -/
inductive Ending where
  | closed
  | cut (fault : Option Fault)
  deriving DecidableEq

/-- A node of the tree. -/
inductive Node where
  | run (pieces : List Piece)
  | doctype
  | element (tag : Tag) (inside : List Node) (ending : Ending)

/-- What follows a place: the nodes up to the end of the element that
the place is in, and then the end tags that follow, each with the nodes
after it, up to the end of the reading. -/
structure Right where
  nodes : List Node
  stops : List (String × List Node)
  fault : Option Fault

namespace Right

/-- Puts a part of a text in front of the nodes: it joins a run that
they begin with. -/
def addPiece (piece : Piece) : List Node → List Node
  | .run pieces :: r => .run (piece :: pieces) :: r
  | nodes => .run [piece] :: nodes

/-- Puts a start tag in front. It is closed by the next end tag, if that
has its name. -/
def addStart (tag : Tag) (right : Right) : Right :=
  match right.stops with
  | (name, outer) :: stops =>
    if name = tag.name then
      { right with nodes := .element tag right.nodes .closed :: outer, stops }
    else
      let fault := some (Fault.mismatchedEnd tag.name name)
      { nodes := [.element tag right.nodes (.cut fault)], stops := [], fault }
  | [] =>
    { right with nodes := [.element tag right.nodes (.cut right.fault)] }

/-- Puts a token in front. -/
def add (token : Token) (right : Right) : Right :=
  match token with
  | .text cs => { right with nodes := addPiece (.text cs) right.nodes }
  | .reference name => { right with nodes := addPiece (.reference name) right.nodes }
  | .doctype => { right with nodes := .doctype :: right.nodes }
  | .stop name => { right with nodes := [], stops := (name, right.nodes) :: right.stops }
  | .start tag => addStart tag right

end Right

/-- The nodes of a document outside all elements, and the fault that
ended the reading. -/
structure Content where
  nodes : List Node
  fault : Option Fault

/-- The content of tokens and of the fault after them. -/
def Content.ofTokens (tokens : List Token) (fault : Option Fault) : Content :=
  let right := tokens.foldr Right.add ⟨[], [], fault⟩
  match right.stops with
  | (name, _) :: _ => ⟨right.nodes, some (.unmatchedEnd name)⟩
  | [] => ⟨right.nodes, right.fault⟩

/-- The content of a text, without a byte order mark at its head. -/
def Content.parse (cs : List Char) : Content :=
  let (tokens, fault) := Token.scan (if cs.head? = some '\ufeff' then cs.drop 1 else cs)
  .ofTokens tokens fault

-- =============================================================== runs

/-- The character or the text of a part of a run. -/
def Piece.resolve : Piece → Except Fault (List Char)
  | text cs => .ok cs
  | reference name => do
    let c ← Xml.resolve 0 (byteLength name) name
    return [c]

/-- The text of a run. -/
def resolveRun (pieces : List Piece) : Except Fault (List Char) := do
  let parts ← pieces.mapM Piece.resolve
  return parts.flatten

end BucketAcl.Xml
