/-
Documents written out. A tree is written as it would be read: text and
references of its runs one after the other, elements with their tags,
and an element without content as one tag that closes itself.
-/
import BucketAcl.Xml.Content

namespace BucketAcl.Xml

-- =============================================================== text

/-- The parts of a run that stand for a text: a reference for each
character that may not stand in text, and what is between them. -/
def piecesOf : List Char → List Piece
  | [] => []
  | c :: r =>
    match entityName? c, piecesOf r with
    | some name, pieces => .reference name :: pieces
    | none, .text t :: pieces => .text (c :: t) :: pieces
    | none, pieces => .text [c] :: pieces

/-- The nodes that stand for a text: none for an empty one. -/
def textNodes (text : String) : List Node :=
  if text = "" then [] else [.run (piecesOf text.toList)]

/-- An element that holds a text. -/
def textElement (name text : String) : Node := .element ⟨name, []⟩ (textNodes text) .closed

/-- An attribute as it stands in a tag. -/
def writeAttribute (name value : String) : List Char :=
  ' ' :: name.toList ++ '=' :: '"' :: escapeInValue value.toList ++ ['"']

-- ============================================================== trees

/-- A part of a run as it stands in a document. -/
def Piece.write : Piece → List Char
  | text cs => cs
  | reference name => writeReference name

mutual

/-- A node as it stands in a document. -/
def Node.write : Node → List Char
  | run pieces => pieces.flatMap Piece.write
  | doctype => []
  | element tag [] _ => '<' :: tag.name.toList ++ tag.rest ++ ['/', '>']
  | element tag (n :: r) _ =>
    '<' :: tag.name.toList ++ tag.rest ++ '>' :: Node.writeAll (n :: r)
      ++ '<' :: '/' :: tag.name.toList ++ ['>']

/-- Nodes as they stand one after the other in a document. -/
def Node.writeAll : List Node → List Char
  | [] => []
  | n :: r => n.write ++ Node.writeAll r

end

/-- The text of a node. -/
def Node.text (n : Node) : String := .ofList n.write

end BucketAcl.Xml
