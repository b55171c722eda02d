/-
The path of a file. Its first segment may be a drive, a letter and its
mark, which is never left again and which takes the place of a host.
Empty segments before the first other one do not count in the end, but
while the path is read they are segments like any other: what follows
them is not the first.
-/
import BucketAcl.Url.Path

namespace BucketAcl.Url

/-- The segments of the path of a file, as far as it is read, and
whether it is known to be on a drive. -/
structure FilePath where
  segments : List String
  isOnDrive : Bool

namespace FilePath

/-- A piece of a path whose first two kept characters, a letter and a
colon, are followed by dropped ones: the letter, and what is kept of
the rest, which is not empty. -/
def brokenDrive? (piece : List Char) : Option (Char × List Char) :=
  match piece.dropWhile Segments.isDropped with
  | letter :: r =>
    match r.dropWhile Segments.isDropped with
    | ':' :: gap :: r =>
      if letter.isAlpha ∧ Segments.isDropped gap ∧ Segments.kept r ≠ [] then
        some (letter, Segments.kept r)
      else none
    | _ => none
  | [] => none

/-- The path with one more piece. A first piece that is a drive is
written with a colon; one that is broken off after a drive gives two
segments, the second of which is kept whatever it is. -/
def enter (p : FilePath) (piece : List Char) (isLast : Bool) : FilePath :=
  let segment := Segments.kept piece
  match p.segments, brokenDrive? piece with
  | [], some (letter, rest) =>
    let rest := String.ofList (Percent.encode Percent.keepInPath rest)
    { p with segments := [.ofList [letter, ':'], rest] }
  | [], none =>
    if Segments.isDrive segment then ⟨[.ofList (segment.take 1 ++ [':'])], true⟩
    else { p with segments := Segments.enter [] segment isLast }
  | ss, _ => { p with segments := Segments.enter ss segment isLast }

/-- The path with the pieces that are left. -/
def read (p : FilePath) : List (List Char) → FilePath
  | [] => p
  | s :: r => read (p.enter s r.isEmpty) r

/-- The path of a text. -/
def parse (cs : List Char) : FilePath := read ⟨[], false⟩ (Segments.pieces true cs)

/-- The path without the empty segments that it begins with. -/
def path (p : FilePath) : Path :=
  match p.segments.dropWhile (· == "") with
  | [] => .segments [""]
  | ss => .segments ss

end FilePath

end BucketAcl.Url
