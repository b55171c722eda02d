/-
What can be wrong with a document as XML: markup that is not closed,
tags that do not match, attributes and references that cannot be read,
prefixes that may not be bound. Each has one wording.
-/
import BucketAcl.Text.Utf8

namespace BucketAcl.Xml

/-- Why a character reference stands for no character. -/
inductive CharRefFault where
  | sign
  | noDigits
  | badDigit
  | tooLarge
  | null
  | notScalar (n : Nat)
  deriving DecidableEq

/-- The wording of the fault. -/
def CharRefFault.message : CharRefFault → String
  | sign => "unexpected number sign"
  | noDigits => "cannot parse integer from empty string"
  | badDigit => "invalid digit found in string"
  | tooLarge => "number too large to fit in target type"
  | null => "0x0 character is not permitted in XML"
  | notScalar n => "`" ++ toString n ++ "` is not a valid codepoint"

/-- What is wrong with an attribute; places are byte offsets in the tag. -/
inductive AttributeFault where
  | noEquals (place : Nat)
  | noValue (place : Nat)
  | noQuote (place : Nat)
  | noClosingQuote (place : Nat) (quote : Char)
  | duplicate (place former : Nat)
  deriving DecidableEq

/-- The wording of the fault. -/
def AttributeFault.message : AttributeFault → String
  | noEquals n =>
    "position " ++ toString n ++ ": attribute key must be directly followed by `=` or space"
  | noValue n => "position " ++ toString n ++ ": `=` must be followed by an attribute value"
  | noQuote n =>
    "position " ++ toString n ++ ": attribute value must be enclosed in `\"` or `'`"
  | noClosingQuote n q =>
    "position " ++ toString n ++ ": missing closing quote `" ++ q.toString ++ "` in attribute value"
  | duplicate n m =>
    "position " ++ toString n ++ ": duplicated attribute, previous declaration at position "
      ++ toString m

/-- The namespace of the prefix `xml`. -/
def xmlNamespace : String := "http://www.w3.org/XML/1998/namespace"

/-- The namespace of namespace declarations themselves. -/
def xmlnsNamespace : String := "http://www.w3.org/2000/xmlns/"

/-- A prefix bound against the rules of the two reserved ones. -/
inductive BindingFault where
  | xmlElsewhere (uri : String)
  | xmlnsDeclared (uri : String)
  | otherToXml (pfx : String)
  | otherToXmlns (pfx : String)
  deriving DecidableEq

/-- A text in quotes, with all but visible ASCII given by the value of
its bytes. -/
def quotedBytes (s : String) : String :=
  let escape (b : UInt8) : String :=
    if b = 0x22 then "\\\""
    else if 0x20 ≤ b ∧ b ≤ 0x7e then (Char.ofNat b.toNat).toString
    else "0x" ++ .ofList ((Nat.toDigits 16 b.toNat).map Char.toUpper)
  "\"" ++ String.join ((Text.Utf8.bytes s).map escape) ++ "\""

/-- The wording of the fault. -/
def BindingFault.message : BindingFault → String
  | xmlElsewhere u => "the namespace prefix 'xml' cannot be bound to '" ++ quotedBytes u ++ "'"
  | xmlnsDeclared u => "the namespace prefix 'xmlns' cannot be bound to '" ++ quotedBytes u ++ "'"
  | otherToXml p =>
    "the namespace prefix '" ++ quotedBytes p ++ "' cannot be bound to '" ++ xmlNamespace ++ "'"
  | otherToXmlns p =>
    "the namespace prefix '" ++ quotedBytes p ++ "' cannot be bound to '" ++ xmlnsNamespace ++ "'"

/-- What is wrong with a document. -/
inductive Fault where
  | unclosedTag
  | unclosedQuote (quote : Char)
  | unclosedComment
  | unclosedCData
  | unclosedDoctype
  | unclosedInstruction
  | unclosedDeclaration
  | unknownMarkup
  | unclosedReference
  | namelessDoctype
  | missingEnd (name : String)
  | mismatchedEnd (expected found : String)
  | unmatchedEnd (found : String)
  | inAttribute (fault : AttributeFault)
  | characterReference (fault : CharRefFault)
  | unknownEntity (start stop : Nat) (name : String)
  | unterminatedEntity (start stop : Nat)
  | binding (fault : BindingFault)
  deriving DecidableEq

/-- The end of a tag of some name, as faults quote it. -/
def quotedEnd (name : String) : String := "`</" ++ name ++ ">`"

/-- The wording of the fault. -/
def Fault.message : Fault → String
  | unclosedTag => "syntax error: tag not closed: `>` not found before end of input"
  | unclosedQuote q =>
    "syntax error: attribute value not closed: `" ++ q.toString
      ++ "` not found before end of input"
  | unclosedComment => "syntax error: comment not closed: `-->` not found before end of input"
  | unclosedCData => "syntax error: CDATA not closed: `]]>` not found before end of input"
  | unclosedDoctype => "syntax error: DOCTYPE not closed: `>` not found before end of input"
  | unclosedInstruction =>
    "syntax error: processing instruction not closed: `?>` not found before end of input"
  | unclosedDeclaration =>
    "syntax error: XML declaration not closed: `?>` not found before end of input"
  | unknownMarkup => "syntax error: unknown or missed symbol in markup"
  | unclosedReference =>
    "ill-formed document: entity or character reference not closed: `;` not found before end of "
      ++ "input"
  | namelessDoctype =>
    "ill-formed document: `<!DOCTYPE>` declaration does not contain a name of a document type"
  | missingEnd n =>
    "ill-formed document: start tag not closed: " ++ quotedEnd n
      ++ " not found before end of input"
  | mismatchedEnd e f =>
    "ill-formed document: expected " ++ quotedEnd e ++ ", but " ++ quotedEnd f ++ " was found"
  | unmatchedEnd f =>
    "ill-formed document: close tag " ++ quotedEnd f ++ " does not match any open tag"
  | inAttribute f => "error while parsing attribute: " ++ f.message
  | characterReference f => "invalid character reference: " ++ f.message
  | unknownEntity a b n =>
    "at " ++ toString a ++ ".." ++ toString b ++ ": unrecognized entity `" ++ n ++ "`"
  | unterminatedEntity a b =>
    "Error while escaping character at range " ++ toString a ++ ".." ++ toString b
      ++ ": Cannot find ';' after '&'"
  | binding f => f.message

end BucketAcl.Xml
