import ShapeCheck.Shape.Error
import ShapeCheck.Text.Utf8

/-!
# Failures of reading

A failure tells what is wrong, the path of the document that was being read, and
how much of the text was unread at that moment.  Some failures belong to a list or
an object as a whole; they are settled when the reader leaves it.
-/

namespace ShapeCheck
namespace Reading

inductive Flaw where
  | endOfValue
  | endOfString
  | endOfList
  | endOfObject
  | expectedValue
  | expectedWord
  | expectedColon
  | expectedListEnd
  | expectedObjectEnd
  | keyNotString
  | trailingComma
  | trailingCharacters
  | invalidNumber
  | numberOutOfRange
  | invalidEscape
  | controlCharacter
  | loneSurrogate
  | endOfHexEscape
  | invalidCodePoint
  | tooDeep
deriving DecidableEq

def Flaw.message : Flaw → String
  | .endOfValue => "EOF while parsing a value"
  | .endOfString => "EOF while parsing a string"
  | .endOfList => "EOF while parsing a list"
  | .endOfObject => "EOF while parsing an object"
  | .expectedValue => "expected value"
  | .expectedWord => "expected ident"
  | .expectedColon => "expected `:`"
  | .expectedListEnd => "expected `,` or `]`"
  | .expectedObjectEnd => "expected `,` or `\x7d`"
  | .keyNotString => "key must be a string"
  | .trailingComma => "trailing comma"
  | .trailingCharacters => "trailing characters"
  | .invalidNumber => "invalid number"
  | .numberOutOfRange => "number out of range"
  | .invalidEscape => "invalid escape"
  | .controlCharacter =>
      "control character (\\u0000-\\u001F) found while parsing a string"
  | .loneSurrogate => "lone leading surrogate in hex escape"
  | .endOfHexEscape => "unexpected end of hex escape"
  | .invalidCodePoint => "invalid unicode code point"
  | .tooDeep => "recursion limit exceeded"

inductive Reason where
  /-- it is not JSON -/
  | flaw (flaw : Flaw)
  /-- it is JSON of another form -/
  | mismatch (mismatch : Json.Mismatch)
  /-- a document in it is not a shape -/
  | shape (e : Shape.Error)

def Reason.message : Reason → String
  | .flaw f => f.message
  | .mismatch m => m.message
  | .shape e => e.message

/-! ## Places -/

inductive Segment where
  | index (i : Nat)
  | key (name : String)
  /-- a key that could not be read -/
  | unknown
deriving DecidableEq

def restText : List Segment → String
  | [] => ""
  | .index i :: rest => "[" ++ Double.digitText i ++ "]" ++ restText rest
  | .key name :: rest => "." ++ name ++ restText rest
  | .unknown :: rest => ".?" ++ restText rest

def pathText : List Segment → String
  | [] => "."
  | .key name :: rest => name ++ restText rest
  | .unknown :: rest => "?" ++ restText rest
  | path => restText path

/-- A place in a text: the line, and the number of bytes read of it. -/
structure Position where
  line : Nat
  column : Nat
deriving DecidableEq

def Position.next (p : Position) (b : UInt8) : Position :=
  if b = 0x0A then ⟨p.line + 1, 0⟩ else ⟨p.line, p.column + 1⟩

def Position.reached (text unread : Bytes) : Position :=
  (text.take (text.length - unread.length)).foldl Position.next ⟨1, 0⟩

def Position.message (p : Position) : String :=
  " at line " ++ Double.digitText p.line ++ " column " ++ Double.digitText p.column

/-! ## Failures -/

structure Failure where
  path : List Segment
  reason : Reason
  unread : Bytes
  /-- whether `unread` is the place to report -/
  settled : Bool

namespace Failure

def broken (flaw : Flaw) (unread : Bytes) : Failure := ⟨[], .flaw flaw, unread, true⟩

/-- A document of another form, at a place of its own. -/
def misfit (mismatch : Json.Mismatch) (unread : Bytes) : Failure :=
  ⟨[], .mismatch mismatch, unread, true⟩

/-- A list or object of another form; its place is where the reader leaves it. -/
def misfitWhole (mismatch : Json.Mismatch) (unread : Bytes) : Failure :=
  ⟨[], .mismatch mismatch, unread, false⟩

def under (segment : Segment) (e : Failure) : Failure :=
  { e with path := segment :: e.path }

/-- Fix the place of a failure on leaving a list or object. -/
def settle (leave : Bytes → Bytes) (e : Failure) : Failure :=
  if e.settled then e else { e with unread := leave e.unread, settled := true }

end Failure

structure Report where
  path : List Segment
  reason : Reason
  position : Option Position

def Failure.report (text : Bytes) (e : Failure) : Report :=
  ⟨e.path, e.reason,
    if e.settled then some (Position.reached text e.unread) else none⟩

def Report.reasonText (r : Report) : String :=
  r.reason.message ++ (match r.position with
    | some p => p.message
    | none => "")

def Report.message (r : Report) : String :=
  "at JSON path " ++ pathText r.path ++ " → " ++ r.reasonText

end Reading
end ShapeCheck
