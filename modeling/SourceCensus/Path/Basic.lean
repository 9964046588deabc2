import SourceCensus.Text.Search

/-! # Path names -/

namespace SourceCensus

/-- Where the components of a path name start. -/
inductive Anchor where
  | relative
  | root
  /-- At the root directory, written with two slashes. -/
  | doubled
  deriving DecidableEq, Repr

structure Path where
  anchor : Anchor := .relative
  parts : List String
  deriving DecidableEq, Repr

namespace Path

def anchorOf : List Char → Anchor
  | '/' :: '/' :: '/' :: _ => .root
  | '/' :: '/' :: _ => .doubled
  | '/' :: _ => .root
  | _ => .relative

/-- The components of a path text, without empty and `.` components. -/
def partsOf (text : List Char) : List String :=
  (Text.splitOn '/' text |>.map String.ofList).filter fun part => part != "" && part != "."

def ofText (text : String) : Path :=
  ⟨anchorOf text.toList, partsOf text.toList⟩

def anchorText : Anchor → String
  | .relative => ""
  | .root => "/"
  | .doubled => "//"

def text (p : Path) : String :=
  match p.anchor, p.parts with
  | .relative, [] => "."
  | anchor, parts => anchorText anchor ++ "/".intercalate parts

def name (p : Path) : String :=
  p.parts.getLast?.getD ""

def parent (p : Path) : Path :=
  { p with parts := p.parts.dropLast }

/-- The greatest number of bytes in the text of a path that a file system takes. -/
def lengthLimit : Nat := 4095

/-- Whether no file system takes the path because of its length. -/
def isTooLong (p : Path) : Bool :=
  lengthLimit < p.text.utf8ByteSize

def holdsNull (name : String) : Bool :=
  name.toList.contains (Char.ofNat 0)

/-- Whether a null character stands in the path; nothing is ever found there. -/
def hasNull (p : Path) : Bool :=
  p.parts.any holdsNull

end Path

inductive PathFault where
  | nullInPath
  deriving DecidableEq, Repr

def PathFault.message : PathFault → String
  | .nullInPath => "embedded null byte"

/-- The extension of a file name: what follows its last dot, when there is something on both sides
of that dot. -/
def extensionOf (name : String) : Option String :=
  match Text.splitLast? '.' name.toList with
  | some (_ :: _, c :: rest) => some (String.ofList (c :: rest))
  | _ => none

end SourceCensus
