import SourceCensus.Report.Action
import SourceCensus.Report.Marked
import SourceCensus.Text.Emoji

/-! # Markup -/

namespace SourceCensus.Report

/-- A tag: its name, and what follows an equals sign if there is one. -/
structure Tag where
  name : List Char
  argument : Option (List Char) := none
  deriving DecidableEq, Repr

namespace Tag

def ofContent (content : List Char) : Tag :=
  match content.dropWhile (· != '=') with
  | [] => ⟨content, none⟩
  | _ :: argument => ⟨content.takeWhile (· != '='), some argument⟩

def written (tag : Tag) : List Char :=
  '[' :: tag.name ++ tag.argument.elim [] ('=' :: ·) ++ [']']

def description (tag : Tag) : List Char :=
  tag.name ++ tag.argument.elim [] (' ' :: ·)

end Tag

inductive Piece where
  | text (text : List Char)
  | tag (position : Nat) (tag : Tag)
  deriving DecidableEq, Repr

def startsTag (c : Char) : Bool :=
  ('a' ≤ c && c ≤ 'z') || c = '#' || c = '/' || c = '@'

def readTag? (s : List Char) : Option (List Char × List Char) :=
  match s with
  | '[' :: c :: rest =>
    match rest.dropWhile (fun d => d != '[' && d != ']') with
    | ']' :: after =>
      if startsTag c then some (c :: rest.takeWhile (fun d => d != '[' && d != ']'), after) else none
    | _ => none
  | _ => none

theorem readTag?_length {s content after : List Char} (h : readTag? s = some (content, after)) :
    after.length < s.length := by
  unfold readTag? at h
  split at h
  · rename_i c rest
    split at h
    · rename_i after' hd
      have hle : (rest.dropWhile (fun d => d != '[' && d != ']')).length ≤ rest.length :=
        (List.dropWhile_sublist _).length_le
      rw [hd] at hle
      split at h
      · cases h
        simp only [List.length_cons] at hle ⊢
        omega
      · cases h
    · cases h
  · cases h

/-- Plain text of markup: a backslash before an opening bracket is left out. -/
def unescape : List Char → List Char
  | '\\' :: '[' :: rest => '[' :: unescape rest
  | c :: rest => c :: unescape rest
  | [] => []

def plainPiece (plain : List Char) : List Piece :=
  if plain.isEmpty then [] else [.text (unescape plain.reverse)]

/-- The pieces of a tag with backslashes before it.  Two backslashes stand for one, and an odd one
makes plain text of the tag. -/
def escapedPieces (position slashes : Nat) (content : List Char) : List Piece :=
  let kept := if slashes < 2 then [] else [Piece.text (List.replicate (slashes / 2) '\\')]
  let tag := Tag.ofContent content
  kept ++ [if slashes % 2 = 1 then .text ('[' :: content ++ [']'])
    else .tag (position + slashes) tag]

/-- The pieces of markup from a position on; `plain` is the plain text under way, in reverse. -/
def piecesFrom (position : Nat) (plain : List Char) (s : List Char) : List Piece :=
  match s with
  | [] => plainPiece plain
  | c :: rest =>
    let slashes := (c :: rest).takeWhile (· == '\\')
    match h : readTag? ((c :: rest).dropWhile (· == '\\')) with
    | some (content, after) =>
      plainPiece plain ++ escapedPieces position slashes.length content ++
        piecesFrom (position + slashes.length + content.length + 2) [] after
    | none => piecesFrom (position + 1) (c :: plain) rest
termination_by s.length
decreasing_by
  · have h₁ := readTag?_length h
    have h₂ : ((c :: rest).dropWhile (· == '\\')).length ≤ (c :: rest).length :=
      (List.dropWhile_sublist _).length_le
    omega
  · simp

inductive MarkupFault where
  /-- A closing tag without a name, and no tag is open. -/
  | nothingOpen (position : Nat)
  | notOpen (tag : Tag) (position : Nat)
  | name (cause : Text.DigitFault)
  | action (cause : ActionFault)
  deriving DecidableEq, Repr

def MarkupFault.message : MarkupFault → String
  | .nothingOpen position =>
    "closing tag '[/]' at position " ++ toString position ++ " has nothing to close"
  | .notOpen tag position =>
    "closing tag '" ++ String.ofList tag.written ++ "' at position " ++ toString position ++
      " doesn't match any open tag"
  | .name cause => cause.message
  | .action cause => cause.message

def canonicalName (name : List Char) : Except MarkupFault (List Char) := do
  match ← (Style.ofDescription? name).mapError .name with
  | some style => return style.description
  | none => return Text.lower (Text.trim name)

structure OpenTag where
  start : Nat
  tag : Tag
  deriving DecidableEq, Repr

namespace OpenTag

def isAction (o : OpenTag) : Bool :=
  o.tag.name.head? = some '@'

def mark (o : OpenTag) (stop : Nat) : Mark where
  start := o.start
  stop := stop
  style := o.tag.description

def closedMark (o : OpenTag) (stop : Nat) : Except MarkupFault Mark := do
  if o.isAction then
    (checkAction (o.tag.argument.getD [])).mapError .action
    return { o.mark stop with style := Style.plain.description }
  else return o.mark stop

end OpenTag

/-- Markup read so far.  The open tags are listed last first. -/
structure MarkupState where
  text : List Char := []
  marks : List Mark := []
  opened : List OpenTag := []
  deriving DecidableEq, Repr

namespace MarkupState

def close (r : MarkupState) (closes : OpenTag → Bool) (missing : MarkupFault) :
    Except MarkupFault MarkupState :=
  match r.opened.find? closes with
  | some o => return { r with
      marks := r.marks ++ [← o.closedMark r.text.length], opened := r.opened.eraseP closes }
  | none => .error missing

def step (r : MarkupState) : Piece → Except MarkupFault MarkupState
  | .text text => .ok { r with text := r.text ++ (Text.withEmoji text).filter (! isUnprinted ·) }
  | .tag position tag =>
    match tag.name with
    | '/' :: rest => do
      let name := Text.trim rest
      if name.isEmpty then r.close (fun _ => true) (.nothingOpen position)
      else
        let name ← canonicalName name
        r.close (fun o => o.tag.name = name) (.notOpen tag position)
    | name => return { r with
        opened := ⟨r.text.length, { tag with name := ← canonicalName name }⟩ :: r.opened }

/-- The marked text of markup that was read to its end: marks that start first come first, and of
those that start together the one that ends last. -/
def marked (r : MarkupState) : Marked where
  text := r.text
  marks := (r.marks ++ r.opened.map (·.mark r.text.length)).reverse.mergeSort
    fun a b => a.start ≤ b.start

end MarkupState

def Marked.ofMarkup (s : List Char) : Except MarkupFault Marked := do
  let state ← (piecesFrom 0 [] s).foldlM MarkupState.step {}
  return state.marked

end SourceCensus.Report
