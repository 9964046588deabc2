import SourceCensus.Store.Basic
import SourceCensus.Text.Quoted

/-! # Following names through a store -/

namespace SourceCensus

/-- Why a name leads nowhere, or cannot be used. -/
inductive Cause where
  | noEntry
  | exists
  | notDirectory
  | isDirectory
  | nameTooLong
  | tooManyLinks
  deriving DecidableEq, Repr

namespace Cause

def number : Cause → Nat
  | .noEntry => 2
  | .exists => 17
  | .notDirectory => 20
  | .isDirectory => 21
  | .nameTooLong => 36
  | .tooManyLinks => 40

def wording : Cause → String
  | .noEntry => "No such file or directory"
  | .exists => "File exists"
  | .notDirectory => "Not a directory"
  | .isDirectory => "Is a directory"
  | .nameTooLong => "File name too long"
  | .tooManyLinks => "Too many levels of symbolic links"

end Cause

/-- A failed access to a path. -/
structure AccessFault where
  cause : Cause
  path : String
  deriving DecidableEq, Repr

def AccessFault.message (fault : AccessFault) : String :=
  "[Errno " ++ toString fault.cause.number ++ "] " ++ fault.cause.wording ++ ": " ++
    Text.quoted fault.path

/-- The components of the target of a link.  Two slashes next to each other, and a slash at either
end, have an empty component between them. -/
def targetNames (target : String) : List String :=
  (Text.splitOn '/' target.toList).map String.ofList

/-- Whether the target of a link starts at the root directory. -/
def isAbsolute (target : String) : Bool :=
  target.toList.head? = some '/'

/-- Whether a component leads to the directory that it is looked up in. -/
def staysPut (name : String) : Bool :=
  name = "." || name = ""

inductive Place where
  | inside (names : List String)
  | outside (path : Path)
  deriving DecidableEq, Repr

namespace Place

def mapNames (f : List String → List String) : Place → Place
  | inside names => inside (f names)
  | outside path => outside { path with parts := f path.parts }

/-- The directory around a place; the topmost one is around itself. -/
def parent (place : Place) : Place :=
  place.mapNames List.dropLast

def join (place : Place) (names : List String) : Place :=
  place.mapNames (· ++ names)

end Place

/-- Where a name leads. -/
inductive Landing where
  | entry (names : List String)
  | vacant (directory : List String) (name : String)
  deriving DecidableEq, Repr

namespace Store

def linkLimit : Nat := 40

def nameLimit : Nat := 255

/-- Why a path that starts at the root directory outside the store leads nowhere: nothing stands
there, unless its first component is too long to be looked up. -/
def outsideCause (names : List String) : Cause :=
  let first := names.find? fun name => ! staysPut name && name != ".."
  if first.any (nameLimit < ·.utf8ByteSize) then .nameTooLong else .noEntry

/-- Where `names` lead from the directory `here`, following at most `hops` links.  For a file that is
being created a slash behind the last component is refused before anything is looked up: it asks for
a directory. -/
def follow (store : Store) (creating : Bool) (hops : Nat) (here names : List String) :
    Except Cause Landing :=
  match names with
  | [] => .ok (.entry here)
  | name :: rest =>
    if staysPut name then follow store creating hops here rest
    else if name = ".." then follow store creating hops here.dropLast rest
    else if creating && ! rest.isEmpty && rest.all (· == "") then .error .isDirectory
    else if nameLimit < name.utf8ByteSize then .error .nameTooLong
    else
      match store.entry? (here ++ [name]) with
      | none => if rest.isEmpty then .ok (.vacant here name) else .error .noEntry
      | some .directory => follow store creating hops (here ++ [name]) rest
      | some (.file _) =>
        if rest.isEmpty then .ok (.entry (here ++ [name])) else .error .notDirectory
      | some (.link target) =>
        match hops with
        | 0 => .error .tooManyLinks
        | hops + 1 =>
          if isAbsolute target then
            if store.base = "" then follow store creating hops [] (targetNames target ++ rest)
            else .error (outsideCause (targetNames target))
          else follow store creating hops here (targetNames target ++ rest)
termination_by (hops, names.length)

def locate (store : Store) (names : List String) : Except Cause (List String) := do
  match ← store.follow false linkLimit [] names with
  | .entry found => return found
  | .vacant .. => throw .noEntry

def status (store : Store) (names : List String) : Except Cause Entry := do
  match store.entry? (← store.locate names) with
  | some entry => return entry
  | none => throw .noEntry

def isDirectory (store : Store) (names : List String) : Bool :=
  match store.status names with
  | .ok .directory => true
  | _ => false

def isFile (store : Store) (names : List String) : Bool :=
  match store.status names with
  | .ok (.file _) => true
  | _ => false

def leadsSomewhere (store : Store) (names : List String) : Bool :=
  (store.status names).isOk

def isLink (store : Store) (names : List String) : Bool :=
  match store.entry? names with
  | some (.link _) => true
  | _ => false

def read (store : Store) (names : List String) : Except Cause (List UInt8) := do
  match ← store.status names with
  | .file content => return content
  | .directory => throw .isDirectory
  | .link _ => throw .noEntry

/-- Whether the full path of a name is too long to be looked up. -/
def isTooLong (store : Store) (names : List String) : Bool :=
  Path.lengthLimit < (store.pathText names).utf8ByteSize

/-- What a name leads to when it is asked for in full. -/
def fullStatus (store : Store) (names : List String) : Except Cause Entry :=
  if store.isTooLong names then .error .nameTooLong else store.status names

/-- The content of the file that a name leads to when it is asked for in full. -/
def fullRead (store : Store) (names : List String) : Except Cause (List UInt8) :=
  if store.isTooLong names then .error .nameTooLong else store.read names

def list (store : Store) (names : List String) : Except Cause (List String) := do
  let place ← store.locate names
  match store.entry? place with
  | some .directory => return store.children place
  | _ => throw .notDirectory

/-- The names in the directory that a name leads to when it is asked for in full. -/
def fullList (store : Store) (names : List String) : Except Cause (List String) :=
  if store.isTooLong names then .error .nameTooLong else store.list names

def rootPlace (store : Store) (anchor : Anchor) (names : List String) : Place :=
  if store.base = "" then .inside names else .outside ⟨anchor, names⟩

/-- A place with components behind it that are kept as they are.  Components that start at the root
directory take the place of all that stands before them. -/
def keepRest (store : Store) (place : Place) (rest : List String) : Place :=
  match rest with
  | "" :: _ :: _ => store.rootPlace (Path.anchorOf ("/".intercalate rest).toList) rest
  | _ => place.join rest

def linkAt? (store : Store) : Place → Option String
  | .inside names =>
    match store.entry? names with
    | some (.link target) => some target
    | _ => none
  | .outside _ => none

/-- The real path of `names` from `here`: links are replaced by their targets, and what is not there
is kept.  `pending` are the links that are being replaced; meeting one of them again ends the search,
which the second component tells.  No component on the way may hold a null character. -/
def realFrom (store : Store) (fuel : Nat) (pending : List Place) (here : Place)
    (names : List String) : Except PathFault (Place × Bool) :=
  match names with
  | [] => .ok (here, true)
  | name :: rest =>
    if staysPut name then realFrom store fuel pending here rest
    else if name = ".." then realFrom store fuel pending here.parent rest
    else if Path.holdsNull name then .error .nullInPath
    else
      let place := here.join [name]
      match store.linkAt? place with
      | some target =>
        if pending.contains place then .ok (store.keepRest place rest, false)
        else
          match fuel with
          | 0 => .ok (store.keepRest place rest, false)
          | fuel + 1 =>
            let start := if isAbsolute target then store.rootPlace .root [] else here
            match realFrom store fuel (place :: pending) start (targetNames target) with
            | .error fault => .error fault
            | .ok (found, true) => realFrom store (fuel + 1) pending found rest
            | .ok (found, false) => .ok (store.keepRest found rest, false)
      | none => realFrom store fuel pending place rest
termination_by (fuel, names.length)

/-- A name with one more component: `..` takes the last one away, whatever stands there. -/
def plainStep (before : List String) (name : String) : List String :=
  if staysPut name then before
  else if name = ".." then before.dropLast
  else before ++ [name]

def plainNames (names : List String) : List String :=
  names.foldl plainStep []

/-- From a name without such components nothing is taken away. -/
theorem foldl_plainStep {names : List String} (h : ∀ name ∈ names, ¬ staysPut name ∧ name ≠ "..")
    (before : List String) : names.foldl plainStep before = before ++ names := by
  induction names generalizing before with
  | nil => simp
  | cons name rest ih =>
    have own := h name List.mem_cons_self
    have others := fun n hn => h n (List.mem_cons_of_mem name hn)
    simp [plainStep, own, ih others]

theorem plainNames_eq_self {names : List String}
    (h : ∀ name ∈ names, ¬ staysPut name ∧ name ≠ "..") :
    plainNames names = names :=
  foldl_plainStep h []

def beforeNull : List String → List String
  | [] => []
  | name :: rest =>
    if Path.holdsNull name then
      let start := String.ofList (name.toList.takeWhile (· != Char.ofNat 0))
      if staysPut start then [] else [start]
    else name :: beforeNull rest

/-- A name without null characters is kept whole. -/
theorem beforeNull_eq_self {names : List String} (h : ∀ name ∈ names, ¬ Path.holdsNull name) :
    beforeNull names = names := by
  induction names with
  | nil => rfl
  | cons name rest ih =>
    have own := h name List.mem_cons_self
    have others := fun n hn => h n (List.mem_cons_of_mem name hn)
    simp [beforeNull, own, ih others]

/-- The real path of a name.  Where links run in a circle the search ends at the first that is met
again; from there on no link is replaced, and a null character ends the name. -/
def realPath (store : Store) (names : List String) : Except PathFault Place := do
  let (found, _) ← store.realFrom store.entries.length [] (.inside []) names
  return found.mapNames fun names => beforeNull (plainNames names)

end Store

end SourceCensus
