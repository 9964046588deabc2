import SourceCensus.Path.Basic

/-! # File stores -/

namespace SourceCensus

/-- What stands under a name. -/
inductive Entry where
  | file (content : List UInt8)
  | directory
  | link (target : String)
  deriving DecidableEq, Repr

/-- A snapshot of a tree of files. -/
structure Store where
  /-- The text of the path of the top; empty when the top is the root directory. -/
  base : String
  current : List String
  entries : List (List String × Entry)
  deriving DecidableEq, Repr

namespace Store

def entry? (store : Store) (names : List String) : Option Entry :=
  if names.isEmpty then some .directory else store.entries.lookup names

def pathText (store : Store) (names : List String) : String :=
  if store.base = "" && names.isEmpty then "/"
  else "/".intercalate (store.base :: names)

/-- The name that a path spells; none when it lies outside the store. -/
def namesOf? (store : Store) (path : Path) : Option (List String) :=
  match path.anchor with
  | .relative => some (store.current ++ path.parts)
  | .root | .doubled => if store.base = "" then some path.parts else none

/-- The last component of a name below the directory, if the name lies right below it. -/
def childOf? (directory names : List String) : Option String :=
  if names.dropLast = directory then names.getLast? else none

/-- The names right below a directory, sorted. -/
def children (store : Store) (directory : List String) : List String :=
  ((store.entries.map (·.1)).filterMap (childOf? directory)).eraseDups.mergeSort
    fun a b => decide (a ≤ b)

def depth (store : Store) : Nat :=
  (store.entries.map (·.1.length)).foldl max 0

def put (store : Store) (names : List String) (entry : Entry) : Store :=
  { store with entries := (names, entry) :: store.entries.filter (·.1 != names) }

end Store

end SourceCensus
