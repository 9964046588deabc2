import SourceCensus.Store.Follow

/-! # Writing to a store -/

namespace SourceCensus.Store

def makeDirectory (store : Store) (names : List String) : Except Cause Store :=
  match names.getLast? with
  | none => .error .exists
  | some last => do
    let parent ← store.locate names.dropLast
    if store.entry? parent ≠ some .directory then throw .notDirectory
    if nameLimit < last.utf8ByteSize then throw .nameTooLong
    if last = "." || last = ".." || (store.entry? (parent ++ [last])).isSome then throw .exists
    return store.put (parent ++ [last]) .directory

def orThere (store : Store) (names : List String) (made : Except Cause Store) :
    Except Cause Store :=
  match made with
  | .ok changed => .ok changed
  | .error cause => if store.isDirectory names then .ok store else .error cause

/-- Makes a directory and all that are missing above it, `count` components below `start`.  A fault
comes with the number of components of the path at fault. -/
def makeDirectories (store : Store) (start parts : List String) : Nat → Except (Cause × Nat) Store
  | 0 =>
    (store.orThere start (store.makeDirectory start)).mapError fun cause => (cause, 0)
  | count + 1 =>
    let names := start ++ parts.take (count + 1)
    match store.makeDirectory names with
    | .error .noEntry => do
      let above ← makeDirectories store start parts count
      (above.orThere names (above.makeDirectory names)).mapError fun cause => (cause, count + 1)
    | made => (store.orThere names made).mapError fun cause => (cause, count + 1)

/-- Writes a file.  A link is followed, also to a place where nothing stands yet. -/
def write (store : Store) (names : List String) (content : List UInt8) : Except Cause Store := do
  match ← store.follow true linkLimit [] names with
  | .vacant directory name => return store.put (directory ++ [name]) (.file content)
  | .entry found =>
    if store.entry? found = some .directory then throw .isDirectory
    return store.put found (.file content)

/-- Why a text cannot be saved at a path. -/
inductive SaveFault where
  | access (fault : AccessFault)
  | invalidPath (fault : PathFault)
  deriving DecidableEq, Repr

def startOf? (store : Store) (path : Path) : Option (List String) :=
  store.namesOf? { path with parts := [] }

/-- Makes the directory of a path and all that are missing above it. -/
def prepare (store : Store) (path : Path) : Except AccessFault Store :=
  match store.startOf? path with
  | none => .error ⟨.noEntry, path.text⟩
  | some start =>
    if path.isTooLong then .error ⟨.nameTooLong, path.text⟩
    else
      (store.makeDirectories start path.parts path.parts.length).mapError fun (cause, count) =>
        ⟨cause, { path with parts := path.parts.take count }.text⟩

def writeAt (store : Store) (path : Path) (content : List UInt8) : Except AccessFault Store :=
  match store.namesOf? path with
  | none => .error ⟨.noEntry, path.text⟩
  | some names =>
    if path.isTooLong then .error ⟨.nameTooLong, path.text⟩
    else (store.write names content).mapError fun cause => ⟨cause, path.text⟩

/-- Saves a file at a path, making the directories above it where they are missing. -/
def save (store : Store) (path : Path) (content : List UInt8) : Except SaveFault Store := do
  if path.parent.hasNull then throw (.invalidPath .nullInPath)
  let prepared ← (store.prepare path.parent).mapError .access
  if path.hasNull then throw (.invalidPath .nullInPath)
  (prepared.writeAt path content).mapError .access

def link (store : Store) (names : List String) (target : String) : Except Cause Store := do
  let parent ← store.locate names.dropLast
  let place := parent ++ names.getLast?.toList
  if (store.entry? place).isSome then throw .exists
  return store.put place (.link target)

/-- The store with one more entry of a tree, its parents made where they are missing.  An entry that
cannot be made is left out. -/
def plant (store : Store) (path : String) (entry : Entry) : Store :=
  let parts := (Path.ofText path).parts
  let names := store.current ++ parts
  let prepared := (store.makeDirectories store.current parts (parts.length - 1)).toOption.getD store
  let made := match entry with
    | .file content => prepared.write names content
    | .directory => prepared.orThere names (prepared.makeDirectory names)
    | .link target => prepared.link names target
  made.toOption.getD prepared

end SourceCensus.Store
