import SourceCensus.Command.Execution

/-! # The program -/

namespace SourceCensus

def placeOf (text : String) : List String :=
  (Path.ofText text).parts

def placeText (names : List String) : String :=
  "/" ++ "/".intercalate names

def above (names : List String) : List (List String × Entry) :=
  (List.range names.length).filterMap fun count =>
    if count = 0 then none else some (names.take count, .directory)

def surveyEntry (names : List String) : IO (List (List String × Entry)) := do
  try
    let place := placeText names
    let parent ← IO.FS.realPath (placeText names.dropLast)
    match (← (parent / names.getLast?.getD ".").symlinkMetadata).type with
    | .dir => return [(names, .directory)]
    | .file => return [(names, .file (← IO.FS.readBinFile place).toList)]
    | .other => return []
    | .symlink =>
      let target := (← IO.FS.realPath place).toString
      let leadsTo := placeOf target
      let found ← match (← (← IO.FS.realPath place).metadata).type with
        | .dir => pure [(leadsTo, Entry.directory)]
        | .file => pure [(leadsTo, Entry.file (← IO.FS.readBinFile place).toList)]
        | _ => pure []
      return (names, .link target) :: above leadsTo ++ found
  catch _ => return []

def surveyNames (names : List String) : IO (List String) := do
  try
    let found ← (← IO.FS.realPath (placeText names)).readDir
    return found.toList.map (·.fileName)
  catch _ => return []

partial def surveyTree (names : List String) : IO (List (List String × Entry)) := do
  let mut found := []
  for name in ← surveyNames names do
    let child := names ++ [name]
    let own ← surveyEntry child
    found := found ++ own
    if own.contains (child, .directory) then
      found := found ++ (← surveyTree child)
  return found

def surveyWay (names : List String) : IO (List (List String × Entry)) := do
  let mut found := []
  for count in List.range names.length do
    found := found ++ (← surveyEntry (names.take (count + 1)))
  return found

def realPlace (text : String) : IO (List String) := do
  try
    return placeOf (← IO.FS.realPath text).toString
  catch _ => return placeOf text

def snapshot (options : Command.Options) : IO Store := do
  let current := placeOf (← IO.currentDir).toString
  let store : Store := ⟨"", current, []⟩
  let wayTo (text : String) : IO (List (List String × Entry)) :=
    surveyWay ((store.namesOf? (Path.ofText text)).getD [])
  let given ← wayTo options.path
  let output ← wayTo (options.output.getD ".")
  let root ← realPlace options.path
  let tree ← surveyTree root
  return { store with entries := above current ++ given ++ above root ++ output ++ tree }

def writeChanges (before after : Store) : IO Unit := do
  for (names, entry) in after.entries.reverse do
    unless before.entries.contains (names, entry) do
      match entry with
      | .directory => IO.FS.createDirAll (placeText names)
      | .file content => IO.FS.writeBinFile (placeText names) ⟨content.toArray⟩
      | .link _ => pure ()

def usageText : String :=
  "usage: cm [-h] \x7b" ++ ",".intercalate (Command.Task.all.map Command.Task.name) ++ "\x7d ..."

/-- Carries out a command line and gives the exit code. -/
def runProgram (arguments : List String) : IO UInt32 := do
  let start ← IO.monoMsNow
  let before ← match Command.readRequest arguments with
    | .ok request => snapshot request.options
    | .error _ => do
      IO.eprintln usageText
      pure ⟨"", [], []⟩
  let elapsed := (← IO.monoMsNow) - start
  let run := Command.execute elapsed before arguments
  for notice in run.notices do
    unless notice.level.rank < Level.info.rank do
      IO.eprintln (notice.level.label ++ " " ++ notice.message)
  match run.outcome with
  | .error fault =>
    IO.eprintln (fault.message?.getD "a rule is not understood")
    return 1
  | .ok outcome =>
    IO.print outcome.output
    IO.eprint outcome.errors
    for message in outcome.usage do
      IO.eprintln message
    try
      writeChanges before outcome.store
      return outcome.exit.code.toUInt32
    catch failure =>
      IO.eprintln (toString failure)
      return Command.Exit.failure.code.toUInt32

end SourceCensus

/-- The program. -/
def main (arguments : List String) : IO UInt32 :=
  SourceCensus.runProgram arguments
