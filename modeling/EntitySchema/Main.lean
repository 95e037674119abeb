import EntitySchema.CommandLine.Run
import Std.Time.Format

/-! The program. What a run needs of the file system is read beforehand, the run itself is pure, and
what it changed is written afterwards. -/
namespace EntitySchema.Main

open Files (Node Path Store)

def entry (key : List String) : IO.FS.DirEntry :=
  let text := match key with
    | "/" :: r => "/" ++ "/".intercalate r
    | "//" :: r => "//" ++ "/".intercalate r
    | r => "/".intercalate r
  { root := ".", fileName := text }

/-- What is found under a key. The bytes of a locked file stay unknown. -/
def probe (key : List String) : IO (Option Node) := do
  let path := (entry key).path
  if ← path.isDir then return some .directory
  if ← path.pathExists then
    try return some (.file (← IO.FS.readBinFile path).toList)
    catch _ => return some (.locked [])
  return none

def visit (store : Store) (path : Path) : IO Store := do
  let root := match path.origin with
    | .root mark => [mark]
    | _ => []
  let mut store := if root = [] then store else store.set root .directory
  let mut here := root
  for step in path.steps do
    here := Store.stepTo here step
    match ← probe here with
    | some node => store := store.set here node
    | none => return store
  return store

/-- The paths that a run may touch, as far as they are known before settings are loaded. -/
def configPaths (working : Path) (words : List String) : List Path :=
  match CommandLine.Arguments.read words with
  | .ok a =>
    match a.configFile? with
    | some file => [file]
    | none => Settings.defaultNames.map working.child
  | .error _ => []

def dataPaths (store : Store) (working : Path) (words : List String) : List Path :=
  match CommandLine.Arguments.read words with
  | .ok a =>
    match (CommandLine.loadSettings store working a).1 with
    | .ok settings => (settings.jdlFile.toList ++ settings.output?.toList).map Path.ofText
    | .error _ => []
  | .error _ => []

/-- Carries out what a run changed: new directories, and files that are put in place whole. -/
def carryOut (before after : Store) : IO Unit := do
  for (key, node) in after.nodes do
    if before.node? key != some node then
      match node with
      | .directory => IO.FS.createDir (entry key).path
      | .file bytes | .locked bytes =>
        let draft := key.dropLast ++ ["." ++ key.getLastD "" ++ ".tmp"]
        IO.FS.writeBinFile (entry draft).path (ByteArray.mk bytes.toArray)
        IO.FS.rename (entry draft).path (entry key).path

def timeOfDay : IO String := do
  try
    let now ← Std.Time.PlainDateTime.now
    return now.format "HH:mm:ss"
  catch _ => return "00:00:00"

def run (words : List String) : IO UInt32 := do
  let directory := (← IO.currentDir).toString
  let working : Path := ⟨.named directory, []⟩
  let before ← (configPaths working words).foldlM visit {}
  let before ← (dataPaths before working words).foldlM visit before
  let outcome := CommandLine.run before working words
  carryOut before outcome.store
  (← IO.getStdout).putStr outcome.output
  let errors ← IO.getStderr
  errors.putStr (outcome.errorText (← timeOfDay))
  match outcome.exit with
  | .ok exit => return UInt32.ofNat exit.code
  | .error crash =>
    errors.putStrLn crash.message
    return 1

end EntitySchema.Main

def main (words : List String) : IO UInt32 := EntitySchema.Main.run words
