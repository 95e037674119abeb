import EntitySchema.Files.Store
import EntitySchema.Jdl.Parse

/-! Parsing of files. -/
namespace EntitySchema.Jdl

open Files (Path Refusal Store)

inductive FileFault where
  | notFound (path : Path)
  | notFile (path : Path)
  | unreadable (f : Store.Fault)
  deriving DecidableEq, Repr

def FileFault.message : FileFault → String
  | .notFound p => "JDL file not found: " ++ p.text
  | .notFile p => "JDL path is not a file: " ++ p.text
  | .unreadable f => f.message

def parseFile (store : Store) (path : Path) : Except FileFault Parsed := do
  let refused {α : Type} (a : Except Refusal α) : Except FileFault α :=
    a.mapError fun r => .unreadable (.refused r)
  if !(← refused (store.exists path)) then throw (.notFound path)
  if !(← refused (store.isFile path)) then throw (.notFile path)
  return parse (← (store.readText path).mapError .unreadable)

end EntitySchema.Jdl
