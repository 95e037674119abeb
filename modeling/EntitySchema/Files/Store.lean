import EntitySchema.Calendar
import EntitySchema.Dict
import EntitySchema.Files.Path
import EntitySchema.Text.Quoted
import EntitySchema.Text.Utf8

/-! A store of files and directories, and the ways in which it refuses to read and to write. -/
namespace EntitySchema.Files

inductive Node where
  | directory
  | file (bytes : List UInt8)
  /-- A file that is there, but that may not be opened. -/
  | locked (bytes : List UInt8)
  deriving DecidableEq, Repr

/-- Files and directories by their steps from the working directory, which is always there. -/
structure Store where
  nodes : List (List String × Node) := []
  /-- The number of bytes that a file may have, if there is a limit. -/
  longestFile : Option Nat := none
  deriving DecidableEq, Repr

inductive Refusal where
  | notFound (path : Path)
  | notDirectory (path : Path)
  | isDirectory (path : Path)
  | denied (path : Path)
  | exists (path : Path)
  | tooLong (path : Path)
  /-- The name of the draft that is to take the place of a file is too long. -/
  | draftTooLong
  /-- A file cannot take the place of a directory. -/
  | replacesDirectory (path : Path)
  /-- A file cannot take the place of a directory that is named by no step. -/
  | replacesOrigin (path : Path)
  /-- More bytes than a file may have. -/
  | tooLarge
  /-- A path that no store can have. -/
  | unusable
  deriving DecidableEq, Repr

namespace Refusal

/-- The text of a refusal. The draft that was to take the place of a file has no name of its own. -/
def message : Refusal → String
  | notFound p => "[Errno 2] No such file or directory: " ++ Text.quoted p.text
  | notDirectory p => "[Errno 20] Not a directory: " ++ Text.quoted p.text
  | isDirectory p => "[Errno 21] Is a directory: " ++ Text.quoted p.text
  | denied p => "[Errno 13] Permission denied: " ++ Text.quoted p.text
  | .exists p => "[Errno 17] File exists: " ++ Text.quoted p.text
  | tooLong p => "[Errno 36] File name too long: " ++ Text.quoted p.text
  | draftTooLong => "[Errno 36] File name too long: '<tmp>'"
  | replacesDirectory p => "[Errno 21] Is a directory: '<tmp>' -> " ++ Text.quoted p.text
  | replacesOrigin p => "[Errno 16] Device or resource busy: '<tmp>' -> " ++ Text.quoted p.text
  | tooLarge => "[Errno 27] File too large"
  | unusable => "embedded null byte"

end Refusal

namespace Store

/-- Whether a key stands for a directory that every store has: the working directory, one above it,
or a root. -/
def isGiven (key : List String) : Bool := key.all (· == "..") || key == ["/"] || key == ["//"]

def node? (s : Store) (key : List String) : Option Node :=
  if isGiven key then some .directory else s.nodes.lookup key

def set (s : Store) (key : List String) (n : Node) : Store :=
  if isGiven key then s else { s with nodes := setEntry key n s.nodes }

def erase (s : Store) (key : List String) : Store :=
  { s with nodes := s.nodes.filter (·.1 != key) }

/-- One step on: `..` leads back, out of the working directory where there is no way back, and from a
root nowhere. -/
def stepTo (here : List String) (step : String) : List String :=
  if step = ".." then
    if here = ["/"] ∨ here = ["//"] then here
    else if isGiven here then here ++ [step]
    else here.dropLast
  else here ++ [step]

def longestName : Nat := 255

def longestPath : Nat := 4095

/-- Goes through directories to where the steps lead, whatever is there. A refusal names the path
that was asked for. -/
def walk (s : Store) (p : Path) (here : List String) : List String → Except Refusal (List String)
  | [] => .ok here
  | step :: r =>
    match s.node? here with
    | some .directory =>
      if longestName < step.utf8ByteSize then .error (.tooLong p) else walk s p (stepTo here step) r
    | some (.file _) | some (.locked _) => .error (.notDirectory p)
    | none => .error (.notFound p)

/-- The key that a path stands for, when the way to it is through directories. -/
def locate (s : Store) (p : Path) : Except Refusal (List String) :=
  if p.text.toList.contains '\x00' then .error .unusable
  else if longestPath < p.text.utf8ByteSize then .error (.tooLong p)
  else match p.origin with
    | .root mark => walk s p [mark] p.steps
    | _ => walk s p [] p.steps

/-- What is at a path, if anything is. Only a path that is too long is refused. -/
def look (s : Store) (p : Path) : Except Refusal (Option Node) :=
  match s.locate p with
  | .ok key => .ok (s.node? key)
  | .error (.tooLong q) => .error (.tooLong q)
  | .error _ => .ok none

def «exists» (s : Store) (p : Path) : Except Refusal Bool := (s.look p).map (·.isSome)

def isFile (s : Store) (p : Path) : Except Refusal Bool :=
  (s.look p).map fun n => match n with
    | some (.file _) | some (.locked _) => true
    | _ => false

def isDirectory (s : Store) (p : Path) : Except Refusal Bool :=
  (s.look p).map (· == some .directory)

def readBytes (s : Store) (p : Path) : Except Refusal (List UInt8) := do
  match s.node? (← s.locate p) with
  | some (.file bytes) => return bytes
  | some (.locked _) => throw (.denied p)
  | some .directory => throw (.isDirectory p)
  | none => throw (.notFound p)

/-- Why a text cannot be read or written: the store refuses, the bytes that are there encode no text,
or the text has halves of surrogate pairs, which have no encoding. -/
inductive Fault where
  | refused (r : Refusal)
  | undecodable (f : Text.Utf8.Fault)
  | unencodable
  deriving DecidableEq, Repr

def Fault.message : Fault → String
  | .refused r => r.message
  | .undecodable f => f.message
  | .unencodable => "surrogates not allowed"

/-- Reads a text, with all line ends as line feeds. -/
def readText (s : Store) (p : Path) : Except Fault (List Char) := do
  let bytes ← (s.readBytes p).mapError .refused
  return Text.unifyLineFeeds (← (Text.Utf8.decode bytes).mapError .undecodable)

def makeDirectory (s : Store) (p : Path) : Except Refusal Store := do
  let key ← s.locate p
  match s.node? key with
  | some _ => throw (.exists p)
  | none => return s.set key .directory

def ensureDirectory (s : Store) (p : Path) : Except Refusal Store :=
  match s.makeDirectory p with
  | .error (.exists q) => (s.isDirectory p).bind fun there =>
      if there then .ok s else .error (.exists q)
  | result => result

/-- A result, and the store as it is then: a step that fails may leave traces. -/
structure Written (α : Type) where
  store : Store
  result : Except Refusal α
  deriving Repr

/-- What a change comes to; a refused one leaves the store as it is. -/
def Written.ofChange (s : Store) : Except Refusal Store → Written Unit
  | .ok s => ⟨s, .ok ()⟩
  | .error e => ⟨s, .error e⟩

/-- Makes a directory and the directories on the way to it, unless they are there; `fuel` bounds the
number of those. -/
def makeDirectoriesWithin : Nat → Store → Path → Written Unit
  | 0, s, p => .ofChange s (s.ensureDirectory p)
  | fuel + 1, s, p =>
    match s.ensureDirectory p with
    | .error (.notFound _) =>
      let above := makeDirectoriesWithin fuel s p.parent
      match above.result with
      | .ok _ => .ofChange above.store (above.store.ensureDirectory p)
      | .error _ => above
    | result => .ofChange s result

def makeDirectories (s : Store) (p : Path) : Written Unit :=
  makeDirectoriesWithin p.steps.length s p

/-- Puts bytes into the file at a key, of too many as many as it may have. -/
def fill (s : Store) (key : List String) (bytes : List UInt8) : Written Unit :=
  let kept := bytes.take (s.longestFile.getD bytes.length)
  ⟨s.set key (.file kept), if kept = bytes then .ok () else .error .tooLarge⟩

/-- The number of bytes that a draft's name has more than the name of its file. -/
def draftExcess : Nat := 14

/-- The hidden name of a draft for a file of the given name. The number tells drafts apart. -/
def draftName (name : String) (n : Nat) : String := "." ++ name ++ "." ++ zeroPadded 8 n ++ ".tmp"

/-- A key beside the file at `p` that nothing is at, for a draft of the file. -/
def draftKey (s : Store) (p : Path) : Except Refusal (List String) :=
  if p.text.toList.contains '\x00' then .error .unusable
  else if longestName < p.name.utf8ByteSize + draftExcess then .error .draftTooLong
  else match s.locate p.parent with
    | .error e => .error e
    | .ok directory =>
      let keys := (List.range (s.nodes.length + 1)).map fun n => directory ++ [draftName p.name n]
      match keys.find? fun key => (s.node? key).isNone with
      | some key => .ok key
      | none => .error (.exists p)

def moveTo (s : Store) (source : List String) (p : Path) : Except Refusal Store :=
  match s.locate p with
  | .error e => .error e
  | .ok key =>
    if p.steps = [] ∨ p.name = ".." then .error (.replacesOrigin p)
    else match s.node? key, s.node? source with
      | some .directory, _ => .error (.replacesDirectory p)
      | _, some moved => .ok ((s.erase source).set key moved)
      | _, none => .error (.notFound p)

/-- Puts bytes in the place of the file at `p`, by way of a draft beside it. A draft that cannot hold
them or take the place is taken away again. -/
def replace (s : Store) (p : Path) (bytes : List UInt8) : Written Unit :=
  match s.draftKey p with
  | .error e => ⟨s, .error e⟩
  | .ok draft =>
    let opened := s.set draft (.file [])
    let filled := opened.fill draft bytes
    match filled.result.bind fun _ => filled.store.moveTo draft p with
    | .ok moved => ⟨moved, .ok ()⟩
    | .error e => ⟨filled.store.erase draft, .error e⟩

def overwrite (s : Store) (p : Path) (bytes : List UInt8) : Written Unit :=
  match s.locate p with
  | .error e => ⟨s, .error e⟩
  | .ok key =>
    match s.node? key with
    | some .directory => ⟨s, .error (.isDirectory p)⟩
    | some (.locked _) => ⟨s, .error (.denied p)⟩
    | _ => s.fill key bytes

/-- Writes a text as UTF-8 and makes the directories on the way; the answer is the number of bytes.
An atomic write puts a whole new file in the place of the old one. -/
def writeText (s : Store) (p : Path) (content : List Char) (atomic : Bool) : Written Nat :=
  let bytes := Text.Utf8.encode content
  let made := s.makeDirectories p.parent
  match made.result with
  | .error e => ⟨made.store, .error e⟩
  | .ok _ =>
    let put := if atomic then made.store.replace p bytes else made.store.overwrite p bytes
    ⟨put.store, put.result.map fun _ => bytes.length⟩

end Store

end EntitySchema.Files
