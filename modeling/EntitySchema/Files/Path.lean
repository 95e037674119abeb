import EntitySchema.Text.Lines

/-! Paths of files, as they are written and as steps from a directory. -/
namespace EntitySchema.Files

/-- Where the steps of a path start: in the working directory, which a path may also name in full,
or at a root. -/
inductive Origin where
  | working
  | named (directory : String)
  | root (mark : String)
  deriving DecidableEq, Repr

structure Path where
  origin : Origin := .working
  steps : List String
  deriving DecidableEq, Repr

namespace Path

/-- Reads a path. Repeated slashes count once and single dots for nothing; only two slashes at the
start, no more and no fewer, are a root of their own. -/
def ofText (s : String) : Path :=
  let steps := ((Text.splitAll (· == '/') s.toList).map String.ofList).filter fun t =>
    t != "" && t != "."
  let origin := match s.toList with
    | '/' :: '/' :: '/' :: _ => .root "/"
    | '/' :: '/' :: _ => .root "//"
    | '/' :: _ => .root "/"
    | _ => .working
  ⟨origin, steps⟩

def text (p : Path) : String :=
  let steps := "/".intercalate p.steps
  match p.origin with
  | .working => if p.steps = [] then "." else steps
  | .named directory => if p.steps = [] then directory else directory ++ "/" ++ steps
  | .root mark => mark ++ steps

def name (p : Path) : String := p.steps.getLastD ""

def parent (p : Path) : Path := { p with steps := p.steps.dropLast }

def child (p : Path) (step : String) : Path := { p with steps := p.steps ++ [step] }

/-- The end of the name from its last dot on, unless the dot is the name's first or last
character. -/
def suffix (p : Path) : String :=
  match p.name.toList.reverse.span (· != '.') with
  | ([], _) | (_, []) | (_, [_]) => ""
  | (tail, dot :: _) => String.ofList (dot :: tail.reverse)

end Path

end EntitySchema.Files
