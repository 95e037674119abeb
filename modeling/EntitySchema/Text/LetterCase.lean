import EntitySchema.Text.Ranges
import EntitySchema.Text.Tables.Cased
import EntitySchema.Text.Tables.CaseMap

/-! Letter case of whole texts: some characters have several letters as their counterpart, and the
small sigma has a form of its own at the end of a word. -/
namespace EntitySchema.Text

def runTarget? (runs : List CaseRun) (n : Nat) : Option Nat :=
  (runs.find? fun r => r.first ≤ n && n ≤ r.last && (n - r.first) % r.step == 0).map
    fun r => ((n : Int) + r.offset).toNat

/-- The lower-case counterpart of a character that stands alone. -/
def lowerChar (c : Char) : List Char :=
  if c.toNat < 128 then [c.toLower]
  else if c.toNat = 0x130 then ['i', Char.ofNat 0x307]
  else match runTarget? lowerRuns c.toNat with
    | some n => [Char.ofNat n]
    | none => [c]

def upperChar (c : Char) : List Char :=
  if c.toNat < 128 then [c.toUpper]
  else match upperExpansions.lookup c.toNat with
    | some ns => ns.map Char.ofNat
    | none => match runTarget? upperRuns c.toNat with
      | some n => [Char.ofNat n]
      | none => [c]

def isUpper (c : Char) : Bool :=
  if c.toNat < 128 then c.isUpper else inStrides upperStrides c.toNat

/-- A character with a case, of those that end the search for a neighbour of a sigma. -/
def isCased (c : Char) : Bool :=
  if c.toNat < 128 then c.isAlpha else inRanges casedRanges c.toNat

def isCaseIgnorable (c : Char) : Bool := inRanges caseIgnorableRanges c.toNat

def meetsCased (s : List Char) : Bool :=
  match s.dropWhile isCaseIgnorable with
  | c :: _ => isCased c
  | [] => false

/-- `lower` of a text that follows the reverse of `before`. -/
def lowerAfter (before : List Char) : List Char → List Char
  | [] => []
  | c :: r =>
    (if c.toNat = 0x3a3 then
      [if meetsCased before && !meetsCased r then Char.ofNat 0x3c2 else Char.ofNat 0x3c3]
    else lowerChar c) ++ lowerAfter (c :: before) r

/-- The text in lower case. A capital sigma that ends a word becomes the final form. -/
def lower (s : List Char) : List Char := lowerAfter [] s

def upper (s : List Char) : List Char := s.flatMap upperChar

def lowered (s : String) : String := String.ofList (lower s.toList)

end EntitySchema.Text
