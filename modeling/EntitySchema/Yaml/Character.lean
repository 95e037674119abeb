/-! Classes of characters in YAML. -/
namespace EntitySchema.Yaml

def isBreak (c : Char) : Bool :=
  c == '\n' || c.toNat == 0x85 || c.toNat == 0x2028 || c.toNat == 0x2029

/-- A character that ends a line, alone or before a line feed. -/
def isLineEnd (c : Char) : Bool := isBreak c || c == '\r'

def isSpacing (c : Char) : Bool := isLineEnd c || c == '\x00' || c == ' ' || c == '\t'

def startsWithSpacing : List Char → Bool
  | c :: _ => isSpacing c
  | [] => true

def isPrintable (c : Char) : Bool :=
  let n := c.toNat
  n == 9 || n == 10 || n == 13 || (0x20 ≤ n && n ≤ 0x7e) || n == 0x85 || (0xa0 ≤ n && n ≤ 0xfffd) ||
    0x10000 ≤ n

/-- Whether the mark of a document's start or end stands at the head of a line. -/
def startsWithMarker : List Char → Bool
  | '-' :: '-' :: '-' :: r | '.' :: '.' :: '.' :: r => startsWithSpacing r
  | _ => false

/-- The end of a line at the head of a text: the character that it counts as, and the rest. -/
def readBreak? : List Char → Option (Char × List Char)
  | '\r' :: '\n' :: r => some ('\n', r)
  | c :: r =>
    if c = '\r' ∨ c = '\n' ∨ c.toNat = 0x85 then some ('\n', r)
    else if isBreak c then some (c, r)
    else none
  | [] => none

theorem readBreak?_length {s r : List Char} {c : Char} (h : readBreak? s = some (c, r)) :
    r.length < s.length := by
  unfold readBreak? at h
  grind

end EntitySchema.Yaml
