import EntitySchema.Text.Surrogate
import EntitySchema.Text.Utf8
import EntitySchema.Yaml.Token.Basic

/-! Anchors, aliases, tags and directives. -/
namespace EntitySchema.Yaml.Property

def isNameChar (c : Char) : Bool := c.isAlphanum || c == '-' || c == '_'

def readName : Reader String := fun s =>
  let (name, rest) := s.span isNameChar
  let isEnd := match rest with
    | c :: _ => isSpacing c || "?:,]\x7d%@`".toList.contains c
    | [] => true
  if name = [] || !isEnd then Offence.badToken.raise else .ok (String.ofList name, rest)

def isUriChar (c : Char) : Bool :=
  c.isAlphanum || "-;/?:@&=+$,_.!~*'()[]".toList.contains c

/-- Reads octets that are each given by a percent sign and two hexadecimal digits. -/
def readOctets : List Char → Except Fault (List UInt8 × List Char)
  | '%' :: a :: b :: r =>
    match Text.hexValue? [a, b] with
    | some n => (readOctets r).map fun (bytes, rest) => (UInt8.ofNat n :: bytes, rest)
    | none => Offence.badToken.raise
  | '%' :: _ => Offence.badToken.raise
  | s => .ok ([], s)

def readUriFrom (fuel : Nat) (s : List Char) : Except Fault (List Char × List Char) :=
  match fuel with
  | 0 => .ok ([], s)
  | fuel + 1 =>
    match s with
    | '%' :: _ => do
      let (bytes, rest) ← readOctets s
      match Text.Utf8.decode bytes with
      | .ok cs =>
        let (more, rest) ← readUriFrom fuel rest
        return (cs ++ more, rest)
      | .error _ => Offence.badToken.raise
    | c :: r =>
      if isUriChar c then (readUriFrom fuel r).map fun (more, rest) => (c :: more, rest)
      else .ok ([], s)
    | [] => .ok ([], [])

def readUri : Reader String := fun s => do
  match ← readUriFrom (s.length + 1) s with
  | ([], _) => Offence.badToken.raise
  | (cs, rest) => return (String.ofList cs, rest)

/-- Reads a handle: `!`, or a name between two of them. -/
def readHandle : Reader String
  | '!' :: r =>
    let (name, rest) := r.span isNameChar
    match rest with
    | '!' :: after => .ok (String.ofList ('!' :: name ++ ['!']), after)
    | _ => if name = [] ∧ r.head? = some ' ' then .ok ("!", r) else Offence.badToken.raise
  | _ => Offence.badToken.raise

/-- Reads a tag from behind its exclamation mark on: an address in angle brackets, the mark alone,
or a handle with a suffix. -/
def readTag (r : List Char) : Except Fault (Token × List Char) := do
  let (token, rest) ← match r with
    | '<' :: r => do
      let (suffix, rest) ← readUri r
      match rest with
      | '>' :: rest => pure (Token.tag none suffix, rest)
      | _ => Offence.badToken.raise
    | _ =>
      if startsWithSpacing r then pure (Token.tag none "!", r)
      else if (r.takeWhile (!isSpacing ·)).contains '!' then do
        let (handle, rest) ← readHandle ('!' :: r)
        let (suffix, rest) ← readUri rest
        pure (Token.tag (some handle) suffix, rest)
      else do
        let (suffix, rest) ← readUri r
        pure (Token.tag (some "!") suffix, rest)
  if atSpaceOrLineEnd rest then return (token, rest) else Offence.badToken.raise

def readNumber : Reader Nat := fun s =>
  match s.span Char.isDigit with
  | ([], _) => Offence.badToken.raise
  | (ds, rest) => ((Number.ofDigits ds).mapError .tooLong).map fun n => (n, rest)

def readDirective (s : List Char) : Except Fault (Token × List Char) := do
  let (name, s) := s.span isNameChar
  if name = [] || !atSpaceOrLineEnd s then Offence.badToken.raise
  let (directive, s) ← match String.ofList name with
    | "YAML" => do
      let (major, s) ← readNumber (afterSpaces s)
      match s with
      | '.' :: s => do
        let (minor, s) ← readNumber s
        if atSpaceOrLineEnd s then pure (Directive.version major minor, s)
        else Offence.badToken.raise
      | _ => Offence.badToken.raise
    | "TAG" => do
      let (handle, s) ← readHandle (afterSpaces s)
      if s.head? ≠ some ' ' then Offence.badToken.raise
      let (expansion, s) ← readUri (afterSpaces s)
      if atSpaceOrLineEnd s then pure (Directive.handle handle expansion, s)
      else Offence.badToken.raise
    | _ => pure (Directive.other, (takeLine s).2)
  return (.directive directive, ← afterEmptyLine s)

end EntitySchema.Yaml.Property
