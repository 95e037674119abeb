import EntitySchema.Text.Surrogate
import EntitySchema.Yaml.Token.Basic

/-! Scalars in quotes. -/
namespace EntitySchema.Yaml.Quoted

def unescaped? (c : Char) : Option Char :=
  match c with
  | '0' => some '\x00'
  | 'a' => some '\x07'
  | 'b' => some '\x08'
  | 't' | '\t' => some '\t'
  | 'n' => some '\n'
  | 'v' => some '\x0b'
  | 'f' => some '\x0c'
  | 'r' => some '\r'
  | 'e' => some '\x1b'
  | ' ' | '"' | '\\' | '/' => some c
  | 'N' => some '\u0085'
  | '_' => some '\u00a0'
  | 'L' => some '\u2028'
  | 'P' => some '\u2029'
  | _ => none

def codeLength? (c : Char) : Option Nat :=
  match c with
  | 'x' => some 2
  | 'u' => some 4
  | 'U' => some 8
  | _ => none

def readCode (n : Nat) : Reader Nat := fun s =>
  match Text.hexValue? (s.take n) with
  | some code =>
    if s.length < n then Offence.badToken.raise
    else if 0x80000000 ≤ code then .error .codeTooLarge
    else if 0x110000 ≤ code then .error .codeOutOfRange
    else .ok (code, s.drop n)
  | none => Offence.badToken.raise

/-- Reads the ends of line at the head of a line, and the blanks around them. No marker may start a
line. -/
def readBreaks (s : List Char) : Except Fault (List Char × List Char) :=
  if startsWithMarker s then Offence.unclosedQuote.raise
  else
    let t := s.dropWhile fun c => c == ' ' || c == '\t'
    match h : readBreak? t with
    | some (c, rest) =>
      have : rest.length < s.length :=
        Nat.lt_of_lt_of_le (readBreak?_length h) (List.dropWhile_suffix _).length_le
      (readBreaks rest).map fun (breaks, rest) => (c :: breaks, rest)
    | none => .ok ([], t)
termination_by s.length

/-- Reads blanks and ends of line between words: blanks alone stay, an end of line counts as a
space, and further ones as line feeds. -/
def readGap : Reader (List Char) := fun s => do
  let (blanks, s) := s.span fun c => c == ' ' || c == '\t'
  match readBreak? s with
  | none => return (blanks, s)
  | some (c, rest) =>
    let (breaks, rest) ← readBreaks rest
    let first := if c ≠ '\n' then [c] else if breaks = [] then [' '] else []
    return (first ++ breaks, rest)

def codes (s : List Char) : List Nat := s.map Char.toNat

def readEscape : Reader (List Nat)
  | [] => Offence.badToken.raise
  | c :: r =>
    match unescaped? c, codeLength? c with
    | some x, _ => .ok ([x.toNat], r)
    | none, some n => (readCode n r).map fun (code, rest) => ([code], rest)
    | none, none =>
      if isLineEnd c then (readBreaks (afterBreak (c :: r))).map fun (x, rest) => (codes x, rest)
      else Offence.badToken.raise

/-- What a piece of a scalar stands for, and the rest; nothing at the closing quote. -/
def readPiece (quote : Char) : List Char → Except Fault (Option (List Nat) × List Char)
  | [] => Offence.unclosedQuote.raise
  | c :: r =>
    if c = quote then
      match r with
      | d :: rest =>
        if quote = '\'' ∧ d = '\'' then .ok (some [d.toNat], rest) else .ok (none, r)
      | [] => .ok (none, [])
    else if c = '\\' ∧ quote = '"' then (readEscape r).map fun (x, rest) => (some x, rest)
    else if c = ' ' ∨ c = '\t' ∨ isLineEnd c then
      (readGap (c :: r)).map fun (x, rest) => (some (codes x), rest)
    else .ok (some [c.toNat], r)

def readPieces (quote : Char) (fuel : Nat) (s : List Char) :
    Except Fault (List Nat × List Char) := do
  match fuel, ← readPiece quote s with
  | _, (none, rest) => return ([], rest)
  | 0, _ => Offence.badToken.raise
  | fuel + 1, (some piece, rest) =>
    let (more, rest) ← readPieces quote fuel rest
    return (piece ++ more, rest)

def read (quote : Char) (s : List Char) : Except Fault (List Nat × List Char) :=
  readPieces quote s.length s

end EntitySchema.Yaml.Quoted
