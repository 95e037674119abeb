import EntitySchema.Text.Ranges
import EntitySchema.Text.Tables.Printable

/-! Quoted literals for messages: the quote is chosen to avoid escapes, and characters without a
printed form are escaped by code point. -/
namespace EntitySchema.Text

def isPrintable (c : Char) : Bool :=
  if c.toNat < 128 then 32 ≤ c.toNat && c.toNat < 127 else !inRanges unprintableRanges c.toNat

def hexPadded (width n : Nat) : List Char :=
  let digits := Nat.toDigits 16 n
  List.replicate (width - digits.length) '0' ++ digits

def escaped (quote c : Char) : List Char :=
  if c = quote || c = '\\' then ['\\', c]
  else if c = '\n' then ['\\', 'n']
  else if c = '\r' then ['\\', 'r']
  else if c = '\t' then ['\\', 't']
  else if isPrintable c then [c]
  else if c.toNat < 0x100 then '\\' :: 'x' :: hexPadded 2 c.toNat
  else if c.toNat < 0x10000 then '\\' :: 'u' :: hexPadded 4 c.toNat
  else '\\' :: 'U' :: hexPadded 8 c.toNat

/-- The quote for a text: the single one, unless the text has single ones and no double ones. -/
def quoteFor (cs : List Char) : Char :=
  if cs.contains '\'' && !cs.contains '"' then '"' else '\''

def quoted (s : String) : String :=
  let cs := s.toList
  let quote := quoteFor cs
  String.ofList (quote :: cs.flatMap (escaped quote) ++ [quote])

def quotedCodes (codes : List Nat) : String :=
  let quote := quoteFor ((codes.filter fun n => decide (Nat.isValidChar n)).map Char.ofNat)
  let inner := codes.flatMap fun n =>
    if Nat.isValidChar n then escaped quote (Char.ofNat n) else '\\' :: 'u' :: hexPadded 4 n
  String.ofList (quote :: inner ++ [quote])

def quotedBytes (bytes : List UInt8) : String :=
  let quote := quoteFor (bytes.map fun b => Char.ofNat b.toNat)
  let inner := bytes.flatMap fun b =>
    if b.toNat < 128 then escaped quote (Char.ofNat b.toNat) else '\\' :: 'x' :: hexPadded 2 b.toNat
  String.ofList ('b' :: quote :: inner ++ [quote])

def quotedList (ss : List String) : String :=
  "[" ++ ", ".intercalate (ss.map quoted) ++ "]"

end EntitySchema.Text
