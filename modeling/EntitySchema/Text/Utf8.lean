/-! Texts as UTF-8 bytes. Reading is strict: overlong forms, surrogates and code points beyond the
last plane are refused, and a refusal names the bytes at fault. -/
namespace EntitySchema.Text.Utf8

inductive Reason where
  | invalidStart
  | invalidContinuation
  | endOfData
  deriving DecidableEq, Repr

/-- The bytes at `first ≤ i < stop` are no character; `lead` is the one at `first`. -/
structure Fault where
  lead : UInt8
  first : Nat
  stop : Nat
  reason : Reason
  deriving DecidableEq, Repr

def Reason.message : Reason → String
  | .invalidStart => "invalid start byte"
  | .invalidContinuation => "invalid continuation byte"
  | .endOfData => "unexpected end of data"

def Fault.message (f : Fault) : String :=
  let place :=
    if f.stop = f.first + 1 then
      let hex := Nat.toDigits 16 f.lead.toNat
      "byte 0x" ++ String.ofList (List.replicate (2 - hex.length) '0' ++ hex) ++ " in position " ++
        toString f.first
    else "bytes in position " ++ toString f.first ++ "-" ++ toString (f.stop - 1)
  "'utf-8' codec can't decode " ++ place ++ ": " ++ f.reason.message

def encode (s : List Char) : List UInt8 := s.flatMap String.utf8EncodeChar

/-- The payload of a first byte and the ranges that the bytes after it must lie in. -/
def lead? (b : UInt8) : Option (Nat × List (Nat × Nat)) :=
  let n := b.toNat
  let tail := (0x80, 0xbf)
  if n < 0x80 then some (n, [])
  else if n < 0xc2 then none
  else if n < 0xe0 then some (n - 0xc0, [tail])
  else if n = 0xe0 then some (0, [(0xa0, 0xbf), tail])
  else if n = 0xed then some (0xd, [(0x80, 0x9f), tail])
  else if n < 0xf0 then some (n - 0xe0, [tail, tail])
  else if n = 0xf0 then some (0, [(0x90, 0xbf), tail, tail])
  else if n < 0xf4 then some (n - 0xf0, [tail, tail, tail])
  else if n = 0xf4 then some (4, [(0x80, 0x8f), tail, tail])
  else none

/-- A character of which some bytes are read: the payload so far, the range of the next byte and
those of the bytes after it. -/
structure Pending where
  lead : UInt8
  first : Nat
  payload : Nat
  range : Nat × Nat
  later : List (Nat × Nat)

def decodeFrom (pos : Nat) : Option Pending → List UInt8 → Except Fault (List Char)
  | none, [] => .ok []
  | some p, [] => .error ⟨p.lead, p.first, pos, .endOfData⟩
  | none, b :: r =>
    match lead? b with
    | none => .error ⟨b, pos, pos + 1, .invalidStart⟩
    | some (n, []) => (decodeFrom (pos + 1) none r).map (Char.ofNat n :: ·)
    | some (n, range :: later) => decodeFrom (pos + 1) (some ⟨b, pos, n, range, later⟩) r
  | some p, b :: r =>
    if p.range.1 ≤ b.toNat ∧ b.toNat ≤ p.range.2 then
      let payload := p.payload * 64 + (b.toNat - 0x80)
      match p.later with
      | [] => (decodeFrom (pos + 1) none r).map (Char.ofNat payload :: ·)
      | range :: later =>
        decodeFrom (pos + 1) (some { p with payload, range, later }) r
    else .error ⟨p.lead, p.first, pos, .invalidContinuation⟩

def decode (bytes : List UInt8) : Except Fault (List Char) := decodeFrom 0 none bytes

end EntitySchema.Text.Utf8
