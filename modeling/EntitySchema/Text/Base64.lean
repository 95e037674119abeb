/-! Bytes in base sixty-four. Reading passes over characters that are no digits. Main statement: text
without digits and paddings denotes no bytes (`decode_of_noDigit`). -/
namespace EntitySchema.Text.Base64

def digit? (c : Char) : Option Nat :=
  if c.isUpper then some (c.toNat - 'A'.toNat)
  else if c.isLower then some (c.toNat - 'a'.toNat + 26)
  else if c.isDigit then some (c.toNat - '0'.toNat + 52)
  else if c = '+' then some 62
  else if c = '/' then some 63
  else none

/-- How far the reading of four digits has come: how many are read, the bits that are in no byte yet,
and the number of paddings behind the last digit. -/
structure Quad where
  count : Nat := 0
  bits : Nat := 0
  paddings : Nat := 0
  deriving DecidableEq, Repr

/-- Takes in a digit. The second digit and those after it complete a byte each. -/
def Quad.add (q : Quad) (d : Nat) : Quad × List UInt8 :=
  match q.count with
  | 0 => ({ count := 1, bits := d }, [])
  | 1 => ({ count := 2, bits := d % 16 }, [UInt8.ofNat (q.bits * 4 + d / 16)])
  | 2 => ({ count := 3, bits := d % 4 }, [UInt8.ofNat (q.bits * 16 + d / 4)])
  | _ => ({}, [UInt8.ofNat (q.bits * 64 + d)])

/-- Reads bytes up to a padding that completes four characters, or up to the end, which must not come
within four. -/
def decodeFrom (q : Quad) : List Char → Option (List UInt8)
  | [] => if q.count = 0 then some [] else none
  | c :: r =>
    if c = '=' then
      if 2 ≤ q.count then
        if 4 ≤ q.count + q.paddings + 1 then some []
        else decodeFrom { q with paddings := q.paddings + 1 } r
      else decodeFrom q r
    else match digit? c with
      | none => decodeFrom q r
      | some d =>
        let (q, bytes) := q.add d
        (decodeFrom q r).map (bytes ++ ·)

def decode (s : List Char) : Option (List UInt8) := decodeFrom {} s

theorem decode_of_noDigit {s : List Char} (h : ∀ c ∈ s, c ≠ '=' ∧ digit? c = none) :
    decode s = some [] := by
  unfold decode
  induction s with
  | nil => rfl
  | cons c r ih =>
    obtain ⟨hp, hd⟩ := h c List.mem_cons_self
    rw [decodeFrom, if_neg hp, hd]
    exact ih fun x hx => h x (List.mem_cons_of_mem _ hx)

end EntitySchema.Text.Base64
