/-! Code points in hexadecimal digits, and the halves of surrogate pairs. Main statement: joining
leaves a text without halves as it is (`joinHalves_eq_self`). -/
namespace EntitySchema.Text

def hexDigit? (c : Char) : Option Nat :=
  if c.isDigit then some (c.toNat - '0'.toNat)
  else if 'a' ≤ c ∧ c ≤ 'f' then some (c.toNat - 'a'.toNat + 10)
  else if 'A' ≤ c ∧ c ≤ 'F' then some (c.toNat - 'A'.toNat + 10)
  else none

def hexValue? (ds : List Char) : Option Nat :=
  ds.foldlM (fun n d => (hexDigit? d).map (16 * n + ·)) 0

def isHighHalf (n : Nat) : Bool := 0xd800 ≤ n && n < 0xdc00

def isLowHalf (n : Nat) : Bool := 0xdc00 ≤ n && n < 0xe000

/-- Joins the halves of surrogate pairs to the code points that they stand for. A half that stands
alone stays. -/
def joinHalves : List Nat → List Nat
  | [] => []
  | [n] => [n]
  | n :: m :: r =>
    if isHighHalf n && isLowHalf m then
      (0x10000 + (n - 0xd800) * 0x400 + (m - 0xdc00)) :: joinHalves r
    else n :: joinHalves (m :: r)

theorem joinHalves_eq_self {codes : List Nat} (h : ∀ n ∈ codes, isHighHalf n = false) :
    joinHalves codes = codes := by
  fun_induction joinHalves codes with
  | case1 => rfl
  | case2 => rfl
  | case3 n m r hp => simp [h n] at hp
  | case4 n m r hp ih => rw [ih fun k hk => h k (List.mem_cons_of_mem _ hk)]

end EntitySchema.Text
