/-! Double-precision numbers by their bits: exact values, reading from decimals with one correct
rounding, and the shortest decimal that reads back. -/
namespace EntitySchema.Number

def pow2 (n : Nat) : Nat := Nat.pow 2 n

def pow10 (n : Nat) : Nat := Nat.pow 10 n

structure Binary64 where
  bits : UInt64
  deriving DecidableEq, Repr

structure Magnitude where
  mantissa : Nat
  exponent : Int
  deriving DecidableEq, Repr

namespace Binary64

def fractionBits : Nat := 52

def negative (x : Binary64) : Bool := x.bits >>> 63 == 1

def exponentField (x : Binary64) : Nat := (x.bits >>> 52).toNat % 2048

def fractionField (x : Binary64) : Nat := x.bits.toNat % pow2 fractionBits

def isNaN (x : Binary64) : Bool := x.exponentField == 2047 && x.fractionField != 0

def isInfinite (x : Binary64) : Bool := x.exponentField == 2047 && x.fractionField == 0

/-- The size of a finite number; the subnormals share the exponent of the smallest normals. -/
def magnitude? (x : Binary64) : Option Magnitude :=
  if x.exponentField = 2047 then none
  else if x.exponentField = 0 then some ⟨x.fractionField, -1074⟩
  else some ⟨pow2 fractionBits + x.fractionField, x.exponentField - 1075⟩

def integer? (x : Binary64) : Option Int := do
  let v ← x.magnitude?
  let size ←
    if 0 ≤ v.exponent then some (v.mantissa * pow2 v.exponent.toNat)
    else
      let unit := pow2 (-v.exponent).toNat
      if v.mantissa % unit = 0 then some (v.mantissa / unit) else none
  return if x.negative then -(size : Int) else size

def isZero (x : Binary64) : Bool := x.bits <<< 1 == 0

def ofFields (negative : Bool) (exponent fraction : Nat) : Binary64 :=
  ⟨UInt64.ofNat ((if negative then pow2 63 else 0) + exponent * pow2 fractionBits + fraction)⟩

def infinity (negative : Bool) : Binary64 := ofFields negative 2047 0

def nan : Binary64 := ofFields false 2047 (pow2 51)

/-- No number, as a constant that is the same wherever it stands. -/
def constantNaN : Binary64 := ofFields true 2047 (pow2 51)

/-- Whether two numbers are one key: equal ones are, and the two zeros; what is no number is a key of
its own each time, unless it is the constant. -/
def isSameKey (x y : Binary64) : Bool :=
  if x.isNaN then x == y && x == constantNaN else x == y || (x.isZero && y.isZero)

/-- `num / den` to the nearest integer, a tie to the even one. -/
def divideToEven (num den : Nat) : Nat :=
  let q := num / den
  let r := num % den
  if 2 * r < den then q else if den < 2 * r then q + 1 else q + q % 2

/-- The number nearest to the fraction `num / den`, a tie to the even mantissa. -/
def ofFraction (negative : Bool) (num den : Nat) : Binary64 :=
  if num = 0 then ofFields negative 0 0
  else
    -- The exponent of the last place: 53 binary digits, or fewer for a subnormal.
    let guess : Int := (num.log2 : Int) - den.log2 - 53
    let scaled (q : Int) : Nat :=
      if 0 ≤ q then divideToEven num (den * pow2 q.toNat) else
        divideToEven (num * pow2 (-q).toNat) den
    let floorBits (q : Int) : Nat :=
      if 0 ≤ q then num / (den * pow2 q.toNat) else num * pow2 (-q).toNat / den
    let q := if floorBits guess < pow2 53 then guess else guess + 1
    let q := max q (-1074)
    let m := scaled q
    let (m, q) := if m = pow2 53 then (pow2 52, q + 1) else (m, q)
    if m < pow2 52 then ofFields negative 0 m
    else if 971 < q then infinity negative
    else ofFields negative (q + 1075).toNat (m - pow2 52)

def ofDecimal (negative : Bool) (digits : Nat) (exponent : Int) : Binary64 :=
  let places : Int := (Nat.toDigits 10 digits).length
  if digits = 0 then ofFields negative 0 0
  else if 400 < places + exponent then infinity negative
  else if places + exponent < -400 then ofFields negative 0 0
  else if 0 ≤ exponent then ofFraction negative (digits * pow10 exponent.toNat) 1
  else ofFraction negative digits (pow10 (-exponent).toNat)

def leadingPlace (num den : Nat) : Int :=
  if den ≤ num then (Nat.toDigits 10 (num / den)).length - 1
  else -((Nat.toDigits 10 ((den + num - 1) / num - 1)).length : Int)

/-- On each decimal grid from coarse to fine, the neighbours of the value that round to it; the
first grid with one wins, and the nearer of two. Bounds are in units of `unit / den`. -/
def shortestFrom (value low high unit den : Nat) (closed : Bool) (place : Int) :
    Nat → Nat → Nat × Int
  | _, 0 => (0, place)
  | k, fuel + 1 =>
    let p : Int := place + 1 - k
    let up := if 0 ≤ p then 1 else pow10 (-p).toNat
    let grid := den * if 0 ≤ p then pow10 p.toNat else 1
    let a := value * unit * up / grid
    let fits (c : Nat) : Bool :=
      let l := low * unit * up
      let h := high * unit * up
      if closed then l ≤ c * grid && c * grid ≤ h else l < c * grid && c * grid < h
    let v := value * unit * up
    match fits a && a != 0, fits (a + 1) with
    | true, true =>
      let below := v - a * grid
      let above := (a + 1) * grid - v
      (if below < above || (below == above && a % 2 == 0) then a else a + 1, p)
    | true, false => (a, p)
    | false, true => (a + 1, p)
    | false, false => shortestFrom value low high unit den closed place (k + 1) fuel

/-- The shortest decimal `digits * 10 ^ exponent` that rounds to a positive magnitude. -/
def shortest (v : Magnitude) : Nat × Int :=
  let lower := if v.mantissa = pow2 52 ∧ -1074 < v.exponent then 1 else 2
  let s := v.exponent - 2
  let unit := if 0 ≤ s then pow2 s.toNat else 1
  let den := if 0 ≤ s then 1 else pow2 (-s).toNat
  let value := 4 * v.mantissa
  shortestFrom value (value - lower) (value + 2) unit den (v.mantissa % 2 = 0)
    (leadingPlace (value * unit) den) 1 20

/-- Drops the zeros at the end of `digits`, each worth one more power of ten. -/
def stripZeros : Nat → Nat → Int → Nat × Int
  | 0, digits, e => (digits, e)
  | fuel + 1, digits, e =>
    if digits ≠ 0 ∧ digits % 10 = 0 then stripZeros fuel (digits / 10) (e + 1) else (digits, e)

/-- The shortest decimal text: positional from `0.0001` up to sixteen digits before the point, in
scientific form elsewhere; an integral number keeps `.0`. -/
def text (x : Binary64) : String :=
  let sign := if x.negative then "-" else ""
  if x.isNaN then "nan"
  else match x.magnitude? with
    | none => sign ++ "inf"
    | some v =>
      if v.mantissa = 0 then sign ++ "0.0"
      else
        let (n, e) := shortest v
        let (n, e) := stripZeros 400 n e
        let digits := Nat.toDigits 10 n
        let point : Int := digits.length + e
        let zeros (k : Int) := List.replicate k.toNat '0'
        let body : List Char :=
          if -4 < point ∧ point ≤ 16 then
            if point ≤ 0 then '0' :: '.' :: (zeros (-point) ++ digits)
            else if digits.length ≤ point then digits ++ zeros (point - digits.length) ++ ['.', '0']
            else digits.take point.toNat ++ '.' :: digits.drop point.toNat
          else
            let exponent := point - 1
            let shown := Nat.toDigits 10 exponent.natAbs
            let head := match digits with
              | [d] => [d]
              | d :: ds => d :: '.' :: ds
              | [] => []
            head ++ 'e' :: (if exponent < 0 then '-' else '+') ::
              (List.replicate (2 - shown.length) '0' ++ shown)
        sign ++ String.ofList body

def takeDigits (s : List Char) : List Char × List Char := s.span Char.isDigit

def digitsValue (ds : List Char) : Nat := ds.foldl (fun n d => n * 10 + (d.toNat - 48)) 0

/-- Reads a decimal with optional sign, fraction and exponent, or the name of an infinity or of
the value that is no number. -/
def ofText? (s : List Char) : Option Binary64 :=
  let (negative, s) := match s with
    | '-' :: r => (true, r)
    | '+' :: r => (false, r)
    | _ => (false, s)
  let word := String.ofList (s.map Char.toLower)
  if word = "inf" ∨ word = "infinity" then some (infinity negative)
  else if word = "nan" then some nan
  else
    let (whole, s) := takeDigits s
    let (fraction, s) := match s with
      | '.' :: r => takeDigits r
      | _ => ([], s)
    if whole = [] ∧ fraction = [] then none
    else
      let exponent? : Option Int := match s with
        | [] => some 0
        | e :: r =>
          if e = 'e' ∨ e = 'E' then
            let (down, r) := match r with
              | '-' :: r => (true, r)
              | '+' :: r => (false, r)
              | _ => (false, r)
            match takeDigits r with
            | (ds, []) =>
              if ds = [] then none
              else some (if down then -(digitsValue ds : Int) else digitsValue ds)
            | _ => none
          else none
      exponent?.map fun e =>
        ofDecimal negative (digitsValue (whole ++ fraction)) (e - fraction.length)

def toFloat (x : Binary64) : Float := Float.ofBits x.bits

def ofFloat (x : Float) : Binary64 := if x.isNaN then nan else ⟨x.toBits⟩

end Binary64

/-- A count with commas between groups of three digits. -/
def grouped (n : Nat) : String :=
  let rec go : List Char → List Char
    | a :: b :: c :: d :: r => a :: b :: c :: ',' :: go (d :: r)
    | s => s
  String.ofList (go (Nat.toDigits 10 n).reverse).reverse

end EntitySchema.Number
