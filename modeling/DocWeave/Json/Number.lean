import DocWeave.Text.Basic

/-! # Binary floating point and its shortest decimal

A decimal numeral stands for the nearest double, ties going to the even significand. The double is
shown by the fewest decimal digits that stand for it again, and of these by the nearest to its
value. All of this is exact arithmetic on natural numbers.
-/

namespace DocWeave.Json.Number

/-- The value `significand * 2 ^ exponent` of a positive finite double. -/
structure Double where
  significand : Nat
  exponent : Int
  deriving DecidableEq, Repr

/-- The least significand of a double that is not subnormal. -/
def leastNormal : Nat := Nat.pow 2 52

/-- `n / d` to the nearest integer, ties to even. -/
def roundDiv (n d : Nat) : Nat :=
  let q := n / d
  let r := n % d
  if 2 * r < d then q else if d < 2 * r then q + 1 else q + q % 2

/-- A positive power of a base as a fraction. -/
def power (base : Nat) (exponent : Int) : Nat × Nat :=
  if 0 ≤ exponent then (base.pow exponent.toNat, 1) else (1, base.pow (-exponent).toNat)

/-- The nearest double of `n / d`; `none` when it is too large to be finite. -/
def nearest (n d : Nat) : Option Double :=
  let guess : Int := (n.log2 : Int) - (d.log2 : Int) - 53
  let scale (e : Int) : Nat := let (up, down) := power 2 e; n * down / (d * up)
  let fit := if 2 * leastNormal ≤ scale (guess + 1) then guess + 2
    else if 2 * leastNormal ≤ scale guess then guess + 1 else guess
  let exponent := max fit (-1074)
  let (up, down) := power 2 exponent
  let significand := roundDiv (n * down) (d * up)
  let rounded : Double := if significand = 2 * leastNormal then ⟨leastNormal, exponent + 1⟩
    else ⟨significand, exponent⟩
  if 971 < rounded.exponent then none else some rounded

/-- Whether `n / d` lies among the reals whose nearest double is `x`. -/
def standsFor (x : Double) (n d : Nat) : Bool :=
  let (up, down) := power 2 (x.exponent - 2)
  let value := n * down
  let unit := d * up
  let below := if x.significand = leastNormal ∧ -1074 < x.exponent then 1 else 2
  let low := (4 * x.significand - below) * unit
  let high := (4 * x.significand + 2) * unit
  if x.significand % 2 = 0 then low ≤ value && value ≤ high else low < value && value < high

/-- The decimal `digits * 10 ^ place` with the fewest digits that stands for a double, trying
`count` digits and more. -/
def shortest (x : Double) (magnitude : Int) : (tries count : Nat) → Nat × Int
  | 0, _ => (x.significand, 0)
  | tries + 1, count =>
    let place := magnitude - count + 1
    let (n, d) := power 2 x.exponent
    let (up, down) := power 10 place
    let top := x.significand * n * down
    let bottom := d * up
    let lower := top / bottom
    let fits (digits : Nat) : Bool := standsFor x (digits * up) down
    let nearLower := decide (2 * (top % bottom) < bottom) ||
      decide (2 * (top % bottom) = bottom) && lower % 2 == 0
    if fits lower && (nearLower || !fits (lower + 1)) then (lower, place)
    else if fits (lower + 1) then (lower + 1, place)
    else shortest x magnitude tries (count + 1)

/-- The decimal exponent of the leading digit of `n / d`, found from a guess not above it. -/
def leadingPlace (n d : Nat) : (tries : Nat) → (guess : Int) → Int
  | 0, guess => guess
  | tries + 1, guess =>
    let (up, down) := power 10 (guess + 1)
    if d * up ≤ n * down then leadingPlace n d tries (guess + 1) else guess

/-- Digits without trailing zeros, and the exponent of the last one left. -/
def stripZeros : (tries : Nat) → Nat → Int → Nat × Int
  | 0, digits, place => (digits, place)
  | tries + 1, digits, place =>
    if digits % 10 = 0 ∧ digits ≠ 0 then stripZeros tries (digits / 10) (place + 1)
    else (digits, place)

/-- Digits at a place: positional from 1e-4 up to 1e16, with an exponent beyond. -/
def spell (digits : Nat) (place : Int) : Text :=
  let ds := Text.ofNat digits
  let leading : Int := place + ds.length - 1
  if -4 ≤ leading ∧ leading < 16 then
    if 0 ≤ place then ds ++ List.replicate place.toNat '0' ++ ".0"
    else if 0 ≤ leading then
      ds.take (leading.toNat + 1) ++ "." ++ ds.drop (leading.toNat + 1)
    else "0." ++ List.replicate (-leading - 1).toNat '0' ++ ds
  else
    let tail := ds.drop 1
    let size := Text.ofNat leading.natAbs
    ds.take 1 ++ (if tail.isEmpty then [] else '.' :: tail) ++ "e" ++
      (if leading < 0 then "-" else "+") ++ (if size.length < 2 then '0' :: size else size)

/-- The spelling of zero. -/
def zero : Text := "0.0"

/-- The spelling of a number too large to be finite. -/
def infinity : Text := "inf"

/-- The shortest spelling of the double that `digits * 10 ^ place` stands for. -/
def spellNearest (digits : Nat) (place : Int) : Text :=
  let size : Int := (Text.ofNat digits).length + place
  if digits = 0 ∨ size < -330 then zero
  else if 320 < size then infinity
  else
    let (up, down) := power 10 place
    match nearest (digits * up) down with
    | none => infinity
    | some x =>
      if x.significand = 0 then zero
      else
        let (n, d) := power 2 x.exponent
        let magnitude := leadingPlace (x.significand * n) d 1000 (-330)
        let (found, last) := shortest x magnitude 17 1
        let (stripped, last) := stripZeros 20 found last
        spell stripped last

end DocWeave.Json.Number
