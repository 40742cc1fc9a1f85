import ShapeMapper.Decimal.Basic

/-!
# Shortest decimals

The decimal with the fewest digits that reads back as a given binary floating-point number
(`Binary.shortest`), and among those the one nearest to it. A decimal reads back if it lies
between the two midpoints to the neighbouring floats; a midpoint itself does if the number's
last bit is zero. All arithmetic is on whole numbers.
-/

namespace ShapeMapper.Decimal

/-- The number `mantissa · 2 ^ exponent` with its place among the floats. -/
structure Binary where
  mantissa : Nat
  exponent : Int
  /-- Whether the next float below is only half as far away as the one above. -/
  narrowBelow : Bool
  deriving DecidableEq, Repr

/-- A power of two. -/
def twoTo (n : Nat) : Nat :=
  Nat.pow 2 n

/-- A power of ten. -/
def tenTo (n : Nat) : Nat :=
  Nat.pow 10 n

/-- The absolute value of a finite float. -/
def Binary.ofFloat (x : Float) : Binary :=
  let bits := x.toBits.toNat
  let power : Nat := bits / twoTo 52 % twoTo 11
  let fraction := bits % twoTo 52
  if power = 0 then { mantissa := fraction, exponent := -1074, narrowBelow := false }
  else
    { mantissa := twoTo 52 + fraction
      exponent := (power : Int) - 1075
      narrowBelow := fraction = 0 ∧ 1 < power }

namespace Binary

/-- Four times the number over a power of ten, as a numerator and a denominator. -/
def scaled (b : Binary) (power : Int) : Nat × Nat :=
  (b.mantissa * 4 * twoTo b.exponent.toNat * tenTo (-power).toNat,
    twoTo (-b.exponent).toNat * tenTo power.toNat)

/-- Whether `digits · 10 ^ power` reads back as the number. -/
def readsBack (b : Binary) (power : Int) (digits : Nat) : Bool :=
  let unit := twoTo b.exponent.toNat * tenTo (-power).toNat
  let (number, den) := b.scaled power
  let low := number - (if b.narrowBelow then 1 else 2) * unit
  let high := number + 2 * unit
  let value := 4 * digits * den
  if b.mantissa % 2 = 0 then low ≤ value && value ≤ high else low < value && value < high

/-- The power of ten of the first digit of the number, which is not zero. -/
def magnitude (b : Binary) : Int :=
  let number := b.mantissa * twoTo b.exponent.toNat
  let den := twoTo (-b.exponent).toNat
  if den ≤ number then (Nat.toDigits 10 (number / den)).length - 1
  else
    match (List.range 400).find? fun n => den ≤ number * tenTo n with
    | some n => -n
    | none => 0

/-- The number on the decimal grid of a power of ten: of its two neighbours there the nearer
one that reads back, of two equally near ones the even one. -/
def onGrid? (b : Binary) (power : Int) : Option Nat :=
  let (number, den) := b.scaled power
  let below := number / (4 * den)
  let rest := number % (4 * den)
  match b.readsBack power below, b.readsBack power (below + 1) with
  | true, true =>
    some (if 2 * rest < 4 * den ∨ 2 * rest = 4 * den ∧ below % 2 = 0 then below else below + 1)
  | true, false => some below
  | false, true => some (below + 1)
  | false, false => none

/-- The shortest decimal that reads back as the number, which is not zero. -/
def shortest (b : Binary) : Decimal :=
  let found := (List.range 17).findSome? fun (n : Nat) =>
    let power := b.magnitude - n
    (b.onGrid? power).map fun digits => { digits, exponent := power : Decimal }
  found.getD { digits := 0, exponent := 0 }

end Binary

end ShapeMapper.Decimal
