/-!
# Decimals and binary numbers of 53 bits

A decimal `digits * 10 ^ exponent` is rounded to the nearest number `mantissa * 2 ^ exponent` of 53
bits, and such a number is written with the fewest digits that read back as it.
-/

namespace SwiftTuples.Decimal

/-- `significand * base ^ exponent` for the base at hand. -/
structure Scaled where
  significand : Nat
  exponent : Int
deriving DecidableEq, Repr

/-- A fraction of natural numbers. -/
structure Fraction where
  numerator : Nat
  denominator : Nat

/-- The value of a scaled number. -/
def Scaled.fraction (s : Scaled) (base : Nat) : Fraction :=
  if 0 ≤ s.exponent then ⟨s.significand * base.pow s.exponent.toNat, 1⟩
  else ⟨s.significand, base.pow (-s.exponent).toNat⟩

/-- The fraction times a power of `base`. -/
def Fraction.scale (f : Fraction) (base : Nat) (exponent : Int) : Fraction :=
  if 0 ≤ exponent then ⟨f.numerator * base.pow exponent.toNat, f.denominator⟩
  else ⟨f.numerator, f.denominator * base.pow (-exponent).toNat⟩

/-- The nearest natural number; of two, the even one. -/
def Fraction.round (f : Fraction) : Nat :=
  let quotient := f.numerator / f.denominator
  let twice := 2 * (f.numerator % f.denominator)
  if f.denominator < twice || (twice = f.denominator && quotient % 2 = 1) then quotient + 1
  else quotient

/-- `f ≤ g`. -/
def Fraction.le (f g : Fraction) : Bool :=
  f.numerator * g.denominator ≤ g.numerator * f.denominator

/-- `f < g`. -/
def Fraction.lt (f g : Fraction) : Bool := !g.le f

/-- The least exponent of a binary number. -/
def leastExponent : Int := -1074

/-- The greatest exponent of a binary number. -/
def greatestExponent : Int := 971

/-- The greatest `e` with `base ^ e ≤ f`, for a fraction that is not zero; `guess` is that or one
more or less. -/
def Fraction.floorLog (f : Fraction) (base : Nat) (guess : Int) : Int :=
  let one : Scaled := ⟨1, guess⟩
  let next : Scaled := ⟨1, guess + 1⟩
  if f.lt (one.fraction base) then guess - 1
  else if (next.fraction base).le f then guess + 1
  else guess

/-- The binary number nearest to a decimal; none if it is too large. -/
def Scaled.toBinary? (decimal : Scaled) : Option Scaled :=
  let width : Int := (Nat.log2 decimal.significand / 3 : Nat)
  if decimal.significand = 0 || decimal.exponent + width < -400 then some ⟨0, leastExponent⟩
  else if 400 < decimal.exponent then none
  else
    let f := decimal.fraction 10
    let log := f.floorLog 2 (Nat.log2 f.numerator - Nat.log2 f.denominator)
    let exponent := max leastExponent (log - 52)
    let significand := (f.scale 2 (-exponent)).round
    let result : Scaled :=
      if significand = 1 <<< 53 then ⟨1 <<< 52, exponent + 1⟩ else ⟨significand, exponent⟩
    if greatestExponent < result.exponent then none else some result

/-- The decimal digits of a number. -/
def digits (n : Nat) : List Char := Nat.toDigits 10 n

/-- The fractions strictly between which, or with `closed` up to which, decimals read back as a
binary number. -/
def Scaled.interval (b : Scaled) : Fraction × Fraction × Bool :=
  let below : Scaled :=
    if b.significand = 1 <<< 52 && leastExponent < b.exponent then
      ⟨4 * b.significand - 1, b.exponent - 2⟩
    else ⟨2 * b.significand - 1, b.exponent - 1⟩
  let above : Scaled := ⟨2 * b.significand + 1, b.exponent - 1⟩
  (below.fraction 2, above.fraction 2, b.significand % 2 = 0)

/-- The decimal of `count` digits next to a binary number, if it reads back as that number. -/
def Scaled.decimalOf? (b : Scaled) (log : Int) (count : Nat) : Option Scaled :=
  let (low, high, closed) := b.interval
  let f := b.fraction 2
  let exponent := log - count + 1
  let inside (n : Nat) : Bool :=
    let g := (Scaled.mk n exponent).fraction 10
    if closed then low.le g && g.le high else low.lt g && g.lt high
  let scaled := f.scale 10 (-exponent)
  let nearest := scaled.round
  let floor := scaled.numerator / scaled.denominator
  if inside nearest then some ⟨nearest, exponent⟩
  else if inside floor then some ⟨floor, exponent⟩
  else if inside (floor + 1) then some ⟨floor + 1, exponent⟩
  else none

/-- The shortest decimal that reads back as a binary number that is not zero. -/
def Scaled.shortest (b : Scaled) : Scaled :=
  let f := b.fraction 2
  let guess : Int := (digits f.numerator).length - (digits f.denominator).length
  let log := f.floorLog 10 guess
  ((List.range 17).findSome? fun n => b.decimalOf? log (n + 1)).getD b

/-- The text of a decimal with a point and no exponent. -/
def Scaled.positional (d : Scaled) : String :=
  let text := digits d.significand
  if 0 ≤ d.exponent then
    String.ofList (text ++ List.replicate d.exponent.toNat '0' ++ ['.', '0'])
  else
    let places := (-d.exponent).toNat
    let padded := List.replicate (places + 1 - text.length) '0' ++ text
    let whole := padded.take (padded.length - places)
    let part := padded.drop (padded.length - places)
    let part := (part.reverse.dropWhile (· = '0')).reverse
    String.ofList (whole ++ ['.'] ++ if part.isEmpty then ['0'] else part)

/-- The text of a binary number: its shortest decimal with a point. -/
def Scaled.text (b : Scaled) : String :=
  if b.significand = 0 then "0.0" else b.shortest.positional

end SwiftTuples.Decimal
