/-!
Binary floating-point numbers of 64 bits, in exact integer arithmetic. A finite number is a sign and
a mantissa below 2^53 times a power of two not below 2^-1074; every operation gives the number
nearest to the exact result, an even mantissa on a tie.
-/

namespace Agenda.Decimal

/-- A finite number: `mantissa * 2 ^ exponent`, with a sign that zero has as well. -/
structure Binary64 where
  negative : Bool
  mantissa : Nat
  exponent : Int
  deriving DecidableEq

/-- A quotient brought to the nearest integer, to the even one on a tie. -/
def roundDiv (num den : Nat) : Nat :=
  let q := num / den
  let r := num % den
  if 2 * r < den ∨ (2 * r = den ∧ q % 2 = 0) then q else q + 1

/-- The quotient `num / (den * 2 ^ e)` as a pair of natural numbers. -/
def scaled (num den : Nat) (e : Int) : Nat × Nat :=
  (num * Nat.pow 2 (-e).toNat, den * Nat.pow 2 e.toNat)

namespace Binary64

/-- Positive zero. -/
def zero : Binary64 := ⟨false, 0, -1074⟩

/-- The number nearest to a quotient; none where it would be infinite. -/
def ofQuotient? (num den : Nat) : Option Binary64 :=
  if num = 0 then some zero
  else
    let guess := max (-1074) ((num.log2 : Int) - den.log2 - 53)
    let (n, d) := scaled num den guess
    let e := if n / d < Nat.pow 2 53 then guess else guess + 1
    let (n, d) := scaled num den e
    let m := roundDiv n d
    let (m, e) := if m = Nat.pow 2 53 then (Nat.pow 2 52, e + 1) else (m, e)
    if e ≤ 971 then some ⟨false, m, e⟩ else none

/-- The size of a number as a quotient. -/
def quotient (x : Binary64) : Nat × Nat :=
  (x.mantissa * Nat.pow 2 x.exponent.toNat, Nat.pow 2 (-x.exponent).toNat)

/-- The product of two sizes. -/
def mul? (x y : Binary64) : Option Binary64 :=
  let (a, b) := x.quotient
  let (c, d) := y.quotient
  ofQuotient? (a * c) (b * d)

/-- The quotient of two sizes; the divisor is not zero. -/
def div? (x y : Binary64) : Option Binary64 :=
  let (a, b) := x.quotient
  let (c, d) := y.quotient
  ofQuotient? (a * d) (b * c)

/-- The number nearest to a power of ten, up to 10^308. -/
def powerOfTen (k : Nat) : Binary64 := (ofQuotient? (Nat.pow 10 (min k 308)) 1).getD zero

/--
A decimal significand times a power of ten, in one step for exponents of at most 308 in size and in
two steps below that; none where the result would be infinite. Each step rounds.
-/
def ofDecimal? (significand : Nat) (exponent : Int) : Option Binary64 := do
  let x ← ofQuotient? significand 1
  if 0 ≤ exponent then
    if exponent ≤ 308 then x.mul? (powerOfTen exponent.toNat)
    else if x.mantissa = 0 then some x
    else none
  else if -308 ≤ exponent then x.div? (powerOfTen exponent.natAbs)
  else if -616 ≤ exponent then
    let y ← x.div? (powerOfTen 308)
    y.div? (powerOfTen (exponent + 308).natAbs)
  else some zero

/-- The number with a sign. -/
def withSign (negative : Bool) (x : Binary64) : Binary64 := { x with negative }

end Binary64

end Agenda.Decimal
