import Agenda.Decimal.Shortest
import Agenda.Text.Digits

/-!
JSON numbers. A number without fraction and exponent is an integer if it fits 64 bits, signed or
not; every other number is the binary floating-point number that its leading digits and its power of
ten give. Negative zero is not an integer.
-/

namespace Agenda.Json
open Agenda.Decimal Agenda.Text

/-- A number as an integer or in floating point. -/
inductive Number where
  | integer (value : Int)
  | float (value : Binary64)
  deriving DecidableEq

/-- A number as it is spelled; `exponent` is whether it is negative, and its digits. -/
structure Spelling where
  negative : Bool
  whole : List Char
  fraction : Option (List Char)
  exponent : Option (Bool × List Char)
  deriving DecidableEq

/-- Goes on with a significand while it fits 64 bits; the result has the digits left over. -/
def absorb : Nat → List Char → Nat × List Char
  | n, [] => (n, [])
  | n, d :: ds =>
    let m := n * 10 + (d.toNat - 48)
    if m < Nat.pow 2 64 then absorb m ds else (n, d :: ds)

namespace Spelling

/-- The significand of at most 64 bits, and the power of ten that belongs to it. -/
def significand (s : Spelling) : Nat × Int :=
  let (n, dropped) := absorb 0 s.whole
  match s.fraction with
  | none => (n, dropped.length)
  | some ds =>
    let (m, unread) := absorb n ds
    (m, dropped.length - (ds.length - unread.length : Nat))

/-- The number in floating point; none if it is too large. -/
def float? (s : Spelling) : Option Number :=
  let (n, place) := s.significand
  let value := match s.exponent with
    | none => Binary64.ofDecimal? n place
    | some (below, ds) =>
      let e := numeral ds
      if e ≤ 2147483647 then Binary64.ofDecimal? n (if below then place - e else place + e)
      else if n = 0 ∨ below then some .zero
      else none
  value.map fun x => .float (x.withSign s.negative)

/-- The number that is spelled; none if it is too large. -/
def value? (s : Spelling) : Option Number :=
  match s.fraction, s.exponent with
  | none, none =>
    let n := numeral s.whole
    if !s.negative && n < Nat.pow 2 64 then some (.integer n)
    else if s.negative && 0 < n && n ≤ Nat.pow 2 63 then some (.integer (-n))
    else s.float?
  | _, _ => s.float?

end Spelling

/-- The characters of a number. -/
def Number.chars : Number → List Char
  | .integer value => (toString value).toList
  | .float value => value.chars

end Agenda.Json
