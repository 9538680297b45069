import Agenda.Decimal.Binary64

/-!
The shortest decimal of a binary number: of the decimals that read back as the number, one with the
fewest digits, and of those the nearest to it. The reals that read back form an interval around the
number, and a grid of decimals with a given last place meets it iff one of the number's two
neighbours on the grid lies in it.
-/

namespace Agenda.Decimal

namespace Binary64

/--
The multiple of `10 ^ place` that reads back as a positive number, as its factor. Of two such
multiples it is the nearer one, on a tie the even one.
-/
def onGrid? (x : Binary64) (place : Int) : Option Nat :=
  let unit := Nat.pow 2 x.exponent.toNat * Nat.pow 10 (-place).toNat
  let step := 4 * Nat.pow 2 (-x.exponent).toNat * Nat.pow 10 place.toNat
  let below := if x.mantissa = Nat.pow 2 52 ∧ -1074 < x.exponent then 1 else 2
  let value := 4 * x.mantissa * unit
  let low := (4 * x.mantissa - below) * unit
  let high := (4 * x.mantissa + 2) * unit
  let inside (k : Nat) : Bool :=
    if x.mantissa % 2 = 0 then low ≤ k * step && k * step ≤ high
    else low < k * step && k * step < high
  let k := value / step
  match inside k, inside (k + 1) with
  | false, false => none
  | true, false => some k
  | false, true => some (k + 1)
  | true, true =>
    match compare (2 * value) ((2 * k + 1) * step) with
    | .lt => some k
    | .gt => some (k + 1)
    | .eq => some (if k % 2 = 0 then k else k + 1)

/-- The first grid with a hit, from a place downwards. -/
def firstGrid (x : Binary64) : Nat → Int → Nat × Int
  | 0, place => (0, place)
  | tries + 1, place =>
    match x.onGrid? place with
    | some k => (k, place)
    | none => x.firstGrid tries (place - 1)

/-- A power of ten that is not below a positive number, by its exponent. -/
def placeAbove (x : Binary64) : Int :=
  let (num, den) := x.quotient
  if den ≤ num then (Nat.toDigits 10 (num / den)).length
  else 2 - (Nat.toDigits 10 (den / num)).length

/-- The digits of the shortest decimal, without zeros at the end, and the place of the last one. -/
def shortest (x : Binary64) : List Char × Int :=
  let (k, place) := x.firstGrid 20 x.placeAbove
  let ds := Nat.toDigits 10 k
  let zeros := (ds.reverse.takeWhile (· == '0')).length
  (ds.take (ds.length - zeros), place + zeros)

/--
A number in decimal: positional from 10^-5 up to below 10^16, with at least one digit after the
point, and otherwise with an exponent, which always shows its sign.
-/
def chars (x : Binary64) : List Char :=
  let sign := if x.negative then ['-'] else []
  if x.mantissa = 0 then sign ++ ['0', '.', '0']
  else
    let (ds, place) := x.shortest
    let point : Int := ds.length + place
    sign ++
      if 0 ≤ place ∧ point ≤ 16 then ds ++ List.replicate place.toNat '0' ++ ['.', '0']
      else if 0 < point ∧ point ≤ 16 then ds.take point.toNat ++ '.' :: ds.drop point.toNat
      else if -5 < point ∧ point ≤ 0 then '0' :: '.' :: List.replicate (-point).toNat '0' ++ ds
      else
        let exponent :=
          'e' :: (if 0 < point then ['+'] else []) ++ (toString (point - 1)).toList
        match ds with
        | [d] => d :: exponent
        | d :: ds => d :: '.' :: ds ++ exponent
        | [] => exponent

end Binary64

end Agenda.Decimal
