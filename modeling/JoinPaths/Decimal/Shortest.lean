/-!
# The shortest decimals that read back

A finite double is `m * 2 ^ q`, and the decimals that round to it form an interval around it whose
ends belong to it when `m` is even. `Decimal.shortest` looks for the fewest digits with which some
decimal lies in that interval, by trying one digit, then two, and so on: of the multiples of a power
of ten only the two next to the value itself can be in it. Of two that are, the nearer one is taken,
and of two equally near ones the even one.
-/

namespace JoinPaths

/-- The decimal `digits * 10 ^ exponent`. -/
structure Decimal where
  /-- The digits, read as a number. -/
  digits : Nat
  /-- The power of ten that the last digit stands for. -/
  exponent : Int
deriving DecidableEq, Repr

namespace Decimal

/-- A double with its neighbourhood, in units of `1 / scale`: the value, and the first and the last
point that round to it. -/
structure Neighbourhood where
  value : Nat
  low : Nat
  high : Nat
  /-- How many units make one. -/
  scale : Nat
  /-- Whether the ends belong to the interval. -/
  closed : Bool

/-- The number of values of the fraction field of a double. -/
def fractionCount : Nat := 0x10000000000000

/-- The neighbourhood of the positive double with this exponent field and this fraction field. -/
def Neighbourhood.ofFields (exponent fraction : Nat) : Neighbourhood :=
  let m := if exponent = 0 then fraction else fractionCount + fraction
  let q : Int := (max exponent 1 : Nat) - 1075
  let up := Nat.pow 2 q.toNat
  let below := if fraction = 0 ∧ 1 < exponent then 1 else 2
  { value := 4 * m * up
    low := (4 * m - below) * up
    high := (4 * m + 2) * up
    scale := 4 * Nat.pow 2 (-q).toNat
    closed := m % 2 == 0 }

/-- The number of decimal digits. -/
def digitCount (n : Nat) : Nat :=
  (Nat.toDigits 10 n).length

/-- The power of ten of the first digit of `value / scale`. -/
def Neighbourhood.magnitude (x : Neighbourhood) : Int :=
  (digitCount (x.value * Nat.pow 10 330 / x.scale) : Int) - 331

/-- The decimal with the last digit at `10 ^ exponent` that is nearest to the value among those that
round to it. -/
def Neighbourhood.onGrid? (x : Neighbourhood) (exponent : Int) : Option Nat :=
  let up := Nat.pow 10 exponent.toNat * x.scale
  let down := Nat.pow 10 (-exponent).toNat
  let inside (c : Nat) : Bool :=
    if x.closed then x.low * down ≤ c * up && c * up ≤ x.high * down
    else x.low * down < c * up && c * up < x.high * down
  let c := x.value * down / up
  let above := (c + 1) * up - x.value * down
  let beneath := x.value * down - c * up
  if inside c then
    if inside (c + 1) && (above < beneath || (above == beneath && c % 2 == 1)) then some (c + 1)
    else some c
  else if inside (c + 1) then some (c + 1) else none

/-- The decimal with the fewest digits that rounds to the positive double with these fields. -/
def shortest (exponent fraction : Nat) : Decimal :=
  let x := Neighbourhood.ofFields exponent fraction
  ((List.range 17).findSome? fun (count : Nat) =>
    let e := x.magnitude - count
    (x.onGrid? e).map fun c => (⟨c, e⟩ : Decimal)).getD ⟨0, 0⟩

end Decimal

end JoinPaths
