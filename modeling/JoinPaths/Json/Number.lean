import JoinPaths.Decimal.Shortest
import JoinPaths.Json.Basic
import JoinPaths.Text.Digit

/-!
# Numbers in JSON texts

Writing: an integer is written with its digits. A double is written with the fewest digits that read
back, positionally from `0.00001` to below `10 ^ 16` and with an exponent elsewhere, and always so
that it cannot be taken for an integer.

Reading: a numeral without fraction and exponent that fits in 64 bits is an integer. Any other is a
double, computed from the digits that fit in 64 bits and one power of ten; a numeral beyond the
largest double is refused.
-/

namespace JoinPaths.Json

/-! ## Writing -/

/-- The text of a positive decimal with its first digit at a given power of ten. -/
def positional (digits : List Char) (magnitude : Int) : List Char :=
  if magnitude < 0 then
    ['0', '.'] ++ List.replicate (-magnitude - 1).toNat '0' ++ digits
  else
    let whole := digits.take (magnitude.toNat + 1)
    let zeros := List.replicate (magnitude.toNat + 1 - digits.length) '0'
    let fraction := digits.drop (magnitude.toNat + 1)
    whole ++ zeros ++ '.' :: (if fraction.isEmpty then ['0'] else fraction)

/-- The text of a positive decimal with one digit before the point and an exponent. -/
def scientific (digits : List Char) (magnitude : Int) : List Char :=
  let fraction := digits.drop 1
  digits.take 1 ++ (if fraction.isEmpty then [] else '.' :: fraction) ++
    'e' :: (if magnitude < 0 then '-' else '+') :: Nat.toDigits 10 magnitude.natAbs

/-- The text of a finite double. -/
def doubleText (x : Float) : List Char :=
  let bits := x.toBits.toNat
  let sign := if bits < UInt64.size / 2 then [] else ['-']
  let magnitudeBits := bits % (UInt64.size / 2)
  if magnitudeBits = 0 then sign ++ ['0', '.', '0']
  else
    let d := Decimal.shortest (magnitudeBits / Decimal.fractionCount) (magnitudeBits % Decimal.fractionCount)
    let all := Nat.toDigits 10 d.digits
    let magnitude := d.exponent + all.length - 1
    let digits := (all.reverse.dropWhile (· == '0')).reverse
    sign ++
      if -5 ≤ magnitude ∧ magnitude < 16 then positional digits magnitude
      else scientific digits magnitude

/-- The text of an integer. -/
def integerText (n : Int) : List Char :=
  if n < 0 then '-' :: Nat.toDigits 10 n.natAbs else Nat.toDigits 10 n.natAbs

/-! ## Reading -/

/-- A number as it is written, taken apart. -/
structure Numeral where
  /-- Whether a minus sign comes first. -/
  negative : Bool
  /-- The digits before the point. -/
  whole : List Char
  /-- The digits behind the point. -/
  fraction : List Char
  /-- Whether the exponent, if there is one, is negative, and its digits. -/
  exponent : Option (Bool × List Char)
deriving DecidableEq, Repr

/-- Digits that are read one after the other into a significand of 64 bits. -/
structure Significand where
  /-- The number read so far. -/
  value : Nat
  /-- The digits that did not fit any more. -/
  dropped : List Char

/-- Reads digits until the next one would not fit in 64 bits. -/
def Significand.read (value : Nat) : List Char → Significand
  | [] => ⟨value, []⟩
  | c :: digits =>
    if value * 10 + Text.digitValue c < UInt64.size then
      read (value * 10 + Text.digitValue c) digits
    else ⟨value, c :: digits⟩

/-- The double nearest to a power of ten. -/
def powerOfTen (k : Nat) : Float :=
  Float.ofScientific 1 false k

/-- A significand times a power of ten, with one multiplication or division, or with two divisions
if the power is below `10 ^ -308`. Nothing is left of a significand of 64 bits below `10 ^ -616`,
and there is no result beyond the largest double. -/
def scale? (x : Float) (exponent : Int) : Option Float :=
  if 0 ≤ exponent then
    if exponent ≤ 308 then
      let y := x * powerOfTen exponent.toNat
      if y.isInf then none else some y
    else if x == 0.0 then some x else none
  else if -308 ≤ exponent then some (x / powerOfTen exponent.natAbs)
  else if -616 ≤ exponent then some (x / powerOfTen 308 / powerOfTen (exponent.natAbs - 308))
  else some 0.0

/-- The power of ten that an exponent part stands for. One that does not fit in 31 bits counts as
`none`. -/
def exponentValue? (digits : List Char) : Option Nat :=
  let value := Nat.ofDigitChars 10 digits 0
  if value < UInt32.size / 2 then some value else none

/-- Brings an exponent into 32 bits. -/
def clampExponent (e : Int) : Int :=
  max (-0x80000000) (min 0x7fffffff e)

/-- The double that a numeral stands for. -/
def Numeral.double? (x : Numeral) : Option Float :=
  let whole := Significand.read 0 x.whole
  let all := Significand.read whole.value x.fraction
  let shift : Int := whole.dropped.length - (x.fraction.length - all.dropped.length : Nat)
  let magnitude? :=
    match x.exponent with
    | none => scale? all.value.toUInt64.toFloat shift
    | some (negative, digits) =>
      match exponentValue? digits with
      | some e =>
        let exponent := if negative then shift - e else shift + e
        scale? all.value.toUInt64.toFloat (clampExponent exponent)
      | none => if all.value ≠ 0 ∧ !negative then none else some (0.0 : Float)
  magnitude?.map fun y => if x.negative then -y else y

/-- The number that a numeral stands for, or nothing if it is too large for a double. -/
def Numeral.value? (x : Numeral) : Option Json :=
  let n := Nat.ofDigitChars 10 x.whole 0
  if x.fraction.isEmpty ∧ x.exponent.isNone ∧ n < UInt64.size then
    if !x.negative then some (.integer n)
    else if 0 < n ∧ n ≤ UInt64.size / 2 then some (.integer (-n))
    else some (.double (-n.toUInt64.toFloat))
  else x.double?.map .double

end JoinPaths.Json
