import AttrFold.Text.Digit

/-!
Floating-point numbers of 64 bits: reading the number nearest to a decimal, and writing the shortest
decimal that reads back. All of it is exact arithmetic on integers.
-/

namespace AttrFold

/-- A binary floating-point number with a mantissa below `2 ^ 53` and an exponent from -1074 to 971.
The value of a finite number is its mantissa times two to the power of its exponent; the mantissa is
at least `2 ^ 52` unless the exponent is the least one. -/
inductive Binary64 where
  | finite (isNegative : Bool) (mantissa : Nat) (exponent : Int)
  | infinite (isNegative : Bool)
  | nan
deriving DecidableEq

namespace Binary64

/-- The least exponent of a finite number. -/
def minExponent : Int := -1074

/-- The greatest exponent of a finite number. -/
def maxExponent : Int := 971

/-- A power of two. -/
def powerOfTwo (n : Nat) : Nat := 1 <<< n

/-- A power of ten. -/
def powerOfTen : Nat → Nat
  | 0 => 1
  | n + 1 => 10 * powerOfTen n

/-- The quotient rounded to the nearest integer, and from the middle to the even one. -/
def divNearestEven (num den : Nat) : Nat :=
  let q := num / den
  let twice := 2 * (num % den)
  if twice < den || (twice = den && q % 2 = 0) then q else q + 1

/-- A fraction divided by a power of two. -/
def unscale (num den : Nat) (exponent : Int) : Nat × Nat :=
  if exponent < 0 then (num * powerOfTwo (-exponent).toNat, den)
  else (num, den * powerOfTwo exponent.toNat)

/-- The number nearest to a positive fraction. -/
def ofFraction (isNegative : Bool) (num den : Nat) : Binary64 :=
  let low := max minExponent ((num.log2 : Int) - den.log2 - 53)
  let (n, d) := unscale num den low
  let exponent := if n / d < powerOfTwo 53 then low else low + 1
  let (n, d) := unscale num den exponent
  let mantissa := divNearestEven n d
  let (mantissa, exponent) :=
    if mantissa = powerOfTwo 53 then (powerOfTwo 52, exponent + 1) else (mantissa, exponent)
  if maxExponent < exponent then .infinite isNegative else .finite isNegative mantissa exponent

/-- The number nearest to `digits * 10 ^ scale`. Scales far outside the range of the format are
decided without computing the power. -/
def ofDecimal (isNegative : Bool) (digits : Nat) (scale : Int) : Binary64 :=
  let magnitude := (Nat.toDigits 10 digits).length + scale
  if digits = 0 || magnitude < -330 then .finite isNegative 0 minExponent
  else if 310 < magnitude then .infinite isNegative
  else if scale < 0 then ofFraction isNegative digits (powerOfTen (-scale).toNat)
  else ofFraction isNegative (digits * powerOfTen scale.toNat) 1

/-- An exact fraction over four times the unit of a mantissa: numerator and denominator. -/
def quarters (mantissa4 : Nat) (exponent : Int) : Nat × Nat :=
  if exponent < 0 then (mantissa4, 4 * powerOfTwo (-exponent).toNat)
  else (mantissa4 * powerOfTwo exponent.toNat, 4)

/-- The exponent of the leading decimal digit of a positive fraction. -/
def leadingExponent (num den : Nat) : Int :=
  if den ≤ num then (Nat.toDigits 10 (num / den)).length - 1
  else -((Nat.toDigits 10 ((den - 1) / num)).length : Int)

/-- A decimal as digits and scale: its value is `digits * 10 ^ scale`. -/
structure Decimal where
  digits : Nat
  scale : Int
deriving DecidableEq

/-- Whether `a / 4 * 2 ^ exponent` lies below, or at most at, a decimal. -/
def quartersBelow (strict : Bool) (a : Nat) (exponent : Int) (d : Decimal) : Bool :=
  let (num, den) := quarters a exponent
  let left := if d.scale < 0 then num * powerOfTen (-d.scale).toNat else num
  let right := if d.scale < 0 then d.digits * den else d.digits * powerOfTen d.scale.toNat * den
  if strict then left < right else left ≤ right

/-- Whether a decimal lies below, or at most at, `a / 4 * 2 ^ exponent`. -/
def belowQuarters (strict : Bool) (d : Decimal) (a : Nat) (exponent : Int) : Bool :=
  !quartersBelow (!strict) a exponent d

/-- Whether a decimal reads back as the positive number of this mantissa and exponent: it lies
between the middles to the two neighbours, which count when the mantissa is even. -/
def readsBack (mantissa : Nat) (exponent : Int) (d : Decimal) : Bool :=
  let strict := mantissa % 2 = 1
  let below := if mantissa = powerOfTwo 52 && minExponent < exponent then 1 else 2
  quartersBelow strict (4 * mantissa - below) exponent d
    && belowQuarters strict d (4 * mantissa + 2) exponent

/-- The decimal with at most `length` digits that is nearest to a positive number and reads back. -/
def nearestDecimal? (mantissa : Nat) (exponent : Int) (length : Nat) : Option Decimal :=
  let (num, den) := quarters (4 * mantissa) exponent
  let scale := leadingExponent num den - length + 1
  let (n, d) :=
    if scale < 0 then (num * powerOfTen (-scale).toNat, den)
    else (num, den * powerOfTen scale.toNat)
  let down : Decimal := ⟨n / d, scale⟩
  let up : Decimal := ⟨n / d + 1, scale⟩
  match readsBack mantissa exponent down, readsBack mantissa exponent up with
  | true, true => some ⟨divNearestEven n d, scale⟩
  | true, false => some down
  | false, true => some up
  | false, false => none

/-- The shortest decimal that reads back as a positive number; 17 digits always do. -/
def shortestDecimal (mantissa : Nat) (exponent : Int) : Decimal :=
  ((List.range' 1 17).findSome? (nearestDecimal? mantissa exponent)).getD ⟨0, 0⟩

/-- Digits without the zeros at their end, and how many these were. -/
def dropTrailingZeros (digits : Text) : Text :=
  digits.reverse.dropWhile (· = '0') |>.reverse

/-- The digits of a decimal with the point after the first `point` of them. The text is positional
for points from -3 to 16 and keeps a digit after the point; otherwise it has an exponent of at least
two digits with its sign. -/
def placePoint (digits : Text) (point : Int) : Text :=
  if 16 < point || point ≤ -4 then
    let exponent := point - 1
    let size := Text.ofNat exponent.natAbs
    let fraction := if digits.length ≤ 1 then [] else '.' :: digits.drop 1
    digits.take 1 ++ fraction ++ ['e', if exponent < 0 then '-' else '+']
      ++ List.replicate (2 - size.length) '0' ++ size
  else if point ≤ 0 then "0." ++ List.replicate (-point).toNat '0' ++ digits
  else
    let whole := digits.take point.toNat
    let fraction := digits.drop point.toNat
    whole ++ List.replicate (point.toNat - digits.length) '0' ++ ['.']
      ++ (if fraction.isEmpty then ['0'] else fraction)

/-- The shortest text of a finite number without its sign. -/
def magnitudeText (mantissa : Nat) (exponent : Int) : Text :=
  if mantissa = 0 then "0.0"
  else
    let d := shortestDecimal mantissa exponent
    let digits := Text.ofNat d.digits
    placePoint (dropTrailingZeros digits) (digits.length + d.scale)

/-- The texts of the numbers that are not finite. -/
structure Specials where
  infinity : Text
  nan : Text

/-- The shortest text that reads back as the number. -/
def text (specials : Specials) : Binary64 → Text
  | .finite isNegative mantissa exponent =>
    (if isNegative then ['-'] else []) ++ magnitudeText mantissa exponent
  | .infinite isNegative => (if isNegative then ['-'] else []) ++ specials.infinity
  | .nan => specials.nan

end Binary64

end AttrFold
