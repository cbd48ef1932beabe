/-
The shortest decimal of a double.

A finite double is a whole number of units of a power of two. Every real number
nearer to it than to its neighbours rounds to it, and so do the two midpoints
when its significand is even. Among the decimals in that interval the ones with
the fewest digits are sought, and of those the one nearest to the double. Two
candidates suffice for every digit count: the multiples of the power of ten just
below and just above the double.

These are the digits that serde_json documents for a double: the shortest that read back as
the same double.
-/

namespace FramedEvents.Decimal

-- The powers of numbers are meant, and not those of some monoid.
attribute [local instance (2000)] instPowNat

/-- A positive double as `significand * 2 ^ exponent`. -/
structure Binary where
  significand : Nat
  exponent : Int
  deriving DecidableEq

def Binary.ofBits (bits : UInt64) : Binary :=
  let fraction : Nat := bits.toNat % 2 ^ (52 : Nat)
  let field : Nat := bits.toNat / 2 ^ (52 : Nat) % 2 ^ (11 : Nat)
  if field = 0 then ⟨fraction, -1074⟩ else ⟨2 ^ (52 : Nat) + fraction, (field : Int) - 1075⟩

structure Scaled where
  coefficient : Nat
  exponent : Int
  deriving DecidableEq

private def scaledFloor (numerator denominator : Nat) (tens : Int) : Nat :=
  if 0 ≤ tens then numerator * 10 ^ tens.toNat / denominator
  else numerator / (denominator * 10 ^ (-tens).toNat)

private def leadingExponent (numerator denominator : Nat) : Int :=
  let guess : Int := (Nat.toDigits 10 numerator).length - (Nat.toDigits 10 denominator).length
  if scaledFloor numerator denominator (-guess) = 0 then guess - 1 else guess

/-- The four quarters of a unit to either side of a double that still round to
it. Below a power of two the neighbour is nearer. -/
private def quartersBelow (value : Binary) : Nat :=
  if value.significand = 2 ^ (52 : Nat) ∧ -1074 < value.exponent then 1 else 2

/-- The nearest decimal with this exponent that rounds to the double, if any. -/
private def onGrid? (value : Binary) (exponent : Int) : Option Scaled :=
  let quarters := 4 * value.significand
  let scale := value.exponent - 2
  let numerator := 2 ^ scale.toNat * 10 ^ (-exponent).toNat
  let denominator := 2 ^ (-scale).toNat * 10 ^ exponent.toNat
  -- In units of a common denominator a quarter is `numerator` and the grid is `denominator`.
  let low := (quarters - quartersBelow value) * numerator
  let high := (quarters + 2) * numerator
  let exact := quarters * numerator
  let inside (candidate : Nat) : Bool :=
    let place := candidate * denominator
    if value.significand % 2 = 0 then low ≤ place && place ≤ high else low < place && place < high
  let below := exact / denominator
  let above := below + 1
  let belowGap := exact - below * denominator
  let aboveGap := above * denominator - exact
  let chosen? : Option Nat :=
    match inside below, inside above with
    | true, true =>
        if belowGap < aboveGap || (belowGap == aboveGap && below % 2 == 0) then some below
        else some above
    | true, false => some below
    | false, true => some above
    | false, false => none
  chosen?.map fun coefficient => ⟨coefficient, exponent⟩

def Scaled.strip (decimal : Scaled) : Scaled :=
  let zeros := (Nat.toDigits 10 decimal.coefficient).reverse.takeWhile (· == '0')
  ⟨decimal.coefficient / 10 ^ zeros.length, decimal.exponent + zeros.length⟩

/-- The shortest decimal that rounds to a positive double. Seventeen digits
always suffice. -/
def shortest (value : Binary) : Scaled :=
  let scale := value.exponent
  let leading :=
    leadingExponent (value.significand * 2 ^ scale.toNat) (2 ^ (-scale).toNat)
  let grids := (List.range 17).map fun (more : Nat) => leading - (more : Int)
  ((grids.findSome? (onGrid? value)).getD ⟨0, 0⟩).strip

/-- Where a written number leaves positional notation: the least and the
greatest exponent of a leading digit that are still written with zeros. -/
structure Style where
  least : Int
  greatest : Int
  deriving DecidableEq

/-- The digits of a decimal with a point, or with a power of ten. -/
def Style.write (style : Style) (decimal : Scaled) : String :=
  let digits := Nat.toDigits 10 decimal.coefficient
  let leading := decimal.exponent + digits.length - 1
  if style.least ≤ leading ∧ leading ≤ style.greatest then
    if 0 ≤ decimal.exponent then
      String.ofList (digits ++ List.replicate decimal.exponent.toNat '0') ++ ".0"
    else if 0 ≤ leading then
      let whole := (leading + 1).toNat
      String.ofList (digits.take whole) ++ "." ++ String.ofList (digits.drop whole)
    else
      "0." ++ String.ofList (List.replicate (-leading - 1).toNat '0' ++ digits)
  else
    let mantissa :=
      match digits with
      | [] => ""
      | [digit] => String.ofList [digit]
      | digit :: more => String.ofList (digit :: '.' :: more)
    let sign := if leading < 0 then "-" else "+"
    mantissa ++ "e" ++ sign ++ toString leading.natAbs

/-- Numbers with a leading digit from the fifth place after the point to the
sixteenth before it are written out. -/
def plainStyle : Style := ⟨-5, 15⟩

/-- The text of a finite double: the shortest decimal, never without a point or
an exponent. -/
def ofDouble (bits : UInt64) : String :=
  let sign := if bits.toNat / 2 ^ (63 : Nat) = 1 then "-" else ""
  let value := Binary.ofBits bits
  if value.significand = 0 then sign ++ "0.0"
  else sign ++ plainStyle.write (shortest value)

end FramedEvents.Decimal
