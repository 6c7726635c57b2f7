import GridQuery.Decimal.Binary64

/-! The shortest decimal text of a double: the fewest digits that read back, the nearest of those,
and a layout that says where the point or an exponent goes. -/
namespace GridQuery.Decimal

/-- Which neighbour a value halfway between two takes. -/
inductive Tie where
  | even
  | up
  deriving DecidableEq, Repr

/-- The decimal number `digits * 10 ^ exponent`. -/
structure Scientific where
  digits : Nat
  exponent : Int
  deriving DecidableEq, Repr

namespace Magnitude

/-- A magnitude measured on the grid of multiples of `10 ^ exponent`: its value and the ends of the
interval that rounds to it, all in units of a quarter of a grid step over one denominator. -/
structure OnGrid where
  value : Nat
  low : Nat
  high : Nat
  step : Nat
  /-- Whether the ends round to the magnitude too, as they do to an even mantissa. -/
  closed : Bool

/-- The interval reaches half way to the neighbouring magnitudes. -/
def onGrid (magnitude : Magnitude) (exponent : Int) : OnGrid :=
  let scale := Nat.pow 2 magnitude.exponent.toNat * Nat.pow 10 (-exponent).toNat
  -- Below a power of two the neighbour is half as far away.
  let gap := if magnitude.mantissa = leastFull ∧ minExponent < magnitude.exponent then 1 else 2
  { value := 4 * magnitude.mantissa * scale
    low := (4 * magnitude.mantissa - gap) * scale
    high := (4 * magnitude.mantissa + 2) * scale
    step := 4 * Nat.pow 2 (-magnitude.exponent).toNat * Nat.pow 10 exponent.toNat
    closed := magnitude.mantissa % 2 = 0 }

/-- Whether a multiple of the grid step rounds to the magnitude. -/
def OnGrid.readsBack (grid : OnGrid) (multiple : Nat) : Bool :=
  let point := multiple * grid.step
  if grid.closed then grid.low ≤ point && point ≤ grid.high
  else grid.low < point && point < grid.high

/-- Of the two multiples around the magnitude the nearer one. -/
def OnGrid.nearer (grid : OnGrid) (tie : Tie) : Nat :=
  let below := grid.value / grid.step
  let twice := 2 * (grid.value % grid.step)
  if twice < grid.step then below
  else if grid.step < twice then below + 1
  else if tie = .even ∧ below % 2 = 0 then below
  else below + 1

/-- A multiple around the magnitude that reads back as it, the nearer one if both do. -/
def OnGrid.multiple? (grid : OnGrid) (tie : Tie) : Option Nat :=
  let below := grid.value / grid.step
  [grid.nearer tie, below, below + 1].find? grid.readsBack

/-- An exponent at which the grid is coarser than the magnitude. -/
def coarse (magnitude : Magnitude) : Int :=
  ((Nat.log2 magnitude.mantissa : Int) + magnitude.exponent + 2) * 30103 / 100000 + 2

/-- The shortest decimal that reads back: the coarsest grid with such a multiple has the fewest
digits, and at most seventeen are needed. -/
def shortest (tie : Tie) (magnitude : Magnitude) : Scientific :=
  if magnitude.mantissa = 0 then ⟨0, 0⟩
  else
    -- The estimate is at most a few grids too coarse, and seventeen digits always suffice.
    let exponents := (List.range 24).map fun (finer : Nat) => magnitude.coarse - finer
    (exponents.findSome? fun exponent =>
      ((magnitude.onGrid exponent).multiple? tie).map fun digits => ⟨digits, exponent⟩).getD ⟨0, 0⟩

end Magnitude

/-- How a decimal number is laid out. -/
structure Layout where
  /-- The exponents of the first digit for which digits stand at their places, without an
  exponent. -/
  positional : Int → Bool
  /-- Whether a whole number ends in a point and a zero. -/
  pointZero : Bool
  tie : Tie

def zeros (count : Nat) : List Char := List.replicate count '0'

/-- Digits at their places around a decimal point. -/
def Layout.positionalText (layout : Layout) (digits : List Char) (exponent : Int) : List Char :=
  if 0 ≤ exponent then
    digits ++ zeros exponent.toNat ++ (if layout.pointZero then ['.', '0'] else [])
  else
    let fraction := (-exponent).toNat
    if fraction < digits.length then
      digits.take (digits.length - fraction) ++ '.' :: digits.drop (digits.length - fraction)
    else '0' :: '.' :: zeros (fraction - digits.length) ++ digits

/-- One digit before the point and a signed exponent. -/
def exponentText (digits : List Char) (exponent : Int) : List Char :=
  let fraction := match digits.drop 1 with
    | [] => []
    | rest => '.' :: rest
  let sign := if 0 ≤ exponent then "+" else ""
  digits.take 1 ++ fraction ++ 'e' :: (sign ++ toString exponent).toList

def Layout.magnitudeText (layout : Layout) (magnitude : Magnitude) : String :=
  let decimal := magnitude.shortest layout.tie
  let digits := (toString decimal.digits).toList
  let first : Int := decimal.exponent + digits.length - 1
  String.ofList (if layout.positional first then layout.positionalText digits decimal.exponent
    else exponentText digits first)

def Layout.text (layout : Layout) : Binary64 → String
  | .finite negative magnitude => (if negative then "-" else "") ++ layout.magnitudeText magnitude
  | .infinite negative => if negative then "-inf" else "inf"
  | .nan => "NaN"

end GridQuery.Decimal
