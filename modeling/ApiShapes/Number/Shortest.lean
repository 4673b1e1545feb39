import ApiShapes.Number.Double

/-!
# Decimal text of a number

* `Double.shortest` : the fewest digits that read back as the same number, and of those the
  nearest ones; a tie goes up;
* `Double.display` : these digits written positionally, never with an exponent;
* `Double.literal` : an integer below `10 ^ 15` is written as one, so both zeros are `0`; every
  other number is displayed.
-/

namespace ApiShapes.Double

/-- The rounding interval of `significand · 2 ^ exponent` on the decimal grid of `10 ^ place`:
numerators over one common denominator. -/
structure GridView where
  /-- the grid's step -/
  step : Nat
  value : Nat
  low : Nat
  high : Nat
  /-- both ends round to the number -/
  closed : Bool

/-- The number's rounding interval over the grid of `10 ^ place`. -/
def gridView (significand : Nat) (exponent place : Int) : GridView :=
  let unit := twoTo exponent.toNat * tenTo (-place).toNat
  let value := 4 * significand * unit
  let below := if significand == twoTo 52 && -1074 < exponent then unit else 2 * unit
  { step := 4 * twoTo (-exponent).toNat * tenTo place.toNat
    value
    low := value - below
    high := value + 2 * unit
    closed := significand % 2 == 0 }

/-- The grid point `digits` lies in the rounding interval. -/
def GridView.holds (g : GridView) (digits : Nat) : Bool :=
  let x := digits * g.step
  if g.closed then g.low ≤ x && x ≤ g.high else g.low < x && x < g.high

/-- Of the value's two neighbours on the grid the nearer one that reads back. -/
def GridView.best (g : GridView) : Option Nat :=
  let below := g.value / g.step
  let above := below + 1
  match g.holds below, g.holds above with
  | true, true =>
    if g.value - below * g.step < above * g.step - g.value then some below else some above
  | true, false => some below
  | false, true => some above
  | false, false => none

/-- The first grid, from `10 ^ place` down to finer ones, with a point that reads back. -/
def firstGrid (significand : Nat) (exponent : Int) : Nat → Int → Nat × Int
  | 0, place => (significand, place)
  | fuel + 1, place =>
    match (gridView significand exponent place).best with
    | some digits => (digits, place)
    | none => firstGrid significand exponent fuel (place - 1)

/-- The fewest digits that read back as a positive number, with their decimal place. Seventeen
digits always do, and the first grid tried is at most two places too coarse. -/
def shortest (significand : Nat) (exponent : Int) : Nat × Int :=
  firstGrid significand exponent 20 (((significand.log2 + exponent) * 1233).fdiv 4096 + 1)

/-- Digits and decimal place without an exponent. -/
def positional (digits : Nat) (place : Int) : String :=
  let ds := Nat.toDigits 10 digits
  if 0 ≤ place then String.ofList (ds ++ List.replicate place.toNat '0')
  else
    let fraction := (-place).toNat
    let padded := List.replicate (fraction + 1 - ds.length) '0' ++ ds
    let whole := padded.length - fraction
    String.ofList (padded.take whole ++ '.' :: padded.drop whole)

def signed (negative : Bool) (s : String) : String :=
  if negative then "-" ++ s else s

def display (x : Double) : String :=
  match x.view with
  | .nan => "NaN"
  | .infinite negative => signed negative "inf"
  | .finite negative 0 _ => signed negative "0"
  | .finite negative m e =>
    let (digits, place) := shortest m e
    signed negative (positional digits place)

/-- The integer a number is, if it is one below `10 ^ 15`. -/
def smallInteger (x : Double) : Option Int :=
  match x.view with
  | .finite negative m e =>
    let num := m * twoTo e.toNat
    let den := twoTo (-e).toNat
    if num % den == 0 && num / den < tenTo 15 then
      some (if negative then -(num / den : Nat) else (num / den : Nat))
    else none
  | _ => none

def literal (x : Double) : String :=
  match x.smallInteger with
  | some n => toString n
  | none => x.display

end ApiShapes.Double
