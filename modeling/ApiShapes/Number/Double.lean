/-!
# Binary floating point numbers of 64 bits

* `Double` : a number by its bits; `Double.view` reads sign, significand and exponent;
* `Double.ofRatio`, `Double.ofDecimal` : the nearest number, ties to the even significand;
* `Double.ofDigits` : the digits of an integer taken in one by one, rounding after each;
* `Double.numEq` : equality of numbers, under which the two zeros agree and NaN equals nothing.
-/

namespace ApiShapes

/-- A 64-bit binary floating point number. -/
structure Double where
  bits : UInt64
  deriving DecidableEq, Inhabited, Repr

/-- What the bits of a number say. -/
inductive DoubleView where
  /-- `significand · 2 ^ exponent`, negated if `negative` -/
  | finite (negative : Bool) (significand : Nat) (exponent : Int)
  | infinite (negative : Bool)
  | nan
  deriving DecidableEq

namespace Double

def twoTo (n : Nat) : Nat := Nat.pow 2 n

def tenTo (n : Nat) : Nat := Nat.pow 10 n

def view (x : Double) : DoubleView :=
  let n := x.bits.toNat
  let negative := n / twoTo 63 == 1
  let biased : Nat := n / twoTo 52 % 2048
  let fraction : Nat := n % twoTo 52
  if biased == 2047 then if fraction == 0 then .infinite negative else .nan
  else if biased == 0 then .finite negative fraction (-1074)
  else .finite negative (twoTo 52 + fraction) ((biased : Int) - 1075)

def infinityBits : Nat := 2047 * twoTo 52

def neg (x : Double) : Double :=
  ⟨x.bits ^^^ (1 : UInt64) <<< 63⟩

instance : Neg Double := ⟨neg⟩

def numEq (x y : Double) : Bool :=
  match x.view, y.view with
  | .nan, _ => false
  | _, .nan => false
  | .finite _ 0 _, .finite _ 0 _ => true
  | _, _ => x.bits == y.bits

/-! ## Rounding -/

/-- The integer nearest to `num / den`, of two the even one. -/
def roundDiv (num den : Nat) : Nat :=
  let q := num / den
  let twice := 2 * (num % den)
  if twice < den then q else if den < twice then q + 1 else q + q % 2

/-- The greatest `e` with `2 ^ e ≤ num / den`, for positive `num` and `den`. -/
def floorLog2 (num den : Nat) : Int :=
  let e : Int := (num.log2 : Int) - den.log2
  if den * twoTo e.toNat ≤ num * twoTo (-e).toNat then e else e - 1

/-- The number nearest to `num / den`, for positive `den`. -/
def ofRatio (num den : Nat) : Double :=
  if num == 0 then ⟨0⟩
  else
    let scale : Int := max (floorLog2 num den - 52) (-1074)
    let significand := roundDiv (num * twoTo (-scale).toNat) (den * twoTo scale.toNat)
    let bits := (scale + 1074).toNat * twoTo 52 + significand
    ⟨UInt64.ofNat (min bits infinityBits)⟩

/-- The number nearest to `digits · 10 ^ exponent`. Beyond the four hundredth decimal place on
either side the answer is infinity or zero, whatever the digits. -/
def ofDecimal (digits : Nat) (exponent : Int) : Double :=
  let places : Int := (Nat.toDigits 10 digits).length + exponent
  if digits == 0 || places < -400 then ⟨0⟩
  else if 400 < places then ⟨UInt64.ofNat infinityBits⟩
  else ofRatio (digits * tenTo exponent.toNat) (tenTo (-exponent).toNat)

def ofNat (n : Nat) : Double :=
  ofRatio n 1

def floorNat (x : Double) : Nat :=
  match x.view with
  | .finite _ m e => m * twoTo e.toNat / twoTo (-e).toNat
  | _ => 0

/-- Takes digits in one by one, rounding after each. -/
def ofDigits (base : Nat) (digits : List Nat) : Double :=
  digits.foldl (fun x d =>
    match x.view with
    | .finite .. => ofNat (x.floorNat * base + d)
    | _ => x) ⟨0⟩

end Double

end ApiShapes
