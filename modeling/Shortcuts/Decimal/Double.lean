/-!
Double-precision numbers in decoded form. A finite magnitude is a natural number of smallest
positive steps, `2 ^ 1074` of which make one, so the order and all rounding are arithmetic on
natural numbers.
-/

namespace Shortcuts

/-- A finite number is `significand * 2 ^ exponent` smallest steps. -/
inductive Double where
  | nan
  | infinite (negative : Bool)
  | finite (negative : Bool) (significand exponent : Nat)
deriving DecidableEq, Inhabited, Repr

namespace Double

def stepsPerOne : Nat := Nat.pow 2 1074

/-- The quotient rounded to nearest, a half to the even neighbour. -/
def roundHalfEven (num den : Nat) : Nat :=
  let q := num / den
  let r := num % den
  if 2 * r < den then q
  else if den < 2 * r then q + 1
  else if q % 2 = 0 then q else q + 1

/-- The number nearest to `num / den`. -/
def ofRatio (negative : Bool) (num den : Nat) : Double :=
  let steps := num * stepsPerOne
  let e := (steps / den).log2 - 52
  let m := roundHalfEven steps (den * Nat.pow 2 e)
  let (m, e) := if m = Nat.pow 2 53 then (Nat.pow 2 52, e + 1) else (m, e)
  if 2045 < e then infinite negative else finite negative m e

def ofInt (i : Int) : Double := ofRatio (i < 0) i.natAbs 1

/-- The number nearest to `digits * 10 ^ exponent`. Exponents far outside the range are settled
by the number of digits, so that no huge power is computed. -/
def ofDecimal (negative : Bool) (digits : Nat) (exponent : Int) : Double :=
  let top : Int := exponent + (digits.log2 : Int) / 3 + 1
  if digits = 0 then finite negative 0 0
  else if 400 < exponent then infinite negative
  else if top < -400 then finite negative 0 0
  else if 0 ≤ exponent then ofRatio negative (digits * Nat.pow 10 exponent.toNat) 1
  else ofRatio negative digits (Nat.pow 10 (-exponent).toNat)

/-- The signed number of smallest steps; infinities stand beyond every finite number. -/
def rank : Double → Option Int
  | nan => none
  | infinite negative => some (if negative then -(Nat.pow 2 2100 : Int) else Nat.pow 2 2100)
  | finite negative m e => some (if negative then -(m * Nat.pow 2 e : Nat) else (m * Nat.pow 2 e : Nat))

/-- Numeric equality: a NaN differs from everything, the two zeros are equal. -/
def same (a b : Double) : Bool :=
  match a.rank, b.rank with
  | some x, some y => x == y
  | _, _ => false

def less (a b : Double) : Bool :=
  match a.rank, b.rank with
  | some x, some y => x < y
  | _, _ => false

def atMost (a b : Double) : Bool :=
  match a.rank, b.rank with
  | some x, some y => x ≤ y
  | _, _ => false

instance : BEq Double := ⟨same⟩

def isNan : Double → Bool
  | nan => true
  | _ => false

def isZero : Double → Bool
  | finite _ 0 _ => true
  | _ => false

def isFinite : Double → Bool
  | finite _ _ _ => true
  | _ => false

def neg : Double → Double
  | nan => nan
  | infinite s => infinite (!s)
  | finite s m e => finite (!s) m e

/-- Product of finite magnitudes, rounded once; the sign is the first factor's. -/
def mulMagnitude : Double → Double → Double
  | finite s m e, finite _ n f => ofRatio s (m * n * Nat.pow 2 (e + f)) (stepsPerOne * stepsPerOne)
  | a, _ => a

/-- Quotient of finite magnitudes, rounded once; the sign is the dividend's. -/
def divMagnitude : Double → Double → Double
  | finite s m e, finite _ n f => ofRatio s (m * Nat.pow 2 e) (n * Nat.pow 2 f)
  | a, _ => a

end Double

end Shortcuts
