import Shortcuts.Decimal.Double

/-!
The shortest decimal that reads back as a given number: of the multiples of the coarsest power of
ten with one in the rounding interval, the nearest to the number.
-/

namespace Shortcuts.Double

/-- How a number exactly between two shortest decimals is written. -/
inductive Tie where
  | toEven
  | up
deriving DecidableEq

/-- The numbers that round to a given one, in quarters of a smallest step. -/
structure Interval where
  low : Nat
  value : Nat
  high : Nat
  closed : Bool

/-- Below a power of two the neighbour is only half as far away. -/
def interval (m e : Nat) : Interval where
  low := (4 * m - (if m = Nat.pow 2 52 ∧ 0 < e then 1 else 2)) * Nat.pow 2 e
  value := 4 * m * Nat.pow 2 e
  high := (4 * m + 2) * Nat.pow 2 e
  closed := m % 2 = 0

namespace Interval

/-- Number of quarters in one. -/
def quarters : Nat := 4 * stepsPerOne

/-- Whether `scaled / scale` quarters lie in the interval. -/
def holds (i : Interval) (scaled scale : Nat) : Bool :=
  if i.closed then i.low * scale ≤ scaled && scaled ≤ i.high * scale
  else i.low * scale < scaled && scaled < i.high * scale

/-- The multiple `d * 10 ^ k` in the interval that is nearest to the value. -/
def nearestMultiple (i : Interval) (tie : Tie) (k : Int) : Option Nat :=
  let unit := quarters * Nat.pow 10 k.toNat
  let scale := Nat.pow 10 (-k).toNat
  let v := i.value * scale
  let d := v / unit
  let below := 0 < d && i.holds (d * unit) scale
  let above := i.holds ((d + 1) * unit) scale
  if below && above then
    let r := v - d * unit
    if 2 * r < unit then some d
    else if unit < 2 * r then some (d + 1)
    else match tie with
      | .up => some (d + 1)
      | .toEven => some (if d % 2 = 0 then d else d + 1)
  else if below then some d
  else if above then some (d + 1)
  else none

/-- Goes from `10 ^ k` to finer powers until one has a multiple in the interval. -/
def coarsest (i : Interval) (tie : Tie) : Nat → Int → Nat × Int
  | 0, k => (0, k)
  | fuel + 1, k =>
    match i.nearestMultiple tie k with
    | some d => (d, k)
    | none => i.coarsest tie fuel (k - 1)

end Interval

/-- The digits and the power of ten of the shortest decimal for a positive finite number. -/
def shortest (tie : Tie) (m e : Nat) : Nat × Int :=
  (interval m e).coarsest tie 640 310

def decimalDigits (n : Nat) : List Char := Nat.toDigits 10 n

def zeros (n : Nat) : List Char := List.replicate n '0'

/-- Digits with a point where the power of ten asks for one, never with an exponent. -/
def positional (digits : List Char) (k : Int) : List Char :=
  if 0 ≤ k then digits ++ zeros k.toNat
  else
    let after := (-k).toNat
    if after < digits.length then
      digits.take (digits.length - after) ++ '.' :: digits.drop (digits.length - after)
    else '0' :: '.' :: (zeros (after - digits.length) ++ digits)

/-- The plain text of a number: shortest digits, no exponent, no trailing `.0`. -/
def plain : Double → List Char
  | nan => "NaN".toList
  | infinite s => (if s then "-inf" else "inf").toList
  | finite s m e =>
    let body := if m = 0 then ['0'] else
      let (d, k) := shortest .up m e
      positional (decimalDigits d) k
    if s then '-' :: body else body

end Shortcuts.Double
