import Shortcuts.Decimal.Double
import Shortcuts.Text.Blank

/-!
Decimal literals as people write them: an optional sign, digits with at most one point and at
least one digit beside it, an optional exponent; or a word for infinity or not-a-number.
-/

namespace Shortcuts.Double

def ofDigits (ds : List Char) : Nat := ds.foldl (fun n c => 10 * n + (c.toNat - 48)) 0

/-- Reads an exponent and its sign, with at least one digit and nothing behind it. -/
def readExponent : List Char → Option Int
  | [] => some 0
  | c :: s =>
    if c = 'e' || c = 'E' then
      let (negative, ds) := match s with
        | '-' :: r => (true, r)
        | '+' :: r => (false, r)
        | r => (false, r)
      if ds.isEmpty || !ds.all Char.isDigit then none
      else some (if negative then -(ofDigits ds : Int) else ofDigits ds)
    else none

def readUnsigned (negative : Bool) (s : List Char) : Option Double :=
  let word := String.ofList (s.map Char.toLower)
  if word = "inf" || word = "infinity" then some (infinite negative)
  else if word = "nan" then some nan
  else
    let whole := s.takeWhile Char.isDigit
    let rest := s.dropWhile Char.isDigit
    let (fraction, rest) := match rest with
      | '.' :: r => (r.takeWhile Char.isDigit, r.dropWhile Char.isDigit)
      | r => ([], r)
    if whole.isEmpty && fraction.isEmpty then none
    else (readExponent rest).map fun x =>
      ofDecimal negative (ofDigits (whole ++ fraction)) (x - fraction.length)

/-- Reads a literal that fills the whole text. -/
def read? : List Char → Option Double
  | '-' :: s => readUnsigned true s
  | '+' :: s => readUnsigned false s
  | s => readUnsigned false s

end Shortcuts.Double
