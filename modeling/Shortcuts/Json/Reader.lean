import Shortcuts.Json.Basic
import Shortcuts.Decimal.Literal

/-!
Reading structured values. A text is first read as it is written, with every field of an object
in order and with numbers and strings that may turn out to have no value; `Written.toJson` then
gives it a value or refuses it.
-/

namespace Shortcuts.Json

/-- What a text spells out. A number out of range and a string with half a surrogate pair have
the right form but no value. -/
inductive Written where
  | null
  | bool (value : Bool)
  | num (value : Option Number)
  | str (value : Option String)
  | arr (items : List Written)
  | obj (fields : List (Option String × Written))
deriving Inhabited

def isSpace (c : Char) : Bool := c = ' ' || c = '\n' || c = '\t' || c = '\r'

def skipSpace (s : List Char) : List Char := s.dropWhile isSpace

/-! ### Numbers -/

/-- Takes digits into a 64-bit significand while they fit; gives the digits left over. -/
def takeDigits (significand : Nat) : List Char → Nat × List Char
  | [] => (significand, [])
  | c :: s =>
    let next := 10 * significand + (c.toNat - 48)
    if next < Nat.pow 2 64 then takeDigits next s else (significand, c :: s)

/-- Scales by powers of ten up to `10 ^ 308`, rounding each time; none when the result is too
large to be finite. -/
def scale : Nat → Double → Int → Option Double
  | 0, d, _ => some d
  | fuel + 1, d, exponent =>
    if exponent.natAbs ≤ 308 then
      let power := Double.ofRatio false (Nat.pow 10 exponent.natAbs) 1
      if 0 ≤ exponent then
        let r := d.mulMagnitude power
        if r.isFinite then some r else none
      else some (d.divMagnitude power)
    else if d.isZero then some d
    else if 0 ≤ exponent then none
    else scale fuel (d.divMagnitude (Double.ofRatio false (Nat.pow 10 308) 1)) (exponent + 308)

/-- The value of a number with a fraction or an exponent. Digits beyond the 64-bit significand
count as zeros before the point and are dropped behind it. -/
def floatOf (negative : Bool) (whole fraction : List Char) (exponent : Int) : Option Double :=
  let (n, wholeLeft) := takeDigits 0 whole
  let (n, fractionLeft) := takeDigits n fraction
  let start : Int := wholeLeft.length - (fraction.length - fractionLeft.length : Nat)
  if Nat.pow 2 31 ≤ exponent ∧ n ≠ 0 then none
  else if Nat.pow 2 31 ≤ exponent.natAbs then some (.finite negative 0 0)
  else
    let d := Double.ofRatio false n 1
    (scale 8 d (start + exponent)).map fun r => if negative then r.neg else r

/-- An integer that fits 64 bits is one; other numbers and minus zero are floats. -/
def numberOf (negative : Bool) (whole : List Char) (fraction : List Char)
    (exponent : Option Int) : Option Number :=
  if fraction.isEmpty && exponent.isNone then
    let n := Double.ofDigits whole
    if !negative && n < Nat.pow 2 64 then some (.int n)
    else if negative && 0 < n && n ≤ Nat.pow 2 63 then some (.int (-n))
    else if n < Nat.pow 2 64 then some (.float (Double.ofRatio negative n 1))
    else (floatOf negative whole [] 0).map .float
  else (floatOf negative whole fraction (exponent.getD 0)).map .float

/-- Reads the digits and sign of an exponent behind its letter. -/
def readExponent (s : List Char) : Option (Int × List Char) :=
  let (negative, s) := match s with
    | '+' :: r => (false, r)
    | '-' :: r => (true, r)
    | r => (false, r)
  let ds := s.takeWhile Char.isDigit
  if ds.isEmpty then none
  else
    let x : Int := Double.ofDigits ds
    some (if negative then -x else x, s.dropWhile Char.isDigit)

def readNumber (negative : Bool) (s : List Char) : Option (Option Number × List Char) :=
  let whole := s.takeWhile Char.isDigit
  let s := s.dropWhile Char.isDigit
  if whole.isEmpty || (whole.head? = some '0' && whole.length ≠ 1) then none
  else
    match s with
    | '.' :: r =>
      let fraction := r.takeWhile Char.isDigit
      let r := r.dropWhile Char.isDigit
      if fraction.isEmpty then none
      else match r with
        | c :: r' =>
          if c = 'e' || c = 'E' then
            (readExponent r').map fun (x, r'') => (numberOf negative whole fraction (some x), r'')
          else some (numberOf negative whole fraction none, r)
        | [] => some (numberOf negative whole fraction none, r)
    | c :: r =>
      if c = 'e' || c = 'E' then
        (readExponent r).map fun (x, r') => (numberOf negative whole [] (some x), r')
      else some (numberOf negative whole [] none, s)
    | [] => some (numberOf negative whole [] none, s)

/-! ### Strings -/

def hexValue (c : Char) : Option Nat :=
  if '0' ≤ c && c ≤ '9' then some (c.toNat - 48)
  else if 'a' ≤ c && c ≤ 'f' then some (c.toNat - 87)
  else if 'A' ≤ c && c ≤ 'F' then some (c.toNat - 55)
  else none

def readHex4 : List Char → Option (Nat × List Char)
  | a :: b :: c :: d :: s => do
    let a ← hexValue a
    let b ← hexValue b
    let c ← hexValue c
    let d ← hexValue d
    some (4096 * a + 256 * b + 16 * c + d, s)
  | _ => none

/-- A piece of a string: a character, or half a surrogate pair. -/
inductive Piece where
  | char (c : Char)
  | high (n : Nat)
  | low (n : Nat)

def pieceOf (n : Nat) : Piece :=
  if 0xD800 ≤ n && n < 0xDC00 then .high n
  else if 0xDC00 ≤ n && n < 0xE000 then .low n
  else .char (Char.ofNat n)

/-- Reads up to the closing quote. An escaped half of a pair is told apart from a plain
character, so only escapes right behind each other make a pair. -/
def readPieces : Nat → List Char → Option (List Piece × List Char)
  | 0, _ => none
  | _ + 1, [] => none
  | fuel + 1, c :: s =>
    if c = '"' then some ([], s)
    else if c = '\\' then
      match s with
      | [] => none
      | e :: s =>
        let simple (c : Char) := (readPieces fuel s).map fun (ps, r) => (Piece.char c :: ps, r)
        if e = '"' || e = '\\' || e = '/' then simple e
        else if e = 'b' then simple (Char.ofNat 8)
        else if e = 'f' then simple (Char.ofNat 12)
        else if e = 'n' then simple '\n'
        else if e = 'r' then simple '\r'
        else if e = 't' then simple '\t'
        else if e = 'u' then
          match readHex4 s with
          | some (n, s) => (readPieces fuel s).map fun (ps, r) => (pieceOf n :: ps, r)
          | none => none
        else none
    else if c.toNat < 32 then none
    else (readPieces fuel s).map fun (ps, r) => (Piece.char c :: ps, r)

def pairUp : List Piece → Option (List Char)
  | [] => some []
  | .char c :: ps => (pairUp ps).map (c :: ·)
  | .high h :: .low l :: ps =>
    (pairUp ps).map (Char.ofNat (0x10000 + 1024 * (h - 0xD800) + (l - 0xDC00)) :: ·)
  | _ => none

/-- Reads a string whose opening quote is already behind. -/
def readString (s : List Char) : Option (Option String × List Char) :=
  (readPieces (s.length + 1) s).map fun (ps, r) => ((pairUp ps).map String.ofList, r)

/-! ### Values -/

def keyword (w : String) (v : Written) (s : List Char) : Option (Written × List Char) :=
  if w.toList.isPrefixOf s then some (v, s.drop w.length) else none

mutual
/-- Reads one value and gives what stands behind it. -/
def readValue : Nat → List Char → Option (Written × List Char)
  | 0, _ => none
  | fuel + 1, s =>
    match skipSpace s with
    | [] => none
    | c :: r =>
      if c = 'n' then keyword "null" .null (c :: r)
      else if c = 't' then keyword "true" (.bool true) (c :: r)
      else if c = 'f' then keyword "false" (.bool false) (c :: r)
      else if c = '"' then (readString r).map fun (t, r) => (.str t, r)
      else if c = '-' then (readNumber true r).map fun (n, r) => (.num n, r)
      else if c.isDigit then (readNumber false (c :: r)).map fun (n, r) => (.num n, r)
      else if c = '[' then
        match skipSpace r with
        | ']' :: r => some (.arr [], r)
        | _ => (readItems fuel r).map fun (vs, r) => (.arr vs, r)
      else if c.toNat = 0x7B then
        match skipSpace r with
        | '\x7D' :: r => some (.obj [], r)
        | _ => (readFields fuel r).map fun (fs, r) => (.obj fs, r)
      else none

/-- Reads the items of a list up to its closing bracket. -/
def readItems : Nat → List Char → Option (List Written × List Char)
  | 0, _ => none
  | fuel + 1, s =>
    match readValue fuel s with
    | none => none
    | some (v, r) =>
      match skipSpace r with
      | ',' :: r => (readItems fuel r).map fun (vs, r) => (v :: vs, r)
      | ']' :: r => some ([v], r)
      | _ => none

/-- Reads the fields of an object up to its closing brace. -/
def readFields : Nat → List Char → Option (List (Option String × Written) × List Char)
  | 0, _ => none
  | fuel + 1, s =>
    match skipSpace s with
    | '"' :: r =>
      match readString r with
      | none => none
      | some (k, r) =>
        match skipSpace r with
        | ':' :: r =>
          match readValue fuel r with
          | none => none
          | some (v, r) =>
            match skipSpace r with
            | ',' :: r => (readFields fuel r).map fun (fs, r) => ((k, v) :: fs, r)
            | '\x7D' :: r => some ([(k, v)], r)
            | _ => none
        | _ => none
    | _ => none
end

/-- Reads a text that holds one value and blanks around it. -/
def readWritten (s : String) : Option Written :=
  let cs := s.toList
  match readValue (2 * cs.length + 2) cs with
  | some (v, r) => if (skipSpace r).isEmpty then some v else none
  | none => none

/-- Lists and objects may be nested this deep. -/
def maxDepth : Nat := 127

def Number.value : Number → Json
  | .float d => if d.isFinite then .num (.float d) else .null
  | n => .num n

mutual
/-- The value of what is written, with room for `depth` more levels of nesting. Of two fields of
one key the later counts, and a float that is not finite has no value but null. -/
def Written.value (depth : Nat) : Written → Option Json
  | .null => some Json.null
  | .bool b => some (Json.bool b)
  | .num n => n.map Number.value
  | .str s => s.map Json.str
  | .arr items =>
    if depth = 0 then none else (Written.values (depth - 1) items).map Json.arr
  | .obj fields =>
    if depth = 0 then none else (Written.fieldValues (depth - 1) fields).map Json.ofFields

def Written.values (depth : Nat) : List Written → Option (List Json)
  | [] => some []
  | w :: rest => do
    let j ← w.value depth
    let js ← Written.values depth rest
    some (j :: js)

def Written.fieldValues (depth : Nat) :
    List (Option String × Written) → Option (List (String × Json))
  | [] => some []
  | (k, w) :: rest => do
    let k ← k
    let j ← w.value depth
    let fs ← Written.fieldValues depth rest
    some ((k, j) :: fs)
end

def Written.toJson (w : Written) : Option Json := w.value maxDepth

/-- The value that a text spells, if it spells one. -/
def read? (s : String) : Option Json := readWritten s >>= Written.toJson

end Shortcuts.Json
