import Shortcuts.Text.Blank

/-!
Points in time, written as a date, a time of day and an offset: `2024-01-02T03:04:05.6+07:00`.
Blanks may stand around the parts, and the offset may be `Z` or `UTC`.
-/

namespace Shortcuts.Timestamp

def skipBlanks (s : List Char) : List Char := s.dropWhile Text.isBlank

/-- Reads at least one and at most `width` digits. -/
def readDigits (width : Nat) (s : List Char) : Option (Nat × List Char) :=
  let ds := (s.take width).takeWhile Char.isDigit
  if ds.isEmpty then none
  else some (ds.foldl (fun n c => 10 * n + (c.toNat - 48)) 0, s.drop ds.length)

def readNumber (width : Nat) (s : List Char) : Option (Nat × List Char) :=
  readDigits width (skipBlanks s)

/-- Reads a year. One with a sign may have any number of digits. -/
def readYear (s : List Char) : Option (Int × List Char) :=
  match skipBlanks s with
  | '-' :: r => (readDigits r.length r).map fun (n, r) => (-(n : Int), r)
  | '+' :: r => (readDigits r.length r).map fun (n, r) => ((n : Int), r)
  | r => (readDigits 4 r).map fun (n, r) => ((n : Int), r)

/-- Reads one character with blanks around it. -/
def readMark (mark : Char) (s : List Char) : Option (List Char) :=
  match skipBlanks s with
  | c :: r => if c = mark then some (skipBlanks r) else none
  | [] => none

def isLeap (year : Int) : Bool := year % 4 = 0 && (year % 100 ≠ 0 || year % 400 = 0)

def daysIn (year : Int) (month : Nat) : Nat :=
  if month = 2 then (if isLeap year then 29 else 28)
  else if month ∈ [4, 6, 9, 11] then 30 else 31

def isDate (year : Int) (month day : Nat) : Bool :=
  -262143 ≤ year && year ≤ 262142 && 1 ≤ month && month ≤ 12 && 1 ≤ day && day ≤ daysIn year month

/-- A second may be a leap second. -/
def isTime (hour minute second : Nat) : Bool := hour < 24 && minute < 60 && second ≤ 60

/-- Reads the fraction of a second. -/
def readFraction : List Char → Option (List Char)
  | '.' :: r =>
    if (r.head?.map Char.isDigit).getD false then some (r.dropWhile Char.isDigit) else none
  | r => some r

def readPair : List Char → Option (Nat × List Char)
  | a :: b :: r =>
    if a.isDigit && b.isDigit then some (10 * (a.toNat - 48) + (b.toNat - 48), r) else none
  | _ => none

/-- Reads hours and minutes behind the sign of an offset. -/
def readShift (s : List Char) : Option (List Char) :=
  match readPair s with
  | some (hours, r) =>
    match readPair (r.dropWhile fun c => c = ':' || Text.isBlank c) with
    | some (minutes, r) => if hours < 24 && minutes < 60 then some r else none
    | none => none
  | none => none

def readOffset (s : List Char) : Option (List Char) :=
  match s with
  | c :: r =>
    if (s.take 3).map Char.toLower = ['u', 't', 'c'] then some (s.drop 3)
    else if c = 'Z' || c = 'z' then some r
    else if c = '+' || c = '-' || c = '−' then readShift r
    else none
  | [] => none

def read (s : List Char) : Option (List Char) := do
  let (year, s) ← readYear s
  let s ← readMark '-' s
  let (month, s) ← readNumber 2 s
  let s ← readMark '-' s
  let (day, s) ← readNumber 2 s
  let s ← match s with
    | c :: r => if c = 'T' || c = 't' || c = ' ' then some r else none
    | [] => none
  let (hour, s) ← readNumber 2 s
  let s ← readMark ':' s
  let (minute, s) ← readNumber 2 s
  let s ← readMark ':' s
  let (second, s) ← readNumber 2 s
  let s ← readFraction s
  let s ← readOffset (skipBlanks s)
  if isDate year month day && isTime hour minute second then some s else none

/-- Whether a text is a point in time. -/
def isValid (text : String) : Bool :=
  match read text.toList with
  | some rest => (skipBlanks rest).isEmpty
  | none => false

end Shortcuts.Timestamp
