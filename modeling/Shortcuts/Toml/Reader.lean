import Shortcuts.Toml.Document

/-! Reading documents of tables, keys and values. -/

namespace Shortcuts.Toml

def isWhite (c : Char) : Bool := c = ' ' || c = '\t'

def skipWhite (s : List Char) : List Char := s.dropWhile isWhite

/-- What may stand in comments and literal texts: tabs and all that is no control character. -/
def isVisible (c : Char) : Bool := c = '\t' || (32 ≤ c.toNat && c.toNat ≠ 127)

def newline? : List Char → Option (List Char)
  | '\n' :: s => some s
  | '\r' :: '\n' :: s => some s
  | _ => none

def skipComment : List Char → List Char
  | '#' :: s => s.dropWhile isVisible
  | s => s

/-- Skips blanks and a comment up to the end of a line, which must come then. -/
def endOfLine (s : List Char) : Option (List Char) :=
  match skipComment (skipWhite s) with
  | [] => some []
  | s => newline? s

/-- Skips blanks, comments and line ends. -/
def skipLines : Nat → List Char → List Char
  | 0, s => s
  | fuel + 1, s =>
    match skipComment (skipWhite s) with
    | [] => []
    | s' =>
      match newline? s' with
      | some r => skipLines fuel r
      | none => s'

/-! ### Texts -/

def hexValue (c : Char) : Option Nat := Json.hexValue c

def readHex : Nat → Nat → List Char → Option (Nat × List Char)
  | 0, n, s => some (n, s)
  | count + 1, n, c :: s => (hexValue c).bind fun d => readHex count (16 * n + d) s
  | _ + 1, _, [] => none

/-- Reads what an escape stands for, behind its backslash. -/
def readEscape : List Char → Option (Char × List Char)
  | [] => none
  | c :: s =>
    let scalar (count : Nat) : Option (Char × List Char) :=
      (readHex count 0 s).bind fun (n, r) =>
        if n < 0xD800 || (0xDFFF < n && n < 0x110000) then some (Char.ofNat n, r) else none
    match c with
    | 'b' => some (Char.ofNat 8, s)
    | 't' => some ('\t', s)
    | 'n' => some ('\n', s)
    | 'f' => some (Char.ofNat 12, s)
    | 'r' => some ('\r', s)
    | '"' => some ('"', s)
    | '\\' => some ('\\', s)
    | 'u' => scalar 4
    | 'U' => scalar 8
    | _ => none

/-- Reads a text between double quotes, behind the first. -/
def readBasic : Nat → List Char → Option (List Char × List Char)
  | 0, _ => none
  | fuel + 1, s =>
    match s with
    | [] => none
    | '"' :: r => some ([], r)
    | '\\' :: r =>
      (readEscape r).bind fun (c, r) => (readBasic fuel r).map fun (t, r) => (c :: t, r)
    | c :: r => if isVisible c then (readBasic fuel r).map fun (t, r) => (c :: t, r) else none

/-- Reads a text between single quotes, behind the first. -/
def readLiteral (s : List Char) : Option (List Char × List Char) :=
  let t := s.takeWhile fun c => isVisible c && c ≠ '\''
  match s.drop t.length with
  | '\'' :: r => some (t, r)
  | _ => none

/-- Reads the end of a text of several lines: of a run of quotes the last three close it, and up
to two more belong to it. -/
def closing? (quote : Char) (s : List Char) : Option (List Char × List Char) :=
  let run := (s.takeWhile (· = quote)).length
  if run < 3 then none
  else
    let extra := min (run - 3) 2
    some (List.replicate extra quote, s.drop (extra + 3))

/-- Skips blanks and line ends behind a backslash at the end of a line. -/
def skipBreak : Nat → List Char → List Char
  | 0, s => s
  | fuel + 1, s =>
    match newline? (skipWhite s) with
    | some r => skipBreak fuel r
    | none => skipWhite s

def readBasicLines : Nat → List Char → Option (List Char × List Char)
  | 0, _ => none
  | fuel + 1, s =>
    match closing? '"' s with
    | some end' => some end'
    | none =>
      match newline? s with
      | some r => (readBasicLines fuel r).map fun (t, r) => ('\n' :: t, r)
      | none =>
        match s with
        | [] => none
        | '\\' :: r =>
          match newline? (skipWhite r) with
          | some r => readBasicLines fuel (skipBreak r.length r)
          | none =>
            (readEscape r).bind fun (c, r) =>
              (readBasicLines fuel r).map fun (t, r) => (c :: t, r)
        | c :: r =>
          if isVisible c then (readBasicLines fuel r).map fun (t, r) => (c :: t, r) else none

def readLiteralLines : Nat → List Char → Option (List Char × List Char)
  | 0, _ => none
  | fuel + 1, s =>
    match closing? '\'' s with
    | some end' => some end'
    | none =>
      match newline? s with
      | some r => (readLiteralLines fuel r).map fun (t, r) => ('\n' :: t, r)
      | none =>
        match s with
        | [] => none
        | c :: r =>
          if isVisible c then (readLiteralLines fuel r).map fun (t, r) => (c :: t, r) else none

/-- A line end right behind the opening quotes does not count. -/
def dropFirstNewline (s : List Char) : List Char := (newline? s).getD s

/-- Reads any quoted text. -/
def readText (s : List Char) : Option (String × List Char) :=
  let fuel := s.length + 1
  let found := match s with
    | '"' :: '"' :: '"' :: r => readBasicLines fuel (dropFirstNewline r)
    | '\'' :: '\'' :: '\'' :: r => readLiteralLines fuel (dropFirstNewline r)
    | '"' :: r => readBasic fuel r
    | '\'' :: r => readLiteral r
    | _ => none
  found.map fun (t, r) => (String.ofList t, r)

/-! ### Keys -/

def isBare (c : Char) : Bool := c.isAlphanum || c = '_' || c = '-'

def readSimpleKey (s : List Char) : Option (String × List Char) :=
  match s with
  | '"' :: r => (readBasic (r.length + 1) r).map fun (t, r) => (String.ofList t, r)
  | '\'' :: r => (readLiteral r).map fun (t, r) => (String.ofList t, r)
  | s =>
    let t := s.takeWhile isBare
    if t.isEmpty then none else some (String.ofList t, s.drop t.length)

/-- Nothing may be nested as deeply as this. -/
def depthLimit : Nat := 80

/-- Reads a key with its dots: the parts in front, the last part, and what follows. -/
def readKey : Nat → List Char → Option (List String × List Char)
  | 0, _ => none
  | fuel + 1, s => do
    let (k, r) ← readSimpleKey (skipWhite s)
    match skipWhite r with
    | '.' :: r =>
      let (ks, r) ← readKey fuel r
      some (k :: ks, r)
    | r => some ([k], r)

/-! ### Numbers and dates -/

/-- Digits with single underscores between them. -/
def digitsOf (isDigit : Char → Bool) (s : List Char) : Option (List Char) :=
  let groups := Text.splitBy (· = '_') s
  if groups.all fun g => !g.isEmpty && g.all isDigit then some groups.flatten else none

def natOf (base : Nat) (ds : List Char) : Nat :=
  ds.foldl (fun n c => base * n + (hexValue c).getD 0) 0

def fits (i : Int) : Option Toml := if -(Nat.pow 2 63 : Int) ≤ i ∧ i < Nat.pow 2 63 then some (.int i) else none

def signed (s : List Char) : Bool × List Char :=
  match s with
  | '-' :: r => (true, r)
  | '+' :: r => (false, r)
  | r => (false, r)

def noLeadingZero (ds : List Char) : Bool := ds.head? ≠ some '0' || ds.length = 1

def integer? (s : List Char) : Option Toml :=
  match s with
  | '0' :: 'x' :: r => (digitsOf (fun c => (hexValue c).isSome) r).bind fun ds => fits (natOf 16 ds)
  | '0' :: 'o' :: r =>
    (digitsOf (fun c => '0' ≤ c && c ≤ '7') r).bind fun ds => fits (natOf 8 ds)
  | '0' :: 'b' :: r => (digitsOf (fun c => c = '0' || c = '1') r).bind fun ds => fits (natOf 2 ds)
  | s =>
    let (negative, body) := signed s
    (digitsOf Char.isDigit body).bind fun ds =>
      if noLeadingZero ds then
        let n : Int := natOf 10 ds
        fits (if negative then -n else n)
      else none

/-- A float that overflows is refused unless it is negative. -/
def float? (s : List Char) : Option Toml := do
  let (negative, body) := signed s
  if body == "inf".toList then some (.float (.infinite negative))
  else if body == "nan".toList then some (.float .nan)
  else
    let isExp (c : Char) : Bool := c = 'e' || c = 'E'
    let mantissa := body.takeWhile (!isExp ·)
    let exponent := body.dropWhile (!isExp ·)
    let whole ← digitsOf Char.isDigit (mantissa.takeWhile (· ≠ '.'))
    if !noLeadingZero whole then none
    let fraction ← match mantissa.dropWhile (· ≠ '.') with
      | [] => some []
      | _ :: r => digitsOf Char.isDigit r
    let x ← match exponent with
      | [] => some (0 : Int)
      | _ :: r =>
        let (negative, ds) := signed r
        (digitsOf Char.isDigit ds).map fun ds =>
          let n : Int := natOf 10 ds
          if negative then -n else n
    if exponent.isEmpty && mantissa.all (· ≠ '.') then none
    let d := Double.ofDecimal negative (natOf 10 (whole ++ fraction)) (x - fraction.length)
    if d == .infinite false then none else some (.float d)

def twoDigits (low high : Nat) : List Char → Option (Nat × List Char)
  | a :: b :: s =>
    if a.isDigit && b.isDigit then
      let n := natOf 10 [a, b]
      if low ≤ n && n ≤ high then some (n, s) else none
    else none
  | _ => none

def daysIn (year month : Nat) : Nat :=
  if month = 2 then
    (if year % 4 = 0 ∧ (year % 100 ≠ 0 ∨ year % 400 = 0) then 29 else 28)
  else if month ∈ [4, 6, 9, 11] then 30 else 31

def expect (c : Char) : List Char → Option (List Char)
  | d :: s => if c = d then some s else none
  | [] => none

/-- Reads a date and gives its text. -/
def readDate (s : List Char) : Option (List Char × List Char) := do
  let year := s.take 4
  if year.length ≠ 4 || !year.all Char.isDigit then none
  let r ← expect '-' (s.drop 4)
  let (month, r) ← twoDigits 1 12 r
  let r ← expect '-' r
  let (_, r) ← twoDigits 1 (daysIn (natOf 10 year) month) r
  some (s.take 10, r)

/-- Reads a time of day; of its fraction nine digits count, without zeros at the end. -/
def readTime (s : List Char) : Option (List Char × List Char) := do
  let (_, r) ← twoDigits 0 23 s
  let r ← expect ':' r
  let (_, r) ← twoDigits 0 59 r
  let r ← expect ':' r
  let (_, r) ← twoDigits 0 60 r
  match r with
  | '.' :: r' =>
    let ds := r'.takeWhile Char.isDigit
    if ds.isEmpty then none
    let kept := ((ds.take 9).reverse.dropWhile (· = '0')).reverse
    some (s.take 8 ++ (if kept.isEmpty then [] else '.' :: kept), r'.drop ds.length)
  | r => some (s.take 8, r)

def readOffset (s : List Char) : Option (List Char × List Char) :=
  match s with
  | c :: r =>
    if c = 'Z' || c = 'z' then some (['Z'], r)
    else if c = '+' || c = '-' then do
      let (_, r1) ← twoDigits 0 23 r
      let r1 ← expect ':' r1
      let (_, r1) ← twoDigits 0 59 r1
      some (s.take 6, r1)
    else none
  | [] => none

/-- Reads a date, a time, or both with an offset, and gives the canonical text. -/
def readDatetime (s : List Char) : Option (Toml × List Char) :=
  match readDate s with
  | some (date, r) =>
    let time := match r with
      | c :: r' =>
        if c = 'T' || c = 't' || c = ' ' then readTime r' else none
      | [] => none
    match time with
    | some (time, r) =>
      let (offset, r) := (readOffset r).getD ([], r)
      some (.datetime (String.ofList (date ++ 'T' :: time ++ offset)), r)
    | none => some (.datetime (String.ofList date), r)
  | none => (readTime s).map fun (time, r) => (.datetime (String.ofList time), r)

/-- What numbers and constants are made of. -/
def isScalarChar (c : Char) : Bool := isBare c || c = '+' || c = '.'

def readScalar (s : List Char) : Option (Toml × List Char) :=
  match readDatetime s with
  | some r => some r
  | none =>
    let word := s.takeWhile isScalarChar
    let rest := s.drop word.length
    let value :=
      if word == "true".toList then some (Toml.bool true)
      else if word == "false".toList then some (Toml.bool false)
      else integer? word <|> float? word
    value.map fun v => (v, rest)

/-! ### Values -/

mutual
def readValue : Nat → Nat → List Char → Option (Toml × List Char)
  | 0, _, _ => none
  | fuel + 1, depth, s =>
    match s with
    | [] => none
    | c :: r =>
      if c = '"' || c = '\'' then (readText s).map fun (t, r) => (.str t, r)
      else if c = '[' then
        if depthLimit ≤ depth + 1 then none
        else (readItems fuel (depth + 1) r).map fun (ts, r) => (.arr ts, r)
      else if c.toNat = 0x7B then
        if depthLimit ≤ depth + 1 then none
        else
          match skipWhite r with
          | '\x7D' :: r => some (.table [], r)
          | r => (readEntries fuel (depth + 1) (.mk false false []) r).map fun (t, r) => (t.toml, r)
      else readScalar s

/-- Reads the items of an array up to its closing bracket. -/
def readItems : Nat → Nat → List Char → Option (List Toml × List Char)
  | 0, _, _ => none
  | fuel + 1, depth, s =>
    match skipLines s.length s with
    | ']' :: r => some ([], r)
    | s =>
      match readValue fuel depth s with
      | none => none
      | some (v, r) =>
        match skipLines r.length r with
        | ',' :: r => (readItems fuel depth r).map fun (vs, r) => (v :: vs, r)
        | ']' :: r => some ([v], r)
        | _ => none

/-- Reads the entries of an inline table up to its closing brace. -/
def readEntries : Nat → Nat → Section → List Char → Option (Section × List Char)
  | 0, _, _, _ => none
  | fuel + 1, depth, t, s => do
    let (keys, r) ← readKey depthLimit s
    let r ← expect '=' r
    let (v, r) ← readValue fuel depth (skipWhite r)
    let t ← t.addValue keys.dropLast (keys.getLast?.getD "") v
    match skipWhite r with
    | ',' :: r => readEntries fuel depth t r
    | '\x7D' :: r => some (t, r)
    | _ => none
end

/-! ### Lines -/

def readLine (d : Document) (s : List Char) : Option (Document × List Char) :=
  match s with
  | '[' :: '[' :: r => do
    let (keys, r) ← readKey depthLimit r
    let r ← expect ']' r
    let r ← expect ']' r
    let r ← endOfLine r
    let d ← d.openArray keys
    some (d, r)
  | '[' :: r => do
    let (keys, r) ← readKey depthLimit r
    let r ← expect ']' r
    let r ← endOfLine r
    let d ← d.openTable keys
    some (d, r)
  | s => do
    let (keys, r) ← readKey depthLimit s
    let r ← expect '=' r
    let r := skipWhite r
    let (v, r) ← readValue (2 * r.length + 2) 0 r
    let r ← endOfLine r
    let d ← d.add keys.dropLast (keys.getLast?.getD "") v
    some (d, r)

def readLines : Nat → Document → List Char → Option Document
  | 0, d, _ => some d
  | fuel + 1, d, s =>
    match skipLines s.length s with
    | [] => some d
    | s =>
      match readLine d s with
      | some (d, r) => readLines fuel d r
      | none => none

/-- Reads a whole document. -/
def read? (text : String) : Option Toml :=
  let s := match text.toList with
    | '\uFEFF' :: r => r
    | s => s
  (readLines (s.length + 1) {} s).bind Document.finish

end Shortcuts.Toml
