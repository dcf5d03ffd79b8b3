import Shortcuts.Json.Basic
import Shortcuts.Decimal.Shortest

/-! The text of a structured value, on one line or with indented lines. -/

namespace Shortcuts.Json

def hexDigits (width n : Nat) : List Char :=
  let ds := Nat.toDigits 16 n
  List.replicate (width - ds.length) '0' ++ ds

def escapeChar (c : Char) : List Char :=
  if c = '"' then ['\\', '"']
  else if c = '\\' then ['\\', '\\']
  else if c = '\n' then ['\\', 'n']
  else if c = '\r' then ['\\', 'r']
  else if c = '\t' then ['\\', 't']
  else if c.toNat = 8 then ['\\', 'b']
  else if c.toNat = 12 then ['\\', 'f']
  else if c.toNat < 32 then '\\' :: 'u' :: hexDigits 4 c.toNat
  else [c]

def quote (s : String) : String :=
  String.ofList ('"' :: (s.toList.flatMap escapeChar ++ ['"']))

/-- Shortest digits, positional from `1e-5` up to sixteen places before the point with `.0` kept
on whole numbers, otherwise one digit before the point and an exponent with its sign. -/
def floatBody (d : Nat) (k : Int) : List Char :=
  let ds := Double.decimalDigits d
  let point : Int := ds.length + k
  if 0 ≤ k ∧ point ≤ 16 then Double.positional ds k ++ ['.', '0']
  else if -5 < point ∧ point ≤ 16 then Double.positional ds k
  else
    let sign := if point < 1 then '-' else '+'
    let exponent := 'e' :: sign :: (toString (point - 1).natAbs).toList
    match ds with
    | c :: c' :: rest => c :: '.' :: c' :: rest ++ exponent
    | _ => ds ++ exponent

/-- A float that is not finite has no text of its own. -/
def floatText : Double → String
  | .finite s m e =>
    let body :=
      if m = 0 then ['0', '.', '0']
      else
        let (d, k) := Double.shortest .toEven m e
        floatBody d k
    String.ofList (if s then '-' :: body else body)
  | _ => "null"

def Number.text : Number → String
  | .int i => toString i
  | .float d => floatText d

mutual
/-- The text on one line, without blanks. -/
def compact : Json → String
  | null => "null"
  | bool b => if b then "true" else "false"
  | num n => n.text
  | str s => quote s
  | arr items => "[" ++ ",".intercalate (compactItems items) ++ "]"
  | obj fields => "\x7b" ++ ",".intercalate (compactFields fields) ++ "\x7d"

def compactItems : List Json → List String
  | [] => []
  | j :: rest => compact j :: compactItems rest

def compactFields : List (String × Json) → List String
  | [] => []
  | (k, j) :: rest => (quote k ++ ":" ++ compact j) :: compactFields rest
end

/-- An object whose fields are written in the given order. -/
def compactRecord (fields : List (String × Json)) : String := compact (obj fields)

/-- Lines between brackets, each on its own; nothing between the brackets if there are none. -/
def block (opening closing indent : String) (lines : List String) : String :=
  if lines.isEmpty then opening ++ closing
  else opening ++ "\n" ++ ",\n".intercalate (lines.map (indent ++ "  " ++ ·)) ++ "\n" ++ indent
    ++ closing

mutual
/-- The text with every item on a line of its own, two blanks further in for each level. -/
def pretty (indent : String) : Json → String
  | arr items => block "[" "]" indent (prettyItems (indent ++ "  ") items)
  | obj fields => block "\x7b" "\x7d" indent (prettyFields (indent ++ "  ") fields)
  | j => compact j

def prettyItems (indent : String) : List Json → List String
  | [] => []
  | j :: rest => pretty indent j :: prettyItems indent rest

def prettyFields (indent : String) : List (String × Json) → List String
  | [] => []
  | (k, j) :: rest => (quote k ++ ": " ++ pretty indent j) :: prettyFields indent rest
end

/-- The value text of something that may be absent. -/
def text? (j : Option Json) : Option String := j.map compact

end Shortcuts.Json
