import Shortcuts.Json.Writer

/-! Writing lines of a document of tables. -/

namespace Shortcuts.Toml.Line

/-- How a text is quoted. -/
inductive Quoting where
  | basic
  | literal
  | basicLines
  | literalLines
deriving DecidableEq, Inhabited, Repr

/-- The length of the longest run of a character. -/
def longestRun (q : Char) (s : List Char) : Nat :=
  (s.foldl (fun (longest, run) c =>
    let run := if c = q then run + 1 else 0
    (max longest run, run)) (0, 0)).1

/-- Control characters other than a tab and a line feed can only be written as escapes. -/
def needsCode (c : Char) : Bool :=
  (c.toNat < 32 && c ≠ '\t' && c ≠ '\n') || c.toNat = 127

/-- The first way of quoting that needs no escapes, if there is one. -/
def quoting (s : List Char) : Quoting :=
  let code := s.any needsCode
  let slash := s.contains '\\'
  let lines := s.contains '\n'
  let doubles := longestRun '"' s
  let singles := longestRun '\'' s
  if !code && !slash && doubles = 0 && !lines then .basic
  else if !code && singles = 0 && !lines then .literal
  else if !code && !slash && doubles ≤ 2 then .basicLines
  else if !code && singles ≤ 2 then .literalLines
  else if lines then .basicLines else .basic

/-- Writes characters between double quotes. In a text of several lines, line feeds and up to two
quotes in a row stand for themselves; `run` counts the quotes just before. -/
def escaped (lines : Bool) (run : Nat) : List Char → List Char
  | [] => []
  | c :: s =>
    if c = '"' then
      if lines && run < 2 then '"' :: escaped lines (run + 1) s
      else '\\' :: '"' :: escaped lines 0 s
    else
      let code := if c.toNat = 8 then ['\\', 'b']
        else if c = '\t' then ['\\', 't']
        else if c = '\n' then (if lines then ['\n'] else ['\\', 'n'])
        else if c.toNat = 12 then ['\\', 'f']
        else if c = '\r' then ['\\', 'r']
        else if c = '\\' then ['\\', '\\']
        else if c.toNat < 32 || c.toNat = 127 then
          '\\' :: 'u' :: (Json.hexDigits 4 c.toNat).map Char.toUpper
        else [c]
      code ++ escaped lines 0 s

def quote (text : String) : String :=
  let s := text.toList
  let start := if s.contains '\n' then "\n" else ""
  match quoting s with
  | .basic => "\"" ++ String.ofList (escaped false 0 s) ++ "\""
  | .literal => "'" ++ text ++ "'"
  | .basicLines => "\"\"\"" ++ start ++ String.ofList (escaped true 0 s) ++ "\"\"\""
  | .literalLines => "'''" ++ start ++ text ++ "'''"

/-- A list of texts; more than one stand on lines of their own. -/
def list (items : List String) : String :=
  match items with
  | [] => "[]"
  | [item] => "[" ++ quote item ++ "]"
  | items => "[\n" ++ String.join (items.map fun i => "    " ++ quote i ++ ",\n") ++ "]"

def boolean (b : Bool) : String := if b then "true" else "false"

/-- A line that gives a key its value. -/
def entry (key value : String) : String := key ++ " = " ++ value ++ "\n"

end Shortcuts.Toml.Line
