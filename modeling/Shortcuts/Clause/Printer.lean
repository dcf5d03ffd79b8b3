import Shortcuts.Clause.Basic
import Shortcuts.Clause.Token

/-! The text of a when-clause. -/

namespace Shortcuts.Clause

/-- A word is written bare if it can be read as one, otherwise between quotes that it does not
hold. -/
def wordText (s : String) : String :=
  if !s.isEmpty && s.toList.all isWordChar && s ≠ "true" && s ≠ "false" then s
  else if s.toList.contains '\'' then "\"" ++ s ++ "\""
  else "'" ++ s ++ "'"

def Literal.text : Literal → String
  | bool b => if b then "true" else "false"
  | str s => wordText s

def Order.sign : Order → String
  | greater => ">"
  | atLeast => ">="
  | less => "<"
  | atMost => "<="

/-- A negation needs no parentheses around a key, a constant or another negation. -/
def isTight : Clause → Bool
  | always => true
  | never => true
  | defined _ => true
  | not _ => true
  | _ => false

def isDisjunction : Clause → Bool
  | any _ => true
  | _ => false

def parenthesized (t : String) : String := "(" ++ t ++ ")"

mutual
def text : Clause → String
  | always => "true"
  | never => "false"
  | defined k => k
  | not c => "!" ++ (if c.isTight then text c else parenthesized (text c))
  | equals k l => k ++ " == " ++ l.text
  | differs k l => k ++ " != " ++ l.text
  | compares o k bound => k ++ " " ++ o.sign ++ " " ++ String.ofList bound.plain
  | matching k source flags => k ++ " =~ /" ++ source ++ "/" ++ flags
  | isIn k source => k ++ " in " ++ source
  | notIn k source => k ++ " not in " ++ source
  | all cs => " && ".intercalate (conjuncts cs)
  | any cs => " || ".intercalate (disjuncts cs)

def conjuncts : List Clause → List String
  | [] => []
  | c :: cs => (if c.isDisjunction then parenthesized (text c) else text c) :: conjuncts cs

def disjuncts : List Clause → List String
  | [] => []
  | c :: cs => text c :: disjuncts cs
end

end Shortcuts.Clause
