import Shortcuts.Clause.Printer
import Shortcuts.Clause.Reader
import Shortcuts.Describe.Error

/-! When-clauses as structured values: lists that begin with the name of what they are. -/

namespace Shortcuts.Clause

def Literal.describe : Literal → Json
  | .bool b => .arr [.str "bool", .bool b]
  | .str s => .arr [.str "str", .str s]

mutual
def describe : Clause → Json
  | always => .arr [.str "true"]
  | never => .arr [.str "false"]
  | defined k => .ofStrings ["defined", k]
  | not c => .arr [.str "not", describe c]
  | equals k l => .arr [.str "==", .str k, l.describe]
  | differs k l => .arr [.str "!=", .str k, l.describe]
  | compares o k bound => .ofStrings [o.sign, k, String.ofList bound.plain]
  | matching k source flags => .ofStrings ["=~", k, source, flags]
  | isIn k source => .ofStrings ["in", k, source]
  | notIn k source => .ofStrings ["not in", k, source]
  | all cs => .arr [.str "and", .arr (describeAll cs)]
  | any cs => .arr [.str "or", .arr (describeAll cs)]

def describeAll : List Clause → List Json
  | [] => []
  | c :: cs => describe c :: describeAll cs
end

/-- Whether a clause is read back from its own text, or the error in reading that. A bound that is
not a number differs from itself. -/
def describeReadBack (c : Clause) : Json :=
  match ofText c.text with
  | .ok d => .bool (d == some c)
  | .error e => e.describe

/-- What is told about every clause. -/
def facts (c : Clause) : List (String × Json) :=
  [("text", .str c.text), ("keys", .ofStrings c.keys), ("roundTrip", c.describeReadBack)]

end Shortcuts.Clause
