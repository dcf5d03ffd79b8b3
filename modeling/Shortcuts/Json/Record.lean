import Shortcuts.Json.Reader

/-!
Records: values with a fixed set of fields. A record is written as an object, where fields that it
does not have are skipped, or as the list of its fields in order.
-/

namespace Shortcuts.Json

mutual
/-- How a value is written out. -/
def written : Json → Written
  | null => .null
  | bool b => .bool b
  | num n => .num (some n)
  | str s => .str (some s)
  | arr items => .arr (writtenItems items)
  | obj fields => .obj (writtenFields fields)

def writtenItems : List Json → List Written
  | [] => []
  | j :: rest => written j :: writtenItems rest

def writtenFields : List (String × Json) → List (Option String × Written)
  | [] => []
  | (k, j) :: rest => (some k, written j) :: writtenFields rest
end

/-- What becomes of the items of a list beyond the fields of a record. -/
inductive Surplus where
  | refused
  | skipped
deriving DecidableEq, Inhabited, Repr

namespace Written

/-- The field of one name in an object. A name that stands twice is refused. -/
def field? (fields : List (Option String × Written)) (name : String) : Option (Option Written) :=
  match fields.filter fun f => f.1 = some name with
  | [] => some none
  | [f] => some (some f.2)
  | _ => none

/-- The fields of a record by its list of names, each where it is given. -/
def record? (surplus : Surplus) (names : List String) : Written → Option (List (Option Written))
  | obj fields =>
    if fields.any (·.1.isNone) then none else names.mapM (field? fields)
  | arr items =>
    if surplus = .refused ∧ names.length < items.length then none
    else some ((List.range names.length).map (items[·]?))
  | _ => none

def text? : Written → Option String
  | str s => s
  | _ => none

def flag? : Written → Option Bool
  | bool b => some b
  | _ => none

def float? : Written → Option Double
  | num n => n.map Number.toDouble
  | _ => none

/-- Reads every item of a list. -/
def list? {α : Type} (read : Written → Option α) : Written → Option (List α)
  | arr items => items.mapM read
  | _ => none

def keyed? {α : Type} (read : Written → Option α) (f : Option String × Written) :
    Option (String × α) := do
  let k ← f.1
  let v ← read f.2
  return (k, v)

/-- Reads every field of an object. Of two fields of one key the later counts. -/
def map? {α : Type} (read : Written → Option α) : Written → Option (Fields α)
  | obj fields => (fields.mapM (keyed? read)).map Fields.ofList
  | _ => none

/-- Reads a field that may be left out or null. -/
def optional {α : Type} (read : Written → Option α) : Option Written → Option (Option α)
  | none => some none
  | some null => some none
  | some w => (read w).map some

/-- Reads a field that has a value of its own when it is left out. -/
def defaulted {α : Type} (value : α) (read : Written → Option α) : Option Written → Option α
  | none => some value
  | some w => read w

end Written

end Shortcuts.Json
