import Shortcuts.Decimal.Double
import Shortcuts.Fields

/-!
Structured values: settings, context values, command arguments. The fields of an object are kept
in ascending order of their keys, each key once.
-/

namespace Shortcuts

namespace Json

/-- An integer of at most 64 bits keeps apart from the float of the same size. -/
inductive Number where
  | int (value : Int)
  | float (value : Double)
deriving Inhabited, Repr

namespace Number

def beq : Number → Number → Bool
  | int a, int b => a == b
  | float a, float b => a.same b
  | _, _ => false

instance : BEq Number := ⟨beq⟩

def toDouble : Number → Double
  | int i => .ofInt i
  | float d => d

/-- An integer where it fits 64 bits, signed or unsigned, otherwise the nearest float. -/
def ofInt (i : Int) : Number :=
  if -(Nat.pow 2 63 : Int) ≤ i ∧ i < Nat.pow 2 64 then int i else float (.ofInt i)

end Number

end Json

inductive Json where
  | null
  | bool (value : Bool)
  | num (value : Json.Number)
  | str (value : String)
  | arr (items : List Json)
  | obj (fields : List (String × Json))
deriving Inhabited, Repr

namespace Json

mutual
def beq : Json → Json → Bool
  | null, null => true
  | bool a, bool b => a == b
  | num a, num b => a == b
  | str a, str b => a == b
  | arr a, arr b => beqItems a b
  | obj a, obj b => beqFields a b
  | _, _ => false

def beqItems : List Json → List Json → Bool
  | [], [] => true
  | a :: as, b :: bs => beq a b && beqItems as bs
  | _, _ => false

def beqFields : List (String × Json) → List (String × Json) → Bool
  | [], [] => true
  | (k, a) :: as, (l, b) :: bs => k == l && beq a b && beqFields as bs
  | _, _ => false
end

instance : BEq Json := ⟨beq⟩

/-- An object with the given fields; of two fields of one key the later counts. -/
def ofFields (fields : List (String × Json)) : Json := obj (Fields.ofList fields)

def get? (j : Json) (k : String) : Option Json :=
  match j with
  | obj fields => fields.lookup k
  | _ => none

def str? : Json → Option String
  | str s => some s
  | _ => none

def bool? : Json → Option Bool
  | bool b => some b
  | _ => none

def ofInt (i : Int) : Json := num (.ofInt i)

def ofNat (n : Nat) : Json := ofInt n

def ofStrings (ss : List String) : Json := arr (ss.map str)

def ofOption : Option Json → Json
  | some j => j
  | none => null

def ofOptionStr : Option String → Json
  | some s => str s
  | none => null

end Json

end Shortcuts
