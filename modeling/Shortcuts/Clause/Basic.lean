import Shortcuts.Json.Writer
import Shortcuts.Decimal.Literal
import Shortcuts.Pattern.Reader

/-!
When-clauses: conditions on the values of context keys. A key alone asks whether its value is
truthy, equality is loose between texts, numbers and truth values, and comparisons are between
numbers.
-/

namespace Shortcuts

namespace Clause

/-- What a value is compared with for equality. -/
inductive Literal where
  | bool (b : Bool)
  | str (s : String)
deriving DecidableEq, Inhabited, Repr

inductive Order where
  | greater
  | atLeast
  | less
  | atMost
deriving DecidableEq, Inhabited, Repr

def Order.holds : Order → Double → Double → Bool
  | greater, a, b => b.less a
  | atLeast, a, b => b.atMost a
  | less, a, b => a.less b
  | atMost, a, b => a.atMost b

end Clause

inductive Clause where
  | always
  | never
  | defined (key : String)
  | not (c : Clause)
  | equals (key : String) (value : Clause.Literal)
  | differs (key : String) (value : Clause.Literal)
  | compares (order : Clause.Order) (key : String) (bound : Double)
  | matching (key source flags : String)
  /-- The value of `key` is an item, or a field, of the value of `source`. -/
  | isIn (key source : String)
  | notIn (key source : String)
  | all (cs : List Clause)
  | any (cs : List Clause)
deriving Inhabited

namespace Clause

mutual
/-- Equality of clauses; bounds are compared as numbers, so a NaN makes a difference. -/
def same : Clause → Clause → Bool
  | always, always => true
  | never, never => true
  | defined k, defined l => k == l
  | not a, not b => same a b
  | equals k a, equals l b => k == l && a == b
  | differs k a, differs l b => k == l && a == b
  | compares o k a, compares p l b => o == p && k == l && a.same b
  | matching k s f, matching l t g => k == l && s == t && f == g
  | isIn k s, isIn l t => k == l && s == t
  | notIn k s, notIn l t => k == l && s == t
  | all as, all bs => sameAll as bs
  | any as, any bs => sameAll as bs
  | _, _ => false

def sameAll : List Clause → List Clause → Bool
  | [], [] => true
  | a :: as, b :: bs => same a b && sameAll as bs
  | _, _ => false
end

instance : BEq Clause := ⟨same⟩

/-! ### Values -/

def isTruthy : Json → Bool
  | .null => false
  | .bool b => b
  | .num n => !n.toDouble.isZero && !n.toDouble.isNan
  | .str s => !s.isEmpty
  | .arr _ => true
  | .obj _ => true

/-- The number that a text stands for in an equality; blank text stands for zero. -/
def looseNumber (s : String) : Double :=
  let cs := Text.trim s.toList
  if cs.isEmpty then .finite false 0 0 else (Double.read? cs).getD .nan

/-- The number that a value stands for in a comparison. -/
def strictNumber : Option Json → Double
  | some (.num n) => n.toDouble
  | some (.str s) => (Double.read? (Text.trim s.toList)).getD .nan
  | _ => .nan

def boolNumber (b : Bool) : Double := .ofInt (if b then 1 else 0)

def looseEqual : Option Json → Literal → Bool
  | some (.str a), .str b => a == b
  | some (.bool a), .bool b => a == b
  | some (.num n), .str s => n.toDouble.same (looseNumber s)
  | some (.num n), .bool b => n.toDouble.same (boolNumber b)
  | some (.bool a), .str s => (boolNumber a).same (looseNumber s)
  | some (.str a), .bool b => (looseNumber a).same (boolNumber b)
  | _, _ => false

def contains : Option Json → Option Json → Bool
  | some (.arr items), some item => items.contains item
  | some (.obj fields), some (.str k) => (fields.lookup k).isSome
  | _, _ => false

/-- The text in which a pattern is looked for. -/
def searchedText : Option Json → Option String
  | some (.str s) => some s
  | some (.num n) => some n.text
  | some (.bool b) => some (if b then "true" else "false")
  | _ => none

def matchesText (source flags : String) (v : Option Json) : Bool :=
  match Pattern.ofLiteral? source flags, searchedText v with
  | some p, some t => p.occursIn t.toList
  | _, _ => false

/-! ### Evaluation -/

mutual
def evaluate (value : String → Option Json) : Clause → Bool
  | always => true
  | never => false
  | defined k => (value k).any isTruthy
  | not c => !evaluate value c
  | equals k l => looseEqual (value k) l
  | differs k l => !looseEqual (value k) l
  | compares o k bound => o.holds (strictNumber (value k)) bound
  | matching k source flags => matchesText source flags (value k)
  | isIn k source => contains (value source) (value k)
  | notIn k source => !contains (value source) (value k)
  | all cs => evaluateAll value cs
  | any cs => evaluateAny value cs

def evaluateAll (value : String → Option Json) : List Clause → Bool
  | [] => true
  | c :: cs => evaluate value c && evaluateAll value cs

def evaluateAny (value : String → Option Json) : List Clause → Bool
  | [] => false
  | c :: cs => evaluate value c || evaluateAny value cs
end

mutual
/-- The keys whose values an evaluation looks up, in order. Of a conjunction and a disjunction it
leaves out what comes after the outcome is clear. -/
def lookups (value : String → Option Json) : Clause → List String
  | always => []
  | never => []
  | defined k => [k]
  | not c => lookups value c
  | equals k _ => [k]
  | differs k _ => [k]
  | compares _ k _ => [k]
  | matching k _ _ => [k]
  | isIn k source => [k, source]
  | notIn k source => [k, source]
  | all cs => lookupsAll value cs
  | any cs => lookupsAny value cs

def lookupsAll (value : String → Option Json) : List Clause → List String
  | [] => []
  | c :: cs =>
    lookups value c ++ (if evaluate value c then lookupsAll value cs else [])

def lookupsAny (value : String → Option Json) : List Clause → List String
  | [] => []
  | c :: cs =>
    lookups value c ++ (if evaluate value c then [] else lookupsAny value cs)
end

mutual
/-- Every key that the clause mentions, in order of mention. -/
def mentions : Clause → List String
  | always => []
  | never => []
  | defined k => [k]
  | not c => mentions c
  | equals k _ => [k]
  | differs k _ => [k]
  | compares _ k _ => [k]
  | matching k _ _ => [k]
  | isIn k source => [k, source]
  | notIn k source => [k, source]
  | all cs => mentionsIn cs
  | any cs => mentionsIn cs

def mentionsIn : List Clause → List String
  | [] => []
  | c :: cs => mentions c ++ mentionsIn cs
end

/-- The keys that the clause reads, in ascending order and each once. -/
def keys (c : Clause) : List String := sortedKeys c.mentions

end Clause

end Shortcuts
