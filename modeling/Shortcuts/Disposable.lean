/-! Things to release, and groups of them. -/

namespace Shortcuts

inductive Disposable (α : Type) where
  | nothing
  | one (item : α)
  | group (items : List (Disposable α))
deriving Inhabited

namespace Disposable

variable {α : Type}

mutual
/-- A group of nothing is nothing. -/
def isNothing : Disposable α → Bool
  | nothing => true
  | one _ => false
  | group items => allNothing items

def allNothing : List (Disposable α) → Bool
  | [] => true
  | d :: ds => isNothing d && allNothing ds
end

mutual
/-- The items in the order in which they are released, the latest member first. -/
def order : Disposable α → List α
  | nothing => []
  | one item => [item]
  | group items => orderAll items

def orderAll : List (Disposable α) → List α
  | [] => []
  | d :: ds => orderAll ds ++ order d
end

/-- The members that a group keeps. -/
def kept (items : List (Disposable α)) : List (Disposable α) := items.filter (!·.isNothing)

end Disposable

end Shortcuts
