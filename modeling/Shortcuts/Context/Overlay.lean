import Shortcuts.Context.Lookup

/-! Asking what would hold if some keys had other values. -/

namespace Shortcuts

/-- Values on top of those of a region, the uppermost layer first. -/
structure Overlay where
  region : RegionId
  layers : List (Fields Json)
deriving Inhabited

namespace Overlay

/-- A layer on a region. -/
def on (c : Contexts) (id : RegionId) (entries : Fields Json) : Except ContextError Overlay :=
  if c.isDisposed id then .error .disposed else .ok ⟨id, [entries]⟩

/-- One more layer. -/
def stack (o : Overlay) (entries : Fields Json) : Overlay :=
  { o with layers := entries :: o.layers }

def own? (o : Overlay) (key : String) : Option Json := o.layers.findSome? (·.lookup key)

/-- The values of the overlay, with those below where it has none. -/
def through (o : Overlay) (below : String → Option Json) (key : String) : Option Json :=
  o.own? key <|> below key

def get? (o : Overlay) (c : Contexts) (key : String) : Option Json := o.through (c.get? o.region) key

def noteGet (o : Overlay) (c : Contexts) (key : String) : Contexts :=
  if (o.own? key).isSome then c else c.noteGet o.region key

/-- Evaluates a clause with a context below. -/
def evaluateAt (o : Overlay) (c : Contexts) (clause : Clause) (tree : Nat)
    (context : Option ContextId) : Bool :=
  clause.evaluate (o.through (c.valuesAt tree context))

def noteAt (o : Overlay) (c : Contexts) (clause : Clause) (tree : Nat)
    (context : Option ContextId) : Contexts :=
  let read := clause.lookups (o.through (c.valuesAt tree context))
  c.noteLookups tree context (read.filter fun k => (o.own? k).isNone)

/-- Evaluates a clause at a target. -/
def matchText (o : Overlay) (c : Contexts) (text : String) (target : Option ElementId) :
    Except Clause.Error Bool :=
  match Clause.ofText text with
  | .error e => .error e
  | .ok none => .ok true
  | .ok (some clause) =>
    match c.region? o.region with
    | none => .ok false
    | some r => .ok (o.evaluateAt c clause r.tree (c.contextFor r target))

def noteMatch (o : Overlay) (c : Contexts) (text : String) (target : Option ElementId) : Contexts :=
  match Clause.ofText text, c.region? o.region with
  | .ok (some clause), some r => o.noteAt c clause r.tree (c.contextFor r target)
  | _, _ => c

/-- Evaluates a clause in the context of the region. -/
def matchRules (o : Overlay) (c : Contexts) (rules : Option Clause) : Bool :=
  match rules, c.region? o.region with
  | none, _ => true
  | some clause, some r => o.evaluateAt c clause r.tree (some r.context)
  | some _, none => false

def noteRules (o : Overlay) (c : Contexts) (rules : Option Clause) : Contexts :=
  match rules, c.region? o.region with
  | some clause, some r => o.noteAt c clause r.tree (some r.context)
  | _, _ => c

/-- The value of a key for an element, and the lookup it takes. -/
def getAt? (o : Overlay) (c : Contexts) (target : Option ElementId) (key : String) : Option Json :=
  match c.region? o.region with
  | some r => o.through (c.valuesAt r.tree (c.contextOf o.region target)) key
  | none => o.own? key

def noteGetAt (o : Overlay) (c : Contexts) (target : Option ElementId) (key : String) : Contexts :=
  match c.region? o.region with
  | some r =>
    if (o.own? key).isSome then c
    else c.noteLookups r.tree (c.contextOf o.region target) [key]
  | none => c

end Overlay

end Shortcuts
