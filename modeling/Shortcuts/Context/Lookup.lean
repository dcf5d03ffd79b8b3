import Shortcuts.Clause.Reader
import Shortcuts.Context.Region

/-!
What a region sees: the values of its context and of those above it. Looking up a value does not
change any, but the settings that were looked up are remembered, so that their changes are
announced; a function that starts with `note` tells what is remembered.
-/

namespace Shortcuts.Contexts

/-! ### Looking up values -/

/-- The values that a context of a tree sees. No context sees nothing. -/
def valuesAt (c : Contexts) (tree : Nat) (context : Option ContextId) (key : String) :
    Option Json :=
  match c.arena? tree, context with
  | some arena, some id => arena.get? c.settings.get? id key
  | _, _ => none

/-- Remembers the settings that were looked up. -/
def noteLookups (c : Contexts) (tree : Nat) (context : Option ContextId) (keys : List String) :
    Contexts :=
  match c.arena? tree, context with
  | some arena, some id => c.withArena tree (arena.rememberAll c.settings.get? id keys)
  | _, _ => c

/-- The value of a key as a region sees it. -/
def get? (c : Contexts) (id : RegionId) (key : String) : Option Json :=
  match c.region? id with
  | some r => if r.disposed then none else c.valuesAt r.tree (some r.context) key
  | none => none

def noteGet (c : Contexts) (id : RegionId) (key : String) : Contexts :=
  match c.region? id with
  | some r => if r.disposed then c else c.noteLookups r.tree (some r.context) [key]
  | none => c

/-- The context that an element belongs to as a region sees it. -/
def contextOf (c : Contexts) (id : RegionId) (target : Option ElementId) : Option ContextId :=
  if c.isDisposed id then none else c.elements.contextOf target

/-- All values of a context of a tree. -/
def collect (c : Contexts) (tree : Nat) (context : Option ContextId) : Fields Json :=
  match c.arena? tree, context with
  | some arena, some id => arena.collect id
  | _, _ => []

/-! ### When-clauses -/

/-- Where a clause is evaluated: at the target, else at the element with the focus, else in the
region's own context. -/
def contextFor (c : Contexts) (r : Region) (target : Option ElementId) :
    Option ContextId :=
  match target <|> (c.trees.lookup r.tree).bind (·.focused) with
  | some e => c.elements.contextOf (some e)
  | none => some r.context

/-- Evaluates a clause at a target. A blank one always holds, others not at a disposed region. -/
def matchText (c : Contexts) (id : RegionId) (text : String) (target : Option ElementId) :
    Except Clause.Error Bool :=
  match Clause.ofText text with
  | .error e => .error e
  | .ok none => .ok true
  | .ok (some clause) =>
    match c.region? id with
    | none => .ok false
    | some r =>
      if r.disposed then .ok false
      else .ok (clause.evaluate (c.valuesAt r.tree (c.contextFor r target)))

def noteMatch (c : Contexts) (id : RegionId) (text : String) (target : Option ElementId) :
    Contexts :=
  match Clause.ofText text, c.region? id with
  | .ok (some clause), some r =>
    if r.disposed then c
    else
      let context := c.contextFor r target
      c.noteLookups r.tree context (clause.lookups (c.valuesAt r.tree context))
  | _, _ => c

/-- Evaluates a clause in the region's own context. -/
def matchRules (c : Contexts) (id : RegionId) (rules : Option Clause) : Bool :=
  match c.region? id with
  | none => false
  | some r =>
    if r.disposed then false
    else match rules with
      | none => true
      | some clause => clause.evaluate (c.valuesAt r.tree (some r.context))

def noteRules (c : Contexts) (id : RegionId) (rules : Option Clause) : Contexts :=
  match rules, c.region? id with
  | some clause, some r =>
    if r.disposed then c
    else c.noteLookups r.tree (some r.context)
      (clause.lookups (c.valuesAt r.tree (some r.context)))
  | _, _ => c

end Shortcuts.Contexts
