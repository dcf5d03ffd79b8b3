import Shortcuts.Context.Element
import Shortcuts.Emitter

/-!
Regions over contexts. A root region stands for the root of a tree of contexts, a scoped one for
a context below, which belongs to an element. A change of values is announced to those who observe
the region, and to the regions below it, which announce it again.
-/

namespace Shortcuts

abbrev RegionId := Nat

/-- Who is told about a change of values. -/
inductive ChangeListener where
  | child (id : RegionId)
  | observer (name : String)
deriving DecidableEq, Inhabited, Repr

structure Region where
  /-- The tree that the context belongs to. -/
  tree : Nat
  context : ContextId
  parent : Option RegionId := none
  target : Option ElementId := none
  changes : Pausing ChangeListener (List String) := {}
  /-- The region above that is listened to, and the number of the subscription. -/
  feed : Option (RegionId × Nat) := none
  disposed : Bool := false
deriving Inhabited

structure ContextTree where
  arena : Arena
  /-- The element that has the focus. -/
  focused : Option ElementId := none
deriving Inhabited

/-- Who is told about a change of the settings. -/
inductive SettingsListener where
  | root (id : RegionId)
  | observer
deriving DecidableEq, Inhabited, Repr

/-- What an observer is told. -/
inductive Notice where
  | settings (change : SettingsChange)
  | context (observer : String) (keys : List String)
deriving DecidableEq, Inhabited, Repr

/-- The settings, the elements, and all trees of contexts with their regions. -/
structure Contexts where
  settings : Settings := {}
  watchers : Emitter SettingsListener := {}
  elements : Elements := {}
  trees : Table ContextTree := []
  regions : Table Region := []
  /-- The regions that someone outside holds on to. -/
  held : List RegionId := []
deriving Inhabited

/-- The texts of a list in order of their first places. -/
def distinct (ks : List String) : List String :=
  ks.foldl (fun seen k => if seen.contains k then seen else seen ++ [k]) []

namespace Contexts

def region? (c : Contexts) (id : RegionId) : Option Region := c.regions.lookup id

def isDisposed (c : Contexts) (id : RegionId) : Bool :=
  match c.region? id with
  | some r => r.disposed
  | none => true

def withRegion (c : Contexts) (id : RegionId) (f : Region → Region) : Contexts :=
  { c with regions := c.regions.modify id f }

def withArena (c : Contexts) (tree : Nat) (arena : Arena) : Contexts :=
  { c with trees := c.trees.modify tree fun t => { t with arena } }

def arena? (c : Contexts) (tree : Nat) : Option Arena := (c.trees.lookup tree).map (·.arena)

def focus (c : Contexts) (id : RegionId) (target : Option ElementId) : Contexts :=
  match c.region? id with
  | some r => { c with trees := c.trees.modify r.tree fun t => { t with focused := target } }
  | none => c

def focused? (c : Contexts) (id : RegionId) : Option ElementId :=
  ((c.region? id).bind fun r => c.trees.lookup r.tree).bind (·.focused)

/-! ### Lives -/

/-- A region and those above it. -/
def above (c : Contexts) : Nat → RegionId → List RegionId
  | 0, _ => []
  | fuel + 1, id =>
    match (c.region? id).bind Region.parent with
    | some p => id :: above c fuel p
    | none => [id]

/-- A region lives on while it, or one below it, is held. -/
def isHeld (c : Contexts) (id : RegionId) : Bool :=
  c.held.any fun h => (c.above (c.regions.length + 1) h).contains id

/-! ### Announcing changes -/

/-- Announces changed keys at a region, and from there at the regions below that live on. No way
down is longer than there are regions. -/
def announce : Nat → RegionId → List String → Contexts × List Notice → Contexts × List Notice
  | 0, _, _, s => s
  | fuel + 1, id, keys, (c, told) =>
    match c.region? id with
    | none => (c, told)
    | some r =>
      let (changes, now) := r.changes.offer keys
      now.foldl (fun s keys => changes.emitter.deliver (fun l (c, told) =>
        match l with
        | .observer name => (c, told ++ [.context name keys])
        | .child id => if c.isHeld id then announce fuel id keys (c, told) else (c, told)) s)
        (c.withRegion id fun r => { r with changes }, told)

/-- Announces changed keys, if there are any. -/
def fire (c : Contexts) (id : RegionId) (keys : List String) : Contexts × List Notice :=
  if keys.isEmpty then (c, []) else announce (c.regions.length + 1) id keys (c, [])

def pause (c : Contexts) (id : RegionId) : Contexts :=
  c.withRegion id fun r => { r with changes := r.changes.pause }

/-- Ends a pause. What was held back is announced as one change. -/
def resume (c : Contexts) (id : RegionId) : Contexts × List Notice :=
  match c.region? id with
  | none => (c, [])
  | some r =>
    let (changes, events) := r.changes.resume (some fun events => distinct events.flatten)
    events.foldl (fun (c, told) keys =>
      let (c, more) := c.fire id keys
      (c, told ++ more)) (c.withRegion id fun r => { r with changes }, [])

/-- Adds an observer and gives the number of its subscription. -/
def observe (c : Contexts) (id : RegionId) (name : String) : Contexts × Nat :=
  match c.region? id with
  | none => (c, 0)
  | some r =>
    let (changes, token) := r.changes.subscribe (.observer name)
    (c.withRegion id fun r => { r with changes }, token)

def unsubscribe (c : Contexts) (id : RegionId) (token : Nat) : Contexts :=
  c.withRegion id fun r => { r with changes := r.changes.unsubscribe token }

end Contexts

end Shortcuts
