import Shortcuts.Context.Region

/-! How regions come to be, move to another place in their tree, and end. -/

namespace Shortcuts.Contexts

/-- A new tree of contexts with a region at its root. If it is backed by the settings it watches
them. -/
def newRoot (c : Contexts) (backed : Bool) : Contexts × RegionId :=
  let id := c.regions.length
  let tree := c.trees.length
  let watchers := if backed then (c.watchers.subscribe (.root id)).1 else c.watchers
  let trees := c.trees.put tree { arena := .new backed }
  let regions := c.regions.put id { tree, context := Arena.root }
  ({ c with watchers, trees, regions }, id)

/-- A context below that of a region. -/
def createChild (c : Contexts) (id : RegionId) : Except ContextError (Contexts × ContextId) :=
  match c.region? id with
  | none => .error .disposed
  | some r =>
    if r.disposed then .error .disposed
    else match c.arena? r.tree with
      | none => .error .disposed
      | some arena =>
        let (arena, context) := arena.createChild r.context
        .ok (c.withArena r.tree arena, context)

def disposeContext (c : Contexts) (id : RegionId) (context : ContextId) : Contexts :=
  match c.region? id with
  | none => c
  | some r =>
    if r.disposed then c
    else match c.arena? r.tree with
      | none => c
      | some arena => c.withArena r.tree (arena.dispose context).1

/-- Listens to a region from another one, and no longer to the one that it listened to. -/
def listenTo (c : Contexts) (id above : RegionId) : Contexts :=
  match c.region? id, c.region? above with
  | some r, some a =>
    let (changes, token) := a.changes.subscribe (.child id)
    let c := c.withRegion above fun a => { a with changes }
    let c := match r.feed with
      | some (old, token) => c.unsubscribe old token
      | none => c
    c.withRegion id fun r => { r with feed := some (above, token) }
  | _, _ => c

/-- A region below another, whose context an element and those inside it belong to. -/
def createScoped (c : Contexts) (id : RegionId) (target : ElementId) :
    Except ContextError (Contexts × RegionId) :=
  match c.createChild id with
  | .error e => .error e
  | .ok (c, context) =>
    let tree := ((c.region? id).map Region.tree).getD 0
    let below := c.regions.length
    let elements := c.elements.setAttribute target Elements.contextAttribute (toString context)
    let regions := c.regions.put below { tree, context, parent := some id, target := some target }
    .ok (({ c with elements, regions }).listenTo below id, below)

/-- The keys whose values differ, in ascending order. -/
def differences (before after : Fields Json) : List String :=
  sortedKeys ((before.keys ++ after.keys).filter fun k =>
    !(before.lookup k == after.lookup k))

/-- Puts a region with its context below another one of the same tree, and announces the keys
whose values are now others. -/
def updateParent (c : Contexts) (id above : RegionId) :
    Except ContextError (Contexts × List Notice) :=
  match c.region? id, c.region? above with
  | some r, some a =>
    if r.disposed then .error .disposed
    else if r.context = Arena.root then .error .rootHasNoParent
    else if r.tree ≠ a.tree then .error (.unsupported "update_parent across context trees")
    else match c.arena? r.tree with
      | none => .error .disposed
      | some arena =>
        match arena.updateParent r.context a.context with
        | .error e => .error e
        | .ok moved =>
          let changed := differences (arena.collect r.context) (moved.collect r.context)
          let c := (c.withArena r.tree moved).withRegion id fun r =>
            { r with parent := some above }
          .ok ((c.listenTo id above).fire id changed)
  | _, _ => .error .disposed

/-- Ends a region. A scoped one takes its context and the attribute of its element with it. -/
def dispose (c : Contexts) (id : RegionId) : Contexts :=
  match c.region? id with
  | none => c
  | some r =>
    if r.disposed then c
    else
      let c := match r.feed with
        | some (above, token) => c.unsubscribe above token
        | none => c
      let c := { c with watchers :=
        { c.watchers with
          listeners := c.watchers.listeners.filter (·.2 ≠ SettingsListener.root id) } }
      let c := match c.arena? r.tree with
        | some arena => c.withArena r.tree (arena.dispose r.context).1
        | none => c
      let c := match r.target with
        | some e =>
          { c with elements := c.elements.removeAttribute e Elements.contextAttribute }
        | none => c
      c.withRegion id fun r => { r with disposed := true, feed := none, parent := none }

end Shortcuts.Contexts
