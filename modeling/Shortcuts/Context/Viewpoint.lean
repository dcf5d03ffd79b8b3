import Shortcuts.Context.Overlay

/-!
Asking for values, through a region or through an overlay on one. The answers come with the
contexts afterwards, which remember the settings that were looked up.
-/

namespace Shortcuts

inductive Viewpoint where
  | region (id : RegionId)
  | overlay (o : Overlay)
deriving Inhabited

namespace Viewpoint

/-- The region that is asked in the end. -/
def base : Viewpoint → RegionId
  | region id => id
  | overlay o => o.region

def get (v : Viewpoint) (c : Contexts) (key : String) : Contexts × Option Json :=
  match v with
  | region id => (c.noteGet id key, c.get? id key)
  | overlay o => (o.noteGet c key, o.get? c key)

/-- The values of keys for an element. -/
def getAt (v : Viewpoint) (c : Contexts) (target : Option ElementId) (keys : List String) :
    Contexts × List (Option Json) :=
  match v with
  | region id =>
    let tree := ((c.region? id).map Region.tree).getD 0
    let context := c.contextOf id target
    (c.noteLookups tree context keys, keys.map (c.valuesAt tree context))
  | overlay o => (keys.foldl (fun c k => o.noteGetAt c target k) c, keys.map (o.getAt? c target))

/-- Evaluates a clause at a target. -/
def matchText (v : Viewpoint) (c : Contexts) (text : String) (target : Option ElementId) :
    Contexts × Except Clause.Error Bool :=
  match v with
  | region id => (c.noteMatch id text target, c.matchText id text target)
  | overlay o => (o.noteMatch c text target, o.matchText c text target)

/-- Evaluates a clause in the context of the region. -/
def matchRules (v : Viewpoint) (c : Contexts) (rules : Option Clause) : Contexts × Bool :=
  match v with
  | region id => (c.noteRules id rules, c.matchRules id rules)
  | overlay o => (o.noteRules c rules, o.matchRules c rules)

/-- An overlay on what is seen from here. -/
def overlaid (v : Viewpoint) (c : Contexts) (entries : Fields Json) : Except ContextError Overlay :=
  match v with
  | region id => Overlay.on c id entries
  | overlay o => .ok (o.stack entries)

end Viewpoint

end Shortcuts
