import Shortcuts.Context.Region

/-! Changing the values of contexts, and the settings that stand behind them. -/

namespace Shortcuts

namespace Contexts

/-! ### Settings -/

/-- Tells everyone who watches the settings about a change. A root that lives on forgets what it
knew of the keys and announces those. -/
def tellSettings (c : Contexts) (change : SettingsChange) : Contexts × List Notice :=
  c.watchers.deliver (fun l (c, told) =>
    match l with
    | .observer => (c, told ++ [.settings change])
    | .root id =>
      match (c.region? id).filter fun _ => c.isHeld id with
      | none => (c, told)
      | some r =>
        match c.arena? r.tree with
        | none => (c, told)
        | some arena =>
          let (arena, keys) := arena.settingsChanged change
          let (c, more) := (c.withArena r.tree arena).fire id keys
          (c, told ++ more)) (c, [])

def changeSettings (c : Contexts) (settings : Settings) (change : Option SettingsChange) :
    Contexts × List Notice :=
  let c := { c with settings }
  match change with
  | some change => c.tellSettings change
  | none => (c, [])

def watchSettings (c : Contexts) : Contexts :=
  { c with watchers := (c.watchers.subscribe .observer).1 }

/-! ### Storing values -/

def set (c : Contexts) (id : RegionId) (key : String) (v : Json) : Contexts × List Notice :=
  match c.region? id with
  | none => (c, [])
  | some r =>
    if r.disposed then (c, [])
    else match c.arena? r.tree with
      | none => (c, [])
      | some arena =>
        let (arena, changed) := arena.set r.context key v
        let c := c.withArena r.tree arena
        if changed then c.fire id [key] else (c, [])

def remove (c : Contexts) (id : RegionId) (key : String) : Contexts × List Notice :=
  match c.region? id with
  | none => (c, [])
  | some r =>
    if r.disposed then (c, [])
    else match c.arena? r.tree with
      | none => (c, [])
      | some arena =>
        let (arena, changed) := arena.remove r.context key
        let c := c.withArena r.tree arena
        if changed then c.fire id [key] else (c, [])

end Contexts

/-- A key of a region's context, and the value to go back to. -/
structure ContextKey where
  region : RegionId
  key : String
  fallback : Option Json := none
deriving Inhabited

namespace ContextKey

/-- Goes back to the fallback. Without one the key has no value. -/
def reset (k : ContextKey) (c : Contexts) : Contexts × List Notice :=
  match k.fallback with
  | some v => c.set k.region k.key v
  | none => c.remove k.region k.key

/-- A key starts out with its fallback. -/
def create (k : ContextKey) (c : Contexts) : Except ContextError (Contexts × List Notice) :=
  if c.isDisposed k.region then .error .disposed else .ok (k.reset c)

end ContextKey

end Shortcuts
