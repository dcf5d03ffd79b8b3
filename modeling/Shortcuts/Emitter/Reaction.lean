import Shortcuts.Emitter

/-!
Listeners that act on the emitter while it delivers to them: a scene holds a pausing emitter,
named listeners with the reaction of each, and a log of what was delivered.
-/

namespace Shortcuts

/-- What a listener does when it is told, in this order. -/
structure Reaction where
  subscribe : Option String := none
  unsubscribe : Option String := none
  fire : Option String := none
  pause : Bool := false
deriving Inhabited, Repr

structure NamedListener where
  name : String
  reaction : Reaction := {}
deriving Inhabited, Repr

/-- How a scene treats events while it is paused: a plain one cannot pause, a merging one joins
the events it held back with `+`. -/
inductive SceneKind where
  | plain
  | pausing
  | merging
deriving DecidableEq, Inhabited, Repr

structure Scene where
  kind : SceneKind
  pausing : Pausing NamedListener String := {}
  tokens : List (String × Nat) := []
  log : List (String × String) := []
deriving Inhabited

namespace Scene

def merge? : SceneKind → Option (List String → String)
  | .merging => some fun events => "+".intercalate events
  | _ => none

/-- Subscribes under a name; a subscription of that name is dropped afterwards. -/
def subscribe (s : Scene) (l : NamedListener) : Scene :=
  let (p, token) := s.pausing.subscribe l
  let p := match s.tokens.lookup l.name with
    | some old => p.unsubscribe old
    | none => p
  { s with pausing := p, tokens := (l.name, token) :: s.tokens.filter (·.1 ≠ l.name) }

def unsubscribe (s : Scene) (name : String) : Scene :=
  match s.tokens.lookup name with
  | some token =>
    { s with pausing := s.pausing.unsubscribe token, tokens := s.tokens.filter (·.1 ≠ name) }
  | none => s

def pause (s : Scene) : Scene :=
  match s.kind with
  | .plain => s
  | _ => { s with pausing := s.pausing.pause }

mutual
/-- Delivers an event to the listeners of this moment. The fuel bounds how deeply deliveries may
be nested in one another. -/
def deliver : Nat → String → Scene → Scene
  | 0, _, s => s
  | fuel + 1, event, s =>
    s.pausing.emitter.listeners.foldl (fun s l => react fuel event l.2 s) s

def react : Nat → String → NamedListener → Scene → Scene
  | 0, _, _, s => s
  | fuel + 1, event, l, s =>
    let s := { s with log := s.log ++ [(l.name, event)] }
    let s := match l.reaction.subscribe with
      | some name => if (s.tokens.lookup name).isSome then s else s.subscribe { name }
      | none => s
    let s := match l.reaction.unsubscribe with
      | some name => s.unsubscribe name
      | none => s
    let s := match l.reaction.fire with
      | some value => if value = event then s else fireWith fuel value s
      | none => s
    if l.reaction.pause && !s.pausing.isPaused then s.pause else s

def fireWith : Nat → String → Scene → Scene
  | 0, _, s => s
  | fuel + 1, event, s =>
    let (p, events) := s.pausing.offer event
    events.foldl (fun s event => deliver fuel event s) { s with pausing := p }
end

/-- Enough for every delivery that ends: each nested one needs a listener of its own. -/
def fuel (s : Scene) : Nat := 12 * s.pausing.emitter.size + 24

def fire (event : String) (s : Scene) : Scene := fireWith s.fuel event s

def resume (s : Scene) : Scene :=
  match s.kind with
  | .plain => s
  | _ =>
    let (p, events) := s.pausing.resume (merge? s.kind)
    events.foldl (fun s event => deliver s.fuel event s) { s with pausing := p }

end Scene

/-- A scene that may be gone, and whether someone still has a weak hold on it. -/
structure Stage where
  scene : Scene
  isWeaklyHeld : Bool := false
  isGone : Bool := false
deriving Inhabited

namespace Stage

def start (kind : SceneKind) : Stage := { scene := { kind } }

/-- Changes the scene while it is there. -/
def act (s : Stage) (f : Scene → Scene) : Stage :=
  if s.isGone then s else { s with scene := f s.scene }

/-- Takes a weak hold. Only plain scenes can be held so. -/
def holdWeakly (s : Stage) : Stage :=
  { s with isWeaklyHeld := s.isWeaklyHeld || (s.scene.kind == .plain && !s.isGone) }

/-- Fires through the weak hold, and tells whether the scene was there. -/
def fireWeakly (event : String) (s : Stage) : Stage × Option Bool :=
  if s.isWeaklyHeld then (s.act (Scene.fire event), some !s.isGone) else (s, none)

def drop (s : Stage) : Stage := { s with isGone := true }

/-- The number of listeners, as long as the scene is there. -/
def size? (s : Stage) : Option Nat :=
  if s.isGone then none else some s.scene.pausing.emitter.size

/-- Whether the scene is paused, if it is there and can be. -/
def isPaused? (s : Stage) : Option Bool :=
  if s.isGone || s.scene.kind == .plain then none else some s.scene.pausing.isPaused

def clearLog (s : Stage) : Stage := { s with scene := { s.scene with log := [] } }

end Stage

end Shortcuts
