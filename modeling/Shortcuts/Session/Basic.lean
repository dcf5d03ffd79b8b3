import Shortcuts.Context.Viewpoint
import Shortcuts.Workbench.Start

/-!
A workbench that is operated by names: elements, regions, overlays, keys, listeners and things to
release are made under a name and go by it afterwards.
-/

namespace Shortcuts

/-- Names and what they stand for. -/
abbrev Names (α : Type) := List (String × α)

namespace Names

variable {α : Type}

def drop (k : String) (m : Names α) : Names α := m.filter (·.1 ≠ k)

/-- Gives a name. What had it before has it no longer. -/
def give (k : String) (v : α) (m : Names α) : Names α := (k, v) :: m.drop k

end Names

structure Session where
  bench : Workbench
  elements : Names ElementId := []
  regions : Names RegionId := []
  overlays : Names Overlay := []
  keys : Names ContextKey := []
  listeners : Names (RegionId × Nat) := []
  registrations : Names (Disposable Workbench.Registration) := []
  /-- The preferences that the workbench was made from. -/
  preferences : Option Preferences := none
  /-- The file where the state of detection would be kept. -/
  stateFile : Option Storage := none
deriving Inhabited

namespace Session

def withContexts (s : Session) (c : Contexts) : Session :=
  { s with bench := { s.bench with contexts := c } }

/-- Goes on with other contexts and notes what they announced. -/
def tell (s : Session) (r : Contexts × List Notice) : Session :=
  { s with bench := s.bench.withContexts r }

def withDetection (s : Session) (d : Detection) : Session :=
  { s with bench := { s.bench with layout := { s.bench.layout with detection := d } } }

/-! ### Listening -/

/-- Listens to a region under a name, and no longer to what had the name before. -/
def listen (s : Session) (name : String) (id : RegionId) : Session :=
  let (c, token) := s.bench.contexts.observe id name
  let c := match s.listeners.lookup name with
    | some (old, token) => c.unsubscribe old token
    | none => c
  { s.withContexts c with listeners := s.listeners.give name (id, token) }

def unlisten (s : Session) (name : String) : Session :=
  match s.listeners.lookup name with
  | some (id, token) =>
    { s.withContexts (s.bench.contexts.unsubscribe id token) with
      listeners := s.listeners.drop name }
  | none => s

/-- Tells the contexts which regions are held: that of the workbench, those that have a name, and
those that a named overlay or key belongs to. -/
def holding (s : Session) : Session :=
  let held := s.bench.root :: s.regions.map Prod.snd ++ s.overlays.map (·.2.region) ++
    s.keys.map (·.2.region)
  s.withContexts { s.bench.contexts with held }

/-- A session over a workbench, which listens to the settings and to the root region. -/
def start (w : Workbench) (preferences : Option Preferences) (stateFile : Option Storage) :
    Session :=
  let s : Session := { bench := w, regions := [("root", w.root)], preferences, stateFile }
  let s := (s.withContexts s.bench.contexts.watchSettings).listen "root" w.root
  { s.holding with bench := { s.holding.bench with log := [] } }

/-- Puts other settings in place without telling anyone. -/
def withSettings (s : Session) (settings : Settings) : Session :=
  s.withContexts { s.bench.contexts with settings }

/-! ### Names -/

/-- What goes by the name of a region; overlays come first. -/
def viewpoint? (s : Session) (name : String) : Option Viewpoint :=
  (s.overlays.lookup name).map .overlay <|> (s.regions.lookup name).map .region

def addElement (s : Session) (name : String) (parent : Option ElementId) : Session :=
  let c := s.bench.contexts
  let (elements, id) := c.elements.create parent
  { s.withContexts { c with elements } with elements := s.elements.give name id }

def addRegion (s : Session) (name : String) (r : Contexts × RegionId) : Session :=
  { s.withContexts r.1 with regions := s.regions.give name r.2 }.listen name r.2

/-- Forgets a region and no longer listens to it. -/
def dropRegion (s : Session) (name : String) : Session :=
  { s.unlisten name with regions := s.regions.drop name }

/-- Makes a context key, unless its region is disposed. -/
def addKey (s : Session) (name : String) (k : ContextKey) : Except ContextError Session :=
  (k.create s.bench.contexts).map fun r => { s.tell r with keys := s.keys.give name k }

/-- Keeps what can be released under a name. -/
def keep (s : Session) (name : String) (r : Workbench × Disposable Workbench.Registration) :
    Session :=
  { s with bench := r.1, registrations := s.registrations.give name r.2 }

/-- Releases what is kept under a name. -/
def release (s : Session) (name : String) : Session :=
  match s.registrations.lookup name with
  | some d =>
    { s with bench := s.bench.release d, registrations := s.registrations.drop name }
  | none => s

/-- What is stored about the layout. -/
def stored (s : Session) : Except StorageError (Option Json) :=
  match s.bench.layout.detection.storage <|> s.stateFile with
  | some storage => storage.get Detection.storageKey
  | none => .ok none

end Session

end Shortcuts
