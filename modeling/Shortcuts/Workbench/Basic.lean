import Shortcuts.Command
import Shortcuts.Context.Store
import Shortcuts.Dispatch.Basic
import Shortcuts.Disposable
import Shortcuts.Layout.Active

/-! Commands, contexts, keyboard layout and bindings put together, and what happens among them. -/

namespace Shortcuts

/-- A handler made of a few steps, all optional but the last: store a value in the root context,
run another command with the same arguments, then fail or answer. -/
structure Routine where
  name : String
  store : Option (String × Json) := none
  next : Option String := none
  failure : Option CommandError := none
  result : Json := .null
deriving Inhabited

/-- What a handler does. -/
inductive Action where
  /-- Stores the value of a key, both given as arguments, in the context of a region. -/
  | storeKey (region : RegionId)
  | routine (r : Routine)
deriving Inhabited

/-- What can be observed, in order. -/
inductive Event where
  | notice (n : Notice)
  | handled (name : String) (args : Option Json)
  | executed (command : String) (args : Option Json)
  | layoutChanged (id : String) (isEmpty : Bool)
  | bindingsChanged
  | matched (r : MatchReport)
deriving Inhabited

structure Workbench where
  contexts : Contexts
  /-- The region whose contexts guard the bindings. -/
  root : RegionId
  commands : Commands Action := {}
  layout : ActiveLayout
  dispatcher : Dispatcher
  /-- What happened, the oldest first. -/
  log : List Event := []
deriving Inhabited

namespace Workbench

def note (w : Workbench) (e : Event) : Workbench := { w with log := w.log ++ [e] }

/-- Goes on with other contexts and notes what they announced. -/
def withContexts (w : Workbench) (r : Contexts × List Notice) : Workbench :=
  { w with contexts := r.1, log := w.log ++ r.2.map Event.notice }

/-! ### Commands -/

/-- The key and the value in the arguments of the command that stores one. -/
def keyAndValue : Option Json → Except CommandError (String × Json)
  | some (.arr (.str k :: v :: _)) => .ok (k, v)
  | some (.arr [.str k]) => .ok (k, .null)
  | _ => .error (.invalidArgument "setContext expects [key, value]")

def storeKey (w : Workbench) (region : RegionId) (args : Option Json) :
    Workbench × Except CommandError Json :=
  if !w.contexts.isHeld region then
    (w, .error (.other "context key service disposed"))
  else
    match keyAndValue args with
    | .error e => (w, .error e)
    | .ok (key, v) =>
      match ContextKey.create ⟨region, key, some v⟩ w.contexts with
      | .error e => (w, .error (.executionFailed e.message))
      | .ok r => (w.withContexts r, .ok .null)

/-- The first steps of a routine: it is noted, and its value is stored. -/
def beginRoutine (w : Workbench) (r : Routine) (args : Option Json) : Workbench :=
  let w := w.note (.handled r.name args)
  match r.store with
  | some (k, v) => w.withContexts (w.contexts.set w.root k v)
  | none => w

/-- Performs a routine; `again` runs a command. -/
def performRoutine (again : Workbench → String → Workbench × Except CommandError Json)
    (w : Workbench) (r : Routine) (args : Option Json) : Workbench × Except CommandError Json :=
  let w := w.beginRoutine r args
  let finish : Except CommandError Json := match r.failure with
    | some e => .error e
    | none => .ok r.result
  match r.next with
  | none => (w, finish)
  | some id =>
    match again w id with
    | (w, .error e) => (w, .error e)
    | (w, .ok _) => (w, finish)

/-- Runs a command. With the same arguments a handler runs the same commands again, so a chain of
commands that ends is no longer than there are handlers. -/
def executeWithin : Nat → Workbench → String → Option Json →
    Workbench × Except CommandError Json
  | 0, w, _, _ => (w, .error (.other "too many commands run each other"))
  | fuel + 1, w, id, args =>
    match w.commands.handler id args with
    | .error e => (w, .error e)
    | .ok h =>
      let (w, result) := match h.action with
        | .storeKey region => w.storeKey region args
        | .routine r => performRoutine (fun w id => executeWithin fuel w id args) w r args
      match result with
      | .ok v => (w.note (.executed id args), .ok v)
      | .error e => (w, .error e)

def execute (w : Workbench) (id : String) (args : Option Json) :
    Workbench × Except CommandError Json :=
  executeWithin (w.commands.handlerCount + 1) w id args

/-- The command that stores the value of a context key. -/
def storeCommand : Command := { id := "setContext", label := some "Set Context Key" }

/-! ### Layout -/

/-- Goes on with another state of the layout. If it was taken over, all chords are looked up
anew. -/
def withLayout (w : Workbench) (r : ActiveLayout × Bool) : Workbench :=
  let w := { w with layout := r.1 }
  if r.2 then
    let w := { w with dispatcher :=
      { w.dispatcher with keymap := w.dispatcher.keymap.clearResolved } }
    (w.note .bindingsChanged).note
      (.layoutChanged r.1.detection.current.id r.1.typing.isEmpty)
  else w

/-- Goes on with another state of detection, and what it announces. -/
def withDetection (w : Workbench) (r : Detection × Option NativeLayout) : Workbench :=
  w.withLayout (w.layout.follow r.1 r.2)

/-- The chords of a binding on the current layout. -/
def resolve (w : Workbench) (b : Binding) : Except ChordError (List Chord) :=
  (Chord.sequenceOfText w.dispatcher.platform b.keys).map fun cs => cs.map w.layout.resolve

def resolve? (w : Workbench) (b : Binding) : Option (List Chord) := (w.resolve b).toOption

/-! ### Bindings -/

/-- What registering gives back, to undo it with. -/
inductive Registration where
  | command (id : String) (handler : Option Nat)
  | handler (id : String) (number : Nat)
  | binding (scope : Scope) (number : Nat)
deriving Inhabited

/-- Adds a binding to a tier, unless its chord text cannot be read. -/
def insert (w : Workbench) (s : Scope) (b : Binding) : Workbench × Option Nat :=
  match w.resolve? b with
  | none => (w, none)
  | some chords =>
    let (keymap, number) := w.dispatcher.keymap.insert s b (some chords)
    ({ w with dispatcher := { w.dispatcher with keymap } }, some number)

def bind (w : Workbench) (b : Binding) : Workbench × Disposable Registration :=
  match w.insert .base b with
  | (w, some number) => (w, .one (.binding .base number))
  | (w, none) => (w, .nothing)

def bindAll (w : Workbench) (bs : List Binding) : Workbench × Disposable Registration :=
  let (w, ds) := bs.foldl (fun (w, ds) b =>
    let (w, d) := w.bind b
    (w, ds ++ [d])) (w, [])
  (w, .group (Disposable.kept ds))

/-- Replaces the bindings of a tier that came in as a whole keymap. -/
def setKeymap (w : Workbench) (s : Scope) (bs : List Binding) : Workbench :=
  let w := { w with dispatcher := w.dispatcher.resetScope s }
  let (w, ids) := bs.foldl (fun (w, ids) b =>
    let (w, number) := w.insert s b
    (w, ids ++ number.toList)) (w, [])
  let installed := (s, ids) :: w.dispatcher.installed
  ({ w with dispatcher := { w.dispatcher with installed } }).note .bindingsChanged

def undo (w : Workbench) : Registration → Workbench
  | .command id handler => { w with commands := w.commands.undo id handler }
  | .handler id number => { w with commands := w.commands.removeHandler id number }
  | .binding s number =>
    { w with dispatcher :=
        { w.dispatcher with keymap := (w.dispatcher.keymap.remove s number).1 } }

def release (w : Workbench) (d : Disposable Registration) : Workbench := d.order.foldl undo w

/-- Compares a sequence with the bindings of a tier that run a command. -/
def collisions (w : Workbench) (s : Scope) (typed : List Chord) : Workbench × Collisions :=
  let keymap := w.dispatcher.keymap.resolveTier w.resolve? s
  let c := (keymap.tier s).foldl (fun (c : Collisions) e =>
    match e.binding.isMarker, e.chords with
    | false, some chords => c.add (Chord.compare typed chords) ⟨e.binding, s⟩
    | _, _ => c) {}
  ({ w with dispatcher := { w.dispatcher with keymap } }, c)

/-- Whether a tier has an unconditional binding of the same keybinding context that an
unconditional binding would collide with. -/
def collidesIn (w : Workbench) (b : Binding) (s : Scope) : Workbench × Bool :=
  match w.resolve? b with
  | none => (w, false)
  | some chords =>
    let (w, c) := w.collisions s chords
    (w, !(c.filter fun o =>
      o.context = b.context && o.condition.isNone && b.condition.isNone).isEmpty)

/-! ### Labels -/

def labels (w : Workbench) (separator : Option String) : Accelerator :=
  match separator with
  | some separator => { w.dispatcher.labels with separator }
  | none => w.dispatcher.labels

def chordLabel (w : Workbench) (separator : Option String) (c : Chord) : String :=
  (w.labels separator).label w.layout.typing.nameOf c

def chordLabels (w : Workbench) (separator : Option String) (cs : List Chord) : List String :=
  cs.map (w.chordLabel separator)

/-- The labels of a binding. One whose chord text cannot be read has none. -/
def bindingLabels (w : Workbench) (separator : Option String) (b : Binding) : List String :=
  w.chordLabels separator ((w.resolve? b).getD [])

def keyLabel (w : Workbench) (k : Key) : String :=
  w.dispatcher.labels.keyLabel k (w.layout.typing.nameOf k)

end Workbench

end Shortcuts
