import Shortcuts.Accelerator
import Shortcuts.Dispatch.Match
import Shortcuts.Keymap.Collision
import Shortcuts.KeyEvent

/-! What is kept to turn keys into commands: the bindings, and the chords typed so far. -/

namespace Shortcuts

structure Dispatcher where
  platform : Platform
  /-- Whether events that are handled are kept from their default action. -/
  preventDefault : Bool := false
  /-- Whether events that are handled are kept from other listeners. -/
  stopPropagation : Bool := false
  labels : Accelerator
  keymap : Keymap := {}
  /-- The keybinding contexts, with the bindings that each enables. -/
  contexts : Fields (Binding → Bool) := []
  /-- The numbers of the bindings that came in as a whole keymap. -/
  installed : List (Scope × List Nat) := []
  /-- The chords typed so far of a binding with several. -/
  pending : List Chord := []
deriving Inhabited

namespace Dispatcher

/-- The contexts that are always there: one enables every binding, the other none. -/
def builtinContexts : Fields (Binding → Bool) :=
  Fields.ofList [("noop.keybinding.context", fun _ => true),
    ("default.keybinding.context", fun _ => false)]

/-- Adds a keybinding context, unless there is one of that name. -/
def addContext (d : Dispatcher) (id : String) (enables : Binding → Bool) : Dispatcher × Bool :=
  if (d.contexts.lookup id).isSome then (d, false)
  else ({ d with contexts := Fields.insert id enables d.contexts }, true)

/-- Whether the keybinding context of a binding enables it. One that is not known does. -/
def permits (d : Dispatcher) (b : Binding) : Bool :=
  match b.context.bind fun id => d.contexts.lookup id with
  | some enables => enables b
  | none => true

/-- Sets the flags of a handled event, as the binding or else the dispatcher says. -/
def mark (d : Dispatcher) (b : Binding) (e : KeyEvent) : KeyEvent :=
  { e with
    prevented := e.prevented || b.preventDefault.getD d.preventDefault
    stopped := e.stopped || b.stopPropagation.getD d.stopPropagation }

/-- The bindings of a command in the strongest tier that has any. -/
def bindingsFor (d : Dispatcher) (command : String) : List ScopedBinding :=
  ((Scope.strongestFirst.map fun s =>
    (d.keymap.inScope s).filter fun b => b.command = command).find? (!·.isEmpty)).getD []

/-- Takes out what came in as a whole keymap. -/
def resetScope (d : Dispatcher) (s : Scope) : Dispatcher :=
  match d.installed.lookup s with
  | some ids =>
    { d with
      keymap := ids.foldl (fun m id => (m.remove s id).1) d.keymap
      installed := d.installed.filter (·.1 ≠ s) }
  | none => d

/-- Empties the tiers above the base. -/
def resetAll (d : Dispatcher) : Dispatcher :=
  { d with
    keymap := (d.keymap.clear .user).clear .workspace
    installed := d.installed.filter (·.1 = Scope.base) }

end Dispatcher

end Shortcuts
