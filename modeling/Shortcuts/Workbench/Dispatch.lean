import Shortcuts.Context.Lookup
import Shortcuts.Workbench.Basic

/-!
From keys to commands. Each key goes to the end of those typed so far. If they mean a binding its
command runs and typing starts over; if they begin one, more keys are waited for; otherwise they
are dropped.
-/

namespace Shortcuts.Workbench

/-- Whether the keybinding context and the when-clause of a binding allow it at a target. A clause
that cannot be read does not. -/
def isEnabled (w : Workbench) (b : Binding) (target : Option ElementId) : Bool :=
  w.dispatcher.permits b &&
    match b.condition with
    | none => true
    | some text =>
      match w.contexts.matchText w.root text target with
      | .ok holds => holds
      | .error _ => false

/-- Remembers the settings that asking for this looks up. -/
def noteEnabled (w : Workbench) (target : Option ElementId) (b : Binding) : Workbench :=
  match w.dispatcher.permits b, b.condition with
  | true, some text => { w with contexts := w.contexts.noteMatch w.root text target }
  | _, _ => w

/-- Whether the command of a binding has a handler for its arguments. -/
def isActive (w : Workbench) (b : Binding) : Bool :=
  b.isPassthrough || w.commands.isEnabled b.command b.args

/-- Looks up all chords that are not known. -/
def resolved (w : Workbench) : Workbench :=
  { w with dispatcher :=
      { w.dispatcher with keymap := w.dispatcher.keymap.resolveAll w.resolve? } }

/-- The binding that a sequence means, whatever the contexts and commands are. -/
def find (w : Workbench) (typed : List Chord) : Workbench × Option Match :=
  let w := w.resolved
  let ms := Match.all typed w.dispatcher.keymap
  (w, (Match.first? (fun _ => true) (fun _ => true) [] ms).map Prod.fst)

/-- The binding that a sequence means at a target. -/
def findAt (w : Workbench) (typed : List Chord) (target : Option ElementId) :
    Workbench × Option Match :=
  let w := w.resolved
  let ms := Match.all typed w.dispatcher.keymap
  let enabled (b : Binding) : Bool := w.isEnabled b target
  let found := (Match.first? enabled w.isActive [] ms).map Prod.fst
  let seen := Match.considered enabled w.isActive ms
  (seen.foldl (fun w m => w.noteEnabled target m.binding.toBinding) w, found)

def withPending (w : Workbench) (typed : List Chord) : Workbench :=
  { w with dispatcher := { w.dispatcher with pending := typed } }

/-- Runs the command of a binding. An event is left alone if the binding lets it through or its
command is not known. -/
def perform (w : Workbench) (b : Binding) (e : KeyEvent) : Workbench × KeyEvent :=
  if b.isPassthrough || !w.commands.isKnown b.command then (w, e)
  else
    let w := if w.commands.isEnabled b.command b.args then (w.execute b.command b.args).1 else w
    (w, w.dispatcher.mark b e)

/-- Takes a key. Nothing happens to one that was dealt with, that composes a character, or that
is a modifier alone. -/
def press (w : Workbench) (e : KeyEvent) : Workbench × KeyEvent × Option Match :=
  let chord := e.chord
  if e.prevented || e.composing || chord.isModifierOnly then (w, e, none)
  else
    let w := w.withLayout (w.layout.observe chord)
    let typed := w.dispatcher.pending ++ [chord.normalized]
    let (w, found) := w.findAt typed e.target
    match found with
    | some (.begun b) =>
      let w := w.withPending typed
      (w.note (.matched (.begun b typed)), w.dispatcher.mark b.toBinding e, found)
    | some (.full b) =>
      let (w, e) := (w.withPending []).perform b.toBinding e
      (w.note (.matched (.full b)), e, found)
    | none => ((w.withPending []).note (.matched (.nothing typed)), e, none)

/-- The event at the element with the focus, unless it has a target. -/
def focusedEvent (w : Workbench) (e : KeyEvent) : KeyEvent :=
  { e with target := e.target <|> w.contexts.focused? w.root }

/-- Takes the key of a chord. -/
def pressChord (w : Workbench) (c : Chord) (target : Option ElementId) :
    Workbench × Option Match :=
  let (w, _, found) := w.press (w.focusedEvent { KeyEvent.ofChord c with target })
  (w, found)

/-- The bindings of a command, if it is known. -/
def bindingsOf (w : Workbench) (command : String) : List ScopedBinding :=
  if w.commands.isKnown command then w.dispatcher.bindingsFor command else []

/-- Types the first binding of a command, and tells whether there is one. -/
def typeCommand (w : Workbench) (command : String) (target : Option ElementId) :
    Workbench × Bool :=
  match (w.bindingsOf command).head?.bind fun b => w.resolve? b.toBinding with
  | none => (w, false)
  | some chords => (chords.foldl (fun w c => (w.pressChord c target).1) w, true)

end Shortcuts.Workbench
