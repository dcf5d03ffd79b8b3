import Shortcuts.Context.Lifecycle
import Shortcuts.Preferences
import Shortcuts.Workbench.Dispatch

/-! Setting up a workbench. -/

namespace Shortcuts.Workbench

/-- A workbench over a state of detection, with a root context that the settings may back. The
layout is followed from the start or not. -/
def assemble (backed : Bool) (detection : Detection) (follow : Bool) (dispatcher : Dispatcher) :
    Workbench :=
  let (contexts, root) := Contexts.newRoot {} backed
  let layout : ActiveLayout := { detection }
  { contexts := { contexts with held := [root] }
    root
    layout := if follow then layout.start else layout
    dispatcher := { dispatcher with contexts := Dispatcher.builtinContexts } }

/-- Makes the command known that stores values in the context of a region. -/
def registerStore (w : Workbench) (region : RegionId) :
    Except CommandError (Workbench × Disposable Registration) :=
  match w.commands.register storeCommand (some { action := .storeKey region }) with
  | .error e => .error e
  | .ok (commands, handler) => .ok ({ w with commands }, .one (.command storeCommand.id handler))

/-- Adds candidates by their identifiers. -/
def addCandidates (d : Detection) (ids : List String) : Except LayoutError Detection :=
  ids.foldlM Detection.addBuiltin d

/-- The dispatcher that the preferences ask for. -/
def dispatcherOf (p : Preferences) : Dispatcher :=
  { platform := p.effectivePlatform
    preventDefault := p.preventDefault
    stopPropagation := p.stopPropagation
    labels := ⟨p.effectivePlatform, p.label.style, p.label.separator⟩ }

/-- The workbench that the preferences ask for. -/
def ofPreferences (p : Preferences) (e : Locale.Environment) (storage : Option Storage) :
    Except LayoutError Workbench := do
  let d := Detection.start p.effectivePlatform (p.effectiveLocale e) none storage
  let d ← addCandidates d p.layout.candidates
  let d ← match p.layout.choice with
    | some id => (BuiltinLayout.load id).map fun l => (d.choose l).1
    | none => .ok d
  let w := assemble false d true (dispatcherOf p)
  match w.registerStore w.root with
  | .ok (w, _) => .ok w
  | .error _ => .ok w

/-- The message for a layout that keeps a workbench from being set up. -/
def layoutMessage (e : LayoutError) : String := "Layout error: " ++ e.message

/-- Replaces the keymap of a tier by the bindings of a file, and counts those. -/
def loadKeymap (w : Workbench) (s : Scope) (name : String) (text : Option String) :
    Except FileError (Workbench × Nat) :=
  (Keymap.ofFile name text).map fun bs => (w.setKeymap s bs, bs.length)

end Shortcuts.Workbench
