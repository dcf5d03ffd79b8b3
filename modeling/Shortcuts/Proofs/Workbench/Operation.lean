import Shortcuts.Proofs.Outcome
import Shortcuts.Workbench.Start

/-!
What a workbench is set up with, and what can be done to it from outside, one thing after the other.
-/

namespace Shortcuts

inductive Operation where
  | bind (b : Binding)
  | bindAll (bs : List Binding)
  /-- Undoes registrations of bindings or commands. -/
  | release (d : Disposable Workbench.Registration)
  | unbind (test : Binding → Bool)
  | setKeymap (s : Scope) (bs : List Binding)
  | resetScope (s : Scope)
  | resetAll
  | addContext (id : String) (enables : Binding → Bool)
  | collisions (s : Scope) (typed : List Chord)
  | collidesIn (b : Binding) (s : Scope)
  | find (typed : List Chord)
  | press (e : KeyEvent)
  | pressChord (c : Chord) (target : Option ElementId)
  | typeCommand (command : String) (target : Option ElementId)
  | choose (l : Layout)
  | unchoose
  | addLayout (l : Layout)
  | addBuiltin (id : String)
  /-- A key was seen to produce something. -/
  | observe (o : Observation)
  /-- Detection is asked for the layout. -/
  | refresh
  | nativeChanged
  /-- The system answers otherwise from now on when it is asked for its layout. -/
  | setNative (native : Option (Except LayoutError NativeLayout))
  /-- The layout starts to be followed. -/
  | start
  /-- The keys of a layout are taken over by hand. -/
  | adopt (n : NativeLayout)
  /-- Anything is done to the contexts and the commands. -/
  | serve (contexts : Contexts) (commands : Commands Action)

namespace Workbench

theorem registerStore_eq {w w' : Workbench} {region : RegionId} {d : Disposable Registration}
    (h : w.registerStore region = .ok (w', d)) : w' = { w with commands := w'.commands } := by
  rw [registerStore] at h
  split at h
  · cases h
  · cases h
    rfl

/-- Candidates are added, and one may be chosen. Commands come on top of that. -/
theorem ofPreferences_eq {p : Preferences} {env : Locale.Environment} {storage : Option Storage}
    {w : Workbench} (h : ofPreferences p env storage = .ok w) :
    ∃ d d', addCandidates (.start p.effectivePlatform (p.effectiveLocale env) none storage)
        p.layout.candidates = .ok d ∧
      (match p.layout.choice with
        | some id => (BuiltinLayout.load id).map fun l => (d.choose l).1
        | none => .ok d) = .ok d' ∧
      w = { assemble false d' true (dispatcherOf p) with commands := w.commands } := by
  rw [ofPreferences] at h
  obtain ⟨d, hd, h⟩ := of_bind_eq_ok h
  generalize p.layout.choice = choice at h ⊢
  dsimp only at h
  split at h
  all_goals
    obtain ⟨d', hd', h⟩ := of_bind_eq_ok h
    refine ⟨d, d', hd, hd', ?_⟩
    split at h
    · next hstore =>
        cases h
        exact registerStore_eq hstore
    · cases h
      rfl

def withKeymap (w : Workbench) (keymap : Keymap) : Workbench :=
  { w with dispatcher := { w.dispatcher with keymap } }

/-- Goes on with another state of detection that announces nothing. -/
def withQuietDetection (w : Workbench) (d : Detection) : Workbench :=
  { w with layout := { w.layout with detection := d } }

def apply (w : Workbench) : Operation → Workbench
  | .bind b => (w.bind b).1
  | .bindAll bs => (w.bindAll bs).1
  | .release d => w.release d
  | .unbind test => w.withKeymap (w.dispatcher.keymap.removeWhere .base test).1
  | .setKeymap s bs => w.setKeymap s bs
  | .resetScope s => { w with dispatcher := w.dispatcher.resetScope s }
  | .resetAll => { w with dispatcher := w.dispatcher.resetAll }
  | .addContext id enables => { w with dispatcher := (w.dispatcher.addContext id enables).1 }
  | .collisions s typed => (w.collisions s typed).1
  | .collidesIn b s => (w.collidesIn b s).1
  | .find typed => (w.find typed).1
  | .press e => (w.press e).1
  | .pressChord c target => (w.pressChord c target).1
  | .typeCommand command target => (w.typeCommand command target).1
  | .choose l => w.withDetection (w.layout.detection.choose l)
  | .unchoose =>
    w.withDetection (w.layout.detection.unchoose.1, w.layout.detection.unchoose.2.1)
  | .addLayout l => w.withQuietDetection (w.layout.detection.addLayout l)
  | .addBuiltin id =>
    match w.layout.detection.addBuiltin id with
    | .ok d => w.withQuietDetection d
    | .error _ => w
  | .observe o => w.withDetection (w.layout.detection.observe o)
  | .refresh => w.withQuietDetection w.layout.detection.refresh
  | .nativeChanged =>
    w.withDetection (w.layout.detection.nativeChanged.1, some w.layout.detection.nativeChanged.2)
  | .setNative native => w.withQuietDetection { w.layout.detection with native }
  | .start => { w with layout := w.layout.start }
  | .adopt n => { w with layout := w.layout.adopt n }
  | .serve contexts commands => { w with contexts, commands }

def run (w : Workbench) (ops : List Operation) : Workbench := ops.foldl apply w

theorem run_append (w : Workbench) (ops ops' : List Operation) :
    w.run (ops ++ ops') = (w.run ops).run ops' := List.foldl_append

end Workbench

namespace Operation

/-- An operation replaces the layout in use without telling anyone. -/
def isSilent : Operation → Bool
  | start | adopt _ => true
  | _ => false

/-- An operation may change which bindings there are, or what keybinding contexts enable. -/
def rebinds : Operation → Bool
  | bind _ | bindAll _ | release _ | unbind _ | setKeymap _ _ | resetScope _ | resetAll
  | addContext _ _ => true
  | _ => false

end Operation

end Shortcuts
