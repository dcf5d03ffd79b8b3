import Shortcuts.Layout.Detection

/-!
What can be done to detection, one thing after the other. Whoever follows the announcements knows
the keys of the current layout, unless detection was asked for the layout and found another one.
-/

namespace Shortcuts.Detection

inductive Operation where
  | choose (l : Layout)
  | unchoose
  | addLayout (l : Layout)
  | addBuiltin (id : String)
  /-- A key was seen to produce something. -/
  | observe (o : Observation)
  /-- Detection is asked for the layout. -/
  | refresh
  | nativeChanged
  /-- The system answers otherwise from now on when it is asked for its layout. -/
  | setNative (native : Option (Except LayoutError NativeLayout))
  /-- Time goes on. -/
  | setTime (now : String)

/-- The next state, and the keys that are announced with it. -/
def apply (d : Detection) : Operation → Detection × Option NativeLayout
  | .choose l => d.choose l
  | .unchoose => (d.unchoose.1, d.unchoose.2.1)
  | .addLayout l => (d.addLayout l, none)
  | .addBuiltin id =>
    match d.addBuiltin id with
    | .ok d => (d, none)
    | .error _ => (d, none)
  | .observe o => d.observe o
  | .refresh => (d.refresh, none)
  | .nativeChanged => (d.nativeChanged.1, some d.nativeChanged.2)
  | .setNative native => ({ d with native }, none)
  | .setTime now => ({ d with now }, none)

def run (d : Detection) (ops : List Operation) : Detection :=
  ops.foldl (fun d op => (d.apply op).1) d

theorem run_append (d : Detection) (ops ops' : List Operation) :
    d.run (ops ++ ops') = (d.run ops).run ops' := List.foldl_append

/-- Storing changes nothing but what is stored. -/
theorem save_eq (d : Detection) : d.save = { d with storage := d.save.storage } := by
  rw [save]
  split
  · rfl
  · split <;> rfl

theorem use_eq (d : Detection) (l : Layout) (source : LayoutSource) :
    d.use l source = { d with current := l, source, storage := (d.use l source).storage } :=
  save_eq _

theorem current_use (d : Detection) (l : Layout) (source : LayoutSource) :
    (d.use l source).current = l := by
  rw [use_eq]

theorem addLayout_eq (d : Detection) (l : Layout) :
    d.addLayout l = { d with scores := (d.addLayout l).scores } := by
  rw [addLayout]
  split <;> rfl

theorem addBuiltin_eq {d d' : Detection} {id : String} (h : d.addBuiltin id = .ok d') :
    d' = { d with scores := d'.scores } := by
  rw [addBuiltin] at h
  split at h
  · cases h
    rfl
  · cases hl : BuiltinLayout.load id with
    | error e => rw [hl] at h; cases h
    | ok l =>
        rw [hl] at h
        rw [← Except.ok.inj h]
        exact addLayout_eq d l

/-- The keys of the current layout are announced, or it is not replaced. -/
def Announces (d : Detection) (r : Detection × Option NativeLayout) : Prop :=
  r.2 = some r.1.current.native ∨ r.2 = none ∧ r.1.current = d.current

theorem announces_use (d d' : Detection) (l : Layout) (source : LayoutSource) :
    d.Announces (d'.use l source, some l.native) :=
  .inl (by rw [current_use])

theorem announces_choose (d : Detection) (l : Layout) : d.Announces (d.choose l) := by
  rw [choose]
  split
  · exact .inr ⟨rfl, rfl⟩
  · exact announces_use d d l .choice

theorem announces_unchoose (d : Detection) : d.Announces (d.unchoose.1, d.unchoose.2.1) := by
  rw [unchoose]
  split
  · exact announces_use d _ _ _
  · exact .inr ⟨rfl, rfl⟩

theorem announces_observe (d : Detection) (o : Observation) : d.Announces (d.observe o) := by
  rw [observe]
  split
  · exact .inr ⟨rfl, rfl⟩
  · split
    · exact .inr ⟨rfl, rfl⟩
    · dsimp only
      split
      · exact .inr ⟨rfl, rfl⟩
      · exact announces_use d _ _ _

theorem announces_addBuiltin (d : Detection) (id : String) :
    d.Announces (d.apply (.addBuiltin id)) := by
  rw [apply]
  split
  · next h => exact .inr ⟨rfl, by rw [addBuiltin_eq h]⟩
  · exact .inr ⟨rfl, rfl⟩

theorem announces_apply {op : Operation} (hop : op ≠ .refresh) (d : Detection) :
    d.Announces (d.apply op) := by
  cases op with
  | choose l => exact announces_choose d l
  | unchoose => exact announces_unchoose d
  | addLayout l => exact .inr ⟨rfl, by rw [apply, addLayout_eq]⟩
  | addBuiltin id => exact announces_addBuiltin d id
  | observe o => exact announces_observe d o
  | refresh => exact absurd rfl hop
  | nativeChanged => exact .inl rfl
  | setNative native => exact .inr ⟨rfl, rfl⟩
  | setTime now => exact .inr ⟨rfl, rfl⟩

end Shortcuts.Detection
