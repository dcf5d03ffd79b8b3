import Shortcuts.Proofs.Dispatch.Press
import Shortcuts.Proofs.Keymap.Order
import Shortcuts.Proofs.Layout.Step
import Shortcuts.Proofs.Workbench.Operation

/-!
All that operations do to the bindings of a workbench is to edit its keymap, one edit after the
other. What outlasts an edit and a change of detection outlasts every operation that does not
replace the layout silently.
-/

namespace Shortcuts

/-- An operation of a keymap takes chords from nowhere else. -/
def Keymap.Operation.LooksUp (resolve : Binding → Option (List Chord)) : Keymap.Operation → Prop
  | insert _ b chords => chords = resolve b
  | resolveAll look | resolveTier look _ => look = resolve
  | remove _ _ | removeWhere _ _ | clear _ | clearResolved => True

namespace Workbench

def edit (w : Workbench) (op : Keymap.Operation) : Workbench :=
  w.withKeymap (w.dispatcher.keymap.apply op)

structure SameBindings (w w' : Workbench) : Prop where
  layout : w'.layout = w.layout
  keymap : w'.dispatcher.keymap = w.dispatcher.keymap
  platform : w'.dispatcher.platform = w.dispatcher.platform

/-- What holds of a workbench whatever operations do to it that are not silent. -/
structure Robust (P : Workbench → Prop) : Prop where
  edit : ∀ {w : Workbench} (op : Keymap.Operation), op.LooksUp w.resolve? → P w → P (w.edit op)
  other : ∀ {w w' : Workbench}, P w → w.SameBindings w' → P w'
  detection : ∀ {w : Workbench} {r : Detection × Option NativeLayout},
    r.1.platform = w.layout.detection.platform → P w → P (w.withDetection r)
  quiet : ∀ {w : Workbench} {d : Detection},
    d.platform = w.layout.detection.platform → P w → P (w.withQuietDetection d)

namespace Robust

variable {P : Workbench → Prop} (hP : Robust P) {w : Workbench}

include hP

theorem beside {w' : Workbench} (hb : w.Beside w') (h : P w) : P w' :=
  hP.other h ⟨hb.layout, hb.keymap, by rw [hb.dispatcher]⟩

theorem heard (e : KeyEvent) (h : P w) : P (w.heard e) := by
  rw [Workbench.heard, ActiveLayout.observe]
  split
  · next o _ => exact hP.detection (Detection.platform_apply _ (.observe o)) h
  · exact h

theorem lasting : Lasting P where
  beside := hP.beside
  note _ h := hP.other h ⟨rfl, rfl, rfl⟩
  withPending _ h := hP.other h ⟨rfl, rfl, rfl⟩
  resolved {w} h := hP.edit (.resolveAll w.resolve?) rfl h
  heard := hP.heard

theorem insert (s : Scope) (b : Binding) (h : P w) : P (w.insert s b).1 := by
  rw [Workbench.insert]
  split
  · exact h
  · next hb => exact hP.edit (.insert s b _) hb.symm h

theorem bind (b : Binding) (h : P w) : P (w.bind b).1 := by
  have hinsert := hP.insert .base b h
  rw [Workbench.bind]
  split
  · next hr => rwa [hr] at hinsert
  · next hr => rwa [hr] at hinsert

theorem bindAll (bs : List Binding) (h : P w) : P (w.bindAll bs).1 := by
  rw [Workbench.bindAll]
  exact List.foldlRecOn (motive := fun r : Workbench × List (Disposable Registration) => P r.1)
    bs _ h fun r hr b _ => hP.bind b hr

theorem undo (r : Registration) (h : P w) : P (w.undo r) := by
  cases r with
  | command id handler => exact hP.other h ⟨rfl, rfl, rfl⟩
  | handler id number => exact hP.other h ⟨rfl, rfl, rfl⟩
  | binding s number => exact hP.edit (.remove s number) trivial h

theorem release (d : Disposable Registration) (h : P w) : P (w.release d) :=
  List.foldlRecOn (motive := P) _ _ h fun _ hv r _ => hP.undo r hv

theorem resetScope (s : Scope) (h : P w) :
    P { w with dispatcher := w.dispatcher.resetScope s } := by
  rw [Dispatcher.resetScope]
  split
  · next ids _ =>
      have hremoved := List.foldlRecOn (motive := fun m => P (w.withKeymap m)) ids
        (fun m id => (m.remove s id).1) h
        fun m hm id _ => hP.edit (w := w.withKeymap m) (.remove s id) trivial hm
      exact hP.other hremoved ⟨rfl, rfl, rfl⟩
  · exact h

theorem resetAll (h : P w) : P { w with dispatcher := w.dispatcher.resetAll } := by
  have huser := hP.edit (.clear .user) trivial h
  exact hP.other (hP.edit (.clear .workspace) trivial huser) ⟨rfl, rfl, rfl⟩

theorem setKeymap (s : Scope) (bs : List Binding) (h : P w) : P (w.setKeymap s bs) := by
  rw [Workbench.setKeymap]
  have hreset : P ({ w with dispatcher := w.dispatcher.resetScope s }, ([] : List Nat)).1 :=
    hP.resetScope s h
  have hinserted := List.foldlRecOn (motive := fun r : Workbench × List Nat => P r.1) bs
    (fun r b => ((r.1.insert s b).1, r.2 ++ (r.1.insert s b).2.toList)) hreset
    fun r hr b _ => hP.insert s b hr
  exact hP.other hinserted ⟨rfl, rfl, rfl⟩

theorem addContext (id : String) (enables : Binding → Bool) (h : P w) :
    P { w with dispatcher := (w.dispatcher.addContext id enables).1 } := by
  rw [Dispatcher.addContext]
  split
  · exact h
  · exact hP.other h ⟨rfl, rfl, rfl⟩

theorem collisions (s : Scope) (typed : List Chord) (h : P w) : P (w.collisions s typed).1 :=
  hP.edit (.resolveTier w.resolve? s) rfl h

theorem collidesIn (b : Binding) (s : Scope) (h : P w) : P (w.collidesIn b s).1 := by
  rw [Workbench.collidesIn]
  split
  · exact h
  · next chords _ => exact hP.collisions s chords h

theorem apply {op : Operation} (hop : op.isSilent = false) (h : P w) : P (w.apply op) := by
  cases op with
  | bind b => exact hP.bind b h
  | bindAll bs => exact hP.bindAll bs h
  | release d => exact hP.release d h
  | unbind test => exact hP.edit (.removeWhere .base test) trivial h
  | setKeymap s bs => exact hP.setKeymap s bs h
  | resetScope s => exact hP.resetScope s h
  | resetAll => exact hP.resetAll h
  | addContext id enables => exact hP.addContext id enables h
  | collisions s typed => exact hP.collisions s typed h
  | collidesIn b s => exact hP.collidesIn b s h
  | find typed => exact hP.lasting.resolved h
  | press e => exact hP.lasting.press e h
  | pressChord c target => exact hP.lasting.press _ h
  | typeCommand command target => exact hP.lasting.typeCommand command target h
  | choose l => exact hP.detection (Detection.platform_apply _ (.choose l)) h
  | unchoose => exact hP.detection (Detection.platform_apply _ .unchoose) h
  | addLayout l => exact hP.quiet (Detection.platform_apply _ (.addLayout l)) h
  | addBuiltin id =>
      rw [Workbench.apply]
      split
      · next hd => exact hP.quiet (by rw [Detection.addBuiltin_eq hd]) h
      · exact h
  | observe o => exact hP.detection (Detection.platform_apply _ (.observe o)) h
  | refresh => exact hP.quiet (Detection.platform_apply _ .refresh) h
  | nativeChanged => exact hP.detection (Detection.platform_apply _ .nativeChanged) h
  | setNative native => exact hP.quiet rfl h
  | start => cases hop
  | adopt n => cases hop
  | serve contexts commands => exact hP.other h ⟨rfl, rfl, rfl⟩

end Robust

theorem dispatcher_apply_of_isSilent {op : Operation} (h : op.isSilent = true) (w : Workbench) :
    (w.apply op).dispatcher = w.dispatcher := by
  cases op with
  | start => rfl
  | adopt n => rfl
  | _ => cases h

end Workbench

end Shortcuts
