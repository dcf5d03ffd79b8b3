import Shortcuts.Workbench.Dispatch

/-!
What goes on besides taking a key. Looking up chords and learning the layout leave all but the
layout and the known chords as it was; running a command leaves those as they were too.
-/

namespace Shortcuts

/-- The report about a key that an event is. -/
def Event.report? : Event → Option MatchReport
  | .matched r => some r
  | _ => none

namespace Workbench

/-- Contexts, layout and keymap may be others, and nothing was reported about a key. -/
structure Upkeep (w w' : Workbench) : Prop where
  root : w'.root = w.root
  commands : w'.commands = w.commands
  dispatcher : w'.dispatcher = { w.dispatcher with keymap := w'.dispatcher.keymap }
  log : ∃ more, w'.log = w.log ++ more ∧ more.filterMap Event.report? = []

theorem Upkeep.refl (w : Workbench) : w.Upkeep w := ⟨rfl, rfl, rfl, [], by simp, rfl⟩

theorem Upkeep.trans {a b c : Workbench} (h : a.Upkeep b) (h' : b.Upkeep c) : a.Upkeep c := by
  obtain ⟨more, hlog, hmore⟩ := h.log
  obtain ⟨more', hlog', hmore'⟩ := h'.log
  refine ⟨h'.root.trans h.root, h'.commands.trans h.commands, ?_, more ++ more', ?_, ?_⟩
  · rw [h'.dispatcher, h.dispatcher]
  · rw [hlog', hlog, List.append_assoc]
  · rw [List.filterMap_append, hmore, hmore', List.append_nil]

theorem upkeep_note (w : Workbench) {x : Event} (h : x.report? = none) : w.Upkeep (w.note x) :=
  ⟨rfl, rfl, rfl, [x], rfl, by rw [List.filterMap_cons_none h, List.filterMap_nil]⟩

theorem upkeep_withLayout (w : Workbench) (r : ActiveLayout × Bool) : w.Upkeep (w.withLayout r) := by
  rw [withLayout]
  split
  · refine .trans ?_ (upkeep_note _ rfl)
    refine .trans ?_ (upkeep_note _ rfl)
    exact ⟨rfl, rfl, rfl, [], by simp, rfl⟩
  · exact ⟨rfl, rfl, rfl, [], by simp, rfl⟩

/-- Contexts may be others, and nothing was reported about a key. -/
structure Beside (w w' : Workbench) : Prop extends w.Upkeep w' where
  layout : w'.layout = w.layout
  keymap : w'.dispatcher.keymap = w.dispatcher.keymap

theorem Beside.refl (w : Workbench) : w.Beside w := ⟨.refl w, rfl, rfl⟩

theorem Beside.trans {a b c : Workbench} (h : a.Beside b) (h' : b.Beside c) : a.Beside c :=
  ⟨h.toUpkeep.trans h'.toUpkeep, h'.layout.trans h.layout, h'.keymap.trans h.keymap⟩

theorem beside_note (w : Workbench) {x : Event} (h : x.report? = none) : w.Beside (w.note x) :=
  ⟨upkeep_note w h, rfl, rfl⟩

theorem beside_withContexts (w : Workbench) (r : Contexts × List Notice) :
    w.Beside (w.withContexts r) := by
  refine ⟨⟨rfl, rfl, rfl, r.2.map Event.notice, rfl, ?_⟩, rfl, rfl⟩
  rw [List.filterMap_map, List.filterMap_eq_nil_iff]
  exact fun n _ => rfl

theorem beside_noteEnabled (w : Workbench) (target : Option ElementId) (b : Binding) :
    w.Beside (w.noteEnabled target b) := by
  rw [noteEnabled]
  split
  · exact ⟨⟨rfl, rfl, rfl, [], by simp, rfl⟩, rfl, rfl⟩
  · exact .refl w

theorem beside_findAt (w : Workbench) (typed : List Chord) (target : Option ElementId) :
    w.resolved.Beside (w.findAt typed target).1 := by
  have hfold (seen : List Match) (v : Workbench) :
      v.Beside (seen.foldl (fun v m => v.noteEnabled target m.binding.toBinding) v) := by
    induction seen generalizing v with
    | nil => exact .refl v
    | cons m seen ih => exact (beside_noteEnabled v target _).trans (ih _)
  exact hfold _ _

theorem upkeep_findAt (w : Workbench) (typed : List Chord) (target : Option ElementId) :
    w.Upkeep (w.findAt typed target).1 := by
  have hresolved : w.Upkeep w.resolved := ⟨rfl, rfl, rfl, [], by simp [resolved], rfl⟩
  exact hresolved.trans (beside_findAt w typed target).toUpkeep

theorem beside_storeKey (w : Workbench) (region : RegionId) (args : Option Json) :
    w.Beside (w.storeKey region args).1 := by
  rw [storeKey]
  split
  · exact .refl w
  · split
    · exact .refl w
    · split
      · exact .refl w
      · exact beside_withContexts w _

theorem beside_beginRoutine (w : Workbench) (r : Routine) (args : Option Json) :
    w.Beside (w.beginRoutine r args) := by
  have hnote : w.Beside (w.note (.handled r.name args)) := beside_note w rfl
  rw [beginRoutine]
  split
  · exact hnote.trans (beside_withContexts _ _)
  · exact hnote

theorem beside_performRoutine {again : Workbench → String → Workbench × Except CommandError Json}
    (hagain : ∀ (w : Workbench) id, w.Beside (again w id).1) (w : Workbench) (r : Routine)
    (args : Option Json) : w.Beside (performRoutine again w r args).1 := by
  have hbegin := beside_beginRoutine w r args
  rw [performRoutine]
  split
  · exact hbegin
  · next id _ =>
      have hnext := hbegin.trans (hagain _ id)
      split
      · next h => rw [h] at hnext; exact hnext
      · next h => rw [h] at hnext; exact hnext

theorem beside_executeWithin (fuel : Nat) (w : Workbench) (id : String) (args : Option Json) :
    w.Beside (executeWithin fuel w id args).1 := by
  induction fuel generalizing w id with
  | zero => exact .refl w
  | succ fuel ih =>
      rw [executeWithin]
      split
      · exact .refl w
      · next h _ =>
          have hroutine (r : Routine) := beside_performRoutine (fun w id => ih w id) w r args
          dsimp only
          cases h.action with
          | storeKey region =>
              have hstore := beside_storeKey w region args
              split
              · exact hstore.trans (beside_note _ rfl)
              · exact hstore
          | routine r =>
              split
              · exact (hroutine r).trans (beside_note _ rfl)
              · exact hroutine r

theorem beside_execute (w : Workbench) (id : String) (args : Option Json) :
    w.Beside (w.execute id args).1 := beside_executeWithin _ w id args

end Workbench

end Shortcuts
