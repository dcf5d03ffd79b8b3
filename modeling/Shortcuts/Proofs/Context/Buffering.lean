import Mathlib.Data.List.Induction
import Shortcuts.Proofs.Context.Access
import Shortcuts.Proofs.Context.Announcement
import Shortcuts.Proofs.Emitter.Holding

/-!
Regions that hold their announcements back. Every emitter of a region is what some operations made
of a new one, so what holds of all pausing emitters holds of it. Changes of values that are made
while it is paused come out as one announcement of the distinct keys.
-/

namespace Shortcuts

/-! ### Distinct texts -/

theorem distinct_concat (ks : List String) (k : String) :
    distinct (ks ++ [k]) = if k ∈ distinct ks then distinct ks else distinct ks ++ [k] := by
  simp [distinct, List.foldl_append]

@[simp] theorem mem_distinct {k : String} {ks : List String} : k ∈ distinct ks ↔ k ∈ ks := by
  induction ks using List.reverseRecOn with
  | nil => rfl
  | append_singleton ks l ih =>
      rw [distinct_concat]
      split
      · next hl =>
          rw [ih, List.mem_append, List.mem_singleton]
          refine (or_iff_left_of_imp ?_).symm
          rintro rfl
          exact ih.mp hl
      · simp [ih]

/-- The texts stand in order of their first places, each one once. -/
theorem distinct_ordered (ks : List String) :
    (distinct ks).Pairwise fun k l => ks.idxOf k < ks.idxOf l := by
  induction ks using List.reverseRecOn with
  | nil => exact .nil
  | append_singleton ks l ih =>
      have hold : (distinct ks).Pairwise fun j k => (ks ++ [l]).idxOf j < (ks ++ [l]).idxOf k := by
        refine ih.imp_of_mem fun hj hk hlt => ?_
        rwa [List.idxOf_append_of_mem (mem_distinct.mp hj),
          List.idxOf_append_of_mem (mem_distinct.mp hk)]
      rw [distinct_concat]
      split
      · exact hold
      · next hl =>
          refine List.pairwise_append.mpr ⟨hold, List.pairwise_singleton _ _, fun j hj k hk => ?_⟩
          have hj := mem_distinct.mp hj
          cases List.mem_singleton.mp hk
          rw [List.idxOf_append_of_mem hj, List.idxOf_append_of_notMem (mt mem_distinct.mpr hl)]
          exact Nat.lt_add_right _ (List.idxOf_lt_length_iff.mpr hj)

/-! ### Writing -/

/-- Gives a key a value or takes its value away, and tells whether that is a change. -/
def Arena.write (a : Arena) (id : ContextId) : String × Option Json → Arena × Bool
  | (key, some v) => a.set id key v
  | (key, none) => a.remove id key

/-- The arena after some values are changed, and the keys of those that are other values. -/
def Arena.writeAll (a : Arena) (id : ContextId) : List (String × Option Json) → Arena × List String
  | [] => (a, [])
  | w :: ws =>
    let (b, changed) := a.write id w
    let (b, keys) := b.writeAll id ws
    (b, if changed then w.1 :: keys else keys)

namespace Contexts

variable {c d : Contexts} {id x : RegionId} {r : Region} {a : Arena} {keys : List String}

def write (c : Contexts) (id : RegionId) : String × Option Json → Contexts × List Notice
  | (key, some v) => c.set id key v
  | (key, none) => c.remove id key

def writeAll (id : RegionId) : List (String × Option Json) → Contexts → Contexts × List Notice
  | [], c => (c, [])
  | w :: ws, c =>
    let (d, told) := c.write id w
    let (d, more) := writeAll id ws d
    (d, told ++ more)

/-- Does something while the changes of a region are held back. -/
def buffered (c : Contexts) (id : RegionId) (f : Contexts → Contexts × List Notice) :
    Contexts × List Notice :=
  let (d, told) := f (c.pause id)
  let (d, more) := d.resume id
  (d, told ++ more)

theorem write_eq_store (c : Contexts) (id : RegionId) (w : String × Option Json) :
    c.write id w = c.store id w.1 fun a x => a.write x w := by
  obtain ⟨key, v⟩ := w
  cases v <;> rfl

theorem grown_write (hg : c.Grown) (id : RegionId) (w : String × Option Json) :
    (c.write id w).1.Grown := by
  obtain ⟨key, v⟩ := w
  cases v with
  | none => exact hg.of_step (hg.step (.remove id key))
  | some v => exact hg.of_step (hg.step (.set id key v))

/-! ### While a region is paused -/

theorem withChanges_withChanges (c : Contexts) (id : RegionId)
    (p q : Pausing ChangeListener (List String)) :
    (c.withChanges id p).withChanges id q = c.withChanges id q := by
  rw [withChanges, withChanges, withChanges, withRegion, withRegion, withRegion,
    Table.modify_modify]
  rfl

theorem region?_withChanges (hr : c.region? id = some r)
    (changes : Pausing ChangeListener (List String)) :
    (c.withChanges id changes).region? id = some { r with changes } := by
  rw [withChanges, region?_withRegion, if_pos rfl, hr]
  rfl

theorem pause_eq (hg : c.Grown) (hr : c.region? id = some r) :
    c.pause id = c.withChanges id r.changes.pause := by
  calc c.pause id = (c.withChanges id r.changes).pause id := by rw [withChanges_self hg hr]
    _ = c.withChanges id r.changes.pause := by
      rw [pause, withRegion, withChanges, withRegion, Table.modify_modify]
      rfl

theorem fire_of_paused (hr : c.region? id = some r) (h : 0 < r.changes.depth) (hkeys : keys ≠ []) :
    c.fire id keys =
      (c.withChanges id { r.changes with queue := r.changes.queue ++ [keys] }, []) := by
  have hpaused : r.changes.isPaused = true := decide_eq_true h
  have hempty : ¬ keys.isEmpty = true := by simpa using hkeys
  rw [fire, if_neg hempty, announce]
  simp only [hr, Pausing.offer_of_paused hpaused]
  rfl

theorem write_of_paused (hg : c.Grown) (hr : c.region? id = some r) (hlives : r.disposed = false)
    (ha : c.arena? r.tree = some a) (h : 0 < r.changes.depth) (w : String × Option Json) :
    c.write id w = ((c.withArena r.tree (a.write r.context w).1).withChanges id { r.changes with
      queue := r.changes.queue ++ if (a.write r.context w).2 then [[w.1]] else [] }, []) := by
  have hself : (c.withArena r.tree (a.write r.context w).1).withChanges id r.changes =
      c.withArena r.tree (a.write r.context w).1 :=
    congrArg (withArena · r.tree (a.write r.context w).1) (withChanges_self hg hr)
  rw [write_eq_store, store]
  simp only [hr, hlives, ha, Bool.false_eq_true, if_false]
  cases (a.write r.context w).2 with
  | true =>
      exact fire_of_paused (c := c.withArena r.tree (a.write r.context w).1) hr h
        (List.cons_ne_nil _ _)
  | false =>
      simp only [Bool.false_eq_true, if_false, List.append_nil]
      rw [hself]

theorem writeAll_of_paused (hg : c.Grown) (hr : c.region? id = some r)
    (hlives : r.disposed = false) (ha : c.arena? r.tree = some a) (h : 0 < r.changes.depth)
    (ws : List (String × Option Json)) : writeAll id ws c =
      ((c.withArena r.tree (a.writeAll r.context ws).1).withChanges id { r.changes with
        queue := r.changes.queue ++ (a.writeAll r.context ws).2.map fun key => [key] }, []) := by
  induction ws generalizing c r a with
  | nil =>
      rw [writeAll, Arena.writeAll, List.map_nil, List.append_nil, withArena_self hg ha]
      rw [withChanges_self hg hr]
  | cons w ws ih =>
      have hgrown := grown_write hg id w
      rw [write_of_paused hg hr hlives ha h w] at hgrown
      have hregion := region?_withChanges (c := c.withArena r.tree (a.write r.context w).1) hr
        { r.changes with
          queue := r.changes.queue ++ if (a.write r.context w).2 then [[w.1]] else [] }
      have harena := arena?_withArena ha (a.write r.context w).1 r.tree
      rw [if_pos rfl] at harena
      rw [writeAll, write_of_paused hg hr hlives ha h w]
      simp only
      rw [ih hgrown hregion hlives harena h]
      refine Prod.ext ?_ rfl
      have hkeys : (r.changes.queue ++ if (a.write r.context w).2 then [[w.1]] else []) ++
          ((a.write r.context w).1.writeAll r.context ws).2.map (fun key => [key]) =
            r.changes.queue ++ (a.writeAll r.context (w :: ws)).2.map fun key => [key] := by
        rw [Arena.writeAll, List.append_assoc]
        obtain ⟨b, _ | _⟩ := a.write r.context w <;> rfl
      simp only
      rw [hkeys]
      exact (withChanges_withChanges _ id _ _).trans
        (congrArg (withChanges · id _) (withArena_withArena c r.tree _ _))

theorem resume_of_paused (hr : c.region? id = some r) (h : r.changes.depth ≤ 1) :
    c.resume id =
      let d := c.withChanges id { r.changes with depth := 0, queue := [] }
      if r.changes.queue = [] then (d, []) else d.fire id (distinct r.changes.queue.flatten) := by
  rw [resume]
  simp only [hr, Pausing.resume_of_outermost _ h]
  split
  · next hnone =>
      rw [hnone]
      rfl
  · next hsome =>
      rw [Pausing.released_some _ hsome]
      rfl

theorem resume_of_held (hr : c.region? id = some r) (hself : c.withChanges id r.changes = c)
    (hidle : r.changes.depth = 0) (hflushed : r.changes.queue = []) (queue : List (List String)) :
    (c.withChanges id { r.changes.pause with queue }).resume id =
      if queue = [] then (c, []) else c.fire id (distinct queue.flatten) := by
  have hdepth : r.changes.depth + 1 ≤ 1 := by omega
  have hemptied : ({ r.changes.pause with depth := 0, queue := [] } :
      Pausing ChangeListener (List String)) = r.changes := by
    rw [← hidle, ← hflushed]
    rfl
  rw [resume_of_paused (region?_withChanges hr _) hdepth]
  simp only [withChanges_withChanges]
  rw [hemptied, hself]

/-- What is changed while announcements are held back comes to one announcement of the distinct
keys. -/
theorem buffered_writeAll (hg : c.Grown) (hr : c.region? id = some r) (hlives : r.disposed = false)
    (ha : c.arena? r.tree = some a) (hidle : r.changes.depth = 0) (hflushed : r.changes.queue = [])
    (ws : List (String × Option Json)) : c.buffered id (writeAll id ws) =
      if (a.writeAll r.context ws).2 = [] then (c.withArena r.tree (a.writeAll r.context ws).1, [])
      else (c.withArena r.tree (a.writeAll r.context ws).1).fire id
        (distinct (a.writeAll r.context ws).2) := by
  have hpaused := writeAll_of_paused (hg.withChanges id r.changes.pause)
    (region?_withChanges hr r.changes.pause) hlives ha (Nat.succ_pos _) ws
  dsimp only at hpaused
  generalize a.writeAll r.context ws = s at hpaused
  obtain ⟨b, keys⟩ := s
  have hself : (c.withArena r.tree b).withChanges id r.changes = c.withArena r.tree b :=
    congrArg (withArena · r.tree b) (withChanges_self hg hr)
  have hheld : writeAll id ws (c.pause id) = ((c.withArena r.tree b).withChanges id
      { r.changes.pause with queue := keys.map fun key => [key] }, []) := by
    rw [pause_eq hg hr, hpaused]
    have hfused := withChanges_withChanges (c.withArena r.tree b) id r.changes.pause
    refine Prod.ext ((hfused _).trans ?_) rfl
    simp [Pausing.pause, hflushed]
  have hkeys : (keys.map fun key => [key]).flatten = keys := by
    rw [← List.flatMap_def, List.flatMap_singleton']
  have hresume := resume_of_held (c := c.withArena r.tree b) hr hself hidle hflushed
    (keys.map fun key => [key])
  simp only [hkeys, List.map_eq_nil_iff] at hresume
  rw [buffered, hheld]
  simp only [hresume]
  rfl

/-! ### Emitters of regions -/

/-- What the events that a region held back come to. -/
def joined : Option (List (List String) → List String) := some fun events => distinct events.flatten

def AreReached (c : Contexts) : Prop := ∀ x, (c.changesOf x).Reached joined

namespace AreReached

theorem congr (hc : c.AreReached) (h : ∀ x, d.changesOf x = c.changesOf x) : d.AreReached :=
  fun x => h x ▸ hc x

theorem withChanges (hc : c.AreReached) (hr : c.region? id = some r)
    (op : Pausing.Operation ChangeListener (List String)) :
    (c.withChanges id (r.changes.apply joined op).1).AreReached := by
  intro x
  rw [changesOf_withChanges hr]
  split
  · exact (changesOf_of_region? hr ▸ hc id).apply op
  · exact hc x

theorem forget (hc : c.AreReached) (feed : Option (RegionId × Nat)) :
    (c.forget feed).AreReached := by
  intro x
  rw [changesOf_forget]
  split
  · next old token =>
      split
      · exact (hc x).apply (.unsubscribe token)
      · exact hc x
  · exact hc x

theorem listenTo (hc : c.AreReached) (id above : RegionId) : (c.listenTo id above).AreReached := by
  cases hr : c.region? id with
  | none =>
      rw [listenTo_of_absent (.inl hr)]
      exact hc
  | some r =>
      cases ha : c.region? above with
      | none =>
          rw [listenTo_of_absent (.inr ha)]
          exact hc
      | some a =>
          have habove : (c.withChanges above (a.changes.subscribe (.child id)).1).AreReached :=
            hc.withChanges ha (.subscribe (.child id))
          exact (habove.forget (c.feedOf id)).congr (changesOf_listenTo hr ha)

theorem fire (hc : c.AreReached) (id : RegionId) (keys : List String) :
    (c.fire id keys).1.AreReached :=
  fire_offers (fun _ _ _ keys hr hd => hd.withChanges hr (.fire keys)) hc id keys

theorem pause (hc : c.AreReached) (id : RegionId) : (c.pause id).AreReached := by
  intro x
  rw [changesOf, Contexts.pause, region?_withRegion]
  split
  · cases hr : c.region? x with
    | none => exact .new
    | some r => exact (changesOf_of_region? hr ▸ hc x).apply .pause
  · exact hc x

theorem resume (hc : c.AreReached) (id : RegionId) : (c.resume id).1.AreReached := by
  rw [Contexts.resume]
  split
  · exact hc
  · next r hr =>
      refine kept_foldl (fun s : Contexts × List Notice => AreReached s.1) (fun s keys hs => ?_) ?_ _
      · exact hs.fire id keys
      · exact hc.withChanges hr .resume

theorem of_step {op : Operation} {s : Contexts × List Notice} (hc : c.AreReached) (hg : c.Grown)
    (h : Step c op s) : s.1.AreReached := by
  cases h with
  | refused | child | gone | held => exact hc
  | newRoot backed =>
      obtain ⟨watchers, heq⟩ := newRoot_eq c backed
      have hsame := (samePlaces_withOutside c watchers c.elements).toSameSites
      rw [heq]
      exact hc.congr (changesOf_withNew ((hg.congr hsame).withTree backed) _ rfl)
  | @entered above target _ hs =>
      obtain ⟨r, a, elements, hr, -, ha, -, heq⟩ := createScoped_ok hs
      have hnew := hc.congr (changesOf_withNew (hg.child hr ha) elements
        (r := scopedRegion above r (a.createChild r.context).2 target) rfl)
      rw [heq]
      exact hnew.listenTo _ above
  | @moved x above _ hs =>
      obtain ⟨r, ra, a, b, -, -, -, -, -, -, -, rfl⟩ := updateParent_ok hs
      have hmoved := hc.congr (changesOf_withParent (c.withArena r.tree b) x above)
      exact (hmoved.listenTo x above).fire x _
  | @ended x r a watchers elements hr ha =>
      have hforgot := hc.forget r.feed
      exact hforgot.congr (changesOf_withEnd _ x)
  | @written _ x key f r a =>
      have hwritten : (c.withArena r.tree (a.withValues r.context f)).AreReached := hc
      exact hwritten.fire x [key]
  | observed x name =>
      cases hr : c.region? x with
      | none =>
          rw [observe, hr]
          exact hc
      | some r =>
          rw [observe_eq hr]
          exact hc.withChanges hr (.subscribe (.observer name))

theorem access (hc : c.AreReached) (hg : c.Grown) (x : Access) : (c.access x).AreReached := by
  cases x with
  | operate op => exact hc.of_step hg (hg.step op)
  | edit e =>
      rcases edit_cases c e with ⟨change, -, heq⟩ | ⟨-, heq⟩
      · rw [Contexts.access, heq]
        exact tellSettings_induction (fun _ _ _ hd _ => hd)
          (fun _ _ _ keys hr hd => hd.withChanges hr (.fire keys)) hc
      · rw [Contexts.access, heq]
        exact hc
  | watch | arrange => exact hc
  | pause id => exact hc.pause id
  | resume id => exact hc.resume id
  | focus id target =>
      rcases focus_cases c id target with heq | ⟨t, heq⟩
      · rw [Contexts.access, heq]
        exact hc
      · rw [Contexts.access, heq]
        exact hc
  | read r =>
      refine read_induction (fun d t context keys hd => ?_) hc r
      rcases noteLookups_cases d t context keys with heq | ⟨a, x, ha, heq⟩
      · rw [heq]
        exact hd
      · rw [heq]
        exact hd

end AreReached

theorem accessed_reached (settings : Settings) (elements : Elements) (xs : List Access) :
    ((start settings elements).accessed xs).AreReached := by
  have hstart : (start settings elements).Grown ∧ (start settings elements).AreReached :=
    ⟨grown_start settings elements, fun _ => .new⟩
  exact (kept_foldl (fun c : Contexts => c.Grown ∧ c.AreReached)
    (fun c x hc => ⟨hc.1.access x, hc.2.access hc.1 x⟩) hstart xs).2

open Pausing in
/-- Pauses lose no event, double none, and put none into another place. Of an emitter without a way
to merge events, a listener is told what was fired, but for what is in the queue. With one, the end
of the outermost pause tells what was fired since its beginning as one event, if there was any. A
region merges the keys it held back to the distinct ones. -/
theorem held_back_in_order :
    (∀ {L E : Type} (merge : Option (List E → E)) (ops : List (Pausing.Operation L E)),
      let p := (Pausing.run merge {} ops).1
      p.depth = level ops ∧
      (∀ op, 0 < level (ops ++ [op]) → (p.apply merge op).2 = []) ∧
      (level ops = 0 → p.queue = [] ∧ p.resume merge = (p, []) ∧
        ∀ event, p.offer event = (p, [event])) ∧
      (level ops = 1 → ∃ before inner, ops = before ++ .pause :: inner ∧ level before = 0 ∧
        (∀ part, part <+: inner → 0 < level (before ++ .pause :: part)) ∧
        (p.resume merge).2 = released merge (fired inner)) ∧
      ∀ l ∈ p.emitter.listeners, (∀ events, heard l.1 (p.deliveries events) = events) ∧
        ∀ more, .unsubscribe l.1 ∉ more → merge = none →
          heard l.1 (p.run merge more).2 ++ (p.run merge more).1.queue = p.queue ++ fired more) ∧
    -- scenes are such emitters as long as their listeners do no more than listen
    (∀ s : Scene, s.IsQuiet →
      (∀ event, s.fire event = { s with
        pausing := (s.pausing.offer event).1
        log := s.log ++ Scene.entries (s.pausing.deliveries (s.pausing.offer event).2) }) ∧
      (s.kind ≠ .plain → s.resume = { s with
        pausing := (s.pausing.resume (Scene.merge? s.kind)).1
        log := s.log ++
          Scene.entries (s.pausing.deliveries (s.pausing.resume (Scene.merge? s.kind)).2) })) ∧
    (∀ ks, (∀ k, k ∈ distinct ks ↔ k ∈ ks) ∧
      (distinct ks).Pairwise fun k l => ks.idxOf k < ks.idxOf l) ∧
    ∀ (settings : Settings) (elements : Elements) (xs : List Access) (id : RegionId) (r : Region),
      let c := (start settings elements).accessed xs
      c.region? id = some r →
        r.changes.Reached joined ∧
        (0 < r.changes.depth → ∀ keys, keys ≠ [] → c.fire id keys =
          (c.withChanges id { r.changes with queue := r.changes.queue ++ [keys] }, [])) ∧
        (r.changes.depth = 1 → c.resume id =
          let d := c.withChanges id { r.changes with depth := 0, queue := [] }
          if r.changes.queue = [] then (d, [])
          else d.fire id (distinct r.changes.queue.flatten)) ∧
        (r.changes.depth = 0 → r.disposed = false → ∀ a, c.arena? r.tree = some a → ∀ ws,
          c.buffered id (writeAll id ws) =
            let (b, keys) := a.writeAll r.context ws
            if keys = [] then (c.withArena r.tree b, [])
            else (c.withArena r.tree b).fire id (distinct keys)) := by
  refine ⟨fun merge ops => ?_, fun s hs => ⟨Scene.fire_quiet hs, Scene.resume_quiet hs⟩,
    fun ks => ⟨fun _ => mem_distinct, distinct_ordered ks⟩, ?_⟩
  · intro p
    have hsound : p.Sound := Sound.new.run merge ops
    have hdepth : p.depth = level ops := depth_run merge ops
    refine ⟨hdepth, fun op hop => ?_, fun hclosed => ?_, fun houter => ?_, fun l hl => ?_⟩
    · rw [level_concat, ← hdepth] at hop
      exact (apply_of_open merge hop).1
    · rw [← hdepth] at hclosed
      have hqueue := hsound.flushed hclosed
      refine ⟨hqueue, ?_, offer_of_not_paused (decide_eq_false (by omega))⟩
      rw [resume_of_outermost merge (by omega), hqueue, released_nil, ← hclosed, ← hqueue]
    · have hlevel : 0 < level ops := by omega
      obtain ⟨before, inner, hops, hbefore, hopen, hqueue⟩ := queue_run merge hlevel
      refine ⟨before, inner, hops, hbefore, hopen, ?_⟩
      rw [resume_of_outermost merge (by omega), ← hqueue]
    · refine ⟨heard_deliveries hsound.numbered hl, fun more hmore hmerge => ?_⟩
      rw [hmerge]
      exact heard_run hsound hl hmore
  · intro settings elements xs id r c hr
    have hgrown : c.Grown := (grown_start settings elements).accessed xs
    have hreached : r.changes.Reached joined :=
      changesOf_of_region? hr ▸ accessed_reached settings elements xs id
    refine ⟨hreached, fun h keys => fire_of_paused hr h, fun h => resume_of_paused hr (by omega),
      fun hidle hlives a ha ws => ?_⟩
    exact buffered_writeAll hgrown hr hlives ha hidle (hreached.sound.flushed hidle) ws

/-- A key that is changed twice is told once, in its first place. -/
theorem held_back_in_order_twice :
    let c := (start {} {}).accessed [.operate (.newRoot false), .operate (.observe 0 "o")]
    (c.buffered 0 (writeAll 0 [("x", some (.bool true)), ("y", some (.bool true)),
      ("x", none)])).2 = [.context "o" ["x", "y"]] := by
  intro c
  obtain ⟨-, -, -, hbuffered⟩ := held_back_in_order.2.2.2 {} {}
    [.operate (.newRoot false), .operate (.observe 0 "o")] 0 _ rfl
  rw [hbuffered rfl rfl _ rfl]
  decide +kernel

end Contexts

end Shortcuts
