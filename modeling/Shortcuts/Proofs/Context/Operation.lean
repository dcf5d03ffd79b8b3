import Shortcuts.Context.Lifecycle
import Shortcuts.Context.Lookup
import Shortcuts.Context.Store
import Shortcuts.Proofs.Run

/-!
What can be done to the trees of contexts from outside, one thing after the other, and what each
operation does to the regions and the arenas.
-/

namespace Shortcuts

namespace Contexts

inductive Operation where
  | newRoot (backed : Bool)
  | createChild (id : RegionId)
  | disposeContext (id : RegionId) (context : ContextId)
  | createScoped (id : RegionId) (target : ElementId)
  | updateParent (id above : RegionId)
  | dispose (id : RegionId)
  | set (id : RegionId) (key : String) (v : Json)
  | remove (id : RegionId) (key : String)
  | observe (id : RegionId) (name : String)
  /-- Other regions are held from outside. -/
  | hold (held : List RegionId)

/-- The contexts after an operation, and what observers are told during it. An operation that is
refused does nothing. -/
def apply (c : Contexts) : Operation → Contexts × List Notice
  | .newRoot backed => ((c.newRoot backed).1, [])
  | .createChild id =>
    match c.createChild id with
    | .ok r => (r.1, [])
    | .error _ => (c, [])
  | .disposeContext id context => (c.disposeContext id context, [])
  | .createScoped id target =>
    match c.createScoped id target with
    | .ok r => (r.1, [])
    | .error _ => (c, [])
  | .updateParent id above =>
    match c.updateParent id above with
    | .ok r => r
    | .error _ => (c, [])
  | .dispose id => (c.dispose id, [])
  | .set id key v => c.set id key v
  | .remove id key => c.remove id key
  | .observe id name => ((c.observe id name).1, [])
  | .hold held => ({ c with held }, [])

def run (c : Contexts) (ops : List Operation) : Contexts := ops.foldl (fun c op => (c.apply op).1) c

/-- No tree of contexts yet. -/
def start (settings : Settings) (elements : Elements) : Contexts := { settings, elements }

/-! ### Regions and arenas -/

variable {c : Contexts} {id : RegionId} {r : Region}

theorem region?_withRegion (c : Contexts) (id : RegionId) (f : Region → Region) (x : RegionId) :
    (c.withRegion id f).region? x = if x = id then (c.region? x).map f else c.region? x :=
  Table.lookup_modify id x f c.regions

theorem arena?_withArena {t : Nat} {a : Arena} (h : c.arena? t = some a) (b : Arena) (x : Nat) :
    (c.withArena t b).arena? x = if x = t then some b else c.arena? x := by
  obtain ⟨tree, htree, -⟩ := Option.map_eq_some_iff.mp h
  rw [arena?, withArena, Table.lookup_modify]
  split
  · next hx => rw [hx, htree]; rfl
  · rfl

/-- The emitter of a region is another one from now on. -/
def withChanges (c : Contexts) (id : RegionId) (changes : Pausing ChangeListener (List String)) :
    Contexts := c.withRegion id fun r => { r with changes }

def withFeed (c : Contexts) (id : RegionId) (feed : Option (RegionId × Nat)) : Contexts :=
  c.withRegion id fun r => { r with feed }

def withParent (c : Contexts) (id above : RegionId) : Contexts :=
  c.withRegion id fun r => { r with parent := some above }

/-- The region has ended and is below no other one. -/
def withEnd (c : Contexts) (id : RegionId) : Contexts :=
  c.withRegion id fun r => { r with disposed := true, feed := none, parent := none }

/-- Ends a subscription, if there is one. -/
def forget (c : Contexts) : Option (RegionId × Nat) → Contexts
  | some (old, token) => c.unsubscribe old token
  | none => c

theorem listenTo_eq {above : RegionId} {a : Region} (hr : c.region? id = some r)
    (ha : c.region? above = some a) :
    c.listenTo id above =
      ((c.withChanges above (a.changes.subscribe (.child id)).1).forget r.feed).withFeed id
        (some (above, a.changes.emitter.next)) := by
  obtain ⟨_, _, _, _, _, feed, _⟩ := r
  rw [listenTo, hr, ha]
  cases feed <;> rfl

theorem listenTo_of_absent {above : RegionId} (h : c.region? id = none ∨ c.region? above = none) :
    c.listenTo id above = c := by
  rw [listenTo]
  rcases h with h | h
  · rw [h]
  · rw [h]
    split
    · next hnone => cases hnone
    · rfl

theorem observe_eq (hr : c.region? id = some r) (name : String) :
    (c.observe id name).1 = c.withChanges id (r.changes.subscribe (.observer name)).1 := by
  rw [observe, hr]
  rfl

/-! ### Listening -/

/-- The region may differ in its listeners and in what it is fed by, no more. -/
def Retunes (f : Region → Region) : Prop := ∀ r, ∃ changes feed, f r = { r with changes, feed }

theorem retunes_changes (changes : Pausing ChangeListener (List String)) :
    Retunes fun r => { r with changes } := fun r => ⟨changes, r.feed, rfl⟩

theorem retunes_feed (feed : Option (RegionId × Nat)) : Retunes fun r => { r with feed } :=
  fun r => ⟨r.changes, feed, rfl⟩

section Listening

variable {P : Contexts → Prop} (h : ∀ c id f, Retunes f → P c → P (c.withRegion id f))

include h

theorem forget_induction (hc : P c) (feed : Option (RegionId × Nat)) : P (c.forget feed) := by
  cases feed with
  | none => exact hc
  | some feed => exact h c feed.1 _ (fun r => ⟨r.changes.unsubscribe feed.2, r.feed, rfl⟩) hc

theorem listenTo_induction (hc : P c) (id above : RegionId) : P (c.listenTo id above) := by
  cases hr : c.region? id with
  | none => rw [listenTo_of_absent (.inl hr)]; exact hc
  | some r =>
      cases ha : c.region? above with
      | none => rw [listenTo_of_absent (.inr ha)]; exact hc
      | some a =>
          rw [listenTo_eq hr ha]
          have habove := h c above _ (retunes_changes (a.changes.subscribe (.child id)).1) hc
          exact h _ id _ (retunes_feed _) (forget_induction h habove r.feed)

theorem observe_induction (hc : P c) (id : RegionId) (name : String) :
    P (c.observe id name).1 := by
  cases hr : c.region? id with
  | none => rw [observe, hr]; exact hc
  | some r => rw [observe_eq hr]; exact h c id _ (retunes_changes _) hc

end Listening

theorem held_listenTo (c : Contexts) (id above : RegionId) :
    (c.listenTo id above).held = c.held :=
  listenTo_induction (P := (·.held = c.held)) (fun _ _ _ _ hd => hd) rfl id above

/-! ### Announcing -/

/-- What holds while emitters are offered events holds behind an announcement. -/
theorem announce_offers {P : Contexts → Prop}
    (h : ∀ c id r keys, c.region? id = some r → P c →
      P (c.withChanges id (r.changes.offer keys).1)) (fuel : Nat)
    (id : RegionId) (keys : List String) (s : Contexts × List Notice) (hs : P s.1) :
    P (announce fuel id keys s).1 := by
  induction fuel generalizing id keys s with
  | zero => exact hs
  | succ fuel ih =>
      obtain ⟨c, told⟩ := s
      rw [announce]
      split
      · exact hs
      · next r hr =>
          refine kept_foldl (fun s : Contexts × List Notice => P s.1) (fun s keys hs => ?_)
            (h c id r keys hr hs) _
          refine kept_foldl (fun s : Contexts × List Notice => P s.1) (fun s l hs => ?_) hs _
          obtain ⟨c, told⟩ := s
          dsimp only
          split
          · exact hs
          · split
            · exact ih _ keys _ hs
            · exact hs

theorem fire_offers {P : Contexts → Prop}
    (h : ∀ c id r keys, c.region? id = some r → P c →
      P (c.withChanges id (r.changes.offer keys).1)) (hc : P c) (id : RegionId)
    (keys : List String) : P (c.fire id keys).1 := by
  rw [fire]
  split
  · exact hc
  · exact announce_offers h _ _ _ _ hc

theorem fire_induction {P : Contexts → Prop}
    (h : ∀ c id changes, P c → P (c.withChanges id changes)) (hc : P c) (id : RegionId)
    (keys : List String) : P (c.fire id keys).1 :=
  fire_offers (fun c id _ _ _ hc => h c id _ hc) hc id keys

/-! ### Operations that are accepted -/

theorem createChild_ok {context : ContextId} {d : Contexts}
    (h : c.createChild id = .ok (d, context)) :
    ∃ r a, c.region? id = some r ∧ r.disposed = false ∧ c.arena? r.tree = some a ∧
      d = c.withArena r.tree (a.createChild r.context).1 ∧
      context = (a.createChild r.context).2 := by
  rw [createChild] at h
  split at h
  · cases h
  · next r hr =>
      split at h
      · cases h
      · next hdisposed =>
          split at h
          · cases h
          · next a ha =>
              cases h
              exact ⟨r, a, hr, by simpa using hdisposed, ha, rfl, rfl⟩

/-- Settings and elements do not count for regions and arenas. -/
def withOutside (c : Contexts) (watchers : Emitter SettingsListener) (elements : Elements) :
    Contexts := { c with watchers, elements }

/-- Enters a new tree with nothing but a root. -/
def withTree (c : Contexts) (backed : Bool) : Contexts :=
  { c with trees := c.trees.put c.trees.length { arena := .new backed } }

/-- Enters a new region. -/
def withNew (c : Contexts) (elements : Elements) (r : Region) : Contexts :=
  { c with elements, regions := c.regions.put c.regions.length r }

theorem region?_withNew (c : Contexts) (elements : Elements) (r : Region) (x : RegionId) :
    (c.withNew elements r).region? x = if x = c.regions.length then some r else c.region? x := by
  rw [region?, withNew]
  dsimp only
  split
  · next hx => rw [hx, Table.lookup_put_self]
  · next hx => exact Table.lookup_put_of_ne hx r c.regions

/-- The region of a new context below that of another region. -/
def scopedRegion (id : RegionId) (r : Region) (context : ContextId) (target : ElementId) : Region :=
  { tree := r.tree, context, parent := some id, target := some target }

theorem createScoped_ok {target : ElementId} {d : Contexts} {below : RegionId}
    (h : c.createScoped id target = .ok (d, below)) :
    ∃ r a elements, c.region? id = some r ∧ r.disposed = false ∧ c.arena? r.tree = some a ∧
      below = c.regions.length ∧
      d = ((c.withArena r.tree (a.createChild r.context).1).withNew elements
        (scopedRegion id r (a.createChild r.context).2 target)).listenTo below id := by
  rw [createScoped] at h
  split at h
  · cases h
  · next e context hchild =>
      obtain ⟨r, a, hr, hdisposed, ha, rfl, rfl⟩ := createChild_ok hchild
      cases h
      refine ⟨r, a, c.elements.setAttribute target Elements.contextAttribute
        (toString (a.createChild r.context).2), hr, hdisposed, ha, rfl, ?_⟩
      have hregion : (c.withArena r.tree (a.createChild r.context).1).region? id = some r := hr
      rw [hregion]
      rfl

theorem newRoot_eq (c : Contexts) (backed : Bool) : ∃ watchers, (c.newRoot backed).1 =
    ((c.withOutside watchers c.elements).withTree backed).withNew c.elements
      { tree := c.trees.length, context := Arena.root } := by
  refine ⟨(c.newRoot backed).1.watchers, ?_⟩
  rfl

theorem dispose_eq {a : Arena} (hr : c.region? id = some r) (hdisposed : r.disposed = false)
    (ha : c.arena? r.tree = some a) : ∃ watchers elements, c.dispose id =
      (((c.forget r.feed).withOutside watchers elements).withArena r.tree
        (a.dispose r.context).1).withEnd id := by
  refine ⟨(c.dispose id).watchers, (c.dispose id).elements, ?_⟩
  obtain ⟨tree, context, _, target, _, feed, disposed⟩ := r
  subst hdisposed
  obtain ⟨t, ht, rfl⟩ := Option.map_eq_some_iff.mp ha
  cases feed <;> cases target <;>
    simp only [dispose, hr, Bool.false_eq_true, if_false, arena?, unsubscribe, withRegion, ht,
      Option.map_some] <;> rfl

theorem disposeContext_cases (c : Contexts) (id : RegionId) (context : ContextId) :
    c.disposeContext id context = c ∨ ∃ r a, c.region? id = some r ∧ r.disposed = false ∧
      c.arena? r.tree = some a ∧
      c.disposeContext id context = c.withArena r.tree (a.dispose context).1 := by
  rw [disposeContext]
  split
  · exact .inl rfl
  · next r hr =>
      split
      · exact .inl rfl
      · next hdisposed =>
          split
          · exact .inl rfl
          · next a ha => exact .inr ⟨r, a, hr, by simpa using hdisposed, ha, rfl⟩

/-- Changes the values of a region's context, and announces the key if that was a change. -/
def store (c : Contexts) (id : RegionId) (key : String) (f : Arena → ContextId → Arena × Bool) :
    Contexts × List Notice :=
  match c.region? id with
  | none => (c, [])
  | some r =>
    if r.disposed then (c, [])
    else match c.arena? r.tree with
      | none => (c, [])
      | some arena =>
        let (arena, changed) := f arena r.context
        let c := c.withArena r.tree arena
        if changed then c.fire id [key] else (c, [])

theorem set_eq_store (c : Contexts) (id : RegionId) (key : String) (v : Json) :
    c.set id key v = c.store id key fun a x => a.set x key v := rfl

theorem remove_eq_store (c : Contexts) (id : RegionId) (key : String) :
    c.remove id key = c.store id key fun a x => a.remove x key := rfl

theorem store_or (c : Contexts) (id : RegionId) (key : String)
    (f : Arena → ContextId → Arena × Bool) :
    c.store id key f = (c, []) ∨ ∃ r a, c.region? id = some r ∧ r.disposed = false ∧
      c.arena? r.tree = some a ∧ c.store id key f =
        if (f a r.context).2 then (c.withArena r.tree (f a r.context).1).fire id [key]
        else (c.withArena r.tree (f a r.context).1, []) := by
  rw [store]
  split
  · exact .inl rfl
  · next r hr =>
      split
      · exact .inl rfl
      · next hdisposed =>
          split
          · exact .inl rfl
          · next a ha => exact .inr ⟨r, a, hr, by simpa using hdisposed, ha, rfl⟩

theorem updateParent_ok {above : RegionId} {s : Contexts × List Notice}
    (h : c.updateParent id above = .ok s) :
    ∃ r ra a b, c.region? id = some r ∧ c.region? above = some ra ∧ r.disposed = false ∧
      r.context ≠ Arena.root ∧ r.tree = ra.tree ∧ c.arena? r.tree = some a ∧
      a.updateParent r.context ra.context = .ok b ∧
      s = (((c.withArena r.tree b).withParent id above).listenTo id above).fire id
        (differences (a.collect r.context) (b.collect r.context)) := by
  rw [updateParent] at h
  split at h
  · next r ra hr hra =>
      split at h
      · cases h
      · next hdisposed =>
          split at h
          · cases h
          · next hroot =>
              split at h
              · cases h
              · next htree =>
                  split at h
                  · cases h
                  · next a ha =>
                      split at h
                      · cases h
                      · next b hb =>
                          cases h
                          exact ⟨r, ra, a, b, hr, hra, by simpa using hdisposed, hroot,
                            Decidable.not_not.mp htree, ha, hb, rfl⟩
  · cases h

end Contexts

end Shortcuts
