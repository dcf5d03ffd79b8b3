import Shortcuts.Proofs.Context.Forest
import Shortcuts.Proofs.Context.Sites

/-!
How trees of contexts grow. Regions and trees are numbered as they come, and no context has a
parent that is not there yet, so a new context is never above another one. What an operation may
come to is said once, by the steps.
-/

namespace Shortcuts

namespace Contexts

/-! ### Growth -/

structure Grown (c : Contexts) : Prop where
  trees : c.trees.IsCounted
  regions : c.regions.IsCounted
  placed : ∀ {id t x}, c.site? id = some (t, x) → ∃ a, c.arena? t = some a ∧ x ≤ a.lastId
  parent_le : ∀ {t a x p}, c.arena? t = some a → a.parent? x = some p → p ≤ a.lastId

/-- What an operation may make of an arena: parents are contexts that are there by then. -/
structure ArenaGrows (a b : Arena) : Prop where
  lastId : a.lastId ≤ b.lastId
  parent_le : ∀ {x p}, b.parent? x = some p → p ≤ b.lastId

variable {c d : Contexts} {id : RegionId} {r : Region} {t : Nat} {a b : Arena}

theorem Grown.congr (hc : c.Grown) (h : SameSites c d) : d.Grown where
  trees := by rw [h.trees]; exact hc.trees
  regions := h.counted hc.regions
  placed hsite := by
    rw [h.site?] at hsite
    rw [arena?_congr h.trees]
    exact hc.placed hsite
  parent_le ha := by
    rw [arena?_congr h.trees] at ha
    exact hc.parent_le ha

theorem Grown.withArena (hc : c.Grown) (ha : c.arena? t = some a) (hab : ArenaGrows a b) :
    (c.withArena t b).Grown where
  trees := hc.trees.modify t fun tree => { tree with arena := b }
  regions := hc.regions
  placed hsite := by
    obtain ⟨a', ha', hle⟩ := hc.placed hsite
    rw [arena?_withArena ha]
    split
    · next ht =>
        rw [ht, ha] at ha'
        cases ha'
        exact ⟨b, rfl, Nat.le_trans hle hab.lastId⟩
    · exact ⟨a', ha', hle⟩
  parent_le ha' := by
    rw [arena?_withArena ha] at ha'
    split at ha'
    · cases ha'
      exact hab.parent_le
    · exact hc.parent_le ha'

theorem Grown.withNew (hc : c.Grown) (elements : Elements) (ha : c.arena? r.tree = some a)
    (hle : r.context ≤ a.lastId) : (c.withNew elements r).Grown where
  trees := hc.trees
  regions := hc.regions.put r
  placed hsite := by
    rw [site?_withNew] at hsite
    split at hsite
    · cases hsite
      exact ⟨a, ha, hle⟩
    · exact hc.placed hsite
  parent_le := hc.parent_le

theorem arenaGrows_createChild {x : ContextId} (hx : x ≤ a.lastId)
    (hle : ∀ {y p}, a.parent? y = some p → p ≤ a.lastId) : ArenaGrows a (a.createChild x).1 where
  lastId := Nat.le_succ _
  parent_le {y p} hp := by
    rw [Arena.parent?_createChild] at hp
    split at hp
    · cases hp
      exact Nat.le_succ_of_le hx
    · exact Nat.le_succ_of_le (hle hp)

theorem lastId_updateParent {x y : ContextId} (h : a.updateParent x y = .ok b) :
    b.lastId = a.lastId := by
  obtain ⟨-, -, -, rfl⟩ := Arena.updateParent_ok h
  rfl

theorem arenaGrows_updateParent {x y : ContextId} (h : a.updateParent x y = .ok b)
    (hy : y ≤ a.lastId) (hle : ∀ {z p}, a.parent? z = some p → p ≤ a.lastId) :
    ArenaGrows a b where
  lastId := Nat.le_of_eq (lastId_updateParent h).symm
  parent_le {z p} hp := by
    rw [Arena.parent?_updateParent h] at hp
    rw [lastId_updateParent h]
    split at hp
    · cases hp
      exact hy
    · exact hle hp

/-- Values do not count for the growth of an arena, nor does the loss of a context. -/
theorem arenaGrows_of_parents (hlast : b.lastId = a.lastId)
    (hle : ∀ {y p}, a.parent? y = some p → p ≤ a.lastId)
    (hsub : ∀ y p, b.parent? y = some p → a.parent? y = some p) : ArenaGrows a b where
  lastId := Nat.le_of_eq hlast.symm
  parent_le hp := hlast ▸ hle (hsub _ _ hp)

theorem arenaGrows_dispose (x : ContextId)
    (hle : ∀ {y p}, a.parent? y = some p → p ≤ a.lastId) : ArenaGrows a (a.dispose x).1 := by
  refine arenaGrows_of_parents ?_ hle fun _ _ => Arena.parent?_dispose
  rw [Arena.dispose]
  split <;> rfl

theorem arenaGrows_withValues (x : ContextId) (f : Fields Json → Fields Json)
    (hle : ∀ {y p}, a.parent? y = some p → p ≤ a.lastId) : ArenaGrows a (a.withValues x f) :=
  arenaGrows_of_parents rfl hle fun y _ hp => (Arena.parent?_withValues a x f y).symm.trans hp

theorem Grown.context_le (hc : c.Grown) (hr : c.region? id = some r)
    (ha : c.arena? r.tree = some a) : r.context ≤ a.lastId := by
  obtain ⟨a', ha', hle⟩ := hc.placed (site?_of_region? hr)
  rw [ha] at ha'
  cases ha'
  exact hle

theorem arena?_withTree (c : Contexts) (backed : Bool) (x : Nat) :
    (c.withTree backed).arena? x =
      if x = c.trees.length then some (.new backed) else c.arena? x := by
  rw [arena?, withTree]
  dsimp only
  split
  · next hx => rw [hx, Table.lookup_put_self]; rfl
  · next hx => rw [Table.lookup_put_of_ne hx]; rfl

theorem Grown.ne_length (hc : c.Grown) (ha : c.arena? t = some a) : t ≠ c.trees.length := by
  obtain ⟨tree, htree, -⟩ := Option.map_eq_some_iff.mp ha
  exact Nat.ne_of_lt (hc.trees.lt htree)

theorem Grown.ne_new {s : Nat × ContextId} (hc : c.Grown) (h : c.site? id = some s) :
    id ≠ c.regions.length := by
  obtain ⟨r, hr, -⟩ := Option.map_eq_some_iff.mp h
  exact Nat.ne_of_lt (hc.regions.lt hr)

theorem Grown.withTree (hc : c.Grown) (backed : Bool) : (c.withTree backed).Grown where
  trees := hc.trees.put { arena := .new backed }
  regions := hc.regions
  placed hsite := by
    obtain ⟨a, ha, hle⟩ := hc.placed hsite
    rw [arena?_withTree, if_neg (hc.ne_length ha)]
    exact ⟨a, ha, hle⟩
  parent_le ha hp := by
    rw [arena?_withTree] at ha
    split at ha
    · cases ha
      rw [Arena.parent?_new] at hp
      cases hp
    · exact hc.parent_le ha hp

theorem withArena_withArena (c : Contexts) (t : Nat) (a b : Arena) :
    (c.withArena t a).withArena t b = c.withArena t b := by
  rw [withArena, withArena, withArena, Table.modify_modify]
  rfl

theorem withArena_self (hc : c.Grown) (ha : c.arena? t = some a) : c.withArena t a = c := by
  obtain ⟨tree, htree, rfl⟩ := Option.map_eq_some_iff.mp ha
  rw [Contexts.withArena, hc.trees.modify_self htree rfl]

/-! ### Steps -/

/-- Operations that change the values of a region's context. -/
inductive Operation.Writes : Operation → RegionId → String → (Fields Json → Fields Json) → Prop
  | set (id : RegionId) (key : String) (v : Json) :
      Writes (.set id key v) id key (Fields.insert key v)
  | remove (id : RegionId) (key : String) : Writes (.remove id key) id key (Fields.erase key)

theorem Operation.Writes.sorted {op : Operation} {key : String} {f : Fields Json → Fields Json}
    (h : op.Writes id key f) (m : Fields Json) (hm : m.IsSorted) : (f m).IsSorted := by
  cases h with
  | set => exact hm.insert _ _
  | remove => exact hm.erase _

theorem Operation.Writes.lookup {op : Operation} {key k : String} {f : Fields Json → Fields Json}
    (h : op.Writes id key f) (hk : k ≠ key) (m : Fields Json) : (f m).lookup k = m.lookup k := by
  cases h with
  | set => exact Fields.lookup_insert_of_ne hk _ m
  | remove => exact Fields.lookup_erase_of_ne hk m

/-- What an operation may come to. -/
inductive Step (c : Contexts) : Operation → Contexts × List Notice → Prop
  | refused {op : Operation}
      (h : ∀ id above s, op = .updateParent id above → c.updateParent id above ≠ .ok s) :
      Step c op (c, [])
  | newRoot (backed : Bool) : Step c (.newRoot backed) ((c.newRoot backed).1, [])
  | child {id : RegionId} {r : Region} {a : Arena} (hr : c.region? id = some r)
      (ha : c.arena? r.tree = some a) :
      Step c (.createChild id) (c.withArena r.tree (a.createChild r.context).1, [])
  | gone {id : RegionId} {context : ContextId} {t : Nat} {a : Arena} (ha : c.arena? t = some a) :
      Step c (.disposeContext id context) (c.withArena t (a.dispose context).1, [])
  | entered {id : RegionId} {target : ElementId} {s : Contexts × RegionId}
      (h : c.createScoped id target = .ok s) : Step c (.createScoped id target) (s.1, [])
  | moved {id above : RegionId} {s : Contexts × List Notice}
      (h : c.updateParent id above = .ok s) : Step c (.updateParent id above) s
  | ended {id : RegionId} {r : Region} {a : Arena} (watchers : Emitter SettingsListener)
      (elements : Elements) (hr : c.region? id = some r) (ha : c.arena? r.tree = some a) :
      Step c (.dispose id) ((((c.forget r.feed).withOutside watchers elements).withArena r.tree
        (a.dispose r.context).1).withEnd id, [])
  | written {op : Operation} {id : RegionId} {key : String} {f : Fields Json → Fields Json}
      {r : Region} {a : Arena} (hop : op.Writes id key f) (hr : c.region? id = some r)
      (hdisposed : r.disposed = false) (ha : c.arena? r.tree = some a) :
      Step c op ((c.withArena r.tree (a.withValues r.context f)).fire id [key])
  | observed (id : RegionId) (name : String) :
      Step c (.observe id name) ((c.observe id name).1, [])
  | held (held : List RegionId) : Step c (.hold held) ({ c with held }, [])

namespace Grown

theorem step_store {op : Operation} {key : String} {f : Arena → ContextId → Arena × Bool}
    {g : Fields Json → Fields Json} (hc : c.Grown) (hop : op.Writes id key g)
    (hf : ∀ a x, f a x = (a, false) ∨ f a x = (a.withValues x g, true)) :
    Step c op (c.store id key f) := by
  have hrefused : ∀ id above s, op = .updateParent id above → c.updateParent id above ≠ .ok s := by
    rintro id above s rfl
    cases hop
  rcases store_or c id key f with heq | ⟨r, a, hr, hdisposed, ha, heq⟩
  · rw [heq]
    exact .refused hrefused
  · rw [heq]
    rcases hf a r.context with hfa | hfa
    · rw [hfa, withArena_self hc ha]
      exact .refused hrefused
    · rw [hfa]
      exact .written hop hr hdisposed ha

theorem step_dispose (hc : c.Grown) (id : RegionId) : Step c (.dispose id) (c.dispose id, []) := by
  cases hdisposed : c.isDisposed id with
  | true =>
      rw [dispose_of_disposed hdisposed]
      refine .refused ?_
      rintro _ _ _ ⟨⟩
  | false =>
      obtain ⟨r, hr, hlives⟩ := exists_region_of_lives hdisposed
      obtain ⟨a, ha, -⟩ := hc.placed (site?_of_region? hr)
      obtain ⟨watchers, elements, heq⟩ := dispose_eq hr hlives ha
      rw [heq]
      exact .ended watchers elements hr ha

theorem step (hc : c.Grown) (op : Operation) : Step c op (c.apply op) := by
  cases op with
  | newRoot backed => exact .newRoot backed
  | createChild id =>
      rw [Contexts.apply]
      split
      · next s hs =>
          obtain ⟨r, a, hr, -, ha, heq, -⟩ := createChild_ok hs
          rw [heq]
          exact .child hr ha
      · exact .refused nofun
  | disposeContext id context =>
      rw [Contexts.apply]
      rcases disposeContext_cases c id context with heq | ⟨r, a, -, -, ha, heq⟩
      · rw [heq]
        exact .refused nofun
      · rw [heq]
        exact .gone ha
  | createScoped id target =>
      rw [Contexts.apply]
      split
      · next s hs => exact .entered hs
      · exact .refused nofun
  | updateParent id above =>
      rw [Contexts.apply]
      split
      · next s hs => exact .moved hs
      · next e hs =>
          refine .refused ?_
          rintro id above s ⟨⟩ hok
          rw [hs] at hok
          cases hok
  | dispose id => exact hc.step_dispose id
  | set id key v =>
      rw [Contexts.apply, set_eq_store]
      exact hc.step_store (.set id key v) fun a x => a.set_eq x key v
  | remove id key =>
      rw [Contexts.apply, remove_eq_store]
      exact hc.step_store (.remove id key) fun a x => a.remove_eq x key
  | observe id name => exact .observed id name
  | hold held => exact .held held

theorem newRoot (hc : c.Grown) (backed : Bool) : (c.newRoot backed).1.Grown := by
  obtain ⟨watchers, heq⟩ := newRoot_eq c backed
  rw [heq]
  have hout := hc.congr (samePlaces_withOutside c watchers c.elements).toSameSites
  refine (hout.withTree backed).withNew c.elements (a := .new backed) ?_ (Nat.le_refl _)
  rw [arena?_withTree]
  exact if_pos rfl

theorem child (hc : c.Grown) (hr : c.region? id = some r) (ha : c.arena? r.tree = some a) :
    (c.withArena r.tree (a.createChild r.context).1).Grown :=
  hc.withArena ha (arenaGrows_createChild (hc.context_le hr ha) (hc.parent_le ha))

theorem createScoped {target : ElementId} {below : RegionId} (hc : c.Grown)
    (h : c.createScoped id target = .ok (d, below)) : d.Grown := by
  obtain ⟨r, a, elements, hr, -, ha, -, rfl⟩ := createScoped_ok h
  refine ((hc.child hr ha).withNew elements (a := (a.createChild r.context).1) ?_
    (Nat.le_refl _)).congr (samePlaces_listenTo _ _ _).toSameSites
  rw [arena?_withArena ha]
  exact if_pos rfl

theorem moved {above : RegionId} {ra : Region} (hc : c.Grown) (hra : c.region? above = some ra)
    (htree : r.tree = ra.tree) (ha : c.arena? r.tree = some a)
    (hb : a.updateParent r.context ra.context = .ok b) :
    (((c.withArena r.tree b).withParent id above).listenTo id above).Grown := by
  have hle := hc.context_le hra (htree ▸ ha)
  have hmoved := hc.withArena ha (arenaGrows_updateParent hb hle (hc.parent_le ha))
  refine (hmoved.congr ?_).congr (samePlaces_listenTo _ _ _).toSameSites
  exact sameSites_withRegion _ id fun _ => rfl

theorem ended {feed : Option (RegionId × Nat)} (hc : c.Grown) (ha : c.arena? t = some a)
    (watchers : Emitter SettingsListener) (elements : Elements) (x : ContextId) (id : RegionId) :
    ((((c.forget feed).withOutside watchers elements).withArena t (a.dispose x).1).withEnd
      id).Grown := by
  have hsame := (samePlaces_forget c feed).trans (samePlaces_withOutside _ watchers elements)
  have hgone := (hc.congr hsame.toSameSites).withArena ((arena?_congr hsame.trees t).trans ha)
    (arenaGrows_dispose x (hc.parent_le ha))
  exact hgone.congr (sameSites_withRegion _ id fun _ => rfl)

theorem of_step {op : Operation} {s : Contexts × List Notice} (hc : c.Grown) (h : Step c op s) :
    s.1.Grown := by
  cases h with
  | refused => exact hc
  | newRoot backed => exact hc.newRoot backed
  | child hr ha => exact hc.child hr ha
  | gone ha => exact hc.withArena ha (arenaGrows_dispose _ (hc.parent_le ha))
  | entered h => exact hc.createScoped h
  | moved h =>
      obtain ⟨r, ra, a, b, -, hra, -, -, htree, ha, hb, rfl⟩ := updateParent_ok h
      exact (hc.moved hra htree ha hb).congr (samePlaces_fire _ _ _).toSameSites
  | ended watchers elements _ ha => exact hc.ended ha watchers elements _ _
  | written _ _ _ ha =>
      exact (hc.withArena ha (arenaGrows_withValues _ _ (hc.parent_le ha))).congr
        (samePlaces_fire _ _ _).toSameSites
  | observed id name => exact hc.congr (samePlaces_observe c id name).toSameSites
  | held => exact hc.congr (sameSites_of_eq rfl rfl)

end Grown

/-- Where the context of a region is does not change. -/
theorem site?_of_step {op : Operation} {s : Contexts × List Notice} (hc : c.Grown)
    (hstep : Step c op s) {site : Nat × ContextId} (h : c.site? id = some site) :
    s.1.site? id = some site := by
  cases hstep with
  | refused | child | gone | held => exact h
  | newRoot backed =>
      obtain ⟨watchers, heq⟩ := newRoot_eq c backed
      rw [heq, site?_withNew]
      exact (if_neg (hc.ne_new h)).trans h
  | entered hs =>
      obtain ⟨r, a, elements, -, -, -, -, heq⟩ := createScoped_ok hs
      rw [heq, (samePlaces_listenTo _ _ _).site?, site?_withNew]
      exact (if_neg (hc.ne_new h)).trans h
  | @moved y above _ hs =>
      obtain ⟨r, ra, a, b, -, -, -, -, -, -, -, rfl⟩ := updateParent_ok hs
      rw [(samePlaces_fire _ _ _).site?, (samePlaces_listenTo _ _ _).site?]
      exact (site?_withParent _ y above id).trans h
  | @ended y r a watchers elements hr ha =>
      exact (site?_withEnd _ y id).trans (((samePlaces_forget c r.feed).site? id).trans h)
  | written => exact ((samePlaces_fire _ _ _).site? id).trans h
  | observed y name => exact ((samePlaces_observe c y name).site? id).trans h

theorem grown_start (settings : Settings) (elements : Elements) :
    (start settings elements).Grown where
  trees := rfl
  regions := rfl
  placed h := by cases h
  parent_le h := by cases h

end Contexts

end Shortcuts
