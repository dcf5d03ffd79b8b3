import Shortcuts.Proofs.Context.Announcement
import Shortcuts.Proofs.Context.Placement

/-!
Regions as they are used: contexts come and go with their regions, no settings stand behind them,
and no region is put below itself. However such regions were created, moved, filled and ended,
the way up through them is the one through their contexts, and each listens to the one above it.
-/

namespace Shortcuts

namespace Contexts

variable {c d : Contexts} {id : RegionId} {r : Region} {a b : Arena}

def Allows (c : Contexts) : Operation → Prop
  | .newRoot backed => backed = false
  | .createChild _ => False
  | .disposeContext _ _ => False
  | op => ¬ c.ClosesLoop op

inductive Reachable : Contexts → Prop
  | start (settings : Settings) (elements : Elements) : Reachable (start settings elements)
  | step {c : Contexts} {op : Operation} (h : Reachable c) (hop : c.Allows op) :
      Reachable (c.apply op).1

structure Sound (c : Contexts) : Prop where
  grown : c.Grown
  forests : c.AreForests
  settled : c.Settled
  linked : c.Linked

/-! ### Operations -/

namespace Sound

theorem acyclic (hc : c.Sound) : Acyclic c.parentOf := hc.settled.acyclic hc.grown hc.forests

theorem fire_fst (hc : c.Sound) (id : RegionId) (keys : List String) : (c.fire id keys).1 = c := by
  rw [fire_eq hc.grown hc.linked.toAreIdle]

theorem newRoot (hc : c.Sound) : (c.newRoot false).1.Sound where
  grown := hc.grown.newRoot false
  forests := hc.forests.newRoot false
  settled := hc.settled.newRoot hc.grown
  linked := by
    obtain ⟨watchers, heq⟩ := newRoot_eq c false
    have hgrown := hc.grown.congr (samePlaces_withOutside c watchers c.elements).toSameSites
    have hlinked : ((c.withOutside watchers c.elements).withTree false).Linked :=
      hc.linked.congr (fun _ => rfl) (fun _ => rfl) fun _ => rfl
    rw [heq]
    exact hlinked.withNew (hgrown.withTree false) c.elements rfl rfl rfl

theorem createScoped {target : ElementId} {below : RegionId} (hc : c.Sound)
    (h : c.createScoped id target = .ok (d, below)) : d.Sound := by
  have hgrown := hc.grown.createScoped h
  have hforests := (areForests_step_iff hc.grown hc.forests (.entered h)).mpr not_false
  obtain ⟨r, a, elements, hr, -, ha, rfl, rfl⟩ := createScoped_ok h
  exact ⟨hgrown, hforests,
    (hc.settled.entered hc.grown hr ha elements target).congr (samePlaces_listenTo _ _ _),
    (hc.linked.withArena r.tree _).entered (hc.grown.child hr ha) hr elements rfl rfl rfl⟩

theorem moved {above : RegionId} {ra : Region} (hc : c.Sound) (hr : c.region? id = some r)
    (hra : c.region? above = some ra) (hdisposed : r.disposed = false) (htree : r.tree = ra.tree)
    (ha : c.arena? r.tree = some a) (hb : a.updateParent r.context ra.context = .ok b)
    (hforests : (((c.withArena r.tree b).withParent id above).listenTo id above).AreForests) :
    (((c.withArena r.tree b).withParent id above).listenTo id above).Sound where
  grown := hc.grown.moved hra htree ha hb
  forests := hforests
  settled := (hc.settled.relocated hr hra hdisposed htree ha hb).congr (samePlaces_listenTo _ _ _)
  linked := (hc.linked.withArena r.tree b).relocated hr hra

theorem ended (hc : c.Sound) (hr : c.region? id = some r) (ha : c.arena? r.tree = some a)
    (watchers : Emitter SettingsListener) (elements : Elements) :
    ((((c.forget r.feed).withOutside watchers elements).withArena r.tree
      (a.dispose r.context).1).withEnd id).Sound := by
  have hsame : SamePlaces c ((c.forget r.feed).withOutside watchers elements) :=
    (samePlaces_forget c r.feed).trans (samePlaces_withOutside _ watchers elements)
  exact ⟨hc.grown.ended ha watchers elements _ id,
    (areForests_step_iff hc.grown hc.forests (.ended watchers elements hr ha)).mpr not_false,
    (hc.settled.congr hsame).ended ((hsame.site? id).trans (site?_of_region? hr))
      ((arena?_congr hsame.trees r.tree).trans ha),
    hc.linked.ended hr watchers elements r.tree _⟩

theorem withValues (hc : c.Sound) (ha : c.arena? r.tree = some a) {f : Fields Json → Fields Json}
    (hf : ∀ m : Fields Json, m.IsSorted → (f m).IsSorted) :
    (c.withArena r.tree (a.withValues r.context f)).Sound where
  grown := hc.grown.withArena ha (arenaGrows_withValues r.context f (hc.grown.parent_le ha))
  forests := hc.forests.withArena ha
    ((Arena.isForest_congr (Arena.parent?_withValues a r.context f)).mpr (hc.forests _ a ha))
  settled := hc.settled.withValues ha hf r.context
  linked := hc.linked.withArena r.tree _

theorem of_step {op : Operation} {s : Contexts × List Notice} (hc : c.Sound) (h : Step c op s)
    (hop : c.Allows op) : s.1.Sound := by
  cases h with
  | refused => exact hc
  | newRoot backed =>
      have hbacked : backed = false := hop
      subst hbacked
      exact hc.newRoot
  | child | gone => exact hop.elim
  | entered h => exact hc.createScoped h
  | moved h =>
      have hforests := (areForests_updateParent_iff hc.forests h).mpr hop
      obtain ⟨r, ra, a, b, hr, hra, hdisposed, -, htree, ha, hb, rfl⟩ := updateParent_ok h
      have hd := hc.moved hr hra hdisposed htree ha hb
        (hforests.congr (samePlaces_fire _ _ _).trees.symm)
      rw [hd.fire_fst]
      exact hd
  | ended watchers elements hr ha => exact hc.ended hr ha watchers elements
  | written hwrites _ _ ha =>
      have hd := hc.withValues ha hwrites.sorted
      rw [hd.fire_fst]
      exact hd
  | observed id name =>
      have hsame := samePlaces_observe c id name
      exact ⟨hc.grown.congr hsame.toSameSites, hc.forests.congr hsame.trees,
        hc.settled.congr hsame, hc.linked.observe id name⟩
  | held =>
      exact ⟨hc.grown.congr ⟨rfl, fun h => h, fun _ => rfl⟩, hc.forests,
        hc.settled.congr ⟨⟨rfl, fun h => h, fun _ => rfl⟩, fun _ => rfl, fun _ => rfl⟩,
        hc.linked.congr (fun _ => rfl) (fun _ => rfl) fun _ => rfl⟩

end Sound

theorem sound_start (settings : Settings) (elements : Elements) :
    (start settings elements).Sound where
  grown := grown_start settings elements
  forests := by
    intro t a ha
    cases ha
  settled := ⟨nofun, nofun, nofun⟩
  linked :=
    { idle := fun _ => rfl
      numbered := fun _ => ⟨.nil, nofun⟩
      fed := ⟨nofun, nofun⟩
      parent := fun _ => rfl }

theorem Reachable.sound (hc : c.Reachable) : c.Sound := by
  induction hc with
  | start settings elements => exact sound_start settings elements
  | step _ hop ih => exact ih.of_step (ih.grown.step _) hop

end Contexts

end Shortcuts
