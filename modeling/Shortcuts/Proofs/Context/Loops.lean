import Shortcuts.Proofs.Context.Growth

/-!
How contexts cease to be a forest. A new context is above nothing, and one that goes takes only
pointers away, so moving a region below itself is the only way.
-/

namespace Shortcuts

namespace Contexts

variable {c d : Contexts} {id : RegionId} {t : Nat} {a : Arena}

def AreForests (c : Contexts) : Prop := ∀ t a, c.arena? t = some a → a.IsForest

/-- An operation that is accepted puts a region below itself, or below one that is below it. -/
def ClosesLoop (c : Contexts) : Operation → Prop
  | .updateParent id above => (∃ s, c.updateParent id above = .ok s) ∧
    ∃ r ra a n, c.region? id = some r ∧ c.region? above = some ra ∧ c.arena? r.tree = some a ∧
      Climbs a.parent? ra.context n r.context
  | _ => False

theorem AreForests.congr (hc : c.AreForests) (h : d.trees = c.trees) : d.AreForests :=
  fun t a ha => hc t a ((arena?_congr h t).symm.trans ha)

theorem AreForests.withArena_iff (hc : c.AreForests) (ha : c.arena? t = some a) (b : Arena) :
    (c.withArena t b).AreForests ↔ b.IsForest := by
  constructor
  · intro h
    refine h t b ?_
    rw [arena?_withArena ha, if_pos rfl]
  · intro hb x a' ha'
    rw [arena?_withArena ha] at ha'
    split at ha'
    · cases ha'
      exact hb
    · exact hc x a' ha'

theorem AreForests.withArena (hc : c.AreForests) (ha : c.arena? t = some a) (hb : b.IsForest) :
    (c.withArena t b).AreForests := (hc.withArena_iff ha b).mpr hb

/-- No climb in an arena comes to the next context, which is not there yet. -/
theorem isForest_createChild {x : ContextId} (ha : a.IsForest) (hx : x ≤ a.lastId)
    (hle : ∀ {y p}, a.parent? y = some p → p ≤ a.lastId) : (a.createChild x).1.IsForest := by
  refine (Arena.isForest_apply_iff ha (.createChild x)).mpr ?_
  rintro ⟨n, h⟩
  have hnew : (a.createChild x).2 = a.lastId + 1 := rfl
  rw [hnew] at h
  cases h with
  | start => exact Nat.not_succ_le_self _ hx
  | up _ hp => exact Nat.not_succ_le_self _ (hle hp)

theorem areForests_updateParent_iff {above : RegionId} {s : Contexts × List Notice}
    (hc : c.AreForests) (h : c.updateParent id above = .ok s) :
    s.1.AreForests ↔ ¬ c.ClosesLoop (.updateParent id above) := by
  obtain ⟨r, ra, a, b, hr, hra, -, -, -, ha, hb, rfl⟩ := updateParent_ok h
  have hmoved := (Arena.isForest_apply_iff (hc r.tree a ha) (.updateParent r.context ra.context))
  rw [Arena.apply, hb] at hmoved
  have htrees := (samePlaces_fire (((c.withArena r.tree b).withParent id above).listenTo id above)
    id (differences (a.collect r.context) (b.collect r.context))).trees.trans
      (samePlaces_listenTo _ id above).trees
  have hiff : _ ↔ (c.withArena r.tree b).AreForests :=
    ⟨fun h => h.congr htrees.symm, fun h => h.congr htrees⟩
  refine hiff.trans ((hc.withArena_iff ha b).trans (hmoved.trans (not_congr ?_)))
  constructor
  · rintro ⟨-, n, hn⟩
    exact ⟨⟨_, h⟩, r, ra, a, n, hr, hra, ha, hn⟩
  · rintro ⟨-, r', ra', a', n, hr', hra', ha', hn⟩
    rw [hr] at hr'
    rw [hra] at hra'
    cases hr'
    cases hra'
    rw [ha] at ha'
    cases ha'
    exact ⟨⟨b, hb⟩, n, hn⟩

theorem AreForests.newRoot (hc : c.AreForests) (backed : Bool) :
    (c.newRoot backed).1.AreForests := by
  obtain ⟨watchers, heq⟩ := newRoot_eq c backed
  intro t a ha
  rw [heq] at ha
  have harena := (arena?_withTree (c.withOutside watchers c.elements) backed t).symm.trans ha
  split at harena
  · cases harena
    exact Arena.isForest_new backed
  · exact hc t a harena

/-- Contexts stay forests in every step but one that puts a region below itself. -/
theorem areForests_step_iff {op : Operation} {s : Contexts × List Notice} (hg : c.Grown)
    (hc : c.AreForests) (h : Step c op s) : s.1.AreForests ↔ ¬ c.ClosesLoop op := by
  cases h with
  | refused h =>
      refine iff_of_true hc fun hloop => ?_
      cases op with
      | updateParent id above =>
          obtain ⟨s, hs⟩ := hloop.1
          exact h id above s rfl hs
      | _ => exact hloop
  | newRoot backed => exact iff_of_true (hc.newRoot backed) not_false
  | child hr ha =>
      exact iff_of_true (hc.withArena ha (isForest_createChild (hc _ _ ha) (hg.context_le hr ha)
        (hg.parent_le ha))) not_false
  | gone ha =>
      exact iff_of_true (hc.withArena ha
        (Acyclic.mono (hc _ _ ha) fun _ _ => Arena.parent?_dispose)) not_false
  | entered h =>
      obtain ⟨r, a, elements, hr, -, ha, -, heq⟩ := createScoped_ok h
      refine iff_of_true ?_ not_false
      rw [heq]
      exact (hc.withArena ha (isForest_createChild (hc _ _ ha) (hg.context_le hr ha)
        (hg.parent_le ha))).congr (samePlaces_listenTo _ _ _).trees
  | moved h => exact areForests_updateParent_iff hc h
  | @ended id r a watchers elements _ ha =>
      refine iff_of_true ?_ not_false
      exact (hc.congr (samePlaces_forget c r.feed).trees).withArena
        ((arena?_congr (samePlaces_forget c r.feed).trees _).trans ha)
        (Acyclic.mono (hc _ _ ha) fun _ _ => Arena.parent?_dispose)
  | @written op id key f r a hop _ _ ha =>
      have hforest := (Arena.isForest_congr (Arena.parent?_withValues a r.context f)).mpr
        (hc _ _ ha)
      refine iff_of_true ((hc.withArena ha hforest).congr (samePlaces_fire _ _ _).trees) ?_
      cases hop <;> exact not_false
  | observed id name => exact iff_of_true (hc.congr (samePlaces_observe c id name).trees) not_false
  | held => exact iff_of_true hc not_false

/-- The contexts of an arena, and those of regions, are forests in all states of a run exactly if
no operation of the run closes a loop. A forest is where going up ends from everywhere, and there
the answers of the arena are those at the end. -/
theorem forest_throughout_iff (backed : Bool) (moves : List Arena.Operation) (settings : Settings)
    (elements : Elements) (ops : List Operation) :
    ((∀ before, before <+: moves → ((Arena.new backed).run before).IsForest) ↔
      ∀ before op, before ++ [op] <+: moves →
        ¬ ((Arena.new backed).run before).ClosesLoop op) ∧
    ((∀ before, before <+: ops → ((start settings elements).run before).AreForests) ↔
      ∀ before op, before ++ [op] <+: ops →
        ¬ ((start settings elements).run before).ClosesLoop op) ∧
    ∀ a : Arena, (a.IsForest ↔ ∀ id, ∃ ids, a.Gathers id ids) ∧
      (a.IsForest → ∀ id, (∀ key, a.Looks key id (a.locate id key)) ∧
        a.Gathers id (a.ancestry id)) := by
  refine ⟨Arena.isForest_run_iff backed moves, ?_,
    fun a => ⟨Arena.isForest_iff, Arena.IsForest.ends⟩⟩
  have hstart : (start settings elements).AreForests := by
    intro t a ha
    cases ha
  exact good_throughout_iff (fun c op => (c.apply op).1) Grown AreForests ClosesLoop
    (fun _ op h => h.of_step (h.step op)) (fun _ op hg h => areForests_step_iff hg h (hg.step op))
    (grown_start settings elements) hstart ops

/-- A context is accepted as its own parent. From there on no collection from it ends, and no
lookup of a key that it has no value for. -/
theorem own_parent_closes_loop :
    ∃ a, ((Arena.new false).run [.createChild Arena.root]).updateParent 1 1 = .ok a ∧
      a.parent? 1 = some 1 ∧ ¬ a.IsForest ∧ (¬ ∃ ids, a.Gathers 1 ids) ∧
      ∀ key, ¬ ∃ f, a.Looks key 1 f := by
  refine ⟨⟨[(0, {}), (1, { parent := some 1 })], 1, none⟩, rfl, rfl, ?_, ?_, ?_⟩
  · exact fun h => h 1 0 ((Climbs.start 1).up rfl)
  · rintro ⟨ids, hids⟩
    exact hids.not_climbs 0 ((Climbs.start 1).up rfl)
  · rintro key ⟨f, hf⟩
    exact Arena.not_looks_of_own_parent rfl (by decide) rfl rfl hf

end Contexts

end Shortcuts
