import Shortcuts.Proofs.Context.Growth
import Shortcuts.Proofs.Emitter.Listeners

/-!
Who listens to whom. A region below another one listens to it under the number of its
subscription, and what it listens to is what it says it is fed by. This stays so while regions
come, move and go.
-/

namespace Shortcuts

namespace Contexts

variable {c d : Contexts} {id p : RegionId} {r : Region} {token : Nat} {l : ChangeListener}

/-! ### Views of a region -/

/-- A region that is not there has no listeners. -/
def changesOf (c : Contexts) (id : RegionId) : Pausing ChangeListener (List String) :=
  ((c.region? id).map Region.changes).getD {}

def listenersOf (c : Contexts) (id : RegionId) : List (Nat × ChangeListener) :=
  (c.changesOf id).emitter.listeners

def feedOf (c : Contexts) (id : RegionId) : Option (RegionId × Nat) :=
  (c.region? id).bind Region.feed

theorem changesOf_of_region? (h : c.region? id = some r) : c.changesOf id = r.changes := by
  rw [changesOf, h]
  rfl

theorem feedOf_of_region? (h : c.region? id = some r) : c.feedOf id = r.feed := by
  rw [feedOf, h]
  rfl

theorem changesOf_withRegion (c : Contexts) (id : RegionId) {f : Region → Region}
    (hf : ∀ r, (f r).changes = r.changes) (x : RegionId) :
    (c.withRegion id f).changesOf x = c.changesOf x := by
  rw [changesOf, region?_withRegion, changesOf]
  split
  · rw [Option.map_map, show Region.changes ∘ f = Region.changes from funext hf]
  · rfl

theorem feedOf_withRegion (c : Contexts) (id : RegionId) {f : Region → Region}
    (hf : ∀ r, (f r).feed = r.feed) (x : RegionId) :
    (c.withRegion id f).feedOf x = c.feedOf x := by
  rw [feedOf, region?_withRegion, feedOf]
  split
  · rw [Option.bind_map, show Region.feed ∘ f = Region.feed from funext hf]
  · rfl

theorem changesOf_withChanges (h : c.region? id = some r)
    (changes : Pausing ChangeListener (List String)) (x : RegionId) :
    (c.withChanges id changes).changesOf x = if x = id then changes else c.changesOf x := by
  rw [changesOf, withChanges, region?_withRegion]
  split
  · next hx => rw [hx, h]; rfl
  · rfl

theorem feedOf_withChanges (c : Contexts) (id : RegionId)
    (changes : Pausing ChangeListener (List String)) (x : RegionId) :
    (c.withChanges id changes).feedOf x = c.feedOf x :=
  feedOf_withRegion c id (f := fun r => { r with changes }) (fun _ => rfl) x

theorem isSome_withRegion (c : Contexts) (id : RegionId) (f : Region → Region) (x : RegionId) :
    ((c.withRegion id f).region? x).isSome = (c.region? x).isSome := by
  rw [region?_withRegion]
  split
  · exact Option.isSome_map
  · rfl

theorem isSome_forget (c : Contexts) (feed : Option (RegionId × Nat)) (x : RegionId) :
    ((c.forget feed).region? x).isSome = (c.region? x).isSome := by
  cases feed with
  | none => rfl
  | some feed => exact isSome_withRegion c feed.1 _ x

theorem feedOf_withFeed (h : (c.region? id).isSome) (feed : Option (RegionId × Nat))
    (x : RegionId) : (c.withFeed id feed).feedOf x = if x = id then feed else c.feedOf x := by
  obtain ⟨r, hr⟩ := Option.isSome_iff_exists.mp h
  rw [feedOf, withFeed, region?_withRegion]
  split
  · next hx => rw [hx, hr]; rfl
  · rfl

theorem feedOf_withParent (c : Contexts) (id above x : RegionId) :
    (c.withParent id above).feedOf x = c.feedOf x :=
  feedOf_withRegion c id (f := fun r => { r with parent := some above }) (fun _ => rfl) x

theorem changesOf_withParent (c : Contexts) (id above x : RegionId) :
    (c.withParent id above).changesOf x = c.changesOf x :=
  changesOf_withRegion c id (f := fun r => { r with parent := some above }) (fun _ => rfl) x

theorem changesOf_withEnd (c : Contexts) (id x : RegionId) :
    (c.withEnd id).changesOf x = c.changesOf x :=
  changesOf_withRegion c id
    (f := fun r => { r with disposed := true, feed := none, parent := none }) (fun _ => rfl) x

theorem feedOf_withEnd (c : Contexts) (id x : RegionId) :
    (c.withEnd id).feedOf x = if x = id then none else c.feedOf x := by
  rw [feedOf, withEnd, region?_withRegion]
  split
  · cases c.region? x <;> rfl
  · rfl

theorem changesOf_forget (c : Contexts) (feed : Option (RegionId × Nat)) (x : RegionId) :
    (c.forget feed).changesOf x = match feed with
      | some (old, token) =>
        if x = old then (c.changesOf x).unsubscribe token else c.changesOf x
      | none => c.changesOf x := by
  match feed with
  | none => rfl
  | some (old, token) =>
      rw [changesOf, forget, unsubscribe, region?_withRegion, changesOf]
      dsimp only
      split
      · cases c.region? x <;> rfl
      · rfl

theorem feedOf_forget (c : Contexts) (feed : Option (RegionId × Nat)) (x : RegionId) :
    (c.forget feed).feedOf x = c.feedOf x := by
  match feed with
  | none => rfl
  | some (old, token) =>
      exact feedOf_withRegion c old (f := fun r =>
        { r with changes := r.changes.unsubscribe token }) (fun _ => rfl) x

theorem mem_listenersOf_forget (feed : Option (RegionId × Nat)) :
    (token, l) ∈ (c.forget feed).listenersOf p ↔
      (token, l) ∈ c.listenersOf p ∧ feed ≠ some (p, token) := by
  rw [listenersOf, changesOf_forget, listenersOf]
  match feed with
  | none => exact (and_iff_left nofun).symm
  | some (old, token') =>
      dsimp only
      split
      · next hp =>
          subst hp
          refine (Emitter.mem_unsubscribe token').trans (and_congr_right fun _ => not_congr ?_)
          simp [eq_comm]
      · next hp =>
          refine (and_iff_left fun h => hp ?_).symm
          cases h
          rfl

theorem feedOf_listenTo {above : RegionId} {a : Region} (hr : c.region? id = some r)
    (ha : c.region? above = some a) (x : RegionId) : (c.listenTo id above).feedOf x =
      if x = id then some (above, a.changes.emitter.next) else c.feedOf x := by
  rw [listenTo_eq hr ha, feedOf_withFeed, feedOf_forget, feedOf_withChanges]
  rw [isSome_forget, withChanges, isSome_withRegion, hr]
  rfl

theorem changesOf_listenTo {above : RegionId} {a : Region} (hr : c.region? id = some r)
    (ha : c.region? above = some a) (x : RegionId) : (c.listenTo id above).changesOf x =
      ((c.withChanges above (a.changes.subscribe (.child id)).1).forget
        (c.feedOf id)).changesOf x := by
  rw [listenTo_eq hr ha, feedOf_of_region? hr]
  exact changesOf_withRegion _ id
    (f := fun r => { r with feed := some (above, a.changes.emitter.next) }) (fun _ => rfl) x

theorem mem_listenersOf_subscribe {k : ChangeListener} (h : c.region? id = some r) :
    (token, k) ∈ (c.withChanges id (r.changes.subscribe l).1).listenersOf p ↔
      (token, k) ∈ c.listenersOf p ∨ p = id ∧ token = r.changes.emitter.next ∧ k = l := by
  rw [listenersOf, changesOf_withChanges h]
  split
  · next hp =>
      rw [hp, listenersOf, changesOf_of_region? h]
      exact Emitter.mem_subscribe.trans (or_congr_right (and_iff_right rfl).symm)
  · next hp => exact (or_iff_left fun hnew => hp hnew.1).symm

theorem changesOf_withNew (hg : c.Grown) (elements : Elements) (hr : r.changes = {})
    (x : RegionId) : (c.withNew elements r).changesOf x = c.changesOf x := by
  rw [changesOf, region?_withNew, changesOf]
  split
  · next hx =>
      rw [hx, show c.region? c.regions.length = none from hg.regions.lookup_length, Option.map_some,
        hr]
      rfl
  · rfl

theorem feedOf_withNew (hg : c.Grown) (elements : Elements) (hr : r.feed = none) (x : RegionId) :
    (c.withNew elements r).feedOf x = c.feedOf x := by
  rw [feedOf, region?_withNew, feedOf]
  split
  · next hx =>
      rw [hx, show c.region? c.regions.length = none from hg.regions.lookup_length]
      exact hr
  · rfl

/-! ### Emitters -/

structure AreIdle (c : Contexts) : Prop where
  /-- Nothing is held back. -/
  idle : ∀ id, (c.changesOf id).depth = 0
  numbered : ∀ id, (c.changesOf id).emitter.IsNumbered

namespace AreIdle

theorem congr (hc : c.AreIdle) (h : ∀ x, d.changesOf x = c.changesOf x) : d.AreIdle where
  idle id := by rw [h]; exact hc.idle id
  numbered id := by rw [h]; exact hc.numbered id

theorem forget (hc : c.AreIdle) (feed : Option (RegionId × Nat)) : (c.forget feed).AreIdle := by
  match feed with
  | none => exact hc
  | some (old, token) =>
      refine ⟨fun x => ?_, fun x => ?_⟩
      · rw [changesOf_forget]
        dsimp only
        split <;> exact hc.idle x
      · rw [changesOf_forget]
        dsimp only
        split
        · exact (hc.numbered x).unsubscribe token
        · exact hc.numbered x

theorem subscribe (hc : c.AreIdle) (h : c.region? id = some r) (l : ChangeListener) :
    (c.withChanges id (r.changes.subscribe l).1).AreIdle := by
  refine ⟨fun x => ?_, fun x => ?_⟩
  · rw [changesOf_withChanges h]
    split
    · exact changesOf_of_region? h ▸ hc.idle id
    · exact hc.idle x
  · rw [changesOf_withChanges h]
    split
    · exact (changesOf_of_region? h ▸ hc.numbered id).subscribe l
    · exact hc.numbered x

end AreIdle

/-! ### Wiring -/

/-- The regions that listen to a region are those that are fed by it. -/
structure Wired (c : Contexts) : Prop extends AreIdle c where
  fed : ∀ {p token id}, (token, .child id) ∈ c.listenersOf p ↔ c.feedOf id = some (p, token)

namespace Wired

theorem congr (hc : c.Wired) (hchanges : ∀ x, d.changesOf x = c.changesOf x)
    (hfeed : ∀ x, d.feedOf x = c.feedOf x) : d.Wired where
  toAreIdle := hc.toAreIdle.congr hchanges
  fed := by
    intro p token id
    rw [hfeed, listenersOf, hchanges]
    exact hc.fed

/-- A subscription belongs to one region, so ending it leaves those of the others. -/
theorem eq_of_fed {x : RegionId} (hc : c.Wired) (hid : c.feedOf id = some (p, token))
    (hx : c.feedOf x = some (p, token)) : x = id := by
  cases (hc.numbered p).unique (hc.fed.mpr hid) (hc.fed.mpr hx)
  rfl

theorem unfed (hc : c.Wired)
    (hchanges : ∀ x, d.changesOf x = (c.forget (c.feedOf id)).changesOf x)
    (hfeed : ∀ x, d.feedOf x = if x = id then none else c.feedOf x) : d.Wired where
  toAreIdle := (hc.toAreIdle.forget _).congr hchanges
  fed := by
    intro p token x
    rw [listenersOf, hchanges, hfeed]
    refine (mem_listenersOf_forget _).trans ?_
    rw [hc.fed]
    split
    · next hx => simp [hx]
    · next hx => exact and_iff_left_of_imp fun hfed hown => hx (hc.eq_of_fed hown hfed)

theorem observe (hc : c.Wired) (id : RegionId) (name : String) :
    (c.observe id name).1.Wired := by
  cases hr : c.region? id with
  | none =>
      rw [Contexts.observe, hr]
      exact hc
  | some r =>
      rw [observe_eq hr]
      refine ⟨hc.toAreIdle.subscribe hr _, ?_⟩
      intro p token x
      rw [feedOf_withChanges, ← hc.fed]
      exact (mem_listenersOf_subscribe hr).trans (or_iff_left fun hnew => by cases hnew.2.2)

theorem feedOf_ne_next (hc : c.Wired) (hp : c.region? p = some r) (id : RegionId) :
    c.feedOf id ≠ some (p, r.changes.emitter.next) := by
  intro hold
  have hnumbered := hc.numbered p
  have hmem := hc.fed.mpr hold
  rw [changesOf_of_region? hp] at hnumbered
  rw [listenersOf, changesOf_of_region? hp] at hmem
  exact Nat.lt_irrefl _ (hnumbered.lt hmem)

/-- The new subscription has a number that no other one has, so it is not the old one, which is
ended in its favour. -/
theorem listenTo (hc : c.Wired) (id above : RegionId) : (c.listenTo id above).Wired := by
  cases hr : c.region? id with
  | none => rw [listenTo_of_absent (.inl hr)]; exact hc
  | some r =>
      cases ha : c.region? above with
      | none => rw [listenTo_of_absent (.inr ha)]; exact hc
      | some a =>
          have hidle := (hc.toAreIdle.subscribe ha (.child id)).forget (c.feedOf id)
          have hfresh := hc.feedOf_ne_next ha id
          refine ⟨hidle.congr (changesOf_listenTo hr ha), ?_⟩
          intro p token x
          rw [listenersOf, changesOf_listenTo hr ha, feedOf_listenTo hr ha]
          refine (mem_listenersOf_forget _).trans ?_
          rw [mem_listenersOf_subscribe ha, hc.fed]
          split
          · next hx =>
              subst hx
              constructor
              · rintro ⟨hold | ⟨rfl, rfl, -⟩, hne⟩
                · exact absurd hold hne
                · rfl
              · intro hnew
                cases hnew
                exact ⟨.inr ⟨rfl, rfl, rfl⟩, hfresh⟩
          · next hx =>
              constructor
              · rintro ⟨hold | ⟨-, -, hnew⟩, -⟩
                · exact hold
                · cases hnew
                  exact absurd rfl hx
              · exact fun hold => ⟨.inl hold, fun hown => hx (hc.eq_of_fed hown hold)⟩

end Wired

theorem Wired.withNew (hc : c.Wired) (hg : c.Grown) (elements : Elements)
    (hchanges : r.changes = {}) (hfeed : r.feed = none) : (c.withNew elements r).Wired :=
  hc.congr (changesOf_withNew hg elements hchanges) (feedOf_withNew hg elements hfeed)

/-- What feeds a region is the region above it. -/
structure Linked (c : Contexts) : Prop extends Wired c where
  parent : ∀ id, (c.feedOf id).map Prod.fst = c.parentOf id

theorem Linked.congr (hc : c.Linked) (hchanges : ∀ x, d.changesOf x = c.changesOf x)
    (hfeed : ∀ x, d.feedOf x = c.feedOf x) (hparent : ∀ x, d.parentOf x = c.parentOf x) :
    d.Linked where
  toWired := hc.toWired.congr hchanges hfeed
  parent x := by
    rw [hfeed, hparent]
    exact hc.parent x

theorem Linked.observe (hc : c.Linked) (id : RegionId) (name : String) :
    (c.observe id name).1.Linked where
  toWired := hc.toWired.observe id name
  parent x := by
    rw [(samePlaces_observe c id name).parentOf, ← hc.parent]
    cases hr : c.region? id with
    | none => rw [Contexts.observe, hr]
    | some r => rw [observe_eq hr, feedOf_withChanges]

/-- A region that listens to the one above it is linked to it. -/
theorem Wired.linked {above : RegionId} {a : Region} (hc : c.Wired) (hr : c.region? id = some r)
    (ha : c.region? above = some a) (hid : c.parentOf id = some above)
    (hothers : ∀ x, x ≠ id → (c.feedOf x).map Prod.fst = c.parentOf x) :
    (c.listenTo id above).Linked where
  toWired := hc.listenTo id above
  parent x := by
    rw [feedOf_listenTo hr ha, (samePlaces_listenTo c id above).parentOf]
    split
    · next hx =>
        rw [hx, hid]
        rfl
    · next hx => exact hothers x hx

namespace Linked

theorem withArena (hc : c.Linked) (t : Nat) (b : Arena) : (c.withArena t b).Linked :=
  hc.congr (fun _ => rfl) (fun _ => rfl) fun _ => rfl

/-- A new region that is below no other one. -/
theorem withNew (hc : c.Linked) (hg : c.Grown) (elements : Elements) (hchanges : r.changes = {})
    (hfeed : r.feed = none) (hparent : r.parent = none) : (c.withNew elements r).Linked := by
  refine hc.congr (changesOf_withNew hg elements hchanges) (feedOf_withNew hg elements hfeed)
    fun x => ?_
  rw [parentOf_withNew]
  split
  · next hx =>
      have habsent : c.region? x = none := hx ▸ hg.regions.lookup_length
      rw [hparent, parentOf, habsent]
      rfl
  · rfl

theorem entered {s : Region} (hc : c.Linked) (hg : c.Grown) (hr : c.region? id = some r)
    (elements : Elements) (hchanges : s.changes = {}) (hfeed : s.feed = none)
    (hparent : s.parent = some id) :
    ((c.withNew elements s).listenTo c.regions.length id).Linked := by
  refine (hc.toWired.withNew hg elements hchanges hfeed).linked (r := s) (a := r) ?_ ?_ ?_
    fun x hx => ?_
  · rw [region?_withNew, if_pos rfl]
  · rw [region?_withNew, if_neg (Nat.ne_of_lt (hg.regions.lt hr)), hr]
  · rw [parentOf_withNew, if_pos rfl, hparent]
  · rw [feedOf_withNew hg elements hfeed, parentOf_withNew, if_neg hx, hc.parent]

theorem relocated {above : RegionId} {a : Region} (hc : c.Linked) (hr : c.region? id = some r)
    (ha : c.region? above = some a) : ((c.withParent id above).listenTo id above).Linked := by
  have hwired : (c.withParent id above).Wired :=
    hc.toWired.congr (changesOf_withParent c id above) (feedOf_withParent c id above)
  have hisSome : ∀ x, (c.region? x).isSome → ((c.withParent id above).region? x).isSome :=
    fun x hx => (isSome_withRegion c id _ x).trans hx
  obtain ⟨r', hr'⟩ := Option.isSome_iff_exists.mp (hisSome id (by rw [hr]; rfl))
  obtain ⟨a', ha'⟩ := Option.isSome_iff_exists.mp (hisSome above (by rw [ha]; rfl))
  refine hwired.linked hr' ha' ?_ fun x hx => ?_
  · rw [parentOf_withParent hr, if_pos rfl]
  · rw [parentOf_withParent hr, if_neg hx, feedOf_withParent, hc.parent]

theorem ended (hc : c.Linked) (hr : c.region? id = some r) (watchers : Emitter SettingsListener)
    (elements : Elements) (t : Nat) (b : Arena) :
    ((((c.forget r.feed).withOutside watchers elements).withArena t b).withEnd id).Linked := by
  have hfeed : ∀ x, ((((c.forget r.feed).withOutside watchers elements).withArena t
      b).withEnd id).feedOf x = if x = id then none else c.feedOf x := fun x => by
    rw [feedOf_withEnd]
    exact congrArg (ite _ _) (feedOf_forget c r.feed x)
  refine ⟨hc.toWired.unfed (fun x => ?_) hfeed, fun x => ?_⟩
  · rw [changesOf_withEnd, feedOf_of_region? hr]
    rfl
  · rw [hfeed, parentOf_withEnd]
    split
    · rfl
    · exact (hc.parent x).trans ((samePlaces_forget c r.feed).parentOf x).symm

end Linked

/-- A subscription that is not that of a region may end. -/
theorem Linked.unsubscribe (hc : c.Linked) (hid : ∀ x, (token, .child x) ∉ c.listenersOf id) :
    (c.unsubscribe id token).Linked := by
  change (c.forget (some (id, token))).Linked
  refine ⟨⟨hc.toAreIdle.forget _, fun {p n x} => ?_⟩, fun x => ?_⟩
  · rw [feedOf_forget, ← hc.fed]
    refine (mem_listenersOf_forget _).trans (and_iff_left_of_imp fun h heq => ?_)
    cases heq
    exact hid x h
  · rw [feedOf_forget, hc.parent, (samePlaces_forget c _).parentOf]

theorem Linked.parentOf_of_mem (hc : c.Linked) (h : (token, .child id) ∈ c.listenersOf p) :
    c.parentOf id = some p := by
  rw [← hc.parent, hc.fed.mp h]
  rfl

theorem Linked.eq_token {other : Nat} (hc : c.Linked) (h : (token, .child id) ∈ c.listenersOf p)
    (h' : (other, .child id) ∈ c.listenersOf p) : token = other := by
  have hfeed := hc.fed.mp h
  rw [hc.fed.mp h'] at hfeed
  cases hfeed
  rfl

theorem Linked.exists_mem (hc : c.Linked) (h : c.parentOf id = some p) :
    ∃ token, (token, .child id) ∈ c.listenersOf p := by
  rw [← hc.parent] at h
  obtain ⟨⟨_, token⟩, hfeed, rfl⟩ := Option.map_eq_some_iff.mp h
  exact ⟨token, hc.fed.mpr hfeed⟩

end Contexts

end Shortcuts
