import Shortcuts.Proofs.Context.Wiring

/-!
Regions while events may be held back. Who listens to whom does not depend on what is held back, so
it is read off the calm regions, which have the same listeners and hold nothing back.
-/

namespace Shortcuts

namespace Pausing

variable {L E : Type}

/-- The same listeners, with nothing held back. -/
def calm (p : Pausing L E) : Pausing L E := { emitter := p.emitter }

end Pausing

def Region.calm (r : Region) : Region := { r with changes := r.changes.calm }

namespace Contexts

variable {c d : Contexts} {id x : RegionId} {r : Region}

def calm (c : Contexts) : Contexts :=
  { c with regions := c.regions.map fun e => (e.1, e.2.calm) }

/-! ### Views of calm regions -/

theorem region?_calm (c : Contexts) (x : RegionId) :
    c.calm.region? x = (c.region? x).map Region.calm :=
  lookup_map_values Region.calm c.regions x

theorem changesOf_calm (c : Contexts) (x : RegionId) : c.calm.changesOf x = (c.changesOf x).calm := by
  rw [changesOf, region?_calm, changesOf]
  cases c.region? x <;> rfl

theorem listenersOf_calm (c : Contexts) (x : RegionId) : c.calm.listenersOf x = c.listenersOf x := by
  rw [listenersOf, changesOf_calm]
  rfl

theorem feedOf_calm (c : Contexts) (x : RegionId) : c.calm.feedOf x = c.feedOf x := by
  rw [feedOf, region?_calm, feedOf]
  cases c.region? x <;> rfl

theorem samePlaces_calm (c : Contexts) : SamePlaces c c.calm where
  trees := rfl
  counted h := by
    have hkeys : c.calm.regions.map Prod.fst = c.regions.map Prod.fst := by
      rw [calm, List.map_map]
      rfl
    have hlength : c.calm.regions.length = c.regions.length := List.length_map _
    rw [Table.IsCounted, hkeys, hlength]
    exact h
  site? x := by
    rw [site?, region?_calm, site?]
    cases c.region? x <;> rfl
  parentOf x := by
    rw [parentOf, region?_calm, parentOf]
    cases c.region? x <;> rfl
  isDisposed x := by
    rw [isDisposed, region?_calm, isDisposed]
    cases c.region? x <;> rfl

/-- Where nothing is held back, calm regions are wired as the regions are. -/
theorem linked_of_calm (hc : c.calm.Linked) (hidle : ∀ x, (c.changesOf x).depth = 0) :
    c.Linked where
  idle := hidle
  numbered x := by
    have := hc.numbered x
    rwa [changesOf_calm] at this
  fed {p token x} := by
    rw [← listenersOf_calm, hc.fed, feedOf_calm]
  parent x := by
    rw [← feedOf_calm, hc.parent, (samePlaces_calm c).parentOf]

/-! ### What commutes with calming -/

theorem calm_withRegion (c : Contexts) (id : RegionId) {f g : Region → Region}
    (hf : ∀ r, (f r).calm = g r.calm) : (c.withRegion id f).calm = c.calm.withRegion id g := by
  rw [calm, withRegion, calm, withRegion]
  dsimp only
  rw [Table.map_modify hf]

theorem calm_withNew (c : Contexts) (elements : Elements) (r : Region) :
    (c.withNew elements r).calm = c.calm.withNew elements r.calm := by
  rw [calm, withNew, calm, withNew]
  dsimp only
  rw [Table.map_put, List.length_map]

theorem calm_withChanges (c : Contexts) (id : RegionId)
    (changes : Pausing ChangeListener (List String)) :
    (c.withChanges id changes).calm = c.calm.withChanges id changes.calm :=
  calm_withRegion c id fun _ => rfl

theorem calm_forget (c : Contexts) (feed : Option (RegionId × Nat)) :
    (c.forget feed).calm = c.calm.forget feed := by
  cases feed with
  | none => rfl
  | some feed => exact calm_withRegion c feed.1 fun _ => rfl

theorem calm_listenTo (c : Contexts) (id above : RegionId) :
    (c.listenTo id above).calm = c.calm.listenTo id above := by
  have hcalm (x : RegionId) := region?_calm c x
  cases hr : c.region? id with
  | none =>
      rw [listenTo_of_absent (.inl hr), listenTo_of_absent (.inl _)]
      rw [hcalm, hr, Option.map_none]
  | some r =>
      cases ha : c.region? above with
      | none =>
          rw [listenTo_of_absent (.inr ha), listenTo_of_absent (.inr _)]
          rw [hcalm, ha, Option.map_none]
      | some a =>
          have hr' : c.calm.region? id = some r.calm := by rw [hcalm, hr, Option.map_some]
          have ha' : c.calm.region? above = some a.calm := by rw [hcalm, ha, Option.map_some]
          have hfeed (e : Contexts) (feed : Option (RegionId × Nat)) :
              (e.withFeed id feed).calm = e.calm.withFeed id feed :=
            calm_withRegion e id (f := fun r => { r with feed }) fun _ => rfl
          rw [listenTo_eq hr ha, listenTo_eq hr' ha', hfeed, calm_forget, calm_withChanges]
          rfl

theorem calm_observe (c : Contexts) (id : RegionId) (name : String) :
    (c.observe id name).1.calm = (c.calm.observe id name).1 := by
  have hcalm := region?_calm c id
  cases hr : c.region? id with
  | none =>
      rw [hr, Option.map_none] at hcalm
      rw [observe, hr, observe, hcalm]
  | some r =>
      rw [hr, Option.map_some] at hcalm
      rw [observe_eq hr, observe_eq hcalm, calm_withChanges]
      rfl

/-! ### What leaves the wiring alone -/

/-- The listeners, the feeds and the regions above are the same. -/
structure SameWires (c d : Contexts) : Prop where
  emitters : ∀ x, (d.changesOf x).emitter = (c.changesOf x).emitter
  feedOf : ∀ x, d.feedOf x = c.feedOf x
  parentOf : ∀ x, d.parentOf x = c.parentOf x

namespace SameWires

theorem refl (c : Contexts) : SameWires c c := ⟨fun _ => rfl, fun _ => rfl, fun _ => rfl⟩

theorem trans {e : Contexts} (h : SameWires c d) (h' : SameWires d e) : SameWires c e :=
  ⟨fun x => (h'.emitters x).trans (h.emitters x), fun x => (h'.feedOf x).trans (h.feedOf x),
    fun x => (h'.parentOf x).trans (h.parentOf x)⟩

theorem of_regions (h : d.regions = c.regions) : SameWires c d where
  emitters x := by rw [changesOf, region?, h, changesOf, region?]
  feedOf x := by rw [Contexts.feedOf, region?, h, Contexts.feedOf, region?]
  parentOf x := by rw [Contexts.parentOf, region?, h, Contexts.parentOf, region?]

theorem calm_linked (h : SameWires c d) (hc : c.calm.Linked) : d.calm.Linked := by
  refine hc.congr (fun x => ?_) (fun x => ?_) fun x => ?_
  · rw [changesOf_calm, changesOf_calm, Pausing.calm, Pausing.calm, h.emitters]
  · rw [feedOf_calm, feedOf_calm, h.feedOf]
  · rw [(samePlaces_calm d).parentOf, (samePlaces_calm c).parentOf, h.parentOf]

theorem withChanges (h : SameWires c d) (hr : d.region? id = some r)
    {changes : Pausing ChangeListener (List String)}
    (hchanges : changes.emitter = r.changes.emitter) : SameWires c (d.withChanges id changes) where
  emitters x := by
    rw [changesOf_withChanges hr]
    split
    · next hx => rw [hchanges, hx, ← h.emitters, changesOf_of_region? hr]
    · exact h.emitters x
  feedOf x := (feedOf_withChanges d id changes x).trans (h.feedOf x)
  parentOf x := ((samePlaces_withChanges d id changes).parentOf x).trans (h.parentOf x)

theorem fire (h : SameWires c d) (id : RegionId) (keys : List String) :
    SameWires c (d.fire id keys).1 :=
  fire_offers (fun _ _ r keys hr he => he.withChanges hr (r.changes.emitter_offer keys)) h id
    keys

theorem pause (h : SameWires c d) (id : RegionId) : SameWires c (d.pause id) where
  emitters x := by
    rw [← h.emitters, changesOf, Contexts.pause, region?_withRegion, changesOf]
    split
    · cases d.region? x <;> rfl
    · rfl
  feedOf x := (feedOf_withRegion d id (f := fun r => { r with changes := r.changes.pause })
    (fun _ => rfl) x).trans (h.feedOf x)
  parentOf x := ((samePlaces_withRegion d id (f := fun r => { r with changes := r.changes.pause })
    (fun _ => rfl) (fun _ => rfl) fun _ => rfl).parentOf x).trans (h.parentOf x)

theorem resume (h : SameWires c d) (id : RegionId) : SameWires c (d.resume id).1 := by
  rw [Contexts.resume]
  split
  · exact h
  · next r hr =>
      refine kept_foldl (fun s : Contexts × List Notice => SameWires c s.1) (fun s keys hs => ?_)
        ?_ _
      · exact hs.fire id keys
      · exact h.withChanges hr (r.changes.emitter_resume _)

end SameWires

end Contexts

end Shortcuts
