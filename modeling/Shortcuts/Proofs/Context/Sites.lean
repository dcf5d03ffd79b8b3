import Shortcuts.Proofs.Context.Operation
import Shortcuts.Proofs.Fields

/-!
Where regions are: the context of each in the arena of its tree, the region above it, and whether
it has ended. Listening and announcing leave all of this alone.
-/

namespace Shortcuts

namespace Contexts

/-- The tree of a region and its context there. -/
def site? (c : Contexts) (id : RegionId) : Option (Nat × ContextId) :=
  (c.region? id).map fun r => (r.tree, r.context)

def parentOf (c : Contexts) (id : RegionId) : Option RegionId := (c.region? id).bind Region.parent

variable {c d : Contexts} {id : RegionId} {r : Region}

theorem site?_of_region? (h : c.region? id = some r) : c.site? id = some (r.tree, r.context) := by
  rw [site?, h]
  rfl

theorem isDisposed_of_region? (hr : c.region? id = some r) : c.isDisposed id = r.disposed := by
  rw [isDisposed, hr]

theorem exists_region_of_lives (h : c.isDisposed id = false) :
    ∃ r, c.region? id = some r ∧ r.disposed = false := by
  cases hr : c.region? id with
  | none =>
      rw [isDisposed, hr] at h
      cases h
  | some r => exact ⟨r, rfl, (isDisposed_of_region? hr).symm.trans h⟩

theorem dispose_of_disposed (h : c.isDisposed id = true) : c.dispose id = c := by
  cases hr : c.region? id with
  | none => rw [dispose, hr]
  | some r =>
      rw [dispose, hr]
      exact if_pos ((isDisposed_of_region? hr).symm.trans h)

/-! ### What is left alone -/

/-- The arenas are the same, and so are the regions as far as their contexts are concerned. -/
structure SameSites (c d : Contexts) : Prop where
  trees : d.trees = c.trees
  counted : c.regions.IsCounted → d.regions.IsCounted
  site? : ∀ id, d.site? id = c.site? id

/-- Regions may differ in their listeners and in what they are fed by, no more. -/
structure SamePlaces (c d : Contexts) : Prop extends SameSites c d where
  parentOf : ∀ id, d.parentOf id = c.parentOf id
  isDisposed : ∀ id, d.isDisposed id = c.isDisposed id

theorem sameSites_of_eq (htrees : d.trees = c.trees) (hregions : d.regions = c.regions) :
    SameSites c d where
  trees := htrees
  counted h := hregions.symm ▸ h
  site? x := by
    rw [site?, region?, hregions]
    rfl

namespace SamePlaces

variable {c d e : Contexts} {id : RegionId}

theorem refl (c : Contexts) : SamePlaces c c :=
  ⟨⟨rfl, fun h => h, fun _ => rfl⟩, fun _ => rfl, fun _ => rfl⟩

theorem trans (h : SamePlaces c d) (h' : SamePlaces d e) : SamePlaces c e :=
  ⟨⟨h'.trees.trans h.trees, fun hc => h'.counted (h.counted hc),
    fun id => (h'.site? id).trans (h.site? id)⟩,
    fun id => (h'.parentOf id).trans (h.parentOf id),
    fun id => (h'.isDisposed id).trans (h.isDisposed id)⟩

end SamePlaces

theorem sameSites_withRegion (c : Contexts) (id : RegionId) {f : Region → Region}
    (hf : ∀ r, ((f r).tree, (f r).context) = (r.tree, r.context)) :
    SameSites c (c.withRegion id f) where
  trees := rfl
  counted h := h.modify id f
  site? x := by
    rw [site?, region?_withRegion, site?]
    split
    · rw [Option.map_map]
      exact congrArg (Option.map · _) (funext hf)
    · rfl

theorem samePlaces_withRegion (c : Contexts) (id : RegionId) {f : Region → Region}
    (hsite : ∀ r, ((f r).tree, (f r).context) = (r.tree, r.context))
    (hparent : ∀ r, (f r).parent = r.parent) (hdisposed : ∀ r, (f r).disposed = r.disposed) :
    SamePlaces c (c.withRegion id f) where
  toSameSites := sameSites_withRegion c id hsite
  parentOf x := by
    rw [parentOf, region?_withRegion, parentOf]
    split
    · rw [Option.bind_map]
      exact congrArg (Option.bind _) (funext hparent)
    · rfl
  isDisposed x := by
    rw [isDisposed, region?_withRegion, isDisposed]
    by_cases hx : x = id
    · rw [if_pos hx]
      cases c.region? x with
      | none => rfl
      | some r => exact hdisposed r
    · rw [if_neg hx]

theorem SamePlaces.retune (h : SamePlaces c d) (id : RegionId) {f : Region → Region}
    (hf : Retunes f) : SamePlaces c (d.withRegion id f) := by
  refine h.trans (samePlaces_withRegion d id (fun r => ?_) (fun r => ?_) fun r => ?_) <;>
    obtain ⟨changes, feed, heq⟩ := hf r <;> rw [heq]

theorem samePlaces_withChanges (c : Contexts) (id : RegionId)
    (changes : Pausing ChangeListener (List String)) : SamePlaces c (c.withChanges id changes) :=
  (SamePlaces.refl c).retune id (retunes_changes changes)

theorem samePlaces_forget (c : Contexts) (feed : Option (RegionId × Nat)) :
    SamePlaces c (c.forget feed) :=
  forget_induction (fun _ id _ hf hd => hd.retune id hf) (.refl c) feed

theorem samePlaces_listenTo (c : Contexts) (id above : RegionId) :
    SamePlaces c (c.listenTo id above) :=
  listenTo_induction (fun _ id _ hf hd => hd.retune id hf) (.refl c) id above

theorem samePlaces_fire (c : Contexts) (id : RegionId) (keys : List String) :
    SamePlaces c (c.fire id keys).1 :=
  fire_induction (fun d x changes hd => hd.trans (samePlaces_withChanges d x changes)) (.refl c) id
    keys

theorem samePlaces_observe (c : Contexts) (id : RegionId) (name : String) :
    SamePlaces c (c.observe id name).1 :=
  observe_induction (fun _ id _ hf hd => hd.retune id hf) (.refl c) id name

theorem samePlaces_withOutside (c : Contexts) (watchers : Emitter SettingsListener)
    (elements : Elements) : SamePlaces c (c.withOutside watchers elements) :=
  ⟨⟨rfl, fun h => h, fun _ => rfl⟩, fun _ => rfl, fun _ => rfl⟩

theorem arena?_congr (h : d.trees = c.trees) (t : Nat) : d.arena? t = c.arena? t := by
  rw [arena?, arena?, h]

/-! ### What is changed -/

theorem site?_withNew (c : Contexts) (elements : Elements) (r : Region) (x : RegionId) :
    (c.withNew elements r).site? x =
      if x = c.regions.length then some (r.tree, r.context) else c.site? x := by
  rw [site?, region?_withNew]
  split <;> rfl

theorem parentOf_withNew (c : Contexts) (elements : Elements) (r : Region) (x : RegionId) :
    (c.withNew elements r).parentOf x =
      if x = c.regions.length then r.parent else c.parentOf x := by
  rw [parentOf, region?_withNew]
  split <;> rfl

theorem isDisposed_withNew (c : Contexts) (elements : Elements) (r : Region) (x : RegionId) :
    (c.withNew elements r).isDisposed x =
      if x = c.regions.length then r.disposed else c.isDisposed x := by
  rw [isDisposed, region?_withNew, isDisposed]
  by_cases hx : x = c.regions.length
  · rw [if_pos hx, if_pos hx]
  · rw [if_neg hx, if_neg hx]

theorem parentOf_withParent {above : RegionId} (hr : c.region? id = some r) (x : RegionId) :
    (c.withParent id above).parentOf x = if x = id then some above else c.parentOf x := by
  rw [parentOf, withParent, region?_withRegion]
  split
  · next hx => rw [hx, hr]; rfl
  · rfl

/-- What is above a region that was put below another one. -/
theorem parentOf_moved (hr : c.region? id = some r) (above : RegionId) (t : Nat) (b : Arena)
    (x : RegionId) : (((c.withArena t b).withParent id above).listenTo id above).parentOf x =
      if x = id then some above else c.parentOf x :=
  ((samePlaces_listenTo _ id above).parentOf x).trans
    (parentOf_withParent (c := c.withArena t b) hr x)

theorem site?_withParent (c : Contexts) (id above x : RegionId) :
    (c.withParent id above).site? x = c.site? x :=
  (sameSites_withRegion c id (f := fun r => { r with parent := some above }) fun _ => rfl).site? x

theorem isDisposed_withParent (c : Contexts) (id above x : RegionId) :
    (c.withParent id above).isDisposed x = c.isDisposed x := by
  rw [isDisposed, withParent, region?_withRegion, isDisposed]
  by_cases hx : x = id
  · rw [if_pos hx]
    cases c.region? x <;> rfl
  · rw [if_neg hx]

theorem site?_withEnd (c : Contexts) (id x : RegionId) : (c.withEnd id).site? x = c.site? x :=
  (sameSites_withRegion c id
    (f := fun r => { r with disposed := true, feed := none, parent := none }) fun _ => rfl).site? x

theorem parentOf_withEnd (c : Contexts) (id x : RegionId) :
    (c.withEnd id).parentOf x = if x = id then none else c.parentOf x := by
  rw [parentOf, withEnd, region?_withRegion]
  split
  · cases c.region? x <;> rfl
  · rfl

theorem isDisposed_withEnd (c : Contexts) (id x : RegionId) :
    (c.withEnd id).isDisposed x = if x = id then true else c.isDisposed x := by
  rw [isDisposed, withEnd, region?_withRegion]
  by_cases hx : x = id
  · rw [if_pos hx, if_pos hx]
    cases c.region? x <;> rfl
  · rw [if_neg hx, if_neg hx]
    rfl

theorem isDisposed_dispose (c : Contexts) (id : RegionId) :
    (c.dispose id).isDisposed id = true := by
  cases hdisposed : c.isDisposed id with
  | true => rw [dispose_of_disposed hdisposed, hdisposed]
  | false =>
      obtain ⟨r, hr, hlives⟩ := exists_region_of_lives hdisposed
      rw [dispose, hr]
      dsimp only
      rw [if_neg (by rw [hlives]; exact Bool.false_ne_true)]
      exact (isDisposed_withEnd _ id id).trans (if_pos rfl)

end Contexts

end Shortcuts
