import Shortcuts.Proofs.Context.Access
import Shortcuts.Proofs.Context.Calm
import Shortcuts.Proofs.Context.Placement

/-!
Trees of contexts that no settings stand behind, under any use that puts no region below itself.
Contexts may come and go without a region, and events may be held back. Still each region listens
to the one above it alone, and where the context of a region has a parent it is the context of the
region above.
-/

namespace Shortcuts

/-! ### Arenas that know no settings -/

namespace Arena.IsPlain

variable {a : Arena}

theorem rememberAll (ha : a.IsPlain) (settings : String → Option Json) (id : ContextId)
    (keys : List String) : a.rememberAll settings id keys = a := by
  refine kept_foldl (· = a) (fun b key hb => ?_) rfl keys
  rw [hb, remember, ha.unbacked]
  split
  · rfl
  · split
    · next hknown => cases hknown
    · rfl

theorem settingsChanged (ha : a.IsPlain) (change : SettingsChange) :
    a.settingsChanged change = (a, []) := by
  rw [Arena.settingsChanged, ha.unbacked]

end Arena.IsPlain

namespace Contexts

variable {c d : Contexts} {id p : RegionId} {r : Region} {t : Nat} {a b : Arena} {x y : ContextId}

/-! ### Where contexts are -/

/-- Of the way up through the contexts nothing leads past the regions. -/
structure Founded (c : Contexts) : Prop where
  plain : ∀ {t a}, c.arena? t = some a → a.IsPlain
  distinct : ∀ {id p s}, c.site? id = some s → c.site? p = some s → id = p
  upward : ∀ {id t x y a}, c.site? id = some (t, x) → c.arena? t = some a →
    a.parent? x = some y → ∃ p, c.parentOf id = some p ∧ c.site? p = some (t, y)

namespace Founded

theorem congr (hc : c.Founded) (harena : ∀ t, d.arena? t = c.arena? t)
    (hsite : ∀ x, d.site? x = c.site? x) (hparent : ∀ x, d.parentOf x = c.parentOf x) :
    d.Founded where
  plain ha := hc.plain ((harena _).symm.trans ha)
  distinct hid hp := hc.distinct ((hsite _).symm.trans hid) ((hsite _).symm.trans hp)
  upward hid ha hy := by
    obtain ⟨p, hp, hsitep⟩ := hc.upward ((hsite _).symm.trans hid) ((harena _).symm.trans ha) hy
    exact ⟨p, (hparent _).trans hp, (hsite p).trans hsitep⟩

theorem congr_places (hc : c.Founded) (h : SamePlaces c d) : d.Founded :=
  hc.congr (arena?_congr h.trees) h.site? h.parentOf

/-- From the context of a region every climb is one from the region. -/
theorem climbs_regions {n : Nat} (hc : c.Founded) (hsite : c.site? id = some (t, x))
    (ha : c.arena? t = some a) (h : Climbs a.parent? x n y) :
    ∃ p, Climbs c.parentOf id n p ∧ c.site? p = some (t, y) := by
  induction h with
  | start => exact ⟨id, .start id, hsite⟩
  | up _ hz ih =>
      obtain ⟨p, hp, hsitep⟩ := ih
      obtain ⟨q, hq, hsiteq⟩ := hc.upward hsitep ha hz
      exact ⟨q, hp.up hq, hsiteq⟩

/-- An arena may change where no region has a context with a new parent. -/
theorem withArena (hc : c.Founded) (ha : c.arena? t = some a) (hb : b.IsPlain)
    (hsub : ∀ id x y, c.site? id = some (t, x) → b.parent? x = some y → a.parent? x = some y) :
    (c.withArena t b).Founded where
  plain hb' := by
    rw [arena?_withArena ha] at hb'
    split at hb'
    · cases hb'
      exact hb
    · exact hc.plain hb'
  distinct hid hp := hc.distinct hid hp
  upward {id s x y a'} hid ha' hy := by
    rw [arena?_withArena ha] at ha'
    split at ha'
    · next hs =>
        subst hs
        cases ha'
        exact hc.upward hid ha (hsub id x y hid hy)
    · exact hc.upward hid ha' hy

theorem withTree (hc : c.Founded) (hg : c.Grown) : (c.withTree false).Founded where
  plain ha := by
    rw [arena?_withTree] at ha
    split at ha
    · cases ha
      exact .new
    · exact hc.plain ha
  distinct hid hp := hc.distinct hid hp
  upward hid ha hy := by
    obtain ⟨a', ha', -⟩ := hg.placed hid
    rw [arena?_withTree, if_neg (hg.ne_length ha')] at ha
    exact hc.upward hid ha hy

theorem withNew (hc : c.Founded) (hg : c.Grown) (elements : Elements)
    (ha : c.arena? r.tree = some a) (hfree : ∀ id, c.site? id ≠ some (r.tree, r.context))
    (hup : ∀ y, a.parent? r.context = some y →
      ∃ p, r.parent = some p ∧ c.site? p = some (r.tree, y)) :
    (c.withNew elements r).Founded where
  plain ha := hc.plain ha
  distinct {id p s} hid hp := by
    rw [site?_withNew] at hid hp
    split at hid <;> split at hp
    · next hid' hp' => exact hid'.trans hp'.symm
    · cases hid
      exact absurd hp (hfree p)
    · cases hp
      exact absurd hid (hfree id)
    · exact hc.distinct hid hp
  upward {id t x y a'} hid ha' hy := by
    have hold : ∀ q s, c.site? q = some s → (c.withNew elements r).site? q = some s := by
      intro q s hq
      rw [site?_withNew, if_neg (hg.ne_new hq)]
      exact hq
    rw [site?_withNew] at hid
    rw [parentOf_withNew]
    split at hid
    · next hnew =>
        cases hid
        have ha'' : c.arena? r.tree = some a' := ha'
        rw [ha] at ha''
        cases ha''
        obtain ⟨p, hp, hsitep⟩ := hup y hy
        rw [if_pos hnew]
        exact ⟨p, hp, hold p _ hsitep⟩
    · next hnew =>
        obtain ⟨p, hp, hsitep⟩ := hc.upward hid ha' hy
        rw [if_neg hnew]
        exact ⟨p, hp, hold p _ hsitep⟩

/-! ### What operations do to it -/

theorem newRoot (hc : c.Founded) (hg : c.Grown) : (c.newRoot false).1.Founded := by
  obtain ⟨watchers, heq⟩ := newRoot_eq c false
  have hout := samePlaces_withOutside c watchers c.elements
  have hgrown := hg.congr hout.toSameSites
  have hroot : ((c.withOutside watchers c.elements).withTree false).arena? c.trees.length =
      some (.new false) := by
    rw [arena?_withTree]
    exact if_pos rfl
  rw [heq]
  refine ((hc.congr_places hout).withTree hgrown).withNew (hgrown.withTree false) _ hroot
    (fun id hsite => ?_) fun y hy => ?_
  · obtain ⟨a, ha, -⟩ := hg.placed hsite
    exact hg.ne_length ha rfl
  · rw [Arena.parent?_new] at hy
    cases hy

theorem ne_createChild (hg : c.Grown) (ha : c.arena? t = some a)
    (hsite : c.site? p = some (t, y)) : y ≠ (a.createChild x).2 := by
  obtain ⟨a', ha', hy⟩ := hg.placed hsite
  rw [ha] at ha'
  cases ha'
  exact Nat.ne_of_lt (Nat.lt_succ_of_le hy)

theorem child (hc : c.Founded) (hg : c.Grown) (ha : c.arena? t = some a) :
    (c.withArena t (a.createChild x).1).Founded := by
  refine hc.withArena ha ((hc.plain ha).createChild x) fun p y z hsite hz => ?_
  rwa [Arena.parent?_createChild, if_neg (ne_createChild hg ha hsite)] at hz

theorem gone (hc : c.Founded) (ha : c.arena? t = some a) :
    (c.withArena t (a.dispose x).1).Founded :=
  hc.withArena ha ((hc.plain ha).dispose x) fun _ _ _ _ hz => Arena.parent?_dispose hz

theorem entered (hc : c.Founded) (hg : c.Grown) (hr : c.region? id = some r)
    (ha : c.arena? r.tree = some a) (elements : Elements) (target : ElementId) :
    ((c.withArena r.tree (a.createChild r.context).1).withNew elements
      (scopedRegion id r (a.createChild r.context).2 target)).Founded := by
  refine (hc.child hg ha).withNew (hg.child hr ha) elements (a := (a.createChild r.context).1) ?_
    (fun p hsite => ne_createChild (x := r.context) hg ha hsite rfl) fun y hy => ?_
  · exact (arena?_withArena ha _ _).trans (if_pos rfl)
  · have hparent : (a.createChild r.context).1.parent? (a.createChild r.context).2 =
        some r.context := (Arena.parent?_createChild a _ _).trans (if_pos rfl)
    rw [show (scopedRegion id r (a.createChild r.context).2 target).context =
      (a.createChild r.context).2 from rfl, hparent] at hy
    cases hy
    exact ⟨id, rfl, site?_of_region? hr⟩

theorem relocated {above : RegionId} {ra : Region} (hc : c.Founded) (hr : c.region? id = some r)
    (hra : c.region? above = some ra) (htree : r.tree = ra.tree) (ha : c.arena? r.tree = some a)
    (hb : a.updateParent r.context ra.context = .ok b) :
    ((c.withArena r.tree b).withParent id above).Founded where
  plain hb' := by
    have harena := (arena?_withArena ha b _).symm.trans hb'
    split at harena
    · cases harena
      exact (hc.plain ha).updateParent hb
    · exact hc.plain harena
  distinct hid hp := hc.distinct ((site?_withParent _ id above _).symm.trans hid)
    ((site?_withParent _ id above _).symm.trans hp)
  upward {q t x y a'} hq ha' hy := by
    have hsites := site?_withParent (c.withArena r.tree b) id above
    have hbefore : c.site? q = some (t, x) := (hsites q).symm.trans hq
    have harena := (arena?_withArena ha b t).symm.trans ha'
    rw [parentOf_withParent (c := c.withArena r.tree b) hr]
    by_cases hqid : q = id
    · subst hqid
      rw [site?_of_region? hr] at hbefore
      cases hbefore
      rw [if_pos rfl] at harena
      cases harena
      rw [Arena.parent?_updateParent hb, if_pos rfl] at hy
      cases hy
      exact ⟨above, if_pos rfl, (hsites above).trans (htree ▸ site?_of_region? hra)⟩
    · have hold : ∃ p, c.parentOf q = some p ∧ c.site? p = some (t, y) := by
        split at harena
        · next htr =>
            cases harena
            have hne : x ≠ r.context := by
              rintro rfl
              exact hqid (hc.distinct (htr ▸ hbefore) (site?_of_region? hr))
            rw [Arena.parent?_updateParent hb, if_neg hne] at hy
            exact hc.upward (htr ▸ hbefore) ha hy |>.imp fun _ h => ⟨h.1, htr ▸ h.2⟩
        · exact hc.upward hbefore harena hy
      obtain ⟨p, hp, hsitep⟩ := hold
      exact ⟨p, (if_neg hqid).trans hp, (hsites p).trans hsitep⟩

theorem ended (hc : c.Founded) (hr : c.region? id = some r) (ha : c.arena? r.tree = some a) :
    ((c.withArena r.tree (a.dispose r.context).1).withEnd id).Founded := by
  have hgone := hc.gone (x := r.context) ha
  have hparents := parentOf_withEnd (c.withArena r.tree (a.dispose r.context).1) id
  have hsites := site?_withEnd (c.withArena r.tree (a.dispose r.context).1) id
  refine ⟨fun ha' => hgone.plain ha', fun hp hq => ?_, fun {q t x y a'} hq ha' hy => ?_⟩
  · exact hgone.distinct ((hsites _).symm.trans hp) ((hsites _).symm.trans hq)
  · have hbefore := (hsites q).symm.trans hq
    obtain ⟨p, hp, hsitep⟩ := hgone.upward hbefore ha' hy
    refine ⟨p, ?_, (hsites p).trans hsitep⟩
    rw [hparents, if_neg, hp]
    rintro rfl
    -- the context of the region that ends is gone, or it is the root
    have hsite : c.site? q = some (t, x) := hbefore
    rw [site?_of_region? hr] at hsite
    cases hsite
    have harena := (arena?_withArena ha _ _).symm.trans ha'
    rw [if_pos rfl] at harena
    cases harena
    by_cases hroot : r.context = Arena.root
    · have htop := ((hc.plain ha).dispose r.context).top
      rw [← hroot, hy] at htop
      cases htop
    · rw [Arena.parent?, Arena.node?_dispose, if_pos ⟨rfl, hroot⟩] at hy
      cases hy

theorem withValues {f : Fields Json → Fields Json} (hc : c.Founded) (ha : c.arena? t = some a)
    (hf : ∀ m : Fields Json, m.IsSorted → (f m).IsSorted) (x : ContextId) :
    (c.withArena t (a.withValues x f)).Founded :=
  hc.withArena ha ((hc.plain ha).withValues x hf) fun _ y _ _ hz =>
    (Arena.parent?_withValues a x f y).symm.trans hz

end Founded

/-! ### Uses -/

/-- No settings stand behind a tree, and no region is put below itself. -/
def Permits (c : Contexts) : Access → Prop
  | .operate (.newRoot backed) => backed = false
  | .operate (.updateParent id above) =>
    (∃ s, c.updateParent id above = .ok s) → ∀ n, ¬ Climbs c.parentOf above n id
  | _ => True

inductive Tended : Contexts → Prop
  | start (settings : Settings) (elements : Elements) : Tended (start settings elements)
  | step {c : Contexts} {x : Access} (h : Tended c) (hx : c.Permits x) : Tended (c.access x)
  /-- An observer, which is not a region, ends its subscription. -/
  | unsubscribe {c : Contexts} {id : RegionId} {token : Nat} (h : Tended c)
      (hid : ∀ x, (token, .child x) ∉ c.listenersOf id) : Tended (c.unsubscribe id token)

structure Upright (c : Contexts) : Prop where
  grown : c.Grown
  forests : c.AreForests
  founded : c.Founded
  acyclic : Acyclic c.parentOf
  linked : c.calm.Linked

namespace Upright

theorem congr (hc : c.Upright) (h : SamePlaces c d) (hwires : SameWires c d) : d.Upright where
  grown := hc.grown.congr h.toSameSites
  forests := hc.forests.congr h.trees
  founded := hc.founded.congr_places h
  acyclic := hc.acyclic.mono fun x _ hy => (h.parentOf x).symm.trans hy
  linked := hwires.calm_linked hc.linked

theorem fire (hc : c.Upright) (id : RegionId) (keys : List String) : (c.fire id keys).1.Upright :=
  hc.congr (samePlaces_fire c id keys) ((SameWires.refl c).fire id keys)

/-- What is above a region is a region that was there before. -/
theorem ne_of_parentOf (hc : c.Upright) (h : c.parentOf id = some p) : p ≠ c.regions.length := by
  rintro rfl
  rw [← (samePlaces_calm c).parentOf] at h
  obtain ⟨token, hmem⟩ := hc.linked.exists_mem h
  have habsent : c.calm.region? c.regions.length = none := by
    rw [region?_calm, show c.region? c.regions.length = none from hc.grown.regions.lookup_length,
      Option.map_none]
  rw [listenersOf, changesOf, habsent] at hmem
  cases hmem

theorem not_climbs_new (hc : c.Upright) (hid : id ≠ c.regions.length) (n : Nat) :
    ¬ Climbs c.parentOf id n c.regions.length := by
  intro h
  cases h with
  | start => exact hid rfl
  | up _ hp => exact hc.ne_of_parentOf hp rfl

theorem newRoot (hc : c.Upright) : (c.newRoot false).1.Upright := by
  have hgrown := hc.grown.newRoot false
  have hforests := hc.forests.newRoot false
  have hfounded := hc.founded.newRoot hc.grown
  obtain ⟨watchers, heq⟩ := newRoot_eq c false
  have hout := samePlaces_withOutside c watchers c.elements
  rw [heq] at hgrown hforests hfounded ⊢
  refine ⟨hgrown, hforests, hfounded, hc.acyclic.mono fun x y hy => ?_, ?_⟩
  · rw [parentOf_withNew] at hy
    split at hy
    · cases hy
    · exact hy
  · rw [calm_withNew]
    have hlinked : ((c.calm.withOutside watchers c.elements).withTree false).Linked :=
      hc.linked.congr (fun _ => rfl) (fun _ => rfl) fun _ => rfl
    have hcalm := (hc.grown.congr hout.toSameSites).withTree false
    exact hlinked.withNew (hcalm.congr (samePlaces_calm _).toSameSites) c.elements rfl rfl rfl

theorem withArena (hc : c.Upright) {t : Nat} {b : Arena} (hgrown : (c.withArena t b).Grown)
    (hforests : (c.withArena t b).AreForests) (hfounded : (c.withArena t b).Founded) :
    (c.withArena t b).Upright :=
  ⟨hgrown, hforests, hfounded, hc.acyclic, hc.linked.withArena t b⟩

theorem child (hc : c.Upright) (hr : c.region? id = some r) (ha : c.arena? r.tree = some a) :
    (c.withArena r.tree (a.createChild r.context).1).Upright :=
  hc.withArena (hc.grown.child hr ha)
    ((areForests_step_iff hc.grown hc.forests (.child hr ha)).mpr not_false)
    (hc.founded.child hc.grown ha)

theorem gone (hc : c.Upright) (ha : c.arena? t = some a) (x : ContextId) :
    (c.withArena t (a.dispose x).1).Upright :=
  hc.withArena (hc.grown.withArena ha (arenaGrows_dispose x (hc.grown.parent_le ha)))
    ((areForests_step_iff hc.grown hc.forests (@Step.gone c 0 x t a ha)).mpr not_false)
    (hc.founded.gone ha)

theorem createScoped {target : ElementId} {below : RegionId} (hc : c.Upright)
    (h : c.createScoped id target = .ok (d, below)) : d.Upright := by
  have hgrown := hc.grown.createScoped h
  have hforests := (areForests_step_iff hc.grown hc.forests (.entered h)).mpr not_false
  obtain ⟨r, a, elements, hr, -, ha, rfl, rfl⟩ := createScoped_ok h
  have hchild := hc.child hr ha
  have hsame := samePlaces_listenTo ((c.withArena r.tree (a.createChild r.context).1).withNew
    elements (scopedRegion id r (a.createChild r.context).2 target)) c.regions.length id
  refine ⟨hgrown, hforests, (hc.founded.entered hc.grown hr ha elements target).congr_places hsame,
    ?_, ?_⟩
  · rw [funext hsame.parentOf]
    refine (Acyclic.iff_of_agree (x := c.regions.length) (p := id) hc.acyclic (fun y hy => ?_)
      ?_).mpr fun ⟨n, hn⟩ => ?_
    · rw [parentOf_withNew]
      exact if_neg hy
    · rw [parentOf_withNew]
      exact if_pos rfl
    · exact hc.not_climbs_new (Nat.ne_of_lt (hc.grown.regions.lt hr)) n hn
  · rw [calm_listenTo, calm_withNew]
    have hr' : (c.withArena r.tree (a.createChild r.context).1).calm.region? id = some r.calm := by
      rw [region?_calm]
      exact congrArg (Option.map Region.calm) hr
    have hlinked := hchild.linked.entered
      (hchild.grown.congr (samePlaces_calm _).toSameSites) hr' elements
      (s := scopedRegion id r (a.createChild r.context).2 target) rfl rfl rfl
    rwa [show (c.withArena r.tree (a.createChild r.context).1).calm.regions.length =
      c.regions.length from List.length_map _] at hlinked

theorem moved {above : RegionId} {ra : Region} (hc : c.Upright) (hr : c.region? id = some r)
    (hra : c.region? above = some ra) (htree : r.tree = ra.tree) (ha : c.arena? r.tree = some a)
    (hb : a.updateParent r.context ra.context = .ok b)
    (hbelow : ∀ n, ¬ Climbs c.parentOf above n id) :
    (((c.withArena r.tree b).withParent id above).listenTo id above).Upright := by
  have hlisten := samePlaces_listenTo ((c.withArena r.tree b).withParent id above) id above
  have hparents := parentOf_moved hr above r.tree b
  refine ⟨hc.grown.moved hra htree ha hb, ?_, ?_, ?_, ?_⟩
  · refine AreForests.congr ?_ hlisten.trees
    refine (hc.forests.withArena_iff ha b).mpr ?_
    have hmoved := Arena.isForest_apply_iff (hc.forests r.tree a ha)
      (.updateParent r.context ra.context)
    rw [Arena.apply, hb] at hmoved
    refine hmoved.mpr ?_
    -- the way up through the contexts is one through the regions
    rintro ⟨-, n, hn⟩
    obtain ⟨p, hp, hsite⟩ := hc.founded.climbs_regions (htree ▸ site?_of_region? hra) ha hn
    cases hc.founded.distinct hsite (site?_of_region? hr)
    exact hbelow n hp
  · exact (hc.founded.relocated hr hra htree ha hb).congr_places hlisten
  · refine (Acyclic.iff_of_agree (x := id) (p := above) hc.acyclic (fun y hy => ?_) ?_).mpr
      fun hclimbs => hclimbs.elim hbelow
    · rw [hparents, if_neg hy]
    · rw [hparents, if_pos rfl]
  · have hcalm := region?_calm (c.withArena r.tree b)
    have hr' : (c.withArena r.tree b).calm.region? id = some r.calm :=
      (hcalm id).trans (congrArg (Option.map Region.calm) hr)
    have hra' : (c.withArena r.tree b).calm.region? above = some ra.calm :=
      (hcalm above).trans (congrArg (Option.map Region.calm) hra)
    rw [calm_listenTo, withParent, calm_withRegion (g := fun r => { r with parent := some above })
      _ _ fun _ => rfl]
    exact (hc.linked.withArena r.tree b).relocated hr' hra'

theorem ended (hc : c.Upright) (hr : c.region? id = some r) (ha : c.arena? r.tree = some a)
    (watchers : Emitter SettingsListener) (elements : Elements) :
    ((((c.forget r.feed).withOutside watchers elements).withArena r.tree
      (a.dispose r.context).1).withEnd id).Upright := by
  have hsame : SamePlaces c ((c.forget r.feed).withOutside watchers elements) :=
    (samePlaces_forget c r.feed).trans (samePlaces_withOutside _ watchers elements)
  have hforests :=
    (areForests_step_iff hc.grown hc.forests (.ended watchers elements hr ha)).mpr not_false
  obtain ⟨r', hr', hsite⟩ := Option.map_eq_some_iff.mp
    ((hsame.site? id).trans (site?_of_region? hr))
  obtain ⟨htree, hcontext⟩ := Prod.mk.inj hsite
  refine ⟨hc.grown.ended ha watchers elements _ id, hforests, ?_, ?_, ?_⟩
  · have hended := (hc.founded.congr_places hsame).ended (a := a) hr'
      (htree ▸ (arena?_congr hsame.trees r.tree).trans ha)
    rwa [htree, hcontext] at hended
  · refine hc.acyclic.mono fun x y hy => ?_
    rw [parentOf_withEnd] at hy
    split at hy
    · cases hy
    · exact (hsame.parentOf x).symm.trans hy
  · have hcalm : c.calm.region? id = some r.calm := by rw [region?_calm, hr, Option.map_some]
    rw [withEnd, calm_withRegion (g := fun r => { r with disposed := true, feed := none, parent := none })
      _ _ fun _ => rfl]
    have hended := hc.linked.ended hcalm watchers elements r.tree (a.dispose r.context).1
    rw [show r.calm.feed = r.feed from rfl, ← calm_forget] at hended
    exact hended

theorem withValues (hc : c.Upright) (ha : c.arena? t = some a) {f : Fields Json → Fields Json}
    (hf : ∀ m : Fields Json, m.IsSorted → (f m).IsSorted) (x : ContextId) :
    (c.withArena t (a.withValues x f)).Upright :=
  hc.withArena (hc.grown.withArena ha (arenaGrows_withValues x f (hc.grown.parent_le ha)))
    (hc.forests.withArena ha
      ((Arena.isForest_congr (Arena.parent?_withValues a x f)).mpr (hc.forests _ a ha)))
    (hc.founded.withValues ha hf x)

theorem observe (hc : c.Upright) (id : RegionId) (name : String) :
    (c.observe id name).1.Upright := by
  have hsame := samePlaces_observe c id name
  refine ⟨hc.grown.congr hsame.toSameSites, hc.forests.congr hsame.trees,
    hc.founded.congr_places hsame, hc.acyclic.mono fun x _ hy => (hsame.parentOf x).symm.trans hy,
    ?_⟩
  rw [calm_observe]
  exact hc.linked.observe id name

theorem of_step {op : Operation} {s : Contexts × List Notice} (hc : c.Upright) (h : Step c op s)
    (hop : c.Permits (.operate op)) : s.1.Upright := by
  cases h with
  | refused => exact hc
  | newRoot backed =>
      have hbacked : backed = false := hop
      subst hbacked
      exact hc.newRoot
  | child hr ha => exact hc.child hr ha
  | gone ha => exact hc.gone ha _
  | entered h => exact hc.createScoped h
  | moved h =>
      have hbelow := hop ⟨_, h⟩
      obtain ⟨r, ra, a, b, hr, hra, -, -, htree, ha, hb, rfl⟩ := updateParent_ok h
      exact (hc.moved hr hra htree ha hb hbelow).fire _ _
  | ended watchers elements hr ha => exact hc.ended hr ha watchers elements
  | written hwrites _ _ ha => exact (hc.withValues ha hwrites.sorted _).fire _ _
  | observed id name => exact hc.observe id name
  | held =>
      exact hc.congr ⟨⟨rfl, fun h => h, fun _ => rfl⟩, fun _ => rfl, fun _ => rfl⟩
        ⟨fun _ => rfl, fun _ => rfl, fun _ => rfl⟩

theorem withSettings (hc : c.Upright) (settings : Settings) : (c.withSettings settings).Upright :=
  hc.congr ⟨⟨rfl, fun h => h, fun _ => rfl⟩, fun _ => rfl, fun _ => rfl⟩
    ⟨fun _ => rfl, fun _ => rfl, fun _ => rfl⟩

/-- Nothing is known of the settings, so there is nothing to forget. -/
theorem tellSettings_fst (hc : c.Upright) (change : SettingsChange) :
    (c.tellSettings change).1 = c := by
  rw [tellSettings_eq]
  refine kept_foldl (fun s : Contexts × List Notice => s.1 = c) (fun s l hs => ?_) rfl
    c.watchers.listeners
  rcases tellWatcher_cases s.1 change l.2 s.2 with heq | ⟨id, r, a, -, ha, heq⟩
  · exact heq.trans hs
  · refine heq.trans ?_
    rw [hs] at ha ⊢
    rw [forgetting, (hc.founded.plain ha).settingsChanged, withArena_self hc.grown ha]
    rfl

theorem edit (hc : c.Upright) (e : Settings.Edit) : (c.edit e).Upright := by
  rcases edit_cases c e with ⟨change, -, heq⟩ | ⟨-, heq⟩
  · have hd := hc.withSettings (c.settings.edit e).1
    rw [heq, hd.tellSettings_fst]
    exact hd
  · rw [heq]
    exact hc

theorem noteLookups_eq (hc : c.Upright) (t : Nat) (context : Option ContextId)
    (keys : List String) : c.noteLookups t context keys = c := by
  rcases noteLookups_cases c t context keys with heq | ⟨a, x, ha, heq⟩
  · exact heq
  · rw [heq, (hc.founded.plain ha).rememberAll, withArena_self hc.grown ha]

theorem read_eq (hc : c.Upright) (r : Read) : c.read r = c := by
  refine read_induction (P := (· = c)) (fun d t context keys hd => ?_) rfl r
  rw [hd]
  exact hc.noteLookups_eq t context keys

theorem withFocus (hc : c.Upright) (t : Nat) (target : Option ElementId) :
    (c.withFocus t target).Upright where
  grown := hc.grown.withFocus t target
  forests s a ha := hc.forests s a ((arena?_withFocus c t target s).symm.trans ha)
  founded := hc.founded.congr (arena?_withFocus c t target) (fun _ => rfl) fun _ => rfl
  acyclic := hc.acyclic
  linked := hc.linked.congr (fun _ => rfl) (fun _ => rfl) fun _ => rfl

theorem pause (hc : c.Upright) (id : RegionId) : (c.pause id).Upright :=
  hc.congr (samePlaces_withRegion c id (fun _ => rfl) (fun _ => rfl) fun _ => rfl)
    ((SameWires.refl c).pause id)

theorem resume (hc : c.Upright) (id : RegionId) : (c.resume id).1.Upright :=
  hc.congr (resume_induction (fun d x changes hd => hd.trans (samePlaces_withChanges d x changes))
    (.refl c) id) ((SameWires.refl c).resume id)

theorem access {x : Access} (hc : c.Upright) (hx : c.Permits x) : (c.access x).Upright := by
  cases x with
  | operate op => exact hc.of_step (hc.grown.step op) hx
  | edit e => exact hc.edit e
  | watch | arrange =>
      exact hc.congr ⟨⟨rfl, fun h => h, fun _ => rfl⟩, fun _ => rfl, fun _ => rfl⟩
        ⟨fun _ => rfl, fun _ => rfl, fun _ => rfl⟩
  | pause id => exact hc.pause id
  | resume id => exact hc.resume id
  | focus id target =>
      rcases focus_cases c id target with heq | ⟨t, heq⟩
      · rw [Contexts.access, heq]
        exact hc
      · rw [Contexts.access, heq]
        exact hc.withFocus t target
  | read r =>
      rw [Contexts.access, hc.read_eq]
      exact hc

theorem unsubscribe {token : Nat} (hc : c.Upright)
    (hid : ∀ x, (token, .child x) ∉ c.listenersOf id) : (c.unsubscribe id token).Upright := by
  have hplaces := samePlaces_forget c (some (id, token))
  refine ⟨hc.grown.congr hplaces.toSameSites, hc.forests.congr hplaces.trees,
    hc.founded.congr_places hplaces,
    hc.acyclic.mono fun x _ hy => (hplaces.parentOf x).symm.trans hy, ?_⟩
  have hcalm : (c.unsubscribe id token).calm = c.calm.unsubscribe id token :=
    calm_forget c (some (id, token))
  rw [hcalm]
  exact hc.linked.unsubscribe fun x => by rw [listenersOf_calm]; exact hid x

end Upright

theorem upright_start (settings : Settings) (elements : Elements) :
    (start settings elements).Upright where
  grown := grown_start settings elements
  forests := by
    intro t a ha
    cases ha
  founded := ⟨nofun, nofun, nofun⟩
  acyclic x n h := by
    obtain ⟨y, hy, -⟩ := h.above
    cases hy
  linked :=
    { idle := fun _ => rfl
      numbered := fun _ => ⟨.nil, nofun⟩
      fed := ⟨nofun, nofun⟩
      parent := fun _ => rfl }

theorem Tended.upright (hc : c.Tended) : c.Upright := by
  induction hc with
  | start settings elements => exact upright_start settings elements
  | step _ hx ih => exact ih.access hx
  | unsubscribe _ hid ih => exact ih.unsubscribe hid

end Contexts

end Shortcuts
