import Shortcuts.Proofs.Context.Loops
import Shortcuts.Proofs.Context.Values

/-!
Regions over contexts. Every region that has not ended has a context of its own, and the parent of
that context is the context of the region above, so the way up through the contexts is the way up
through the regions.
-/

namespace Shortcuts

namespace Contexts

variable {c d : Contexts} {id p : RegionId} {t : Nat} {a b : Arena} {x y : ContextId}

/-- How a region goes with the arena of its tree, where `x` is its context. -/
structure Fits (c : Contexts) (id : RegionId) (t : Nat) (a : Arena) (x : ContextId) : Prop where
  here : c.isDisposed id = false → a.contains x = true
  gone : c.isDisposed id = true →
    c.parentOf id = none ∧ (x ≠ Arena.root → a.contains x = false)
  up : ∀ {p}, c.parentOf id = some p → ∃ y, c.site? p = some (t, y) ∧ a.parent? x = some y
  top : c.isDisposed id = false → c.parentOf id = none → a.parent? x = none

structure Settled (c : Contexts) : Prop where
  plain : ∀ {t a}, c.arena? t = some a → a.IsPlain
  distinct : ∀ {id p s}, c.site? id = some s → c.site? p = some s → id = p
  fits : ∀ {id t x a}, c.site? id = some (t, x) → c.arena? t = some a → c.Fits id t a x

theorem Fits.mono (h : c.Fits id t a x) (hcontains : b.contains x = a.contains x)
    (hparent : b.parent? x = a.parent? x) (hsite : ∀ p s, c.site? p = some s → d.site? p = some s)
    (habove : d.parentOf id = c.parentOf id) (hdisposed : d.isDisposed id = c.isDisposed id) :
    d.Fits id t b x where
  here hd := by
    rw [hdisposed] at hd
    rw [hcontains]
    exact h.here hd
  gone hd := by
    rw [hdisposed] at hd
    rw [habove, hcontains]
    exact h.gone hd
  up hp := by
    rw [habove] at hp
    obtain ⟨y, hy, hxy⟩ := h.up hp
    exact ⟨y, hsite _ _ hy, hparent.trans hxy⟩
  top hd hp := by
    rw [hdisposed] at hd
    rw [habove] at hp
    exact hparent.trans (h.top hd hp)

/-! ### The way up -/

namespace Settled

/-- A step up from a region is one from its context. -/
theorem climbs_contexts {n : Nat} (hc : c.Settled) (h : Climbs c.parentOf id n p)
    (hsite : c.site? id = some (t, x)) (ha : c.arena? t = some a) :
    ∃ y, c.site? p = some (t, y) ∧ Climbs a.parent? x n y := by
  induction h with
  | start => exact ⟨x, hsite, .start x⟩
  | up _ hp ih =>
      obtain ⟨y, hy, hclimb⟩ := ih
      obtain ⟨z, hz, hyz⟩ := (hc.fits hy ha).up hp
      exact ⟨z, hz, hclimb.up hyz⟩

theorem acyclic (hc : c.Settled) (hg : c.Grown) (hforests : c.AreForests) :
    Acyclic c.parentOf := by
  intro id n hloop
  obtain ⟨p, hp, -⟩ := hloop.above
  obtain ⟨r, hr, -⟩ := Option.bind_eq_some_iff.mp hp
  have hsite := site?_of_region? hr
  obtain ⟨a, ha, -⟩ := hg.placed hsite
  obtain ⟨y, hy, hclimb⟩ := hc.climbs_contexts hloop hsite ha
  rw [hsite] at hy
  cases hy
  exact hforests _ a ha r.context n hclimb

/-- Where a region has ended its context is gone, unless it is a root, so nothing is above it. -/
theorem parent?_of_disposed (hc : c.Settled) (hsite : c.site? id = some (t, x))
    (ha : c.arena? t = some a) (hid : c.isDisposed id = true) : a.parent? x = none := by
  by_cases hroot : x = Arena.root
  · rw [hroot]
    exact (hc.plain ha).top
  · have habsent := ((hc.fits hsite ha).gone hid).2 hroot
    cases hparent : a.parent? x with
    | none => rfl
    | some y =>
        rw [Arena.contains_of_parent? hparent] at habsent
        cases habsent

/-- From the context of a region to that of another one it is as far as between the regions: the
contexts passed are those of regions that have not ended. -/
theorem climbs_regions {n : Nat} (hc : c.Settled) (hsite : c.site? id = some (t, x))
    (hid : c.isDisposed id = false) (hy : c.site? p = some (t, y)) (hp : c.isDisposed p = false)
    (ha : c.arena? t = some a) (h : Climbs a.parent? x n y) : Climbs c.parentOf id n p := by
  induction n generalizing id x with
  | zero =>
      cases h
      rw [hc.distinct hy hsite]
      exact .start id
  | succ n ih =>
      obtain ⟨z, hz, hclimb⟩ := h.above
      have hfits := hc.fits hsite ha
      cases hq : c.parentOf id with
      | none =>
          rw [hfits.top hid hq] at hz
          cases hz
      | some q =>
          obtain ⟨z', hsiteq, hz'⟩ := hfits.up hq
          rw [hz] at hz'
          cases hz'
          cases hdisposed : c.isDisposed q with
          | false => exact (ih hsiteq hdisposed hclimb).of_above hq
          | true =>
              -- no climb goes on from there
              have hend := hc.parent?_of_disposed hsiteq ha hdisposed
              cases n with
              | zero =>
                  cases hclimb
                  rw [hc.distinct hy hsiteq, hdisposed] at hp
                  cases hp
              | succ n =>
                  obtain ⟨w, hw, -⟩ := hclimb.above
                  rw [hend] at hw
                  cases hw

/-! ### Changes that keep it so -/

theorem congr (hc : c.Settled) (h : SamePlaces c d) : d.Settled where
  plain ha := hc.plain ((arena?_congr h.trees _).symm.trans ha)
  distinct hid hp := hc.distinct ((h.site? _).symm.trans hid) ((h.site? _).symm.trans hp)
  fits {id t x a} hsite ha := by
    have hbefore : c.site? id = some (t, x) := (h.site? id).symm.trans hsite
    have harena : c.arena? t = some a := (arena?_congr h.trees t).symm.trans ha
    exact (hc.fits hbefore harena).mono rfl rfl (fun p s hs => (h.site? p).trans hs)
      (h.parentOf id) (h.isDisposed id)

theorem withTree (hc : c.Settled) (hg : c.Grown) : (c.withTree false).Settled where
  plain ha := by
    rw [arena?_withTree] at ha
    split at ha
    · cases ha
      exact .new
    · exact hc.plain ha
  distinct hid hp := hc.distinct hid hp
  fits hsite ha := by
    obtain ⟨a', ha', -⟩ := hg.placed hsite
    rw [arena?_withTree, if_neg (hg.ne_length ha')] at ha
    exact (hc.fits hsite ha).mono rfl rfl (fun _ _ hs => hs) rfl rfl

/-- An arena may change where no region has its context. -/
theorem withArena (hc : c.Settled) (ha : c.arena? t = some a) (hb : b.IsPlain)
    (hsame : ∀ id x, c.site? id = some (t, x) →
      b.contains x = a.contains x ∧ b.parent? x = a.parent? x) : (c.withArena t b).Settled where
  plain hb' := by
    rw [arena?_withArena ha] at hb'
    split at hb'
    · cases hb'
      exact hb
    · exact hc.plain hb'
  distinct hid hp := hc.distinct hid hp
  fits {id s x a'} hsite ha' := by
    rw [arena?_withArena ha] at ha'
    split at ha'
    · next hs =>
        subst hs
        cases ha'
        obtain ⟨hcontains, hparent⟩ := hsame id x hsite
        exact (hc.fits hsite ha).mono hcontains hparent (fun _ _ h => h) rfl rfl
    · exact (hc.fits hsite ha').mono rfl rfl (fun _ _ h => h) rfl rfl

theorem withNew {r : Region} (hc : c.Settled) (hg : c.Grown) (elements : Elements)
    (ha : c.arena? r.tree = some a) (hdisposed : r.disposed = false)
    (hfree : ∀ id, c.site? id ≠ some (r.tree, r.context)) (hhere : a.contains r.context = true)
    (hup : ∀ p, r.parent = some p →
      ∃ y, c.site? p = some (r.tree, y) ∧ a.parent? r.context = some y)
    (htop : r.parent = none → a.parent? r.context = none) : (c.withNew elements r).Settled where
  plain ha := hc.plain ha
  distinct {id p s} hid hp := by
    rw [site?_withNew] at hid hp
    split at hid <;> split at hp
    · next hid' hp' => exact hid'.trans hp'.symm
    · cases hid
      exact absurd hp (hfree p)
    · cases hp
      exact absurd hid (hfree id)
    · exact hc.distinct hid hp
  fits {id t x a'} hsite ha' := by
    have hsites : ∀ p s, c.site? p = some s → (c.withNew elements r).site? p = some s := by
      intro p s hs
      rw [site?_withNew, if_neg (hg.ne_new hs)]
      exact hs
    rw [site?_withNew] at hsite
    split at hsite
    · next hid =>
        cases hsite
        have ha'' : c.arena? r.tree = some a' := ha'
        rw [ha] at ha''
        cases ha''
        have hdis := isDisposed_withNew c elements r id
        have hparent := parentOf_withNew c elements r id
        rw [if_pos hid] at hdis hparent
        refine ⟨fun _ => hhere, fun hd => ?_, fun hp => ?_, fun _ hp => ?_⟩
        · rw [hdis, hdisposed] at hd
          cases hd
        · rw [hparent] at hp
          obtain ⟨y, hy, hxy⟩ := hup _ hp
          exact ⟨y, hsites _ _ hy, hxy⟩
        · rw [hparent] at hp
          exact htop hp
    · next hid =>
        exact (hc.fits hsite ha').mono rfl rfl hsites
          ((parentOf_withNew c elements r id).trans (if_neg hid))
          ((isDisposed_withNew c elements r id).trans (if_neg hid))

/-- A region may change together with its context. -/
theorem change (hc : c.Settled) (hplace : c.site? id = some (t, x)) (ha : c.arena? t = some a)
    (hb : b.IsPlain) (hsame : ∀ y, y ≠ x → b.node? y = a.node? y)
    (hsites : ∀ p, d.site? p = c.site? p)
    (harenas : ∀ s, d.arena? s = if s = t then some b else c.arena? s)
    (hparent : ∀ p, p ≠ id → d.parentOf p = c.parentOf p)
    (hdisposed : ∀ p, p ≠ id → d.isDisposed p = c.isDisposed p)
    (hfits : d.Fits id t b x) : d.Settled where
  plain ha' := by
    rw [harenas] at ha'
    split at ha'
    · cases ha'
      exact hb
    · exact hc.plain ha'
  distinct hp hq := hc.distinct ((hsites _).symm.trans hp) ((hsites _).symm.trans hq)
  fits {p s y a'} hsite ha' := by
    have hbefore : c.site? p = some (s, y) := (hsites p).symm.trans hsite
    have hkept : ∀ q s, c.site? q = some s → d.site? q = some s :=
      fun q _ hq => (hsites q).trans hq
    by_cases hp : p = id
    · subst hp
      rw [hplace] at hbefore
      cases hbefore
      rw [harenas, if_pos rfl] at ha'
      cases ha'
      exact hfits
    · rw [harenas] at ha'
      split at ha'
      · next hs =>
          subst hs
          cases ha'
          have hy : y ≠ x := by
            rintro rfl
            exact hp (hc.distinct hbefore hplace)
          have hnode := hsame y hy
          refine (hc.fits hbefore ha).mono ?_ ?_ hkept (hparent p hp) (hdisposed p hp)
          · rw [Arena.contains, hnode, Arena.contains]
          · rw [Arena.parent?, hnode, Arena.parent?]
      · exact (hc.fits hbefore ha').mono rfl rfl hkept (hparent p hp) (hdisposed p hp)

/-! ### Operations -/

theorem newRoot (hc : c.Settled) (hg : c.Grown) : (c.newRoot false).1.Settled := by
  obtain ⟨watchers, heq⟩ := newRoot_eq c false
  have hout := samePlaces_withOutside c watchers c.elements
  have hgrown := hg.congr hout.toSameSites
  have hroot : ((c.withOutside watchers c.elements).withTree false).arena? c.trees.length =
      some (.new false) := by
    rw [arena?_withTree]
    exact if_pos rfl
  have hfree : ∀ id, c.site? id ≠ some (c.trees.length, Arena.root) := by
    intro id hsite
    obtain ⟨a, ha, -⟩ := hg.placed hsite
    exact hg.ne_length ha rfl
  rw [heq]
  refine ((hc.congr hout).withTree hgrown).withNew (hgrown.withTree false) _ hroot rfl hfree rfl
    (fun p hp => ?_) fun _ => rfl
  cases hp

theorem entered {r : Region} (hc : c.Settled) (hg : c.Grown) (hr : c.region? id = some r)
    (ha : c.arena? r.tree = some a) (elements : Elements) (target : ElementId) :
    ((c.withArena r.tree (a.createChild r.context).1).withNew elements
      (scopedRegion id r (a.createChild r.context).2 target)).Settled := by
  -- the context of no region there has the new number
  have hfree : ∀ p y, c.site? p = some (r.tree, y) → y ≠ (a.createChild r.context).2 := by
    intro p y hsite heq
    obtain ⟨a', ha', hy⟩ := hg.placed hsite
    rw [ha] at ha'
    cases ha'
    rw [heq] at hy
    exact Nat.not_succ_le_self _ hy
  have hchild : (c.withArena r.tree (a.createChild r.context).1).Settled := by
    refine hc.withArena ha ((hc.plain ha).createChild r.context) fun p y hsite => ?_
    have hne := hfree p y hsite
    rw [Arena.contains, Arena.node?_createChild, Arena.parent?_createChild, if_neg hne,
      if_neg hne]
    exact ⟨rfl, rfl⟩
  refine hchild.withNew (hg.child hr ha) elements (a := (a.createChild r.context).1) ?_ rfl ?_ ?_
    ?_ ?_
  · exact (arena?_withArena ha _ _).trans (if_pos rfl)
  · exact fun p hsite => hfree p _ hsite rfl
  · rw [Arena.contains, Arena.node?_createChild]
    exact congrArg Option.isSome (if_pos rfl)
  · intro p hp
    cases hp
    refine ⟨r.context, site?_of_region? hr, ?_⟩
    rw [Arena.parent?_createChild]
    exact if_pos rfl
  · rintro ⟨⟩

theorem relocated {above : RegionId} {r ra : Region} (hc : c.Settled)
    (hr : c.region? id = some r) (hra : c.region? above = some ra) (hdisposed : r.disposed = false)
    (htree : r.tree = ra.tree) (ha : c.arena? r.tree = some a)
    (hb : a.updateParent r.context ra.context = .ok b) :
    ((c.withArena r.tree b).withParent id above).Settled := by
  have hsites := site?_withParent (c.withArena r.tree b) id above
  have hlives := isDisposed_withParent (c.withArena r.tree b) id above
  have hparents : ∀ p, ((c.withArena r.tree b).withParent id above).parentOf p =
      if p = id then some above else c.parentOf p :=
    parentOf_withParent (c := c.withArena r.tree b) hr
  refine hc.change (site?_of_region? hr) ha ((hc.plain ha).updateParent hb) (fun y hy => ?_) hsites
    (arena?_withArena ha b) (fun p hp => ?_) (fun p _ => hlives p) ?_
  · rw [Arena.node?_updateParent hb, if_neg hy]
  · rw [hparents, if_neg hp]
  · have hid : ((c.withArena r.tree b).withParent id above).isDisposed id = false :=
      (hlives id).trans ((isDisposed_of_region? hr).trans hdisposed)
    refine ⟨fun _ => ?_, fun hd => ?_, fun hp => ?_, fun _ hp => ?_⟩
    · obtain ⟨-, -, hhere, -⟩ := Arena.updateParent_ok hb
      exact (Arena.contains_updateParent hb r.context).trans hhere
    · rw [hid] at hd
      cases hd
    · rw [hparents, if_pos rfl] at hp
      cases hp
      refine ⟨ra.context, ?_, ?_⟩
      · rw [hsites, htree]
        exact site?_of_region? hra
      · rw [Arena.parent?_updateParent hb]
        exact if_pos rfl
    · rw [hparents, if_pos rfl] at hp
      cases hp

theorem ended (hc : c.Settled) (hsite : c.site? id = some (t, x)) (ha : c.arena? t = some a) :
    ((c.withArena t (a.dispose x).1).withEnd id).Settled := by
  have hparents := parentOf_withEnd (c.withArena t (a.dispose x).1) id
  have hlives := isDisposed_withEnd (c.withArena t (a.dispose x).1) id
  refine hc.change hsite ha ((hc.plain ha).dispose x) (fun y hy => ?_)
    (site?_withEnd (c.withArena t (a.dispose x).1) id) (arena?_withArena ha _)
    (fun p hp => (hparents p).trans (if_neg hp)) (fun p hp => (hlives p).trans (if_neg hp)) ?_
  · rw [Arena.node?_dispose, if_neg fun h => hy h.1]
  · have hparent := (hparents id).trans (if_pos rfl)
    have hend := (hlives id).trans (if_pos rfl)
    refine ⟨fun hd => ?_, fun _ => ⟨hparent, fun hroot => ?_⟩, fun hp => ?_, fun hd => ?_⟩
    · rw [hend] at hd
      cases hd
    · rw [Arena.contains, Arena.node?_dispose, if_pos ⟨rfl, hroot⟩]
      rfl
    · rw [hparent] at hp
      cases hp
    · rw [hend] at hd
      cases hd

theorem withValues {f : Fields Json → Fields Json} (hc : c.Settled) (ha : c.arena? t = some a)
    (hf : ∀ m : Fields Json, m.IsSorted → (f m).IsSorted) (x : ContextId) :
    (c.withArena t (a.withValues x f)).Settled := by
  refine hc.withArena ha ((hc.plain ha).withValues x hf) fun _ y _ => ?_
  exact ⟨Arena.contains_withValues a x f y, Arena.parent?_withValues a x f y⟩

end Settled

end Contexts

end Shortcuts
