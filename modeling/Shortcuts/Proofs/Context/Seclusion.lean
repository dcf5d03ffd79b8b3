import Shortcuts.Proofs.Context.Announcement
import Shortcuts.Proofs.Context.Calm
import Shortcuts.Proofs.Context.Placement
import Shortcuts.Proofs.Context.Transparency

/-!
The root of a tree over the settings by itself. It watches the settings once, no other watcher is
at its tree, and it listens to no region. So what it announces when the settings change does not
depend on what is announced at other regions.
-/

namespace Shortcuts

namespace Contexts

variable {c d : Contexts} {id p x : RegionId} {r : Region} {t : Nat} {a : Arena}
  {name : String} {keys : List String} {heard told : List Notice}

/-! ### Regions that listen to none -/

def IsDeaf (c : Contexts) (id : RegionId) : Prop := ∀ p token, (token, .child id) ∉ c.listenersOf p

theorem IsDeaf.of_emitters (h : c.IsDeaf id)
    (hd : ∀ p, (d.changesOf p).emitter = (c.changesOf p).emitter) : d.IsDeaf id := by
  intro p token hmem
  rw [listenersOf, hd] at hmem
  exact h p token hmem

theorem mem_listenersOf_listenTo {above q : RegionId} {token : Nat}
    (h : (token, .child q) ∈ (c.listenTo x above).listenersOf p) :
    (token, .child q) ∈ c.listenersOf p ∨ q = x := by
  cases hr : c.region? x with
  | none =>
      rw [listenTo_of_absent (.inl hr)] at h
      exact .inl h
  | some r =>
      cases ha : c.region? above with
      | none =>
          rw [listenTo_of_absent (.inr ha)] at h
          exact .inl h
      | some a =>
          rw [listenersOf, changesOf_listenTo hr ha] at h
          have hsubscribed := ((mem_listenersOf_forget _).mp h).1
          rcases (mem_listenersOf_subscribe ha).mp hsubscribed with hold | ⟨-, -, hnew⟩
          · exact .inl hold
          · cases hnew
            exact .inr rfl

/-- A region that begins to listen has a context below the root of its tree. -/
theorem listens_of_step {op : Operation} {s : Contexts × List Notice} (hc : c.Grown)
    (hstep : Step c op s) {q : RegionId} {token : Nat}
    (h : (token, .child q) ∈ s.1.listenersOf p) :
    (token, .child q) ∈ c.listenersOf p ∨
      ∃ t y, s.1.site? q = some (t, y) ∧ y ≠ Arena.root := by
  cases hstep with
  | refused | child | gone | held => exact .inl h
  | newRoot backed =>
      obtain ⟨watchers, heq⟩ := newRoot_eq c backed
      have hsame := (samePlaces_withOutside c watchers c.elements).toSameSites
      rw [heq, listenersOf, changesOf_withNew ((hc.congr hsame).withTree backed) _ rfl] at h
      exact .inl h
  | entered hs =>
      obtain ⟨r, a, elements, hr, -, ha, hnew, heq⟩ := createScoped_ok hs
      rw [heq] at h ⊢
      rcases mem_listenersOf_listenTo h with hold | rfl
      · rw [listenersOf, changesOf_withNew (hc.child hr ha) elements rfl] at hold
        exact .inl hold
      · refine .inr ⟨r.tree, (a.createChild r.context).2, ?_, Nat.succ_ne_zero _⟩
        rw [(samePlaces_listenTo _ _ _).site?, site?_withNew]
        exact if_pos hnew
  | @moved x above _ hs =>
      obtain ⟨r, ra, a, b, hr, -, -, hroot, -, -, -, rfl⟩ := updateParent_ok hs
      have hplaces := samePlaces_fire (((c.withArena r.tree b).withParent x above).listenTo x above)
        x (differences (a.collect r.context) (b.collect r.context))
      rw [listenersOf, ((SameWires.refl _).fire _ _).emitters] at h
      rcases mem_listenersOf_listenTo h with hold | rfl
      · rw [listenersOf, changesOf_withParent] at hold
        exact .inl hold
      · refine .inr ⟨r.tree, r.context, ?_, hroot⟩
        rw [hplaces.site?, (samePlaces_listenTo _ _ _).site?]
        exact (site?_withParent _ q above q).trans (site?_of_region? hr)
  | @ended x r a watchers elements hr ha =>
      rw [listenersOf, changesOf_withEnd] at h
      exact .inl ((mem_listenersOf_forget r.feed).mp h).1
  | written =>
      rw [listenersOf, ((SameWires.refl _).fire _ _).emitters] at h
      exact .inl h
  | observed x name =>
      cases hr : c.region? x with
      | none =>
          rw [observe, hr] at h
          exact .inl h
      | some r =>
          rw [observe_eq hr] at h
          rcases (mem_listenersOf_subscribe hr).mp h with hold | ⟨-, -, hnew⟩
          · exact .inl hold
          · cases hnew

/-! ### What is announced elsewhere -/

/-- Tells one of those who listen to a region. -/
def passOn (fuel : Nat) (keys : List String) (l : ChangeListener) :
    Contexts × List Notice → Contexts × List Notice
  | (c, told) =>
    match l with
    | .observer name => (c, told ++ [.context name keys])
    | .child id => if c.isHeld id then announce fuel id keys (c, told) else (c, told)

theorem announce_of_region? (hr : c.region? p = some r) (fuel : Nat) (keys : List String)
    (told : List Notice) : announce (fuel + 1) p keys (c, told) =
      (r.changes.offer keys).2.foldl
        (fun s keys => r.changes.emitter.deliver (passOn fuel keys) s)
        (c.withChanges p (r.changes.offer keys).1, told) := by
  rw [announce]
  dsimp only
  rw [hr]
  simp only [r.changes.emitter_offer]
  rfl

/-- Nothing has happened at a region since it was in a state, and those who observe it and no other
one have heard no more than some notices. -/
structure Aside (c : Contexts) (id : RegionId) (heard : List Notice)
    (s : Contexts × List Notice) : Prop where
  wires : SameWires c s.1
  changes : s.1.changesOf id = c.changesOf id
  told : ∀ name, c.ListensOnlyAt name id →
    s.2.filter (Notice.isTo name) = heard.filter (Notice.isTo name)

/-- What a listener hears at once. -/
def heardBy (keys : List String) : ChangeListener → List Notice
  | .observer name => [.context name keys]
  | .child _ => []

theorem filter_heardBy (listeners : List (Nat × ChangeListener)) (name : String) :
    (listeners.flatMap fun l => heardBy keys l.2).filter (Notice.isTo name) =
      List.replicate (listeners.countP fun l => decide (l.2 = .observer name))
        (.context name keys) := by
  induction listeners with
  | nil => rfl
  | cons l listeners ih =>
      obtain ⟨token, l⟩ := l
      rw [List.flatMap_cons, List.filter_append, ih, List.countP_cons]
      cases l with
      | observer other =>
          by_cases hother : other = name
          · simp [heardBy, Notice.isTo, hother, List.replicate_succ]
          · simp [heardBy, Notice.isTo, hother]
      | child x => simp [heardBy]

namespace Aside

variable {s : Contexts × List Notice}

theorem withArena (h : Aside c id heard (d, told)) (t : Nat) (a : Arena) :
    Aside c id heard (d.withArena t a, told) :=
  ⟨h.wires.trans (.of_regions rfl), h.changes, h.told⟩

theorem observer (h : Aside c id heard s) (fuel : Nat) (keys : List String) (name : String) :
    Aside c id (heard ++ [.context name keys]) (passOn fuel keys (.observer name) s) := by
  refine ⟨h.wires, h.changes, fun other honly => ?_⟩
  rw [passOn, List.filter_append, List.filter_append, h.told other honly]

/-- What is announced at another region does not come to one that listens to none. -/
theorem announce (h : Aside c id heard s) (hdeaf : c.IsDeaf id) (fuel : Nat) (hp : p ≠ id)
    (keys : List String) : Aside c id heard (announce fuel p keys s) := by
  induction fuel generalizing p keys s with
  | zero => exact h
  | succ fuel ih =>
      obtain ⟨d, told⟩ := s
      cases hr : d.region? p with
      | none =>
          rw [Contexts.announce, hr]
          exact h
      | some r =>
          have hemitter : r.changes.emitter = (c.changesOf p).emitter := by
            rw [← h.wires.emitters, changesOf_of_region? hr]
          rw [announce_of_region? hr]
          refine kept_foldl (Aside c id heard) (fun s keys hs => ?_) ?_ _
          · refine List.foldlRecOn _ _ hs fun s hs l hl => ?_
            rw [hemitter] at hl
            obtain ⟨token, l⟩ := l
            cases l with
            | observer other =>
                refine ⟨hs.wires, hs.changes, fun name honly => ?_⟩
                have hne : other ≠ name := by
                  rintro rfl
                  exact List.countP_eq_zero.mp (honly p hp) _ hl (decide_eq_true rfl)
                rw [passOn, List.filter_append, hs.told name honly]
                simp [Notice.isTo, hne]
            | child x =>
                have hx : x ≠ id := by
                  rintro rfl
                  exact hdeaf p token hl
                rw [passOn]
                split
                · exact ih hs hx keys
                · exact hs
          · refine ⟨h.wires.withChanges hr (r.changes.emitter_offer keys), ?_, h.told⟩
            rw [changesOf_withChanges hr, if_neg hp.symm]
            exact h.changes

theorem fire (h : Aside c id heard (d, told)) (hdeaf : c.IsDeaf id) (hp : p ≠ id)
    (keys : List String) : Aside c id heard ((d.fire p keys).1, told ++ (d.fire p keys).2) := by
  rw [Contexts.fire]
  split
  · rw [List.append_nil]
    exact h
  · have hstart : Aside c id [] (d, []) := ⟨h.wires, h.changes, fun _ _ => rfl⟩
    have hfired := hstart.announce hdeaf (d.regions.length + 1) hp keys
    refine ⟨hfired.wires, hfired.changes, fun name honly => ?_⟩
    rw [List.filter_append, hfired.told name honly, List.filter_nil, List.append_nil]
    exact h.told name honly

/-- The listeners of the region are told one after the other. The regions among them announce it
again, which does not come back. -/
theorem foldl_passOn (hdeaf : c.IsDeaf id) (fuel : Nat) (keys : List String)
    {listeners : List (Nat × ChangeListener)} (hsub : ∀ l ∈ listeners, l ∈ c.listenersOf id)
    (h : Aside c id heard s) :
    Aside c id (heard ++ listeners.flatMap fun l => heardBy keys l.2)
      (listeners.foldl (fun s l => passOn fuel keys l.2 s) s) := by
  induction listeners generalizing s heard with
  | nil =>
      rw [List.flatMap_nil, List.append_nil]
      exact h
  | cons l listeners ih =>
      obtain ⟨hl, hrest⟩ := List.forall_mem_cons.mp hsub
      rw [List.foldl_cons, List.flatMap_cons, ← List.append_assoc]
      refine ih hrest ?_
      obtain ⟨token, l⟩ := l
      cases l with
      | observer name => exact h.observer fuel keys name
      | child x =>
          have hx : x ≠ id := by
            rintro rfl
            exact hdeaf _ token hl
          rw [heardBy, List.append_nil, passOn]
          split
          · exact h.announce hdeaf fuel hx keys
          · exact h

end Aside

/-! ### What is announced at the region -/

/-- Keys are announced at a region: its observers are told at once, each once for a subscription,
unless events are held back there. Without keys there is nothing to announce. -/
structure Announces (c : Contexts) (id : RegionId) (keys : List String)
    (s : Contexts × List Notice) : Prop where
  changes : s.1.changesOf id =
    if keys.isEmpty then c.changesOf id else ((c.changesOf id).offer keys).1
  told : ∀ name, c.ListensOnlyAt name id → s.2.filter (Notice.isTo name) =
    if keys.isEmpty || (c.changesOf id).isPaused then []
    else List.replicate (c.subscriptions id name) (.context name keys)

theorem fire_announces (hdeaf : c.IsDeaf id) (hr : c.region? id = some r) (keys : List String) :
    Announces c id keys (c.fire id keys) := by
  have hchanges := changesOf_of_region? hr
  rw [fire]
  split
  · next hempty => exact ⟨(if_pos hempty).symm, fun _ _ => by rw [hempty]; rfl⟩
  · next hkeys =>
      rw [announce_of_region? hr, ← hchanges]
      cases hpaused : (c.changesOf id).isPaused with
      | true =>
          have hoffer := Pausing.offer_of_paused hpaused keys
          refine ⟨?_, fun name _ => ?_⟩
          · rw [if_neg hkeys, hoffer]
            exact (changesOf_withChanges hr _ id).trans (if_pos rfl)
          · rw [hoffer, hpaused, Bool.or_true]
            rfl
      | false =>
          have hoffer := Pausing.offer_of_not_paused hpaused keys
          have hself : Aside c id [] (c.withChanges id (c.changesOf id), []) := by
            refine ⟨(SameWires.refl c).withChanges hr (congrArg _ hchanges), ?_, fun _ _ => rfl⟩
            exact (changesOf_withChanges hr _ id).trans (if_pos rfl)
          have htold := hself.foldl_passOn hdeaf c.regions.length keys fun l hl => hl
          refine ⟨?_, fun name honly => ?_⟩
          · rw [if_neg hkeys, hoffer]
            exact htold.changes
          · rw [hoffer, hpaused, Bool.or_false, if_neg hkeys]
            exact (htold.told name honly).trans (filter_heardBy _ name)

end Contexts

end Shortcuts
