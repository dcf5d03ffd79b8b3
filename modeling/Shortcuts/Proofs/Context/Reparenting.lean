import Shortcuts.Proofs.Context.Notification
import Shortcuts.Proofs.Context.Tending

/-!
Putting a region below another one while nothing is held back. Its observers are told of exactly
the keys that it sees other values of than before, and from then on it hears of changes from the
region above it now and no longer from the one that was above it. What is refused changes nothing.
-/

namespace Shortcuts

theorem Arena.updateParent_error_iff {a : Arena} {x y : ContextId} (hx : x ≠ root)
    {e : ContextError} : a.updateParent x y = .error e ↔
      e = .disposed ∧ (a.contains y = false ∨ a.contains x = false) := by
  rw [updateParent, if_neg hx]
  cases a.contains y <;> cases a.contains x <;> simp [eq_comm]

namespace Contexts

variable {c d : Contexts} {id above : RegionId} {r ra : Region} {a b : Arena}

/-! ### What is refused -/

/-- Why a region is not put below another one. -/
inductive Refuses (c : Contexts) (id above : RegionId) : ContextError → Prop
  | absent (h : c.region? id = none ∨ c.region? above = none) : Refuses c id above .disposed
  | ended {r ra : Region} (hr : c.region? id = some r) (hra : c.region? above = some ra)
      (h : r.disposed = true) : Refuses c id above .disposed
  | root {r ra : Region} (hr : c.region? id = some r) (hra : c.region? above = some ra)
      (hlives : r.disposed = false) (h : r.context = Arena.root) :
      Refuses c id above .rootHasNoParent
  | foreign {r ra : Region} (hr : c.region? id = some r) (hra : c.region? above = some ra)
      (hlives : r.disposed = false) (hroot : r.context ≠ Arena.root) (h : r.tree ≠ ra.tree) :
      Refuses c id above (.unsupported "update_parent across context trees")
  | gone {r ra : Region} {a : Arena} (hr : c.region? id = some r)
      (hra : c.region? above = some ra) (hlives : r.disposed = false)
      (hroot : r.context ≠ Arena.root) (htree : r.tree = ra.tree)
      (ha : c.arena? r.tree = some a)
      (h : a.contains ra.context = false ∨ a.contains r.context = false) :
      Refuses c id above .disposed

theorem refuses_of_error {e : ContextError} (hg : c.Grown)
    (h : c.updateParent id above = .error e) : c.Refuses id above e := by
  rw [updateParent] at h
  split at h
  · next r ra hr hra =>
      split at h
      · next hdisposed =>
          cases h
          exact .ended hr hra hdisposed
      · next hdisposed =>
          have hlives : r.disposed = false := Bool.eq_false_iff.mpr hdisposed
          split at h
          · next hroot =>
              cases h
              exact .root hr hra hlives hroot
          · next hroot =>
              split at h
              · next htree =>
                  cases h
                  exact .foreign hr hra hlives hroot htree
              · next htree =>
                  obtain ⟨a, ha, -⟩ := hg.placed (site?_of_region? hr)
                  rw [ha] at h
                  dsimp only at h
                  split at h
                  · next hgone =>
                      cases h
                      obtain ⟨rfl, habsent⟩ := (Arena.updateParent_error_iff hroot).mp hgone
                      exact .gone hr hra hlives hroot (Decidable.not_not.mp htree) ha habsent
                  · cases h
  · next hnone =>
      cases h
      cases hr : c.region? id with
      | none => exact .absent (.inl hr)
      | some r =>
          cases hra : c.region? above with
          | none => exact .absent (.inr hra)
          | some ra => exact (hnone r ra hr hra).elim

theorem Refuses.error {e : ContextError} (h : c.Refuses id above e) :
    c.updateParent id above = .error e := by
  cases h with
  | absent h =>
      rw [updateParent]
      rcases h with h | h
      · rw [h]
      · rw [h]
        split
        · next hnone => cases hnone
        · rfl
  | ended hr hra h => simp only [updateParent, hr, hra, h, if_true]
  | root hr hra hlives h =>
      simp only [updateParent, hr, hra, hlives, Bool.false_eq_true, if_false, h, if_true]
  | foreign hr hra hlives hroot h =>
      simp only [updateParent, hr, hra, hlives, Bool.false_eq_true, if_false, hroot, ne_eq, h,
        not_false_eq_true, if_true]
  | gone hr hra hlives hroot htree ha h =>
      have hgone := (Arena.updateParent_error_iff hroot).mpr ⟨rfl, h⟩
      simp only [updateParent, hr, hra, hlives, Bool.false_eq_true, if_false, hroot, ne_eq,
        htree, not_true_eq_false, htree ▸ ha, hgone]

/-! ### What is told -/

/-- Whoever is told something is told the keys that were announced. -/
theorem eq_of_mem_notices {fuel : Nat} {keys : List String} {n : Notice}
    (h : n ∈ c.notices fuel id keys) : ∃ name, n = .context name keys := by
  induction fuel generalizing id with
  | zero => cases h
  | succ fuel ih =>
      obtain ⟨⟨token, l⟩, -, hn⟩ := List.mem_flatMap.mp h
      cases l with
      | observer name => exact ⟨name, List.mem_singleton.mp hn⟩
      | child x =>
          dsimp only at hn
          split at hn
          · exact ih hn
          · cases hn

/-- What a region is told at once when it sees other values than before. -/
structure TellsDifference (c d : Contexts) (told : List Notice) (id : RegionId)
    (keys : List String) : Prop where
  ascending : keys.Pairwise (· < ·)
  -- of floats, a NaN is not `==` to itself, and the two zeros are
  mem_iff : ∀ key, key ∈ keys ↔ key ≠ Arena.idKey ∧ (c.get? id key == d.get? id key) = false
  silent : keys = [] → told = []
  notice : ∀ n ∈ told, ∃ name, n = .context name keys
  once : ∀ name, keys ≠ [] → c.ListensOnlyAt name id → told.filter (Notice.isTo name) =
    List.replicate (c.subscriptions id name) (.context name keys)

/-- A region hears of changes from one region and from no other: what is announced there, or at a
region above, comes to its observers, and what is announced elsewhere does not. -/
structure HearsFrom (c : Contexts) (id above : RegionId) : Prop where
  subscribed : ∃ token, ∀ p n, (n, .child id) ∈ c.listenersOf p ↔ p = above ∧ n = token
  hears : ∀ {name p n keys}, c.isHeld id = true → c.ListensOnlyAt name id →
    Climbs c.parentOf above n p → keys ≠ [] → (c.fire p keys).2.filter (Notice.isTo name) =
      List.replicate (c.subscriptions id name) (.context name keys)
  ignores : ∀ {name p keys}, c.ListensOnlyAt name id → p ≠ id →
    (∀ n, ¬ Climbs c.parentOf above n p) → (c.fire p keys).2.filter (Notice.isTo name) = []

/-- A region that is below another one hears from it. -/
theorem Linked.hearsFrom (hc : c.Linked) (hg : c.Grown) (hacyclic : Acyclic c.parentOf)
    (habove : c.parentOf id = some above) : c.HearsFrom id above where
  subscribed := by
    obtain ⟨token, htoken⟩ := hc.exists_mem habove
    refine ⟨token, fun p n => ⟨fun h => ?_, ?_⟩⟩
    · have hp := hc.parentOf_of_mem h
      rw [habove] at hp
      cases hp
      exact ⟨rfl, hc.eq_token h htoken⟩
    · rintro ⟨rfl, rfl⟩
      exact htoken
  hears hheld honly hclimb hkeys :=
    fire_told hg hc hacyclic honly hheld (hclimb.of_above habove) hkeys
  ignores {name p keys} honly hne hnot := by
    have hnone : ∀ n, ¬ Climbs c.parentOf id n p := by
      intro n h
      cases n with
      | zero =>
          cases h
          exact hne rfl
      | succ n =>
          obtain ⟨q, hq, h⟩ := h.above
          rw [habove] at hq
          cases hq
          exact hnot n h
    rw [fire_eq hg hc.toAreIdle]
    dsimp only
    split
    · rfl
    · exact notices_of_not_climbs hc honly _ hnone

/-! ### Putting a region below another one -/

/-- What comes of putting a region below another one, and what is told about it. -/
structure Relocates (c d : Contexts) (told : List Notice) (id above : RegionId) : Prop where
  tells : ∃ keys, c.TellsDifference d told id keys
  hears : d.HearsFrom id above
  parentOf : ∀ x, d.parentOf x = if x = id then some above else c.parentOf x
  isHeld : d.isHeld id = c.isHeld id
  subscriptions : ∀ x name, d.subscriptions x name = c.subscriptions x name

/-- The keys under which two contexts collect other values are those that regions there see other
values of. -/
theorem mem_differences_collect {t : Nat} {x : ContextId} (hc : c.Upright) (hd : d.Upright)
    (hsite : c.site? id = some (t, x)) (hlives : c.isDisposed id = false)
    (ha : c.arena? t = some a) (hsited : d.site? id = some (t, x))
    (hlivesd : d.isDisposed id = false) (hb : d.arena? t = some b) (key : String) :
    key ∈ differences (a.collect x) (b.collect x) ↔
      key ≠ Arena.idKey ∧ (c.get? id key == d.get? id key) = false := by
  rw [mem_differences]
  by_cases hkey : key = Arena.idKey
  · rw [hkey, Arena.collect, Arena.collect, Fields.lookup_erase_self, Fields.lookup_erase_self]
    exact iff_of_false (by simp) fun h => h.1 rfl
  · have hplain := hc.founded.plain ha
    have hplaind := hd.founded.plain hb
    have hforest := hc.forests t a ha
    have hforestd := hd.forests t b hb
    rw [and_iff_right hkey, get?_of_plain hsite hlives ha hplain hforest hkey,
      get?_of_plain hsited hlivesd hb hplaind hforestd hkey,
      Arena.lookup_collect hplain hforest hkey ((hforest.ends x).1 key),
      Arena.lookup_collect hplaind hforestd hkey ((hforestd.ends x).1 key)]

/-- Announced at the region itself, the keys come to its observers and to those below. -/
theorem tellsDifference_fire {keys : List String} (hd : d.Upright) (hlinked : d.Linked)
    (hascending : keys.Pairwise (· < ·))
    (hmem : ∀ key, key ∈ keys ↔ key ≠ Arena.idKey ∧ (c.get? id key == d.get? id key) = false)
    (hsubscriptions : ∀ x name, d.subscriptions x name = c.subscriptions x name) :
    c.TellsDifference d (d.fire id keys).2 id keys := by
  rw [fire_eq hd.grown hlinked.toAreIdle]
  refine ⟨hascending, hmem, fun hnil => by rw [hnil]; rfl, fun n hn => ?_,
    fun name hne honly => ?_⟩
  · dsimp only at hn
    split at hn
    · cases hn
    · exact eq_of_mem_notices hn
  · have honlyd : d.ListensOnlyAt name id := fun p hp => (hsubscriptions p name).trans (honly p hp)
    rw [if_neg (by simpa using hne), ← hsubscriptions]
    exact notices_here hlinked hd.acyclic honlyd _

/-- Whether a region lives on depends on those below it, so not on what is above it. -/
theorem isHeld_eq_of_agree (hc : Acyclic c.parentOf) (hd : Acyclic d.parentOf)
    (hheld : d.held = c.held) (hparents : ∀ x, x ≠ id → d.parentOf x = c.parentOf x) :
    d.isHeld id = c.isHeld id :=
  Bool.eq_iff_iff.mpr
    ⟨isHeld_of_agree hd hc hheld.symm (fun x hx => (hparents x hx).symm) (.start id),
      isHeld_of_agree hc hd hheld hparents (.start id)⟩

theorem Upright.relocates {s : Contexts × List Notice} (hc : c.Upright) (hlinked : c.Linked)
    (hbelow : ∀ n, ¬ Climbs c.parentOf above n id) (h : c.updateParent id above = .ok s) :
    c.Relocates s.1 s.2 id above := by
  obtain ⟨r, ra, a, b, hr, hra, hdisposed, -, htree, ha, hb, rfl⟩ := updateParent_ok h
  have hd := hc.moved hr hra htree ha hb hbelow
  have hdlinked := (hlinked.withArena r.tree b).relocated hr hra
  have hparents := parentOf_moved hr above r.tree b
  have hsubscriptions := subscriptions_moved hlinked.toWired r.tree b id above
  have hlisten := samePlaces_listenTo ((c.withArena r.tree b).withParent id above) id above
  have hlives := (isDisposed_of_region? hr).trans hdisposed
  have hmem := mem_differences_collect hc hd (site?_of_region? hr) hlives ha
    ((hlisten.site? id).trans ((site?_withParent _ id above id).trans (site?_of_region? hr)))
    ((hlisten.isDisposed id).trans ((isDisposed_withParent _ id above id).trans hlives))
    ((arena?_congr hlisten.trees _).trans ((arena?_withArena ha b _).trans (if_pos rfl)))
  have hsame : (((((c.withArena r.tree b).withParent id above).listenTo id above).fire id
      (differences (a.collect r.context) (b.collect r.context))).1) =
      ((c.withArena r.tree b).withParent id above).listenTo id above := by
    rw [fire_eq hd.grown hdlinked.toAreIdle]
  rw [hsame]
  refine ⟨⟨_, tellsDifference_fire hd hdlinked (sortedKeys_increase _) hmem hsubscriptions⟩,
    hdlinked.hearsFrom hd.grown hd.acyclic ((hparents id).trans (if_pos rfl)), hparents, ?_,
    hsubscriptions⟩
  exact isHeld_eq_of_agree hc.acyclic hd.acyclic (held_listenTo _ id above) fun x hx =>
    (hparents x).trans (if_neg hx)

/-- Whatever was done to the contexts before: a region that is put below one that is not itself
and not below it tells exactly the keys that it sees other values of, and hears from the region
above it from then on. Otherwise it is refused, for one of the known reasons, and nothing has
changed. -/
theorem updateParent_told (hc : c.Tended) (hidle : ∀ x, (c.changesOf x).depth = 0)
    (hbelow : ∀ n, ¬ Climbs c.parentOf above n id) :
    (∀ d told, c.updateParent id above = .ok (d, told) → c.Relocates d told id above) ∧
    ∀ e, (c.updateParent id above = .error e ↔ c.Refuses id above e) ∧
      (c.updateParent id above = .error e → c.apply (.updateParent id above) = (c, [])) := by
  have hup := hc.upright
  refine ⟨fun d told h => hup.relocates (linked_of_calm hup.linked hidle) hbelow h, fun e =>
    ⟨⟨refuses_of_error hup.grown, Refuses.error⟩, fun h => ?_⟩⟩
  rw [apply, h]

/-- Two regions below a root, the first with a value of its own, and an observer of the other. -/
def siblings : Contexts := (start {} {}).accessed [.operate (.newRoot false),
  .operate (.createScoped 0 0), .operate (.createScoped 0 1), .operate (.set 1 "k" .null),
  .operate (.observe 2 "low"), .operate (.hold [2])]

theorem tended_siblings : siblings.Tended := by
  have hroot : ((start {} {}).access (.operate (.newRoot false))).Tended := .step (.start {} {}) rfl
  have hfirst := hroot.step (show Permits _ (.operate (.createScoped 0 0)) from trivial)
  have hsecond := hfirst.step (show Permits _ (.operate (.createScoped 0 1)) from trivial)
  have hset := hsecond.step (show Permits _ (.operate (.set 1 "k" .null)) from trivial)
  have hobserved := hset.step (show Permits _ (.operate (.observe 2 "low")) from trivial)
  exact hobserved.step (show Permits _ (.operate (.hold [2])) from trivial)

theorem siblings_told :
    (∀ x, (siblings.changesOf x).depth = 0) ∧ (∀ n, ¬ Climbs siblings.parentOf 1 n 2) ∧
      ∃ d, siblings.updateParent 2 1 = .ok (d, [.context "low" ["k"]]) ∧
        siblings.Relocates d [.context "low" ["k"]] 2 1 := by
  have hidle : ∀ x, (siblings.changesOf x).depth = 0
    | 0 | 1 | 2 | _ + 3 => rfl
  have htop : ∀ x, siblings.parentOf x ≠ some 2
    | 0 | 1 | 2 | _ + 3 => nofun
  have hbelow : ∀ n, ¬ Climbs siblings.parentOf 1 n 2 := by
    intro n h
    cases h with
    | up _ hp => exact htop _ hp
  have htold : (siblings.apply (.updateParent 2 1)).2 = [.context "low" ["k"]] := by decide +kernel
  have hexact := updateParent_told tended_siblings hidle hbelow
  refine ⟨hidle, hbelow, ?_⟩
  rw [apply] at htold
  cases h : siblings.updateParent 2 1 with
  | error e =>
      rw [h] at htold
      cases htold
  | ok s =>
      rw [h] at htold
      have hrelocates := hexact.1 s.1 s.2 h
      rw [show s.2 = _ from htold] at hrelocates
      exact ⟨s.1, by rw [← htold], hrelocates⟩

end Contexts

end Shortcuts
