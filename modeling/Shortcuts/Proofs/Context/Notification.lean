import Shortcuts.Proofs.Context.Scoping

/-!
Changes of values and what is told about them. Where a region sees another value than before, the
context that was changed is its own or one above, so the announcement made there comes down to it.
-/

namespace Shortcuts

namespace Contexts

variable {c d : Contexts} {id t : RegionId} {r : Region} {a b : Arena} {key name : String}

/-- The value that the context of a region has of its own. -/
def own? (c : Contexts) (id : RegionId) (key : String) : Option Json :=
  (c.site? id).bind fun s => (c.arena? s.1).bind fun a => a.own? s.2 key

/-- Whether values, or what regions see of them, are changed and announced. -/
def Operation.Announces : Operation → Prop
  | .updateParent _ _ => True
  | .set _ _ _ => True
  | .remove _ _ => True
  | _ => False

/-- Where a region that lives on sees another value of a key, its observers are told once for each
subscription, and the key is among those they are told. The number of a context is no value. -/
def TellsChanges (c : Contexts) (s : Contexts × List Notice) : Prop :=
  ∀ {t : RegionId} {name key : String}, c.isHeld t = true → c.ListensOnlyAt name t →
    -- of floats, a NaN is not `==` to itself, and the two zeros are
    key ≠ Arena.idKey → c.get? t key ≠ s.1.get? t key →
    (c.get? t key == s.1.get? t key) = false →
    ∃ keys, key ∈ keys ∧ s.2.filter (Notice.isTo name) =
      List.replicate (c.subscriptions t name) (.context name keys)

theorem tellsChanges_self (c : Contexts) (told : List Notice) : c.TellsChanges (c, told) :=
  fun _ _ _ hne => absurd rfl hne

/-! ### What regions see -/

theorem get?_of_disposed (h : c.isDisposed t = true) (key : String) : c.get? t key = none := by
  cases hr : c.region? t with
  | none => rw [get?, hr]
  | some r =>
      rw [isDisposed, hr] at h
      rw [get?, hr]
      exact if_pos h

/-- Without settings a region sees the value that a lookup from its context comes to. -/
theorem get?_of_plain {s : Nat} {x : ContextId} (hsite : c.site? t = some (s, x))
    (hlives : c.isDisposed t = false) (ha : c.arena? s = some a) (hplain : a.IsPlain)
    (hforest : a.IsForest) (hkey : key ≠ Arena.idKey) :
    c.get? t key = (a.locate x key).value? := by
  obtain ⟨r, hr, heq⟩ := Option.map_eq_some_iff.mp hsite
  cases heq
  have hdisposed : r.disposed = false := (isDisposed_of_region? hr).symm.trans hlives
  simp only [Contexts.get?, hr, hdisposed, Bool.false_eq_true, if_false, valuesAt, ha]
  exact Arena.get?_eq hplain hforest hkey _ _

/-- Where only the context of one region was changed, the way up from another region that sees a
change comes by that context, and it sees what is seen there. -/
theorem changed_at (hg : c.Grown) (hforests : c.AreForests) (hforestsd : d.AreForests)
    (hplain : ∀ {s a}, c.arena? s = some a → a.IsPlain)
    (hplaind : ∀ {s a}, d.arena? s = some a → a.IsPlain) (ha : c.arena? r.tree = some a)
    (hsites : ∀ x, d.site? x = c.site? x) (hlives : ∀ x, d.isDisposed x = c.isDisposed x)
    (harenas : ∀ s, d.arena? s = if s = r.tree then some b else c.arena? s)
    (hreply : ∀ y, y ≠ r.context → b.reply key y = a.reply key y) (hkey : key ≠ Arena.idKey)
    (hchange : c.get? t key ≠ d.get? t key) :
    ∃ n x, d.site? t = some (r.tree, x) ∧ d.isDisposed t = false ∧
      Climbs b.parent? x n r.context ∧ b.reply key r.context ≠ a.reply key r.context ∧
      ∃ f g, a.Looks key r.context f ∧ b.Looks key r.context g ∧
        f.value? = c.get? t key ∧ g.value? = d.get? t key := by
  cases ht : c.isDisposed t with
  | true =>
      rw [get?_of_disposed ht, get?_of_disposed ((hlives t).trans ht)] at hchange
      exact absurd rfl hchange
  | false =>
      have htd := (hlives t).trans ht
      obtain ⟨rt, hrt, -⟩ := exists_region_of_lives ht
      have hsite := site?_of_region? hrt
      have hsited := (hsites t).trans hsite
      obtain ⟨at', hat, -⟩ := hg.placed hsite
      -- contexts of other trees see nothing of it
      by_cases htree : rt.tree = r.tree
      · rw [htree] at hsite hsited
        have hb : d.arena? r.tree = some b := (harenas _).trans (if_pos rfl)
        have hseen := get?_of_plain hsite ht ha (hplain ha) (hforests _ a ha) hkey
        have hseend := get?_of_plain hsited htd hb (hplaind hb) (hforestsd _ b hb) hkey
        have hne : b.locate rt.context key ≠ a.locate rt.context key := by
          intro heq
          rw [hseen, hseend, heq] at hchange
          exact hchange rfl
        have hf := ((hforests _ a ha).ends rt.context).1 key
        have hg := ((hforestsd _ b hb).ends rt.context).1 key
        obtain ⟨n, y, hclimb, hdiffer, hgy, hfy⟩ := hg.differs hf hne
        have hy : y = r.context := Decidable.not_not.mp fun hy => hdiffer (hreply y hy)
        subst hy
        exact ⟨n, _, hsited, htd, hclimb, hdiffer, _, _, hfy, hgy, hseen.symm, hseend.symm⟩
      · have hatd : d.arena? rt.tree = some at' := by
          rw [harenas, if_neg htree]
          exact hat
        rw [get?_of_plain hsite ht hat (hplain hat) (hforests _ at' hat) hkey,
          get?_of_plain hsited htd hatd (hplaind hatd) (hforestsd _ at' hatd) hkey] at hchange
        exact absurd rfl hchange

/-- A region that sees a change of the context of another region is that one or below it. -/
theorem Sound.changed_below (hc : c.Sound) (hd : d.Sound) (hr : c.region? id = some r)
    (hdisposed : r.disposed = false) (ha : c.arena? r.tree = some a)
    (hsites : ∀ x, d.site? x = c.site? x) (hlives : ∀ x, d.isDisposed x = c.isDisposed x)
    (harenas : ∀ s, d.arena? s = if s = r.tree then some b else c.arena? s)
    (hreply : ∀ y, y ≠ r.context → b.reply key y = a.reply key y) (hkey : key ≠ Arena.idKey)
    (hchange : c.get? t key ≠ d.get? t key) :
    (∃ n, Climbs d.parentOf t n id) ∧ b.reply key r.context ≠ a.reply key r.context ∧
      ∃ f g, a.Looks key r.context f ∧ b.Looks key r.context g ∧
        f.value? = c.get? t key ∧ g.value? = d.get? t key := by
  obtain ⟨n, x, hsite, hlivest, hclimb, hseen⟩ := changed_at hc.grown hc.forests hd.forests
    hc.settled.plain hd.settled.plain ha hsites hlives harenas hreply hkey hchange
  refine ⟨⟨n, ?_⟩, hseen⟩
  exact hd.settled.climbs_regions hsite hlivest ((hsites id).trans (site?_of_region? hr))
    ((hlives id).trans ((isDisposed_of_region? hr).trans hdisposed))
    ((harenas _).trans (if_pos rfl)) hclimb

/-! ### What is told -/

/-- A region that is held stays so while regions above it change their places. -/
theorem isHeld_of_agree {n : Nat} (hc : Acyclic c.parentOf) (hd : Acyclic d.parentOf)
    (hheld : d.held = c.held) (hparents : ∀ x, x ≠ id → d.parentOf x = c.parentOf x)
    (ht : Climbs d.parentOf t n id) (h : c.isHeld t = true) : d.isHeld t = true := by
  obtain ⟨x, hx, m, hm⟩ := (isHeld_iff hc).mp h
  obtain ⟨k, hk⟩ := ht.of_agree fun y hy => (hparents y hy).symm
  refine (isHeld_iff hd).mpr ⟨x, hheld ▸ hx, m, ?_⟩
  exact hc.climbs_of_agree hparents hm hk

/-- Only the reply for the key that was written is another one. -/
theorem Operation.Writes.eq_of_reply_ne {op : Operation} {written : String}
    {f : Fields Json → Fields Json} {x : ContextId} (hop : op.Writes id written f)
    (h : (a.withValues x f).reply key x ≠ a.reply key x) : key = written := by
  by_contra hne
  apply h
  exact Arena.reply_withValues f fun _ => hop.lookup hne

/-- The keys under which two arenas find other values are those that a move announces. -/
theorem mem_differences_of_looks {x : ContextId} {f g : Arena.Found} (ha : a.IsPlain)
    (haf : a.IsForest) (hb : b.IsPlain) (hbf : b.IsForest) (hkey : key ≠ Arena.idKey)
    (hf : a.Looks key x f) (hg : b.Looks key x g) (h : (f.value? == g.value?) = false) :
    key ∈ differences (a.collect x) (b.collect x) := by
  rw [mem_differences, Arena.lookup_collect ha haf hkey hf, Arena.lookup_collect hb hbf hkey hg]
  exact h

/-- What a region announces when it was put below another one comes to the observers below it. -/
theorem moved_told {above : RegionId} {n : Nat} {keys : List String} (hc : c.Linked)
    (hacyclic : Acyclic c.parentOf) (hr : c.region? id = some r)
    (hd : d = ((c.withArena r.tree b).withParent id above).listenTo id above) (hg : d.Grown)
    (hlinked : d.Linked) (hacyclicd : Acyclic d.parentOf) (hheld : c.isHeld t = true)
    (honly : c.ListensOnlyAt name t) (hclimb : Climbs d.parentOf t n id) (hkeys : keys ≠ []) :
    (d.fire id keys).2.filter (Notice.isTo name) =
      List.replicate (c.subscriptions t name) (.context name keys) := by
  subst hd
  have hsubscriptions := fun x => subscriptions_moved hc.toWired r.tree b id above x name
  have hheld' : (((c.withArena r.tree b).withParent id above).listenTo id above).isHeld t =
      true := by
    refine isHeld_of_agree hacyclic hacyclicd (held_listenTo _ id above) (fun x hx => ?_) hclimb
      hheld
    rw [parentOf_moved hr, if_neg hx]
  rw [← hsubscriptions]
  exact fire_told hg hlinked hacyclicd (fun p hp => (hsubscriptions p).trans (honly p hp)) hheld'
    hclimb hkeys

theorem written_tells {op : Operation} {written : String} {f : Fields Json → Fields Json}
    (hc : c.Sound) (hop : op.Writes id written f) (hr : c.region? id = some r)
    (hdisposed : r.disposed = false) (ha : c.arena? r.tree = some a) :
    c.TellsChanges ((c.withArena r.tree (a.withValues r.context f)).fire id [written]) := by
  have hd := hc.withValues ha hop.sorted
  intro t name key hheld honly hkey hchange _
  rw [hd.fire_fst] at hchange
  obtain ⟨⟨n, hn⟩, hreply, -⟩ := hc.changed_below hd hr hdisposed ha (fun _ => rfl)
    (fun _ => rfl) (arena?_withArena ha _)
    (fun y hy => Arena.reply_withValues f fun heq => absurd heq hy) hkey hchange
  refine ⟨[written], hop.eq_of_reply_ne hreply ▸ List.mem_singleton_self key, ?_⟩
  have hheld' := isHeld_of_agree hc.acyclic hd.acyclic rfl (fun _ _ => rfl) hn hheld
  exact fire_told hd.grown hd.linked hd.acyclic honly hheld' hn (List.cons_ne_nil _ _)

theorem updateParent_tells {above : RegionId} {s : Contexts × List Notice} (hc : c.Sound)
    (hop : ¬ c.ClosesLoop (.updateParent id above)) (h : c.updateParent id above = .ok s) :
    c.TellsChanges s := by
  have hforests := (areForests_updateParent_iff hc.forests h).mpr hop
  obtain ⟨r, ra, a, b, hr, hra, hdisposed, -, htree, ha, hb, rfl⟩ := updateParent_ok h
  have hd := hc.moved hr hra hdisposed htree ha hb
    (hforests.congr (samePlaces_fire _ _ _).trees.symm)
  have hlisten := samePlaces_listenTo ((c.withArena r.tree b).withParent id above) id above
  have harenas := fun s => (arena?_congr hlisten.trees s).trans (arena?_withArena ha b s)
  intro t name key hheld honly hkey hchange hdiffers
  rw [hd.fire_fst] at hchange hdiffers
  obtain ⟨⟨n, hn⟩, -, f, g, hf, hg, hbefore, hafter⟩ := hc.changed_below hd hr hdisposed ha
    (fun x => (hlisten.site? x).trans (site?_withParent _ id above x))
    (fun x => (hlisten.isDisposed x).trans (isDisposed_withParent _ id above x)) harenas
    (fun y hy => Arena.reply_updateParent hb hy) hkey hchange
  have hmoved : b.IsForest := hd.forests r.tree b ((harenas _).trans (if_pos rfl))
  have hplain := hc.settled.plain ha
  rw [← hbefore, ← hafter] at hdiffers
  -- below it the change is that of the moved region itself, which is what it announces
  have hmem := mem_differences_of_looks hplain (hc.forests _ a ha) (hplain.updateParent hb) hmoved
    hkey hf hg hdiffers
  refine ⟨_, hmem, ?_⟩
  exact moved_told hc.linked hc.acyclic hr rfl hd.grown hd.linked hd.acyclic hheld honly hn
    (List.ne_nil_of_mem hmem)

theorem tells_of_step {op : Operation} {s : Contexts × List Notice} (hc : c.Sound)
    (h : Step c op s) (hop : c.Allows op) (hannounces : op.Announces) : c.TellsChanges s := by
  cases h with
  | refused => exact tellsChanges_self c []
  | moved h => exact updateParent_tells hc hop h
  | written hwrites hr hdisposed ha => exact written_tells hc hwrites hr hdisposed ha
  | newRoot | child | gone | entered | ended | observed | held => exact hannounces.elim

/-! ### What is not told -/

theorem own?_of_region? (hr : c.region? id = some r) (ha : c.arena? r.tree = some a) :
    c.own? id key = a.own? r.context key := by
  rw [own?, site?_of_region? hr, Option.bind_some, ha, Option.bind_some]

theorem own?_fire (c : Contexts) (id : RegionId) (keys : List String) (x : RegionId)
    (key : String) : (c.fire id keys).1.own? x key = c.own? x key := by
  have hsame := samePlaces_fire c id keys
  rw [own?, hsame.site?, own?]
  exact congrArg _ (funext fun s => by rw [arena?_congr hsame.trees])

/-- Nothing is told unless the context has another value afterwards. -/
theorem store_silent {f : Arena → ContextId → Arena × Bool}
    (hf : ∀ a x, (f a x).2 = true → (a.own? x key == (f a x).1.own? x key) = false)
    (h : (c.own? id key == (c.store id key f).1.own? id key) = true) :
    (c.store id key f).2 = [] := by
  rcases store_or c id key f with heq | ⟨r, a, hr, -, ha, heq⟩
  · rw [heq]
  · rw [heq] at h ⊢
    split at h
    · next hchanged =>
        have hafter : (c.withArena r.tree (f a r.context).1).arena? r.tree =
            some (f a r.context).1 := (arena?_withArena ha _ _).trans (if_pos rfl)
        have hown : (c.withArena r.tree (f a r.context).1).own? id key =
            (f a r.context).1.own? r.context key := own?_of_region? hr hafter
        rw [own?_fire, own?_of_region? hr ha, hown, hf a r.context hchanged] at h
        cases h
    · next hchanged => rw [if_neg hchanged]

/-! ### Every change is told -/

/-- Whatever regions were created, moved, filled and ended: where an operation changes what a
region that lives on sees of a key, the observers of the region are told so, once for each
subscription. An operation that stores what is there already tells nothing to anyone. -/
theorem changes_told (hc : c.Reachable) :
    (∀ op, c.Allows op → op.Announces → c.TellsChanges (c.apply op)) ∧
    ∀ id key,
      (∀ v, (c.own? id key == (c.set id key v).1.own? id key) = true →
        (c.set id key v).2 = []) ∧
      ((c.own? id key == (c.remove id key).1.own? id key) = true →
        (c.remove id key).2 = []) := by
  have hsound := hc.sound
  refine ⟨fun op hop hannounces => ?_, fun id key => ⟨fun v h => ?_, fun h => ?_⟩⟩
  · exact tells_of_step hsound (hsound.grown.step op) hop hannounces
  · rw [set_eq_store] at h ⊢
    exact store_silent (fun a x => Arena.own?_set) h
  · rw [remove_eq_store] at h ⊢
    exact store_silent (fun a x => Arena.own?_remove) h

theorem changes_told_scoped :
    let c := (start {} {}).run [.newRoot false, .createScoped 0 0, .hold [1], .observe 1 "low"]
    c.Reachable ∧ c.Allows (.set 0 "k" .null) ∧ c.isHeld 1 = true ∧ c.ListensOnlyAt "low" 1 ∧
      c.get? 1 "k" = none ∧ (c.set 0 "k" .null).1.get? 1 "k" = some .null ∧
      c.subscriptions 1 "low" = 1 ∧
      ∃ keys, "k" ∈ keys ∧
        (c.set 0 "k" .null).2.filter (Notice.isTo "low") = [.context "low" keys] := by
  intro c
  have hroot : ((start {} {}).apply (.newRoot false)).1.Reachable := .step (.start {} {}) rfl
  have hscoped := hroot.step (show Allows _ (.createScoped 0 0) from not_false)
  have hheld := hscoped.step (show Allows _ (.hold [1]) from not_false)
  have hc : c.Reachable := hheld.step (show Allows _ (.observe 1 "low") from not_false)
  have honly : c.ListensOnlyAt "low" 1 := by
    intro p hp
    match p with
    | 0 => rfl
    | 1 => exact absurd rfl hp
    | p + 2 => rfl
  have hbefore : c.get? 1 "k" = none := rfl
  have hafter : (c.set 0 "k" .null).1.get? 1 "k" = some .null := rfl
  have hne : c.get? 1 "k" ≠ (c.set 0 "k" .null).1.get? 1 "k" := by
    rw [hbefore, hafter]
    exact nofun
  exact ⟨hc, not_false, rfl, honly, hbefore, hafter, rfl,
    (changes_told hc).1 (.set 0 "k" .null) not_false trivial rfl honly (by decide) hne rfl⟩

end Contexts

end Shortcuts
