import Shortcuts.Proofs.Context.Lookups
import Shortcuts.Proofs.Context.Watching

/-!
A root over the settings when they are edited. It forgets what the edit concerns of all that it
remembers, and announces exactly these keys. What other watchers are told, before it or after it,
comes neither to its tree nor to itself.
-/

namespace Shortcuts

namespace Contexts

variable {c d : Contexts} {id x : RegionId} {r : Region} {t : Nat} {a : Arena}
  {key : String} {keys : List String} {heard : List Notice} {change : SettingsChange}

/-! ### Others are told -/

/-- Nothing has happened to a region nor to a tree. -/
structure Untouched (c : Contexts) (id : RegionId) (t : Nat) (heard : List Notice)
    (s : Contexts × List Notice) : Prop extends Aside c id heard s where
  site? : ∀ x, s.1.site? x = c.site? x
  arena? : s.1.arena? t = c.arena? t
  isHeld : s.1.isHeld id = c.isHeld id

theorem isHeld_fire (c : Contexts) (x : RegionId) (keys : List String) (id : RegionId) :
    (c.fire x keys).1.isHeld id = c.isHeld id :=
  fire_induction (P := fun d => d.isHeld id = c.isHeld id)
    (fun d y changes hd => (isHeld_withChanges d y changes id).trans hd) rfl x keys

/-! ### The turn of a root -/

theorem samePlaces_forgetting (c : Contexts) (change : SettingsChange) (x : RegionId) (t : Nat)
    (a : Arena) (told : List Notice) : SamePlaces (c.withArena t (a.settingsChanged change).1)
      (c.forgetting change x t a told).1 :=
  samePlaces_fire _ x _

theorem arena?_forgetting (ha : c.arena? t = some a) (change : SettingsChange) (x : RegionId)
    (told : List Notice) (t' : Nat) : (c.forgetting change x t a told).1.arena? t' =
      if t' = t then some (a.settingsChanged change).1 else c.arena? t' :=
  (arena?_congr (samePlaces_forgetting c change x t a told).trees t').trans
    (arena?_withArena ha _ t')

theorem isHeld_forgetting (c : Contexts) (change : SettingsChange) (x : RegionId) (t : Nat)
    (a : Arena) (told : List Notice) (id : RegionId) :
    (c.forgetting change x t a told).1.isHeld id = c.isHeld id :=
  (isHeld_fire _ x _ id).trans (isHeld_withArena c t _ id)

/-- What a root announces elsewhere when it has its turn. -/
theorem Aside.forgetting {told : List Notice} (h : Aside c id heard (d, told))
    (hdeaf : c.IsDeaf id) (hx : x ≠ id) (change : SettingsChange) (t : Nat) (a : Arena) :
    Aside c id heard (d.forgetting change x t a told) :=
  (h.withArena t (a.settingsChanged change).1).fire hdeaf hx _

namespace Untouched

variable {s : Contexts × List Notice}

theorem refl (c : Contexts) (id : RegionId) (t : Nat) (told : List Notice) :
    Untouched c id t told (c, told) :=
  ⟨⟨SameWires.refl c, rfl, fun _ _ => rfl⟩, fun _ => rfl, rfl, rfl⟩

theorem tellWatcher (h : Untouched c id t heard s) (hdeaf : c.IsDeaf id)
    (hsite : c.site? id = some (t, Arena.root)) {l : SettingsListener}
    (hl : c.watchedTree? l ≠ some t) : Untouched c id t heard (tellWatcher change l s) := by
  obtain ⟨d, told⟩ := s
  cases l with
  | observer =>
      refine ⟨⟨h.wires, h.changes, fun name honly => ?_⟩, h.site?, h.arena?, h.isHeld⟩
      exact (List.filter_append told _).trans ((List.append_nil _).trans (h.told name honly))
  | root x =>
      rcases tellWatcher_root_cases d change x told with heq | ⟨r, a, hr, ha, heq⟩
      · rw [heq]
        exact h
      · have htree : c.watchedTree? (.root x) = some r.tree :=
          congrArg (Option.map Prod.fst) ((h.site? x).symm.trans (site?_of_region? hr))
        have ht : t ≠ r.tree := fun ht => hl (htree.trans (congrArg some ht.symm))
        have hx : x ≠ id := by
          rintro rfl
          exact hl (congrArg (Option.map Prod.fst) hsite)
        rw [heq]
        refine ⟨h.toAside.forgetting hdeaf hx change r.tree a, fun y => ?_, ?_, ?_⟩
        · exact ((samePlaces_forgetting d change x r.tree a told).site? y).trans (h.site? y)
        · exact (arena?_forgetting ha change x told t).trans ((if_neg ht).trans h.arena?)
        · exact (isHeld_forgetting d change x r.tree a told id).trans h.isHeld

theorem foldl_tellWatcher (h : Untouched c id t heard s) (hdeaf : c.IsDeaf id)
    (hsite : c.site? id = some (t, Arena.root)) (change : SettingsChange)
    {listeners : List (Nat × SettingsListener)}
    (hothers : ∀ l ∈ listeners, c.watchedTree? l.2 ≠ some t) :
    Untouched c id t heard
      (listeners.foldl (fun s l => Contexts.tellWatcher change l.2 s) s) :=
  List.foldlRecOn _ _ h fun _ hs l hl => hs.tellWatcher hdeaf hsite (hothers l hl)

end Untouched

/-! ### The root is told -/

theorem subscriptions_congr (h : SameWires c d) (id : RegionId) (name : String) :
    d.subscriptions id name = c.subscriptions id name := by
  rw [subscriptions, listenersOf, h.emitters]
  rfl

theorem ListensOnlyAt.congr {name : String} (honly : c.ListensOnlyAt name id)
    (h : SameWires c d) : d.ListensOnlyAt name id :=
  fun p hp => (subscriptions_congr h p name).trans (honly p hp)

namespace Announces

variable {s s' : Contexts × List Notice}

/-- What is announced elsewhere before makes no difference. -/
theorem of_aside {told : List Notice} (haside : Aside c id [] (d, told))
    (h : Announces d id keys s) : Announces c id keys (s.1, told ++ s.2) where
  changes := by rw [h.changes, haside.changes]
  told name honly := by
    rw [List.filter_append, haside.told name honly, List.filter_nil, List.nil_append,
      h.told name (honly.congr haside.wires), haside.changes, subscriptions_congr haside.wires]

/-- What is announced elsewhere afterwards makes no difference. -/
theorem aside (h : Announces c id keys s) (hwires : SameWires c s.1)
    (haside : Aside s.1 id s.2 s') : Announces c id keys s' where
  changes := haside.changes.trans h.changes
  told name honly := (haside.told name (honly.congr hwires)).trans (h.told name honly)

end Announces

/-- The turn of the root. It announces what its arena forgets. -/
theorem tellWatcher_announces {told : List Notice} (hdeaf : c.IsDeaf id)
    (hsite : c.site? id = some (t, Arena.root)) (hheld : c.isHeld id = true)
    (ha : c.arena? t = some a) (h : Untouched c id t [] (d, told)) (change : SettingsChange) :
    Announces c id (a.settingsChanged change).2 (tellWatcher change (.root id) (d, told)) ∧
      SameBonds d (tellWatcher change (.root id) (d, told)).1 ∧
      (tellWatcher change (.root id) (d, told)).1.arena? t =
        some (a.settingsChanged change).1 := by
  obtain ⟨r, hr, hplace⟩ := Option.map_eq_some_iff.mp ((h.site? id).trans hsite)
  obtain ⟨rfl, -⟩ := Prod.mk.inj hplace
  have hknown := h.arena?.trans ha
  rw [tellWatcher_root change hr (h.isHeld.trans hheld) hknown]
  have haside := h.toAside.withArena r.tree (a.settingsChanged change).1
  refine ⟨?_, ((SameBonds.refl d).withArena r.tree _).fire id _, ?_⟩
  · exact .of_aside haside (fire_announces (hdeaf.of_emitters haside.wires.emitters) hr _)
  · exact (arena?_forgetting hknown change id told r.tree).trans (if_pos rfl)

/-- Whatever else is told of a change, a root that watches the settings makes its arena forget what
the change concerns, and announces this. -/
theorem Bonded.tells (h : c.Bonded) (hsite : c.site? id = some (t, Arena.root))
    (hwatches : c.Watches id) (hheld : c.isHeld id = true) (ha : c.arena? t = some a)
    (change : SettingsChange) :
    Announces c id (a.settingsChanged change).2 (c.tellSettings change) ∧
      (c.tellSettings change).1.arena? t = some (a.settingsChanged change).1 := by
  obtain ⟨token, htoken⟩ := hwatches
  obtain ⟨before, behind, hsplit⟩ := List.append_of_mem htoken
  have htree : c.watchedTree? (.root id) = some t := congrArg (Option.map Prod.fst) hsite
  have hnodup := h.apart
  rw [watchedTrees, hsplit, List.filterMap_append, List.filterMap_cons_some (by exact htree),
    List.nodup_append] at hnodup
  obtain ⟨-, hbehind, hbefore⟩ := hnodup
  have hdeaf := h.isDeaf hsite
  have hstart : Untouched c id t []
      (before.foldl (fun s l => tellWatcher change l.2 s) (c, [])) :=
    (Untouched.refl c id t []).foldl_tellWatcher hdeaf hsite change fun l hl htree' =>
      hbefore t (List.mem_filterMap.mpr ⟨l, hl, htree'⟩) t List.mem_cons_self rfl
  rw [tellSettings_eq, Emitter.deliver, hsplit, List.foldl_append, List.foldl_cons]
  generalize before.foldl (fun s l => tellWatcher change l.2 s) (c, []) = s at hstart ⊢
  obtain ⟨hannounces, hbonds, hforgot⟩ :=
    tellWatcher_announces hdeaf hsite hheld ha hstart change
  generalize tellWatcher change (.root id) s = s' at hannounces hbonds hforgot ⊢
  have hwires : SameWires c s'.1 := hstart.wires.trans hbonds.wires
  have hsites (y : RegionId) : s'.1.site? y = c.site? y := (hbonds.site? y).trans (hstart.site? y)
  have hrest : ∀ l ∈ behind, s'.1.watchedTree? l.2 ≠ some t := by
    rintro ⟨token, l⟩ hl htree'
    refine (List.nodup_cons.mp hbehind).1 (List.mem_filterMap.mpr ⟨_, hl, ?_⟩)
    cases l with
    | observer => cases htree'
    | root y => exact (congrArg (Option.map Prod.fst) (hsites y)).symm.trans htree'
  have hend := (Untouched.refl s'.1 id t s'.2).foldl_tellWatcher
    (hdeaf.of_emitters hwires.emitters) ((hsites id).trans hsite) change hrest
  exact ⟨hannounces.aside hwires hend.toAside, hend.arena?.trans hforgot⟩

/-! ### Edits -/

/-- The contexts after an edit, and what is told of it. -/
def editing (c : Contexts) (e : Settings.Edit) : Contexts × List Notice :=
  let s := c.settings.edit e
  c.changeSettings s.1 s.2

/-- What an edit concerns of all that a tree remembers. -/
def forgotten (c : Contexts) (t : Nat) (e : Settings.Edit) : List String :=
  match (c.settings.edit e).2, c.arena? t with
  | some change, some a => (a.settingsChanged change).2
  | _, _ => []

theorem mem_forgotten_iff (c : Contexts) (t : Nat) (e : Settings.Edit) (key : String) :
    key ∈ c.forgotten t e ↔ c.Remembers t key ∧
      ∃ change, (c.settings.edit e).2 = some change ∧ change.Concerns key := by
  rw [forgotten, Remembers]
  cases (c.settings.edit e).2 with
  | none => simp
  | some change =>
      cases c.arena? t with
      | none => simp
      | some a => simp [(a.settingsChanged_exact change key).1]

/-- A root over the settings that watches them for a tree of its own. -/
structure Presides (c : Contexts) (id : RegionId) (t : Nat) : Prop extends Mirrors c id t where
  bonded : c.Bonded

namespace Presides

theorem access (h : c.Presides id t) (hlives : c.Lives id) (x : Access)
    (hafter : (c.access x).Lives id) : (c.access x).Presides id t :=
  ⟨h.toMirrors.access hlives x hafter, h.bonded.access h.grown x⟩

theorem accessed {xs : List Access} (h : c.Presides id t)
    (hlives : ∀ part, part <+: xs → (c.accessed part).Lives id) :
    (c.accessed xs).Presides id t :=
  ⟨h.toMirrors.accessed hlives, h.bonded.accessed h.grown xs⟩

/-- What the root is told of an edit. -/
theorem tells (h : c.Presides id t) (hheld : c.isHeld id = true) (ha : c.arena? t = some a)
    {e : Settings.Edit} (hchange : (c.settings.edit e).2 = some change) :
    Announces c id (a.settingsChanged change).2 (c.editing e) ∧
      (c.edit e).arena? t = some (a.settingsChanged change).1 := by
  have hediting : c.editing e = (c.withSettings (c.settings.edit e).1).tellSettings change := by
    rw [editing]
    dsimp only [changeSettings]
    rw [hchange]
    rfl
  have hbonded : (c.withSettings (c.settings.edit e).1).Bonded :=
    h.bonded.sameBonds (.of_regions rfl rfl)
  have hwatches : (c.withSettings (c.settings.edit e).1).Watches id := h.watches
  obtain ⟨hannounces, hforgot⟩ := hbonded.tells (c := c.withSettings (c.settings.edit e).1)
    h.backed.site hwatches ((isHeld_withSettings c _ id).trans hheld) ha change
  refine ⟨?_, (congrArg (fun s => s.1.arena? t) hediting).trans hforgot⟩
  rw [hediting]
  exact ⟨hannounces.changes, hannounces.told⟩

/-- An edit makes the root announce what it makes it forget. -/
theorem edit (h : c.Presides id t) (hheld : c.isHeld id = true) (e : Settings.Edit) :
    Announces c id (c.forgotten t e) (c.editing e) ∧
      ∀ key, (c.edit e).Remembers t key ↔ c.Remembers t key ∧ key ∉ c.forgotten t e := by
  obtain ⟨a, ha, -⟩ := h.backed.knows
  rw [forgotten, ha]
  cases hchange : (c.settings.edit e).2 with
  | none =>
      have hsame : c.editing e = (c, []) := by
        rw [editing]
        dsimp only [changeSettings]
        rw [hchange, Settings.edit_of_silent hchange]
      rw [Contexts.edit, ← editing, hsame]
      refine ⟨⟨rfl, fun _ _ => rfl⟩, fun key => ?_⟩
      exact (and_iff_left List.not_mem_nil).symm
  | some change =>
      obtain ⟨hannounces, hforgot⟩ := h.tells hheld ha hchange
      refine ⟨hannounces, fun key => ?_⟩
      obtain ⟨hmem, hleft⟩ := a.settingsChanged_exact change key
      refine (remembers_iff hforgot).trans (hleft.trans ?_)
      rw [hmem, remembers_iff ha]
      tauto

end Presides

theorem Bonded.presides (h : c.Bonded) (hc : c.Grown) :
    c.overSettings.1.Presides c.overSettings.2 c.trees.length :=
  ⟨hc.mirrors, (h.operate hc (.newRoot true)).sameBonds (.of_regions rfl rfl)⟩

end Contexts

end Shortcuts
