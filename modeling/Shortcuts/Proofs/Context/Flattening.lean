import Shortcuts.Proofs.Context.Lookups

/-!
All values of a context at once, and one by one. Collecting goes down to a context and lets nearer
values replace farther ones, a lookup goes up from it and stops at the first value. They agree
however an arena has been used, but for a setting in whose place the root has a value of its own:
a lookup asks the settings first, and collecting shows the value.
-/

namespace Shortcuts

namespace Arena

variable {a b : Arena} {id : ContextId} {key : String} {settings : String → Option Json}

/-! ### What is remembered, kept in order -/

theorem IsTidy.of_sameNodes (ha : a.IsTidy) (h : SameNodes a b)
    (hknown : (b.remembered.getD []).IsSorted)
    (hsettings : ∀ {key}, key ∈ (b.remembered.getD []).keys → isSettingKey key = true) :
    b.IsTidy where
  top := by
    rw [parent?, node?, h.nodes]
    exact ha.top
  sorted hnode := by
    rw [node?, h.nodes] at hnode
    exact ha.sorted hnode
  known := hknown
  settings := hsettings

theorem IsTidy.remember (ha : a.IsTidy) (settings : String → Option Json) (id : ContextId)
    (key : String) : (a.remember settings id key).IsTidy := by
  rcases a.remember_cases settings id key with ⟨heq, -⟩ | ⟨v, hyields, heq⟩ <;> rw [heq]
  · exact ha
  · refine ha.of_sameNodes ⟨rfl, rfl⟩ (ha.known.insert key v) fun {k} hk => ?_
    rcases (Fields.mem_keys_insert key k v _).mp hk with rfl | hk
    · exact (of_find_setting hyields.1).1
    · exact ha.settings hk

theorem forgetKey_sublist (s : Fields Json × List String) (k : String) :
    (forgetKey s k).1.Sublist s.1 := List.filter_sublist

theorem remembered_settingsChanged_sublist (a : Arena) (change : SettingsChange) :
    ((a.settingsChanged change).1.remembered.getD []).Sublist (a.remembered.getD []) := by
  rw [settingsChanged]
  split
  · exact .refl _
  · next known hknown =>
      split
      · exact List.nil_sublist _
      · rw [hknown]
        exact kept_foldl (fun s : Fields Json × List String => s.1.Sublist known)
          (fun s k h => (forgetKey_sublist s k).trans h) (List.Sublist.refl known) change.keys

theorem IsTidy.settingsChanged (ha : a.IsTidy) (change : SettingsChange) :
    (a.settingsChanged change).1.IsTidy := by
  have hsub := a.remembered_settingsChanged_sublist change
  exact ha.of_sameNodes (a.sameNodes_settingsChanged change) (List.Pairwise.sublist hsub ha.known)
    fun hkey => ha.settings ((hsub.map Prod.fst).subset hkey)

/-! ### Arenas in use -/

/-- What may happen to an arena: contexts and values change, a key is looked up with the settings
as they are then, or the root is told that settings have changed. -/
inductive Use where
  | operate (op : Operation)
  | look (settings : String → Option Json) (id : ContextId) (key : String)
  | notify (change : SettingsChange)

def use (a : Arena) : Use → Arena
  | .operate op => a.apply op
  | .look settings id key => a.remember settings id key
  | .notify change => (a.settingsChanged change).1

def usedBy (a : Arena) (uses : List Use) : Arena := uses.foldl use a

def Loops (a : Arena) : Use → Prop
  | .operate op => a.ClosesLoop op
  | _ => False

/-- None of the uses, one after the other, puts a context below itself. -/
def LoopFree (a : Arena) : List Use → Prop
  | [] => True
  | u :: uses => ¬ a.Loops u ∧ (a.use u).LoopFree uses

theorem IsTidy.apply (ha : a.IsTidy) (op : Operation) : (a.apply op).IsTidy := by
  cases op with
  | createChild parent => exact ha.createChild parent
  | updateParent id parent =>
      rw [Arena.apply]
      cases hb : a.updateParent id parent with
      | error e => exact ha
      | ok b => exact ha.updateParent hb
  | dispose id => exact ha.dispose id
  | set id key v =>
      rw [Arena.apply]
      rcases set_eq a id key v with heq | heq <;> rw [heq]
      · exact ha
      · exact ha.withValues id fun _ hm => hm.insert key v
  | remove id key =>
      rw [Arena.apply]
      rcases remove_eq a id key with heq | heq <;> rw [heq]
      · exact ha
      · exact ha.withValues id fun _ hm => hm.erase key

theorem IsTidy.use (ha : a.IsTidy) (u : Use) : (a.use u).IsTidy := by
  cases u with
  | operate op => exact ha.apply op
  | look settings id key => exact ha.remember settings id key
  | notify change => exact ha.settingsChanged change

theorem IsTidy.usedBy (ha : a.IsTidy) (uses : List Use) : (a.usedBy uses).IsTidy :=
  kept_foldl IsTidy (fun _ u h => h.use u) ha uses

theorem SameNodes.isForest_iff (h : SameNodes a b) : b.IsForest ↔ a.IsForest :=
  isForest_congr fun x => by rw [parent?, node?, h.nodes, parent?, node?]

/-- Lookups and changes of the settings move no context. -/
theorem isForest_use_iff (h : a.IsForest) (u : Use) : (a.use u).IsForest ↔ ¬ a.Loops u := by
  cases u with
  | operate op => exact isForest_apply_iff h op
  | look settings id key =>
      exact iff_of_true ((a.sameNodes_remember settings id key).isForest_iff.mpr h) not_false
  | notify change =>
      exact iff_of_true ((a.sameNodes_settingsChanged change).isForest_iff.mpr h) not_false

theorem IsForest.usedBy (h : a.IsForest) {uses : List Use} (hfree : a.LoopFree uses) :
    (a.usedBy uses).IsForest := by
  induction uses generalizing a with
  | nil => exact h
  | cons u uses ih => exact ih ((isForest_use_iff h u).mpr hfree.1) hfree.2

/-! ### Collected and looked up -/

theorem lookup_collect_idKey (a : Arena) (id : ContextId) :
    (a.collect id).lookup idKey = none := Fields.lookup_erase_self idKey _

/-- A lookup ends at the settings, and what it answers is not the value that the root has of its
own. -/
def Veils (settings : String → Option Json) (a : Arena) (id : ContextId) (key : String) : Prop :=
  a.locate id key = .setting ∧ ∃ v, a.own? root key = some v ∧ a.get? settings id key ≠ some v

theorem ne_idKey_of_setting (h : a.locate id key = .setting) : key ≠ idKey := by
  rintro rfl
  exact absurd (of_find_setting h).1 (by decide)

theorem get?_of_remembered {v : Json} (h : a.locate id key = .setting)
    (hv : (a.remembered.getD []).lookup key = some v) : a.get? settings id key = some v := by
  rw [get?, if_neg (ne_idKey_of_setting h), h, hv]

section Ending

variable {ids : List ContextId} (ha : a.IsTidy) (hids : a.Gathers id ids)

include ha hids

theorem lookup_collect_eq_get? (hkey : key ≠ idKey) (hset : a.locate id key ≠ .setting) :
    (a.collect id).lookup key = a.get? settings id key := by
  rw [ha.lookup_collect hids hkey, get?, if_neg hkey]
  cases hfound : a.locate id key with
  | setting => exact absurd hfound hset
  | value v => rfl
  | missing => rfl

/-- What is collected of a setting is the value of the root, if it has one, and otherwise what is
remembered, which lookups answer as well. -/
theorem collect_of_setting_iff (hset : a.locate id key = .setting) :
    (∀ v, (a.collect id).lookup key = some v → a.get? settings id key = some v) ↔
      ¬ a.Veils settings id key := by
  rw [ha.lookup_collect hids (ne_idKey_of_setting hset), hset, collected?]
  cases hown : a.own? root key with
  | some w =>
      constructor
      · rintro h ⟨-, v, hv, hne⟩
        exact hne (h v (hown.symm.trans hv))
      · intro h v hv
        exact Classical.byContradiction fun hne => h ⟨hset, v, hown.trans hv, hne⟩
  | none =>
      refine iff_of_true (fun v hv => get?_of_remembered hset hv) ?_
      rintro ⟨-, v, hv, -⟩
      rw [hown] at hv
      cases hv

theorem collect_sound_iff :
    (∀ v, (a.collect id).lookup key = some v → a.get? settings id key = some v) ↔
      ¬ a.Veils settings id key := by
  by_cases hset : a.locate id key = .setting
  · exact collect_of_setting_iff ha hids hset
  · refine iff_of_true (fun v hv => ?_) fun h => hset h.1
    by_cases hkey : key = idKey
    · rw [hkey, lookup_collect_idKey] at hv
      cases hv
    · exact (lookup_collect_eq_get? ha hids hkey hset).symm.trans hv

end Ending

/-- However an arena is used, collections end for all contexts as long as no loop is closed. Where
one ends, it has what lookups answer: of each key but the number of the context and those that the
settings answer exactly that. Of these too it has nothing else, unless the root veils one with a
value of its own. -/
theorem collect_agrees_iff (backed : Bool) (uses : List Use) (settings : String → Option Json)
    (id : ContextId) (key : String) :
    ((new backed).LoopFree uses → ∃ ids, ((new backed).usedBy uses).Gathers id ids) ∧
    ((∃ ids, ((new backed).usedBy uses).Gathers id ids) →
      (key ≠ idKey → ((new backed).usedBy uses).locate id key ≠ .setting →
        (((new backed).usedBy uses).collect id).lookup key =
          ((new backed).usedBy uses).get? settings id key) ∧
      ((∀ v, (((new backed).usedBy uses).collect id).lookup key = some v →
        ((new backed).usedBy uses).get? settings id key = some v) ↔
          ¬ ((new backed).usedBy uses).Veils settings id key)) := by
  have htidy := (IsTidy.new backed).usedBy uses
  refine ⟨fun hfree => ⟨_, (((isForest_new backed).usedBy hfree).ends id).2⟩, ?_⟩
  rintro ⟨ids, hids⟩
  exact ⟨lookup_collect_eq_get? htidy hids, collect_sound_iff htidy hids⟩

/-- A setting is read through a context below the root, and the root gets a value for another
key. -/
def readingBelow : List Use :=
  [.operate (.createChild root), .look (fun _ => some (.ofNat 1)) 1 "config.a",
    .operate (.set root "b" (.ofNat 2))]

theorem collect_agrees_readingBelow :
    (new true).LoopFree readingBelow ∧
    (((new true).usedBy readingBelow).collect 1).lookup "b" =
      ((new true).usedBy readingBelow).get? (fun _ => none) 1 "b" ∧
    ∀ v, (((new true).usedBy readingBelow).collect 1).lookup "config.a" = some v →
      ((new true).usedBy readingBelow).get? (fun _ => none) 1 "config.a" = some v := by
  have hfree : (new true).LoopFree readingBelow := by
    refine ⟨?_, not_false, not_false, trivial⟩
    rintro ⟨n, hn⟩
    cases n with
    | zero => cases hn
    | succ n =>
        obtain ⟨p, hp, -⟩ := hn.above
        cases hp
  have hagrees := fun key => collect_agrees_iff true readingBelow (fun _ => none) 1 key
  have hends := (hagrees "b").1 hfree
  refine ⟨hfree, ((hagrees "b").2 hends).1 (by decide) nofun,
    ((hagrees "config.a").2 hends).2.mpr ?_⟩
  rintro ⟨-, v, hv, -⟩
  cases hv

/-- The root has a value of its own for a setting without a value. It is collected, and no lookup
finds it. -/
theorem own_value_veils_setting :
    (new true).LoopFree [.operate (.set root "config.a" (.ofNat 1))] ∧
    (((new true).usedBy [.operate (.set root "config.a" (.ofNat 1))]).collect root).lookup
      "config.a" = some (.ofNat 1) ∧
    ((new true).usedBy [.operate (.set root "config.a" (.ofNat 1))]).get? (fun _ => none) root
      "config.a" = none :=
  ⟨⟨not_false, trivial⟩, rfl, rfl⟩

end Arena

end Shortcuts
