import Shortcuts.Proofs.Context.Values
import Shortcuts.Proofs.Settings

/-!
What the root of an arena remembers of the settings. As long as it is what is stored, the root
answers with what is stored, and a change makes it forget every key whose value it may have changed.
-/

namespace Shortcuts

/-- A setting as a context value: a list counts as its text. -/
def Settings.shown : Json → Json
  | .arr items => .str (Json.arr items).compact
  | v => v

namespace Arena

open Settings (shown)

variable {a b : Arena} {s s' : Settings} {change : SettingsChange}

theorem settingValue_append (settings : String → Option Json) (key : String) :
    settingValue settings (settingPrefix ++ key) = (settings key).map shown := by
  have hdrop : (settingPrefix ++ key).toList.drop settingPrefix.length = key.toList := by
    rw [String.toList_append, ← String.length_toList, List.drop_left]
  rw [settingValue, hdrop, String.ofList_toList]
  refine congrArg (Option.map · _) (funext fun v => ?_)
  cases v <;> rfl

theorem isSettingKey_append (key : String) : isSettingKey (settingPrefix ++ key) = true := by
  rw [isSettingKey, String.toList_append, List.isPrefixOf_iff_prefix]
  exact List.prefix_append _ _

theorem append_ne_idKey (key : String) : settingPrefix ++ key ≠ idKey := by
  intro h
  have htyped := List.prefix_append settingPrefix.toList key.toList
  rw [← String.toList_append, h] at htyped
  exact absurd htyped (by decide)

theorem covers_append (before k key : String) :
    Covers (before ++ k) (before ++ key) ↔ Covers k key := by
  have hsame : before ++ k = before ++ key ↔ k = key := by
    rw [← String.toList_inj, String.toList_append, String.toList_append, List.append_cancel_left_eq,
      String.toList_inj]
  simp only [Covers, hsame, isSectionOf_iff, String.toList_append, List.append_assoc,
    List.append_cancel_left_eq]

/-- The root may answer for the settings, and what it remembers of them is what is stored. -/
structure Knows (a : Arena) (s : Settings) : Prop where
  root : (a.node? root).isSome = true
  backed : a.remembered.isSome = true
  right : ∀ key v, (a.remembered.getD []).lookup (settingPrefix ++ key) = some v →
    (s.get? key).map shown = some v

namespace Knows

theorem get?_of_locate (h : a.Knows s) {x : ContextId} {key : String}
    (hlocate : a.locate x (settingPrefix ++ key) = .setting) :
    a.get? s.get? x (settingPrefix ++ key) = (s.get? key).map shown := by
  rw [Arena.get?, if_neg (append_ne_idKey key), hlocate]
  dsimp only
  split
  · next v hv => exact (h.right key v hv).symm
  · exact settingValue_append s.get? key

theorem get? (h : a.Knows s) (key : String) :
    a.get? s.get? Arena.root (settingPrefix ++ key) = (s.get? key).map shown := by
  obtain ⟨node, hnode⟩ := Option.isSome_iff_exists.mp h.root
  refine h.get?_of_locate ?_
  rw [locate, find, hnode]
  exact if_pos ⟨rfl, isSettingKey_append key, h.backed⟩

theorem of_same (h : a.Knows s) (hroot : (b.node? Arena.root).isSome = true)
    (hremembered : b.remembered = a.remembered) : b.Knows s where
  root := hroot
  backed := hremembered ▸ h.backed
  right := hremembered ▸ h.right

theorem new (s : Settings) : (Arena.new true).Knows s where
  root := rfl
  backed := rfl
  right := by
    intro key v hv
    cases hv

theorem createChild (h : a.Knows s) (parent : ContextId) : (a.createChild parent).1.Knows s := by
  refine h.of_same ?_ rfl
  rw [node?_createChild]
  split
  · rfl
  · exact h.root

theorem dispose (h : a.Knows s) (id : ContextId) : (a.dispose id).1.Knows s := by
  refine h.of_same ?_ (remembered_dispose a id)
  rw [node?_dispose, if_neg fun hid => hid.2 hid.1.symm]
  exact h.root

theorem updateParent (h : a.Knows s) {id parent : ContextId}
    (hb : a.updateParent id parent = .ok b) : b.Knows s :=
  h.of_same ((contains_updateParent hb Arena.root).trans h.root) (remembered_updateParent hb)

theorem withValues (h : a.Knows s) (id : ContextId) (f : Fields Json → Fields Json) :
    (a.withValues id f).Knows s :=
  h.of_same ((contains_withValues a id f Arena.root).trans h.root) rfl

theorem remember (h : a.Knows s) (id : ContextId) (key : String) :
    (a.remember s.get? id key).Knows s := by
  rw [Arena.remember]
  split
  · exact h
  · split
    · next known _ hknown =>
        split
        · exact h
        · split
          · next v hv =>
              refine ⟨h.root, rfl, fun key' v' hv' => ?_⟩
              have hold := h.right key'
              rw [hknown] at hold
              by_cases hk : settingPrefix ++ key' = key
              · subst hk
                rw [Option.getD_some, Fields.lookup_insert_self] at hv'
                rw [← hv', ← hv, settingValue_append]
              · rw [Option.getD_some, Fields.lookup_insert_of_ne hk] at hv'
                exact hold v' hv'
          · exact h
    · exact h

theorem rememberAll (h : a.Knows s) (id : ContextId) (keys : List String) :
    (a.rememberAll s.get? id keys).Knows s :=
  kept_foldl (fun a : Arena => a.Knows s) (fun _ key h => h.remember id key) h keys

end Knows

/-! ### Forgetting -/

/-- Forgets what a written key may have changed. -/
def forgetKey (s : Fields Json × List String) (k : String) : Fields Json × List String :=
  let key := settingPrefix ++ k
  let stale := s.1.keys.filter fun l => l = key || isSectionOf key l
  (s.1.filter fun e => !stale.contains e.1, s.2 ++ stale.filter fun l => !s.2.contains l)

theorem lookup_forgetKey {known : Fields Json} {changed : List String} {k l : String} {v : Json}
    (h : (forgetKey (known, changed) k).1.lookup l = some v) :
    known.lookup l = some v ∧ ¬ Covers (settingPrefix ++ k) l := by
  rw [forgetKey, lookup_filter fun l' => !_] at h
  dsimp only at h
  split at h
  · next hkept =>
      refine ⟨h, fun hcovers => ?_⟩
      obtain ⟨before, behind, hsplit, -⟩ := List.lookup_eq_some_iff.mp h
      have hmem : l ∈ known.keys := by
        rw [Fields.keys, hsplit]
        simp
      have hstale : l ∈ known.keys.filter fun l =>
          l = settingPrefix ++ k || isSectionOf (settingPrefix ++ k) l := by
        refine List.mem_filter.mpr ⟨hmem, ?_⟩
        rcases hcovers with rfl | hsection
        · simp
        · simp [hsection]
      simp [hstale] at hkept
  · cases h

theorem lookup_foldl_forgetKey {known : Fields Json} {changed : List String} {keys : List String}
    {l : String} {v : Json} (h : (keys.foldl forgetKey (known, changed)).1.lookup l = some v) :
    known.lookup l = some v ∧ ∀ k ∈ keys, ¬ Covers (settingPrefix ++ k) l := by
  induction keys generalizing known changed with
  | nil => exact ⟨h, nofun⟩
  | cons k keys ih =>
      obtain ⟨hrest, hkeys⟩ := ih h
      obtain ⟨hknown, hk⟩ := lookup_forgetKey hrest
      exact ⟨hknown, List.forall_mem_cons.mpr ⟨hk, hkeys⟩⟩

/-- What is left of what was remembered is nothing after a change of the base layer, and nothing
that the written keys cover after any other. -/
theorem settingsChanged_eq {known : Fields Json} (h : a.remembered = some known)
    (change : SettingsChange) :
    ∃ left, (a.settingsChanged change).1 = { a with remembered := some left } ∧
      ∀ l v, left.lookup l = some v → known.lookup l = some v ∧ change.layer ≠ .base ∧
        ∀ k ∈ change.keys, ¬ Covers (settingPrefix ++ k) l := by
  rw [settingsChanged, h]
  dsimp only
  split
  · exact ⟨[], rfl, nofun⟩
  · next hlayer =>
      refine ⟨(change.keys.foldl forgetKey (known, [])).1, rfl, fun l v hv => ?_⟩
      obtain ⟨hknown, hkeys⟩ := lookup_foldl_forgetKey hv
      exact ⟨hknown, hlayer, hkeys⟩

namespace Knows

/-- Forgetting does no harm. -/
theorem settingsChanged (h : a.Knows s) (change : SettingsChange) :
    (a.settingsChanged change).1.Knows s := by
  obtain ⟨known, hknown⟩ := Option.isSome_iff_exists.mp h.backed
  obtain ⟨left, heq, hleft⟩ := settingsChanged_eq hknown change
  rw [heq]
  refine ⟨h.root, rfl, fun key v hv => h.right key v ?_⟩
  rw [hknown]
  exact (hleft _ v hv).1

/-- What was stored before a change and is not forgotten after it is stored still. -/
theorem of_tells (h : a.Knows s) (hchange : change.Tells s s') :
    (a.settingsChanged change).1.Knows s' := by
  obtain ⟨known, hknown⟩ := Option.isSome_iff_exists.mp h.backed
  obtain ⟨left, heq, hleft⟩ := settingsChanged_eq hknown change
  rw [heq]
  refine ⟨h.root, rfl, fun key v hv => ?_⟩
  obtain ⟨hold, hlayer, hkeys⟩ := hleft _ v hv
  have hsame : s'.get? key = s.get? key := by
    rcases hchange with hbase | hsame
    · exact absurd hbase hlayer
    · exact hsame key fun k hk hcovers => hkeys k hk ((covers_append _ k key).mpr hcovers)
  rw [hsame]
  refine h.right key v ?_
  rw [hknown]
  exact hold

end Knows

/-! ### Contexts are left alone -/

structure SameNodes (a b : Arena) : Prop where
  nodes : b.nodes = a.nodes
  lastId : b.lastId = a.lastId

theorem sameNodes_remember (a : Arena) (settings : String → Option Json) (id : ContextId)
    (key : String) : SameNodes a (a.remember settings id key) := by
  rw [remember]
  repeat' split
  all_goals exact ⟨rfl, rfl⟩

theorem sameNodes_rememberAll (a : Arena) (settings : String → Option Json) (id : ContextId)
    (keys : List String) : SameNodes a (a.rememberAll settings id keys) := by
  refine kept_foldl (SameNodes a) (fun b key h => ?_) ⟨rfl, rfl⟩ keys
  have hstep := sameNodes_remember b settings id key
  exact ⟨hstep.nodes.trans h.nodes, hstep.lastId.trans h.lastId⟩

theorem sameNodes_settingsChanged (a : Arena) (change : SettingsChange) :
    SameNodes a (a.settingsChanged change).1 := by
  cases h : a.remembered with
  | none =>
      rw [settingsChanged, h]
      exact ⟨rfl, rfl⟩
  | some known =>
      obtain ⟨left, heq, -⟩ := settingsChanged_eq h change
      rw [heq]
      exact ⟨rfl, rfl⟩

end Arena

end Shortcuts
