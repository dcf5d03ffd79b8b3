import Shortcuts.Proofs.Context.Forgetting

/-!
When a root over the settings announces a setting that an edit changes: exactly if a lookup has
found the setting, somewhere in the tree of the root, and no edit has concerned it since. A lookup
that finds nothing leaves no trace, so a setting that appears after it is not announced.
-/

namespace Shortcuts

namespace Contexts

variable {c : Contexts} {id : RegionId} {t t' : Nat} {a b : Arena} {key : String}
  {keys : List String} {e : Settings.Edit}

/-! ### One access -/

def Access.Finds (c : Contexts) (t : Nat) (key : String) : Access → Prop
  | .read r => r.Finds c t key
  | _ => False

/-- The access is an edit of which something is said that concerns the key. -/
def Access.Concerns (c : Contexts) (key : String) : Access → Prop
  | .edit e => ∃ change, (c.settings.edit e).2 = some change ∧ change.Concerns key
  | _ => False

theorem remembers_withArena (ha : c.arena? t' = some a) (hb : b.remembered = a.remembered) :
    (c.withArena t' b).Remembers t key ↔ c.Remembers t key := by
  have hafter := arena?_withArena ha b t
  split at hafter
  · next ht =>
      rw [remembers_iff hafter, remembers_iff (ht ▸ ha), Arena.Remembers, hb]
      rfl
  · exact remembers_congr hafter

theorem remembers_congr_trees {d : Contexts} (h : d.trees = c.trees) :
    d.Remembers t key ↔ c.Remembers t key := remembers_congr (arena?_congr h t)

/-- Operations on the regions do not touch what is remembered. -/
theorem remembers_of_step {op : Operation} {s : Contexts × List Notice} (hc : c.Grown)
    (ha : c.arena? t = some a) (hstep : Step c op s) :
    s.1.Remembers t key ↔ c.Remembers t key := by
  cases hstep with
  | refused | held => rfl
  | newRoot backed =>
      obtain ⟨watchers, heq⟩ := newRoot_eq c backed
      rw [heq]
      refine remembers_congr ((arena?_withTree _ backed t).trans ?_)
      exact if_neg (hc.ne_length ha)
  | child hr ha' => exact remembers_withArena ha' rfl
  | gone ha' => exact remembers_withArena ha' (Arena.remembered_dispose _ _)
  | entered hs =>
      obtain ⟨r, a', elements, hr, -, ha', -, heq⟩ := createScoped_ok hs
      rw [heq, remembers_congr_trees (samePlaces_listenTo _ _ _).trees]
      exact remembers_withArena ha' rfl
  | @moved x above _ hs =>
      obtain ⟨r, ra, a', b, -, -, -, -, -, ha', hb, rfl⟩ := updateParent_ok hs
      rw [remembers_congr_trees (samePlaces_fire _ _ _).trees,
        remembers_congr_trees (samePlaces_listenTo _ _ _).trees]
      exact remembers_withArena ha' (Arena.remembered_updateParent hb)
  | @ended x r a' watchers elements hr ha' =>
      have hsame := (samePlaces_forget c r.feed).trans (samePlaces_withOutside _ watchers elements)
      refine Iff.trans ?_ (remembers_congr_trees hsame.trees)
      exact remembers_withArena ((arena?_congr hsame.trees r.tree).trans ha')
        (Arena.remembered_dispose a' r.context)
  | written _ _ _ ha' =>
      rw [remembers_congr_trees (samePlaces_fire _ _ _).trees]
      exact remembers_withArena ha' rfl
  | observed x name => exact remembers_congr_trees (samePlaces_observe c x name).trees

theorem remembers_focus (c : Contexts) (x : RegionId) (target : Option ElementId) :
    (c.focus x target).Remembers t key ↔ c.Remembers t key := by
  rcases focus_cases c x target with heq | ⟨t', heq⟩
  · rw [heq]
  · rw [heq]
    exact remembers_congr (arena?_withFocus c t' target t)

theorem remembers_resume (c : Contexts) (x : RegionId) :
    (c.resume x).1.Remembers t key ↔ c.Remembers t key := by
  refine remembers_congr_trees (resume_induction (P := fun d => d.trees = c.trees)
    (fun d y changes hd => ?_) rfl x)
  exact (samePlaces_withChanges d y changes).trees.trans hd

/-- What is remembered was found by the access, or was remembered and is not concerned by it. -/
theorem Presides.remembers_access (h : c.Presides id t) (hheld : c.isHeld id = true)
    (x : Access) (key : String) : (c.access x).Remembers t key ↔
      x.Finds c t key ∨ c.Remembers t key ∧ ¬ x.Concerns c key := by
  have hleft (hsame : (c.access x).Remembers t key ↔ c.Remembers t key) :
      (c.access x).Remembers t key ↔ False ∨ c.Remembers t key ∧ ¬ False :=
    hsame.trans (by simp)
  cases x with
  | operate op =>
      obtain ⟨a, ha, -⟩ := h.backed.knows
      exact hleft (remembers_of_step h.grown ha (h.grown.step op))
  | edit e =>
      refine ((h.edit hheld e).2 key).trans ?_
      rw [mem_forgotten_iff]
      refine Iff.trans ?_ (or_iff_right not_false).symm
      exact and_congr_right fun hremembers => not_congr (and_iff_right hremembers)
  | read r =>
      refine (remembers_read_iff h.grown r).trans (or_comm.trans (or_congr_right ?_))
      exact (and_iff_left not_false).symm
  | focus x target => exact hleft (remembers_focus c x target)
  | resume x => exact hleft (remembers_resume c x)
  | watch | pause | arrange => exact hleft Iff.rfl

/-! ### All accesses -/

/-- A lookup has found the setting, and no edit has concerned it since. -/
def FoundSince (c : Contexts) (t : Nat) (key : String) (xs : List Access) : Prop :=
  Since (fun before x => x.Finds (c.accessed before) t key)
    (fun before x => x.Concerns (c.accessed before) key) xs

theorem Presides.remembers_accessed (h : c.Presides id t) (hnew : ¬ c.Remembers t key)
    {xs : List Access} (hlives : ∀ part, part <+: xs → (c.accessed part).Lives id) :
    (c.accessed xs).Remembers t key ↔ c.FoundSince t key xs := by
  induction xs using List.reverseRecOn with
  | nil => exact iff_of_false hnew (not_since_nil _ _)
  | append_singleton xs x ih =>
      have hbefore : ∀ part, part <+: xs → (c.accessed part).Lives id :=
        fun part hpart => hlives part (hpart.trans (List.prefix_append xs [x]))
      have hstep := (h.accessed hbefore).remembers_access (hbefore xs List.prefix_rfl).1 x key
      have hlast : c.accessed (xs ++ [x]) = (c.accessed xs).access x := by
        rw [Contexts.accessed, List.foldl_append]
        rfl
      rw [hlast, hstep, ih hbefore, FoundSince, FoundSince, since_concat]

theorem not_remembers_overSettings (c : Contexts) (key : String) :
    ¬ c.overSettings.1.Remembers c.trees.length key := by
  have hnew : c.overSettings.1.arena? c.trees.length = some (.new true) := by
    obtain ⟨watchers, heq⟩ := newRoot_eq c true
    rw [overSettings]
    dsimp only
    rw [heq]
    exact (arena?_withTree _ true _).trans (if_pos rfl)
  rw [remembers_iff hnew]
  exact List.not_mem_nil

/-! ### What is announced -/

/-- An edit that does not concern a setting leaves the value that it has for any context. -/
theorem Presides.valuesAt_edit (h : c.Presides id t) (hheld : c.isHeld id = true)
    (x : Option ContextId)
    (hconcerns : ¬ (Access.edit e).Concerns c (Arena.settingPrefix ++ key)) :
    (c.edit e).valuesAt t x (Arena.settingPrefix ++ key) =
      c.valuesAt t x (Arena.settingPrefix ++ key) := by
  cases x with
  | none => simp [valuesAt]
  | some x =>
      obtain ⟨a, ha, hknows⟩ := h.backed.knows
      cases hchange : (c.settings.edit e).2 with
      | none =>
          have hsame : c.edit e = c := by
            rcases edit_cases c e with ⟨change, hsome, -⟩ | ⟨-, heq⟩
            · rw [hchange] at hsome
              cases hsome
            · exact heq
          rw [hsame]
      | some change =>
          obtain ⟨-, hforgot⟩ := h.tells hheld ha hchange
          have hsettings : (c.edit e).settings = (c.settings.edit e).1 :=
            settings_access h.grown (.edit e)
          simp only [valuesAt, hforgot, ha, hsettings]
          exact hknows.get?_settingsChanged (Settings.tells_edit hchange) x fun hkey =>
            hconcerns ⟨change, hchange, hkey⟩

/-- Whoever listens to the region and nowhere else hears of a key at once if it is among those that
are announced, unless events are held back. -/
theorem Announces.hears_iff {s : Contexts × List Notice} {name : String}
    (h : Announces c id keys s) (honly : c.ListensOnlyAt name id)
    (hlistens : 0 < c.subscriptions id name) :
    (∃ told, .context name told ∈ s.2 ∧ key ∈ told) ↔
      key ∈ keys ∧ (c.changesOf id).isPaused = false := by
  have hmem (told : List String) : .context name told ∈ s.2 ↔
      (keys.isEmpty || (c.changesOf id).isPaused) = false ∧ told = keys := by
    have hfilter : .context name told ∈ s.2 ↔
        Notice.context name told ∈ s.2.filter (Notice.isTo name) := by
      simp [Notice.isTo]
    rw [hfilter, h.told name honly]
    cases keys.isEmpty || (c.changesOf id).isPaused with
    | true => simp
    | false => simp [Nat.ne_of_gt hlistens]
  constructor
  · rintro ⟨told, htold, hkey⟩
    obtain ⟨hopen, rfl⟩ := (hmem told).mp htold
    exact ⟨hkey, (Bool.or_eq_false_iff.mp hopen).2⟩
  · rintro ⟨hkey, hpaused⟩
    refine ⟨keys, (hmem keys).mpr ⟨?_, rfl⟩, hkey⟩
    rw [hpaused, Bool.or_false, List.isEmpty_eq_false_iff]
    exact List.ne_nil_of_mem hkey

/-- However a root over the settings came about, and whatever is done while it lives: when an edit
gives a setting another value for some context of its tree, the root announces the setting exactly
if a lookup in the tree has found it, and no edit has concerned it since. Observers hear of it at
once unless events are held back. -/
theorem setting_told_iff {settings : Settings} {elements : Elements} {before after : List Access}
    (hroot : ((start settings elements).accessed before).overSettings = (c, id))
    (htree : c.site? id = some (t, Arena.root))
    (hlives : ∀ part, part <+: after → (c.accessed part).Lives id) (e : Settings.Edit) :
    let d := c.accessed after
    Announces d id (d.forgotten t e) (d.editing e) ∧
      ∀ key x, (d.edit e).valuesAt t x (Arena.settingPrefix ++ key) ≠
          d.valuesAt t x (Arena.settingPrefix ++ key) →
        (Arena.settingPrefix ++ key ∈ d.forgotten t e ↔
          c.FoundSince t (Arena.settingPrefix ++ key) after) ∧
        ∀ name, d.ListensOnlyAt name id → 0 < d.subscriptions id name →
          ((∃ told, .context name told ∈ (d.editing e).2 ∧ Arena.settingPrefix ++ key ∈ told) ↔
            c.FoundSince t (Arena.settingPrefix ++ key) after ∧
              (d.changesOf id).isPaused = false) := by
  intro d
  have hstart := (grown_start settings elements).accessed before
  have hbonded := (bonded_start settings elements).accessed (grown_start settings elements) before
  have hpresides := hbonded.presides hstart
  have hfresh := not_remembers_overSettings ((start settings elements).accessed before)
  rw [hroot] at hpresides hfresh
  have ht : t = ((start settings elements).accessed before).trees.length := by
    have hsite := hpresides.backed.site
    rw [htree] at hsite
    cases hsite
    rfl
  subst ht
  have hlast := hlives after List.prefix_rfl
  have hd := hpresides.accessed hlives
  have hannounces := (hd.edit hlast.1 e).1
  refine ⟨hannounces, fun key x hne => ?_⟩
  have hconcerns : (Access.edit e).Concerns d (Arena.settingPrefix ++ key) := by
    by_contra hconcerns
    exact hne (hd.valuesAt_edit hlast.1 x hconcerns)
  have hfound : Arena.settingPrefix ++ key ∈ d.forgotten _ e ↔
      c.FoundSince _ (Arena.settingPrefix ++ key) after :=
    (mem_forgotten_iff d _ e _).trans ((and_iff_left hconcerns).trans
      (hpresides.remembers_accessed (hfresh _) hlives))
  refine ⟨hfound, fun name honly hlistens => ?_⟩
  rw [hannounces.hears_iff honly hlistens, hfound]

theorem setting_told_iff_observed :
    let c := ((start {} {}).accessed []).overSettings.1
    let after : List Access := [.edit (.update "a" (.bool true) .user),
      .operate (.observe 0 "o"), .read (.get (.region 0) "config.a")]
    let d := c.accessed after
    let e : Settings.Edit := .remove "a" .user
    ((start {} {}).accessed []).overSettings = (c, 0) ∧ c.site? 0 = some (0, Arena.root) ∧
      (∀ part, part <+: after → (c.accessed part).Lives 0) ∧
      (d.edit e).valuesAt 0 (some Arena.root) (Arena.settingPrefix ++ "a") ≠
        d.valuesAt 0 (some Arena.root) (Arena.settingPrefix ++ "a") ∧
      d.ListensOnlyAt "o" 0 ∧ 0 < d.subscriptions 0 "o" ∧
      ((∃ told, .context "o" told ∈ (d.editing e).2 ∧ Arena.settingPrefix ++ "a" ∈ told) ↔
        c.FoundSince 0 (Arena.settingPrefix ++ "a") after ∧
          (d.changesOf 0).isPaused = false) := by
  intro c after d e
  have hlives : ∀ part, part <+: after → (c.accessed part).Lives 0 := by
    intro part hpart
    have hparts : ∀ part ∈ after.inits, (c.accessed part).Lives 0 := by decide
    exact hparts part (List.mem_inits part after |>.mpr hpart)
  have hne : (d.edit e).valuesAt 0 (some Arena.root) (Arena.settingPrefix ++ "a") ≠
      d.valuesAt 0 (some Arena.root) (Arena.settingPrefix ++ "a") := by
    have hbefore : (d.valuesAt 0 (some Arena.root) "config.a").isSome = true := by decide
    have hafter : ((d.edit e).valuesAt 0 (some Arena.root) "config.a").isSome = false := by decide
    exact fun h => Bool.false_ne_true (hafter.symm.trans ((congrArg Option.isSome h).trans hbefore))
  have honly : d.ListensOnlyAt "o" 0 := by
    intro p hp
    obtain ⟨p, rfl⟩ := Nat.exists_eq_succ_of_ne_zero hp
    rfl
  have hlistens : 0 < d.subscriptions 0 "o" := by decide
  exact ⟨rfl, rfl, hlives, hne, honly, hlistens,
    ((setting_told_iff rfl rfl hlives e).2 "a" _ hne).2 "o" honly hlistens⟩

/-- A setting that has no value when it is looked up, and one afterwards, is not announced. -/
theorem absent_setting_untold :
    let c := (start {} {}).overSettings.1
    let r : Read := .get (.region 0) "config.a"
    let d := c.accessed [.operate (.observe 0 "o"), .read r]
    let e : Settings.Edit := .update "a" (.bool true) .user
    (r.lookup? (c.accessed [.operate (.observe 0 "o")])).map Lookup.keys = some ["config.a"] ∧
      d.get? 0 "config.a" = none ∧ (d.edit e).get? 0 "config.a" = some (.bool true) ∧
      d.ListensOnlyAt "o" 0 ∧ 0 < d.subscriptions 0 "o" ∧ (d.changesOf 0).isPaused = false ∧
      ¬ ∃ told, .context "o" told ∈ (d.editing e).2 ∧ "config.a" ∈ told := by
  intro c r d e
  have honly : d.ListensOnlyAt "o" 0 := by
    intro p hp
    obtain ⟨p, rfl⟩ := Nat.exists_eq_succ_of_ne_zero hp
    rfl
  have hsilent : (d.editing e).2 = [] := by decide
  refine ⟨by decide, rfl, rfl, honly, by decide, by decide, ?_⟩
  rintro ⟨told, htold, -⟩
  rw [hsilent] at htold
  cases htold

end Contexts

end Shortcuts
