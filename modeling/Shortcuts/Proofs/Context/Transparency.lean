import Mathlib.Data.List.Infix
import Shortcuts.Proofs.Context.Access
import Shortcuts.Proofs.Context.Wiring

/-!
A root over the settings. While it lives it watches them, so whatever is edited, read and done to
the contexts, it answers every setting with what is stored at that moment.
-/

namespace Shortcuts

namespace Contexts

variable {c d : Contexts} {id : RegionId} {r : Region} {t t' : Nat} {a b : Arena}
  {s s' : Settings}

/-- The region lives on and has not ended. -/
def Lives (c : Contexts) (id : RegionId) : Prop := c.isHeld id = true ∧ c.isDisposed id = false

instance (c : Contexts) (id : RegionId) : Decidable (c.Lives id) :=
  inferInstanceAs (Decidable (_ ∧ _))

/-- A new tree that is backed by the settings. Whoever made it holds the region at its root. -/
def overSettings (c : Contexts) : Contexts × RegionId :=
  let (c, id) := c.newRoot true
  ({ c with held := id :: c.held }, id)

/-! ### Lives -/

theorem isHeld_congr (hregions : d.regions.length = c.regions.length)
    (hparents : ∀ x, d.parentOf x = c.parentOf x) (hheld : d.held = c.held) (id : RegionId) :
    d.isHeld id = c.isHeld id := by
  have habove (fuel : Nat) (x : RegionId) : d.above fuel x = c.above fuel x := by
    induction fuel generalizing x with
    | zero => rfl
    | succ fuel ih =>
        have hx : (d.region? x).bind Region.parent = (c.region? x).bind Region.parent := hparents x
        rw [above, above, hx]
        split
        · rw [ih]
        · rfl
  rw [isHeld, isHeld, hheld, hregions]
  exact congrArg _ (funext fun x => by rw [habove])

theorem isHeld_withChanges (c : Contexts) (x : RegionId)
    (changes : Pausing ChangeListener (List String)) (id : RegionId) :
    (c.withChanges x changes).isHeld id = c.isHeld id :=
  isHeld_congr (List.length_map _) (samePlaces_withChanges c x changes).parentOf rfl id

theorem isHeld_withArena (c : Contexts) (t : Nat) (a : Arena) (id : RegionId) :
    (c.withArena t a).isHeld id = c.isHeld id :=
  isHeld_congr (c := c) (d := c.withArena t a) rfl (fun _ => rfl) rfl id

theorem isHeld_withSettings (c : Contexts) (s : Settings) (id : RegionId) :
    (c.withSettings s).isHeld id = c.isHeld id :=
  isHeld_congr (c := c) (d := c.withSettings s) rfl (fun _ => rfl) rfl id

/-! ### Backed -/

/-- The region is the root of a tree whose arena knows the settings. -/
structure Backed (c : Contexts) (id : RegionId) (t : Nat) (s : Settings) : Prop where
  site : c.site? id = some (t, Arena.root)
  knows : ∃ a, c.arena? t = some a ∧ a.Knows s

namespace Backed

theorem congr (h : c.Backed id t s) (hsame : SameSites c d) : d.Backed id t s where
  site := (hsame.site? id).trans h.site
  knows := by
    rw [arena?_congr hsame.trees]
    exact h.knows

theorem withArena (h : c.Backed id t s) (ha : c.arena? t' = some a) (hb : a.Knows s → b.Knows s) :
    (c.withArena t' b).Backed id t s where
  site := h.site
  knows := by
    obtain ⟨known, hknown, hknows⟩ := h.knows
    rw [arena?_withArena ha]
    split
    · next ht =>
        rw [ht, ha] at hknown
        cases hknown
        exact ⟨b, rfl, hb hknows⟩
    · exact ⟨known, hknown, hknows⟩

theorem withChanges (h : c.Backed id t s) (x : RegionId)
    (changes : Pausing ChangeListener (List String)) : (c.withChanges x changes).Backed id t s :=
  h.congr (samePlaces_withChanges c x changes).toSameSites

theorem withTree (h : c.Backed id t s) (hc : c.Grown) (backed : Bool) :
    (c.withTree backed).Backed id t s where
  site := h.site
  knows := by
    obtain ⟨known, hknown, hknows⟩ := h.knows
    rw [arena?_withTree, if_neg (hc.ne_length hknown)]
    exact ⟨known, hknown, hknows⟩

theorem withNew (h : c.Backed id t s) (hc : c.Grown) (elements : Elements) (r : Region) :
    (c.withNew elements r).Backed id t s where
  site := by
    obtain ⟨known, hknown, -⟩ := Option.map_eq_some_iff.mp h.site
    rw [site?_withNew, if_neg (Nat.ne_of_lt (hc.regions.lt hknown))]
    exact h.site
  knows := h.knows

theorem of_step {op : Operation} {st : Contexts × List Notice} (h : c.Backed id t s)
    (hc : c.Grown) (hstep : Step c op st) : st.1.Backed id t s := by
  cases hstep with
  | refused => exact h
  | newRoot backed =>
      obtain ⟨watchers, heq⟩ := newRoot_eq c backed
      have hsame := (samePlaces_withOutside c watchers c.elements).toSameSites
      rw [heq]
      exact ((h.congr hsame).withTree (hc.congr hsame) backed).withNew
        ((hc.congr hsame).withTree backed) _ _
  | child hr ha => exact h.withArena ha fun hk => hk.createChild _
  | gone ha => exact h.withArena ha fun hk => hk.dispose _
  | entered hs =>
      obtain ⟨r, a, elements, hr, -, ha, -, heq⟩ := createScoped_ok hs
      rw [heq]
      refine Backed.congr ?_ (samePlaces_listenTo _ _ _).toSameSites
      exact (h.withArena ha fun hk => hk.createChild _).withNew (hc.child hr ha) _ _
  | @moved x above _ hs =>
      obtain ⟨r, ra, a, b, -, -, -, -, -, ha, hb, rfl⟩ := updateParent_ok hs
      have hmoved := h.withArena ha fun hk => hk.updateParent hb
      have hplaced : ((c.withArena r.tree b).withParent x above).Backed id t s :=
        hmoved.congr (sameSites_withRegion _ x fun _ => rfl)
      exact hplaced.congr ((samePlaces_listenTo _ _ _).trans (samePlaces_fire _ _ _)).toSameSites
  | @ended x r a watchers elements hr ha =>
      have hsame := (samePlaces_forget c r.feed).trans (samePlaces_withOutside _ watchers elements)
      have hgone := (h.congr hsame.toSameSites).withArena
        ((arena?_congr hsame.trees r.tree).trans ha) fun hk => hk.dispose r.context
      exact hgone.congr (sameSites_withRegion _ x fun _ => rfl)
  | written _ _ _ ha =>
      exact (h.withArena ha fun hk => hk.withValues _ _).congr (samePlaces_fire _ _ _).toSameSites
  | observed x name => exact h.congr (samePlaces_observe c x name).toSameSites
  | held => exact h.congr (sameSites_of_eq rfl rfl)

end Backed

/-! ### Watching -/

def Watches (c : Contexts) (id : RegionId) : Prop :=
  ∃ token, (token, SettingsListener.root id) ∈ c.watchers.listeners

theorem Watches.congr (h : c.Watches id) (hsame : SameSettings c d) : d.Watches id := by
  rw [Watches, hsame.watchers]
  exact h

theorem watches_newRoot (c : Contexts) : (c.newRoot true).1.Watches c.regions.length :=
  ⟨c.watchers.next, Emitter.mem_subscribe.mpr (.inr ⟨rfl, rfl⟩)⟩

theorem Watches.newRoot (h : c.Watches id) (backed : Bool) : (c.newRoot backed).1.Watches id := by
  obtain ⟨token, htoken⟩ := h
  cases backed with
  | true => exact ⟨token, Emitter.mem_subscribe.mpr (.inl htoken)⟩
  | false => exact ⟨token, htoken⟩

theorem listeners_dispose (hr : c.region? id = some r) (hdisposed : r.disposed = false) :
    (c.dispose id).watchers.listeners = c.watchers.listeners.filter (·.2 ≠ .root id) := by
  obtain ⟨tree, context, _, target, _, feed, disposed⟩ := r
  subst hdisposed
  rw [dispose, hr]
  cases feed <;> cases target <;> simp only [Bool.false_eq_true, if_false] <;> split <;> rfl

theorem Watches.dispose {x : RegionId} (h : c.Watches id) (hx : x ≠ id) :
    (c.dispose x).Watches id := by
  obtain ⟨token, htoken⟩ := h
  cases hr : c.region? x with
  | none =>
      rw [Contexts.dispose, hr]
      exact ⟨token, htoken⟩
  | some r =>
      cases hdisposed : r.disposed with
      | true =>
          rw [Contexts.dispose, hr]
          dsimp only
          rw [if_pos hdisposed]
          exact ⟨token, htoken⟩
      | false =>
          refine ⟨token, ?_⟩
          rw [listeners_dispose hr hdisposed, List.mem_filter]
          refine ⟨htoken, decide_eq_true fun heq => hx ?_⟩
          cases heq
          rfl

/-! ### Telling -/

namespace Backed

theorem forgets (h : c.Backed id t s) (ha : c.arena? t' = some a) (change : SettingsChange) :
    (c.withArena t' (a.settingsChanged change).1).Backed id t s :=
  h.withArena ha fun hk => hk.settingsChanged change

/-- The root knows the new settings when it has been told. -/
theorem told (h : c.Backed id t s) (hheld : c.isHeld id = true) {change : SettingsChange}
    (hchange : change.Tells s s') (notices : List Notice) :
    (tellWatcher change (.root id) (c, notices)).1.Backed id t s' := by
  obtain ⟨r, hr, hsite⟩ := Option.map_eq_some_iff.mp h.site
  obtain ⟨rfl, -⟩ := Prod.mk.inj hsite
  obtain ⟨a, ha, hknows⟩ := h.knows
  have hforgot : (c.withArena r.tree (a.settingsChanged change).1).Backed id r.tree s' :=
    ⟨h.site, _, (arena?_withArena ha _ _).trans (if_pos rfl), hknows.of_tells hchange⟩
  rw [tellWatcher_root change hr hheld ha]
  exact hforgot.congr (samePlaces_fire _ _ _).toSameSites

/-- What is told to others, before or after, makes the root forget at most. -/
theorem tellSettings (h : c.Backed id t s) (hheld : c.isHeld id = true) (hwatches : c.Watches id)
    {change : SettingsChange} (hchange : change.Tells s s') :
    (c.tellSettings change).1.Backed id t s' := by
  obtain ⟨token, htoken⟩ := hwatches
  rw [tellSettings_eq]
  refine foldl_turned
    (P := fun st : Contexts × List Notice => st.1.Backed id t s ∧ st.1.isHeld id = true)
    (Q := fun st : Contexts × List Notice => st.1.Backed id t s')
    (fun st l hst => ?_) (fun st hst => ?_) (fun st l hst => ?_) ⟨h, hheld⟩ htoken
  · refine tellWatcher_induction (P := fun d => d.Backed id t s ∧ d.isHeld id = true)
      (fun d t' a hd ha => ?_) (fun d x r keys _ hd => ?_) hst l.2
    · exact ⟨hd.1.forgets ha change, (isHeld_withArena d t' _ id).trans hd.2⟩
    · exact ⟨hd.1.withChanges x _, (isHeld_withChanges d x _ id).trans hd.2⟩
  · exact hst.1.told hst.2 hchange st.2
  · exact tellWatcher_induction (P := fun d => d.Backed id t s')
      (fun d t' a hd ha => hd.forgets ha change) (fun d x _ _ _ hd => hd.withChanges x _) hst l.2

end Backed

/-! ### What the root answers -/

/-- The region is a root that watches the settings and knows them as they are. -/
structure Mirrors (c : Contexts) (id : RegionId) (t : Nat) : Prop where
  grown : c.Grown
  backed : c.Backed id t c.settings
  watches : c.Watches id

namespace Mirrors

theorem congr (h : c.Mirrors id t) (hsame : SameSites c d) (hsettings : SameSettings c d) :
    d.Mirrors id t where
  grown := h.grown.congr hsame
  backed := by
    rw [hsettings.settings]
    exact h.backed.congr hsame
  watches := h.watches.congr hsettings

theorem withChanges (h : c.Mirrors id t) (x : RegionId)
    (changes : Pausing ChangeListener (List String)) : (c.withChanges x changes).Mirrors id t :=
  h.congr (samePlaces_withChanges c x changes).toSameSites ((SameSettings.refl c).withRegion x _)

theorem noteLookups (h : c.Mirrors id t) (t' : Nat) (context : Option ContextId)
    (keys : List String) : (c.noteLookups t' context keys).Mirrors id t where
  grown := h.grown.noteLookups t' context keys
  backed := by
    rw [((SameSettings.refl c).noteLookups t' context keys).settings]
    rcases noteLookups_cases c t' context keys with heq | ⟨a, x, ha, heq⟩
    · rw [heq]
      exact h.backed
    · rw [heq]
      exact h.backed.withArena ha fun hk => hk.rememberAll x keys
  watches := h.watches.congr ((SameSettings.refl c).noteLookups t' context keys)

theorem withFocus (h : c.Mirrors id t) (t' : Nat) (target : Option ElementId) :
    (c.withFocus t' target).Mirrors id t where
  grown := h.grown.withFocus t' target
  backed := by
    refine ⟨h.backed.site, ?_⟩
    rw [arena?_withFocus]
    exact h.backed.knows
  watches := h.watches

theorem operate (h : c.Mirrors id t) (op : Operation)
    (hafter : (c.apply op).1.isDisposed id = false) : (c.apply op).1.Mirrors id t where
  grown := h.grown.of_step (h.grown.step op)
  backed := by
    rw [settings_of_step (h.grown.step op)]
    exact h.backed.of_step h.grown (h.grown.step op)
  watches := by
    by_cases hop : op.IsToWatch
    · cases op with
      | newRoot backed => exact h.watches.newRoot backed
      | dispose x =>
          refine h.watches.dispose fun hx => ?_
          rw [hx, apply, isDisposed_dispose] at hafter
          cases hafter
      | _ => exact hop.elim
    · exact h.watches.congr (sameSettings_of_step (h.grown.step op) hop)

theorem edit (h : c.Mirrors id t) (hheld : c.isHeld id = true) (e : Settings.Edit) :
    (c.edit e).Mirrors id t := by
  rcases edit_cases c e with ⟨change, hchange, heq⟩ | ⟨-, heq⟩
  · have hgrown := h.grown.edit e
    have hsame := (SameSettings.refl (c.withSettings (c.settings.edit e).1)).tellSettings change
    have hbacked : (c.withSettings (c.settings.edit e).1).Backed id t c.settings :=
      h.backed.congr (sameSites_of_eq rfl rfl)
    have hwatches : (c.withSettings (c.settings.edit e).1).Watches id := h.watches
    rw [heq] at hgrown ⊢
    refine ⟨hgrown, ?_, hwatches.congr hsame⟩
    rw [hsame.settings]
    exact hbacked.tellSettings ((isHeld_withSettings c _ id).trans hheld) hwatches
      (Settings.tells_edit hchange)
  · rw [heq]
    exact h

theorem access (h : c.Mirrors id t) (hlives : c.Lives id) (x : Access)
    (hafter : (c.access x).Lives id) : (c.access x).Mirrors id t := by
  cases x with
  | operate op => exact h.operate op hafter.2
  | edit e => exact h.edit hlives.1 e
  | watch =>
      obtain ⟨token, htoken⟩ := h.watches
      exact ⟨h.grown.access .watch, h.backed.congr (sameSites_of_eq rfl rfl),
        token, Emitter.mem_subscribe.mpr (.inl htoken)⟩
  | pause x => exact h.congr (sameSites_withRegion c x fun _ => rfl) ⟨rfl, rfl⟩
  | resume x =>
      exact resume_induction (P := fun d => d.Mirrors id t)
        (fun d x changes hd => hd.withChanges x changes) h x
  | focus x target =>
      rcases focus_cases c x target with heq | ⟨t', heq⟩
      · rw [Contexts.access, heq]; exact h
      · rw [Contexts.access, heq]; exact h.withFocus t' target
  | arrange => exact h.congr (sameSites_of_eq rfl rfl) ⟨rfl, rfl⟩
  | read r =>
      exact read_induction (P := fun d => d.Mirrors id t)
        (fun d t' context keys hd => hd.noteLookups t' context keys) h r

theorem accessed {xs : List Access} (h : c.Mirrors id t)
    (hlives : ∀ part, part <+: xs → (c.accessed part).Lives id) :
    (c.accessed xs).Mirrors id t := by
  induction xs generalizing c with
  | nil => exact h
  | cons x xs ih =>
      have hstep := h.access (hlives [] List.nil_prefix) x
        (hlives [x] (List.prefix_append [x] xs))
      exact ih hstep fun part hpart => hlives (x :: part) ((List.prefix_cons_inj x).mpr hpart)

theorem get? (h : c.Mirrors id t) (hlives : c.isDisposed id = false) (key : String) :
    c.get? id (Arena.settingPrefix ++ key) = (c.settings.get? key).map Settings.shown := by
  obtain ⟨r, hr, hsite⟩ := Option.map_eq_some_iff.mp h.backed.site
  obtain ⟨rfl, hroot⟩ := Prod.mk.inj hsite
  obtain ⟨a, ha, hknows⟩ := h.backed.knows
  have hdisposed : r.disposed = false := (isDisposed_of_region? hr).symm.trans hlives
  simp only [Contexts.get?, hr, hdisposed, Bool.false_eq_true, if_false, valuesAt, ha, hroot]
  exact hknows.get? key

end Mirrors

theorem Grown.mirrors (hc : c.Grown) :
    c.overSettings.1.Mirrors c.overSettings.2 c.trees.length := by
  have hroot : (c.newRoot true).1.Mirrors c.regions.length c.trees.length := by
    obtain ⟨watchers, heq⟩ := newRoot_eq c true
    refine ⟨hc.newRoot true, ⟨?_, .new true, ?_, Arena.Knows.new _⟩, watches_newRoot c⟩
    · rw [heq]
      exact (site?_withNew _ _ _ _).trans (if_pos rfl)
    · rw [heq]
      exact (arena?_withTree _ true _).trans (if_pos rfl)
  exact hroot.congr (sameSites_of_eq rfl rfl) ⟨rfl, rfl⟩

/-- Whatever had been done before, and however the settings are edited and read and the regions
changed while the root of a tree over the settings lives: it answers every key with what the edits
have made of the settings by then, a list as its text. -/
theorem get?_setting {settings : Settings} {elements : Elements} {before after : List Access}
    (hroot : ((start settings elements).accessed before).overSettings = (c, id))
    (hlives : ∀ part, part <+: after → (c.accessed part).Lives id) (key : String) :
    (c.accessed after).get? id (Arena.settingPrefix ++ key) =
      ((settings.edited ((before ++ after).filterMap Access.edit?)).get? key).map
        Settings.shown := by
  have hstart := grown_start settings elements
  have hnew := (hstart.accessed before).mirrors
  have hbefore : c.settings = settings.edited (before.filterMap Access.edit?) := by
    rw [← congrArg (·.1.settings) hroot]
    exact settings_accessed hstart before
  rw [hroot] at hnew
  rw [(hnew.accessed hlives).get? (hlives after List.prefix_rfl).2, settings_accessed hnew.grown,
    hbefore, List.filterMap_append, Settings.edited, Settings.edited, Settings.edited,
    List.foldl_append]

theorem get?_setting_list :
    let c := ((start {} {}).accessed [.watch]).overSettings.1
    let after : List Access := [.edit (.update "a" (.bool true) .user),
      .read (.get (.region 0) "config.a"), .edit (.update "a" (.arr [.null]) .memory)]
    ((start {} {}).accessed [.watch]).overSettings = (c, 0) ∧
      (∀ part, part <+: after → (c.accessed part).Lives 0) ∧
      (c.accessed after).get? 0 (Arena.settingPrefix ++ "a") = some (.str "[null]") := by
  intro c after
  have hlives : ∀ part, part <+: after → (c.accessed part).Lives 0 := by
    intro part hpart
    have hparts : ∀ part ∈ after.inits, (c.accessed part).Lives 0 := by decide
    exact hparts part (List.mem_inits part after |>.mpr hpart)
  exact ⟨rfl, hlives, get?_setting rfl hlives "a"⟩

end Contexts

end Shortcuts
