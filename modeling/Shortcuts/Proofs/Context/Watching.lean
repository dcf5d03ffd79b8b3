import Shortcuts.Proofs.Context.Lookups
import Shortcuts.Proofs.Context.Seclusion

/-!
Roots over the settings, each of which watches them for a tree of its own. An edit makes such a root
forget what the edit concerns of all that it remembers, and announce exactly this.
-/

namespace Shortcuts

namespace Contexts

variable {c d : Contexts} {id x : RegionId} {r : Region} {t : Nat} {a b : Arena}
  {key : String} {heard : List Notice} {change : SettingsChange}

/-! ### Who watches -/

/-- The tree that a watcher of the settings is there for. -/
def watchedTree? (c : Contexts) : SettingsListener → Option Nat
  | .root x => (c.site? x).map Prod.fst
  | .observer => none

def watchedTrees (c : Contexts) : List Nat :=
  c.watchers.listeners.filterMap fun l => c.watchedTree? l.2

/-- Regions listen only from below the root of their tree, and the settings are watched for every
tree by one region at most. -/
structure Bonded (c : Contexts) : Prop where
  below : ∀ {p token x}, (token, .child x) ∈ c.listenersOf p →
    ∃ t y, c.site? x = some (t, y) ∧ y ≠ Arena.root
  placed : ∀ {token x}, (token, .root x) ∈ c.watchers.listeners → ∃ s, c.site? x = some s
  apart : c.watchedTrees.Nodup

/-- The regions stay where they are and listen to whom they listened to, and the same watch the
settings. -/
structure SameBonds (c d : Contexts) : Prop where
  wires : SameWires c d
  site? : ∀ x, d.site? x = c.site? x
  watchers : d.watchers = c.watchers

namespace SameBonds

theorem refl (c : Contexts) : SameBonds c c := ⟨SameWires.refl c, fun _ => rfl, rfl⟩

theorem trans {e : Contexts} (h : SameBonds c d) (h' : SameBonds d e) : SameBonds c e :=
  ⟨h.wires.trans h'.wires, fun x => (h'.site? x).trans (h.site? x), h'.watchers.trans h.watchers⟩

theorem of_regions (hregions : d.regions = c.regions) (hwatchers : d.watchers = c.watchers) :
    SameBonds c d where
  wires := .of_regions hregions
  site? x := by
    rw [Contexts.site?, region?, hregions]
    rfl
  watchers := hwatchers

theorem withArena (h : SameBonds c d) (t : Nat) (a : Arena) : SameBonds c (d.withArena t a) :=
  h.trans (.of_regions rfl rfl)

theorem fire (h : SameBonds c d) (p : RegionId) (keys : List String) :
    SameBonds c (d.fire p keys).1 where
  wires := h.wires.fire p keys
  site? x := ((samePlaces_fire d p keys).site? x).trans (h.site? x)
  watchers := ((SameSettings.refl d).fire p keys).watchers.trans h.watchers

theorem tellSettings (h : SameBonds c d) (change : SettingsChange) :
    SameBonds c (d.tellSettings change).1 := by
  rw [tellSettings_eq]
  refine kept_foldl (fun s : Contexts × List Notice => SameBonds c s.1) (fun s l hs => ?_) h
    d.watchers.listeners
  rcases tellWatcher_cases s.1 change l.2 s.2 with heq | ⟨p, r, a, -, -, heq⟩
  · exact heq ▸ hs
  · exact heq ▸ (hs.withArena r.tree _).fire p _

theorem edit (c : Contexts) (e : Settings.Edit) : SameBonds c (c.edit e) := by
  rcases edit_cases c e with ⟨change, -, heq⟩ | ⟨-, heq⟩
  · have hnew : SameBonds c (c.withSettings (c.settings.edit e).1) := .of_regions rfl rfl
    rw [heq]
    exact hnew.tellSettings change
  · rw [heq]
    exact .refl c

theorem pause (c : Contexts) (p : RegionId) : SameBonds c (c.pause p) where
  wires := (SameWires.refl c).pause p
  site? := (sameSites_withRegion c p (f := fun r => { r with changes := r.changes.pause })
    fun _ => rfl).site?
  watchers := rfl

theorem resume (c : Contexts) (p : RegionId) : SameBonds c (c.resume p).1 where
  wires := (SameWires.refl c).resume p
  site? x := resume_induction (P := fun d => d.site? x = c.site? x)
    (fun d y changes hd => ((samePlaces_withChanges d y changes).site? x).trans hd) rfl p
  watchers := ((SameSettings.refl c).resume p).watchers

theorem focus (c : Contexts) (p : RegionId) (target : Option ElementId) :
    SameBonds c (c.focus p target) := by
  rcases focus_cases c p target with heq | ⟨t, heq⟩
  · rw [heq]
    exact .refl c
  · rw [heq]
    exact .of_regions rfl rfl

theorem noteLookups (h : SameBonds c d) (t : Nat) (context : Option ContextId)
    (keys : List String) : SameBonds c (d.noteLookups t context keys) := by
  rcases noteLookups_cases d t context keys with heq | ⟨a, x, -, heq⟩
  · rw [heq]
    exact h
  · rw [heq]
    exact h.withArena t _

theorem read (c : Contexts) (r : Read) : SameBonds c (c.read r) :=
  read_induction (P := fun d => SameBonds c d)
    (fun _ t context keys hd => hd.noteLookups t context keys) (.refl c) r

end SameBonds

namespace Bonded

/-- The root of a tree does not listen. -/
theorem isDeaf (h : c.Bonded) (hsite : c.site? id = some (t, Arena.root)) : c.IsDeaf id := by
  intro p token hmem
  obtain ⟨_, y, hy, hbelow⟩ := h.below hmem
  rw [hsite] at hy
  cases hy
  exact hbelow rfl

theorem watchedTrees_congr {listeners : List (Nat × SettingsListener)}
    (hplaced : ∀ l ∈ listeners, ∀ x, l.2 = .root x → ∃ s, c.site? x = some s)
    (hsites : ∀ x s, c.site? x = some s → d.site? x = some s) :
    listeners.filterMap (fun l => d.watchedTree? l.2) =
      listeners.filterMap fun l => c.watchedTree? l.2 := by
  refine List.filterMap_congr fun l hl => ?_
  obtain ⟨token, l⟩ := l
  cases l with
  | observer => rfl
  | root x =>
      obtain ⟨s, hs⟩ := hplaced _ hl x rfl
      exact congrArg (Option.map Prod.fst) ((hsites x s hs).trans hs.symm)

theorem mem_placed (h : c.Bonded) :
    ∀ l ∈ c.watchers.listeners, ∀ x, l.2 = .root x → ∃ s, c.site? x = some s := by
  rintro ⟨token, l⟩ hl x rfl
  exact h.placed hl

/-- Those that watched may stop, and everything may go on where it was. -/
theorem of_sublist (h : c.Bonded) (hsites : ∀ x s, c.site? x = some s → d.site? x = some s)
    (hbelow : ∀ {p token x}, (token, .child x) ∈ d.listenersOf p →
      ∃ t y, d.site? x = some (t, y) ∧ y ≠ Arena.root)
    (hwatchers : List.Sublist d.watchers.listeners c.watchers.listeners) : d.Bonded where
  below := hbelow
  placed hmem := (h.placed (hwatchers.subset hmem)).imp fun s hs => hsites _ s hs
  apart := by
    have hplaced := fun l hl => h.mem_placed l (hwatchers.subset hl)
    rw [watchedTrees, watchedTrees_congr hplaced hsites]
    exact h.apart.sublist (hwatchers.filterMap _)

/-- One more may watch the settings, for a tree that nobody watched them for. -/
theorem subscribe (h : c.Bonded) (hsites : ∀ x s, c.site? x = some s → d.site? x = some s)
    (hbelow : ∀ {p token x}, (token, .child x) ∈ d.listenersOf p →
      ∃ t y, d.site? x = some (t, y) ∧ y ≠ Arena.root)
    {l : SettingsListener} (hwatchers : d.watchers = (c.watchers.subscribe l).1)
    (hl : ∀ x, l = .root x → ∃ s, d.site? x = some s ∧ s.1 ∉ c.watchedTrees) : d.Bonded where
  below := hbelow
  placed hmem := by
    rw [hwatchers] at hmem
    rcases Emitter.mem_subscribe.mp hmem with hold | ⟨-, hroot⟩
    · exact (h.placed hold).imp fun s hs => hsites _ s hs
    · exact (hl _ hroot.symm).imp fun s hs => hs.1
  apart := by
    rw [watchedTrees, hwatchers, Emitter.subscribe, List.filterMap_append,
      watchedTrees_congr h.mem_placed hsites]
    cases l with
    | observer => exact (List.append_nil c.watchedTrees).symm ▸ h.apart
    | root x =>
        obtain ⟨s, hs, hnew⟩ := hl x rfl
        have htree : [(c.watchers.next, SettingsListener.root x)].filterMap
            (fun l => d.watchedTree? l.2) = [s.1] := by simp [watchedTree?, hs]
        rw [htree]
        exact List.nodup_append_comm.mp (List.nodup_cons.mpr ⟨hnew, h.apart⟩)

theorem sameBonds (h : c.Bonded) (hbonds : SameBonds c d) : d.Bonded := by
  refine h.of_sublist (fun x s hs => (hbonds.site? x).trans hs) (fun {p token x} hmem => ?_)
    (hbonds.watchers ▸ List.Sublist.refl _)
  rw [listenersOf, hbonds.wires.emitters] at hmem
  rw [hbonds.site?]
  exact h.below hmem

theorem operate (h : c.Bonded) (hc : c.Grown) (op : Operation) : (c.apply op).1.Bonded := by
  have hsites : ∀ x s, c.site? x = some s → (c.apply op).1.site? x = some s :=
    fun x s hs => site?_of_step hc (hc.step op) hs
  have hbelow : ∀ {p token x}, (token, .child x) ∈ (c.apply op).1.listenersOf p →
      ∃ t y, (c.apply op).1.site? x = some (t, y) ∧ y ≠ Arena.root := by
    intro p token x hmem
    rcases listens_of_step hc (hc.step op) hmem with hold | hnew
    · obtain ⟨t, y, hy, hroot⟩ := h.below hold
      exact ⟨t, y, hsites x _ hy, hroot⟩
    · exact hnew
  by_cases hop : op.IsToWatch
  · cases op with
    | newRoot backed =>
        cases backed with
        | false => exact h.of_sublist hsites hbelow (List.Sublist.refl _)
        | true =>
            refine h.subscribe hsites hbelow (l := .root c.regions.length) rfl fun x hx => ?_
            cases hx
            obtain ⟨watchers, heq⟩ := newRoot_eq c true
            refine ⟨(c.trees.length, Arena.root), ?_, fun hmem => ?_⟩
            · rw [apply, heq, site?_withNew]
              exact if_pos rfl
            · obtain ⟨⟨token, l⟩, -, hl⟩ := List.mem_filterMap.mp hmem
              cases l with
              | observer => cases hl
              | root x =>
                  obtain ⟨s, hs, ht⟩ := Option.map_eq_some_iff.mp hl
                  obtain ⟨a, ha, -⟩ := hc.placed hs
                  exact hc.ne_length ha ht
    | dispose x =>
        refine h.of_sublist hsites hbelow ?_
        cases hdisposed : c.isDisposed x with
        | true =>
            rw [apply, dispose_of_disposed hdisposed]
        | false =>
            obtain ⟨r, hr, hlives⟩ := exists_region_of_lives hdisposed
            exact (listeners_dispose hr hlives).symm ▸ List.filter_sublist
    | _ => exact hop.elim
  · refine h.of_sublist hsites hbelow ?_
    exact (sameSettings_of_step (hc.step op) hop).watchers ▸ List.Sublist.refl _

theorem access (h : c.Bonded) (hc : c.Grown) (x : Access) : (c.access x).Bonded := by
  cases x with
  | operate op => exact h.operate hc op
  | edit e => exact h.sameBonds (.edit c e)
  | watch => exact h.subscribe (l := .observer) (fun _ _ hs => hs) h.below rfl nofun
  | pause p => exact h.sameBonds (.pause c p)
  | resume p => exact h.sameBonds (.resume c p)
  | focus p target => exact h.sameBonds (.focus c p target)
  | arrange => exact h.sameBonds (.of_regions rfl rfl)
  | read r => exact h.sameBonds (.read c r)

theorem accessed (h : c.Bonded) (hc : c.Grown) (xs : List Access) : (c.accessed xs).Bonded := by
  induction xs generalizing c with
  | nil => exact h
  | cons x xs ih => exact ih (h.access hc x) (hc.access x)

end Bonded

theorem bonded_start (settings : Settings) (elements : Elements) :
    (start settings elements).Bonded where
  below := nofun
  placed := nofun
  apart := .nil

end Contexts

end Shortcuts
