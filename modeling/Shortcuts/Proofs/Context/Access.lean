import Shortcuts.Context.Viewpoint
import Shortcuts.Proofs.Context.Growth
import Shortcuts.Proofs.Context.Remembered

/-!
Everything that is done to the contexts while they are used: operations on the regions, edits of
the settings, which are told to all who watch them, and reading, which leaves a trace in what is
remembered of the settings.
-/

namespace Shortcuts

namespace Contexts

/-- Questions to a region or to an overlay on one. -/
inductive Read where
  | get (v : Viewpoint) (key : String)
  | getAt (v : Viewpoint) (target : Option ElementId) (keys : List String)
  | matchText (v : Viewpoint) (text : String) (target : Option ElementId)
  | matchRules (v : Viewpoint) (rules : Option Clause)

def read (c : Contexts) : Read → Contexts
  | .get v key => (v.get c key).1
  | .getAt v target keys => (v.getAt c target keys).1
  | .matchText v text target => (v.matchText c text target).1
  | .matchRules v rules => (v.matchRules c rules).1

inductive Access where
  | operate (op : Operation)
  | edit (e : Settings.Edit)
  | watch
  | pause (id : RegionId)
  | resume (id : RegionId)
  | focus (id : RegionId) (target : Option ElementId)
  | arrange (elements : Elements)
  | read (r : Read)

def edit (c : Contexts) (e : Settings.Edit) : Contexts :=
  let s := c.settings.edit e
  (c.changeSettings s.1 s.2).1

def access (c : Contexts) : Access → Contexts
  | .operate op => (c.apply op).1
  | .edit e => c.edit e
  | .watch => c.watchSettings
  | .pause id => c.pause id
  | .resume id => (c.resume id).1
  | .focus id target => c.focus id target
  | .arrange elements => { c with elements }
  | .read r => c.read r

def accessed (c : Contexts) (accesses : List Access) : Contexts := accesses.foldl access c

def Access.edit? : Access → Option Settings.Edit
  | .edit e => some e
  | _ => none

variable {c d : Contexts} {id : RegionId} {r : Region} {t : Nat} {a b : Arena}

/-! ### Reading -/

section Reading

variable {P : Contexts → Prop} (h : ∀ c t context keys, P c → P (c.noteLookups t context keys))

include h

theorem noteGet_induction (hc : P c) (id : RegionId) (key : String) : P (c.noteGet id key) := by
  rw [noteGet]
  split
  · split
    · exact hc
    · exact h c _ _ _ hc
  · exact hc

theorem noteGetAt_induction (hc : P c) (o : Overlay) (target : Option ElementId) (key : String) :
    P (o.noteGetAt c target key) := by
  rw [Overlay.noteGetAt]
  split
  · split
    · exact hc
    · exact h c _ _ _ hc
  · exact hc

theorem noteMatch_induction (hc : P c) (v : Viewpoint) (text : String)
    (target : Option ElementId) : P (v.matchText c text target).1 := by
  cases v with
  | region id =>
      rw [Viewpoint.matchText, noteMatch]
      split
      · split
        · exact hc
        · exact h c _ _ _ hc
      · exact hc
  | overlay o =>
      rw [Viewpoint.matchText, Overlay.noteMatch]
      split
      · exact h c _ _ _ hc
      · exact hc

theorem noteRules_induction (hc : P c) (v : Viewpoint) (rules : Option Clause) :
    P (v.matchRules c rules).1 := by
  cases v with
  | region id =>
      change P (c.noteRules id rules)
      unfold noteRules
      split
      · split
        · exact hc
        · exact h c _ _ _ hc
      · exact hc
  | overlay o =>
      change P (o.noteRules c rules)
      unfold Overlay.noteRules
      split
      · exact h c _ _ _ hc
      · exact hc

/-- What holds while settings are looked up holds behind a question. -/
theorem read_induction (hc : P c) (r : Read) : P (c.read r) := by
  cases r with
  | get v key =>
      cases v with
      | region id => exact noteGet_induction h hc id key
      | overlay o =>
          rw [read, Viewpoint.get, Overlay.noteGet]
          split
          · exact hc
          · exact noteGet_induction h hc o.region key
  | getAt v target keys =>
      cases v with
      | region id => exact h c _ _ _ hc
      | overlay o =>
          exact kept_foldl P (fun c key hc => noteGetAt_induction h hc o target key) hc keys
  | matchText v text target => exact noteMatch_induction h hc v text target
  | matchRules v rules => exact noteRules_induction h hc v rules

end Reading

/-- A lookup changes nothing but what the arena of one tree remembers. -/
theorem noteLookups_cases (c : Contexts) (t : Nat) (context : Option ContextId)
    (keys : List String) : c.noteLookups t context keys = c ∨ ∃ a x, c.arena? t = some a ∧
      c.noteLookups t context keys = c.withArena t (a.rememberAll c.settings.get? x keys) := by
  unfold noteLookups
  split
  · next a x ha => exact .inr ⟨a, x, ha, rfl⟩
  · exact .inl rfl

/-! ### Telling -/

/-- Tells one of those who watch the settings. -/
def tellWatcher (change : SettingsChange) (l : SettingsListener) :
    Contexts × List Notice → Contexts × List Notice
  | (c, told) =>
    match l with
    | .observer => (c, told ++ [.settings change])
    | .root id =>
      match (c.region? id).filter fun _ => c.isHeld id with
      | none => (c, told)
      | some r =>
        match c.arena? r.tree with
        | none => (c, told)
        | some arena =>
          let (arena, keys) := arena.settingsChanged change
          let (c, more) := (c.withArena r.tree arena).fire id keys
          (c, told ++ more)

theorem tellSettings_eq (c : Contexts) (change : SettingsChange) :
    c.tellSettings change = c.watchers.deliver (tellWatcher change) (c, []) := rfl

/-- The turn of a root: its arena forgets what the change concerns, and the region announces it. -/
def forgetting (c : Contexts) (change : SettingsChange) (id : RegionId) (t : Nat) (a : Arena)
    (told : List Notice) : Contexts × List Notice :=
  let s := (c.withArena t (a.settingsChanged change).1).fire id (a.settingsChanged change).2
  (s.1, told ++ s.2)

theorem tellWatcher_root (change : SettingsChange) (hr : c.region? id = some r)
    (hheld : c.isHeld id = true) (ha : c.arena? r.tree = some a) (told : List Notice) :
    tellWatcher change (.root id) (c, told) = c.forgetting change id r.tree a told := by
  simp only [tellWatcher, hr, hheld, Option.filter_some, if_true, ha]
  rfl

theorem tellWatcher_root_cases (c : Contexts) (change : SettingsChange) (id : RegionId)
    (told : List Notice) : tellWatcher change (.root id) (c, told) = (c, told) ∨
      ∃ r a, c.region? id = some r ∧ c.arena? r.tree = some a ∧
        tellWatcher change (.root id) (c, told) = c.forgetting change id r.tree a told := by
  unfold tellWatcher
  dsimp only
  split
  · exact .inl rfl
  · next r hr =>
      split
      · exact .inl rfl
      · next a ha => exact .inr ⟨r, a, (Option.filter_eq_some_iff.mp hr).1, ha, rfl⟩

theorem tellWatcher_cases (c : Contexts) (change : SettingsChange) (l : SettingsListener)
    (told : List Notice) : (tellWatcher change l (c, told)).1 = c ∨
      ∃ id r a, c.region? id = some r ∧ c.arena? r.tree = some a ∧
        (tellWatcher change l (c, told)).1 = (c.forgetting change id r.tree a told).1 := by
  cases l with
  | observer => exact .inl rfl
  | root id =>
      rcases tellWatcher_root_cases c change id told with heq | ⟨r, a, hr, ha, heq⟩
      · exact .inl (congrArg Prod.fst heq)
      · exact .inr ⟨id, r, a, hr, ha, congrArg Prod.fst heq⟩

theorem resume_induction {P : Contexts → Prop}
    (h : ∀ c id changes, P c → P (c.withChanges id changes)) (hc : P c) (id : RegionId) :
    P (c.resume id).1 := by
  rw [resume]
  split
  · exact hc
  · next r hr =>
      refine kept_foldl (fun s : Contexts × List Notice => P s.1) (fun s keys hs => ?_) ?_ _
      · exact fire_induction h hs id keys
      · exact h c id _ hc

section Telling

variable {P : Contexts → Prop} {change : SettingsChange}
  (harena : ∀ c t a, P c → c.arena? t = some a → P (c.withArena t (a.settingsChanged change).1))
  (hoffers : ∀ c id r keys, c.region? id = some r → P c →
    P (c.withChanges id (r.changes.offer keys).1))

include harena hoffers

theorem tellWatcher_induction {s : Contexts × List Notice} (hs : P s.1) (l : SettingsListener) :
    P (tellWatcher change l s).1 := by
  rcases tellWatcher_cases s.1 change l s.2 with heq | ⟨id, r, a, -, ha, heq⟩
  · rw [heq]
    exact hs
  · rw [heq]
    exact fire_offers hoffers (harena s.1 r.tree a hs ha) id _

/-- What holds while roots forget settings and emitters are offered events holds behind all that. -/
theorem tellSettings_induction (hc : P c) : P (c.tellSettings change).1 := by
  rw [tellSettings_eq]
  exact kept_foldl (fun s : Contexts × List Notice => P s.1)
    (fun _ l hs => tellWatcher_induction harena hoffers hs l.2) hc c.watchers.listeners

end Telling

def withSettings (c : Contexts) (settings : Settings) : Contexts := { c with settings }

/-- An edit of which something is said is told to all, and any other changes nothing. -/
theorem edit_cases (c : Contexts) (e : Settings.Edit) :
    (∃ change, (c.settings.edit e).2 = some change ∧
      c.edit e = ((c.withSettings (c.settings.edit e).1).tellSettings change).1) ∨
      (c.settings.edit e).1 = c.settings ∧ c.edit e = c := by
  rw [edit]
  cases hchange : (c.settings.edit e).2 with
  | some change => exact .inl ⟨change, rfl, rfl⟩
  | none =>
      refine .inr ⟨Settings.edit_of_silent hchange, ?_⟩
      rw [Settings.edit_of_silent hchange]
      rfl

/-! ### Focus -/

def withFocus (c : Contexts) (t : Nat) (target : Option ElementId) : Contexts :=
  { c with trees := c.trees.modify t fun tree => { tree with focused := target } }

theorem focus_cases (c : Contexts) (id : RegionId) (target : Option ElementId) :
    c.focus id target = c ∨ ∃ t, c.focus id target = c.withFocus t target := by
  rw [focus]
  split
  · next r _ => exact .inr ⟨r.tree, rfl⟩
  · exact .inl rfl

theorem arena?_withFocus (c : Contexts) (t : Nat) (target : Option ElementId) (x : Nat) :
    (c.withFocus t target).arena? x = c.arena? x := by
  rw [arena?, withFocus, Table.lookup_modify, arena?]
  split
  · rw [Option.map_map]
    rfl
  · rfl

/-! ### What is left alone -/

/-- The settings are the same, and so are those who watch them. -/
structure SameSettings (c d : Contexts) : Prop where
  settings : d.settings = c.settings
  watchers : d.watchers = c.watchers

namespace SameSettings

theorem refl (c : Contexts) : SameSettings c c := ⟨rfl, rfl⟩

theorem withRegion (h : SameSettings c d) (id : RegionId) (f : Region → Region) :
    SameSettings c (d.withRegion id f) := ⟨h.settings, h.watchers⟩

theorem withArena (h : SameSettings c d) (t : Nat) (a : Arena) : SameSettings c (d.withArena t a) :=
  ⟨h.settings, h.watchers⟩

theorem forget (h : SameSettings c d) (feed : Option (RegionId × Nat)) :
    SameSettings c (d.forget feed) := forget_induction (fun _ id f _ hd => hd.withRegion id f) h feed

theorem listenTo (h : SameSettings c d) (id above : RegionId) :
    SameSettings c (d.listenTo id above) :=
  listenTo_induction (fun _ id f _ hd => hd.withRegion id f) h id above

theorem fire (h : SameSettings c d) (id : RegionId) (keys : List String) :
    SameSettings c (d.fire id keys).1 :=
  fire_induction (fun _ id _ hd => hd.withRegion id _) h id keys

theorem observe (h : SameSettings c d) (id : RegionId) (name : String) :
    SameSettings c (d.observe id name).1 :=
  observe_induction (fun _ id f _ hd => hd.withRegion id f) h id name

theorem focus (h : SameSettings c d) (id : RegionId) (target : Option ElementId) :
    SameSettings c (d.focus id target) := by
  rcases focus_cases d id target with heq | ⟨t, heq⟩
  · rw [heq]; exact h
  · rw [heq]; exact ⟨h.settings, h.watchers⟩

theorem noteLookups (h : SameSettings c d) (t : Nat) (context : Option ContextId)
    (keys : List String) : SameSettings c (d.noteLookups t context keys) := by
  rcases noteLookups_cases d t context keys with heq | ⟨a, x, -, heq⟩
  · rw [heq]; exact h
  · rw [heq]; exact h.withArena t _

theorem tellSettings (h : SameSettings c d) (change : SettingsChange) :
    SameSettings c (d.tellSettings change).1 :=
  tellSettings_induction (fun _ t _ hd _ => hd.withArena t _)
    (fun _ id _ _ _ hd => hd.withRegion id _) h

theorem resume (h : SameSettings c d) (id : RegionId) : SameSettings c (d.resume id).1 :=
  resume_induction (fun _ id _ hd => hd.withRegion id _) h id

theorem read (h : SameSettings c d) (r : Read) : SameSettings c (d.read r) :=
  read_induction (fun _ t context keys hd => hd.noteLookups t context keys) h r

end SameSettings

/-- Operations after which others may watch the settings. -/
def Operation.IsToWatch : Operation → Prop
  | .newRoot _ => True
  | .dispose _ => True
  | _ => False

theorem sameSettings_of_step {op : Operation} {s : Contexts × List Notice} (h : Step c op s)
    (hop : ¬ op.IsToWatch) : SameSettings c s.1 := by
  have hc := SameSettings.refl c
  cases h with
  | newRoot | ended => exact absurd trivial hop
  | refused | held => exact ⟨rfl, rfl⟩
  | child | gone => exact hc.withArena _ _
  | entered h =>
      obtain ⟨r, a, elements, -, -, -, -, heq⟩ := createScoped_ok h
      rw [heq]
      refine SameSettings.listenTo ?_ _ _
      exact ⟨rfl, rfl⟩
  | moved h =>
      obtain ⟨r, ra, a, b, -, -, -, -, -, -, -, rfl⟩ := updateParent_ok h
      exact (((hc.withArena _ b).withRegion _ _).listenTo _ _).fire _ _
  | written => exact (hc.withArena _ _).fire _ _
  | observed id name => exact hc.observe id name

theorem settings_of_step {op : Operation} {s : Contexts × List Notice} (h : Step c op s) :
    s.1.settings = c.settings := by
  by_cases hop : op.IsToWatch
  · cases h with
    | newRoot | refused => rfl
    | ended => exact ((SameSettings.refl c).forget _).settings
    | written hwrites => cases hwrites <;> exact hop.elim
    | child | gone | entered | moved | observed | held => exact hop.elim
  · exact (sameSettings_of_step h hop).settings

/-! ### Growth -/

namespace Grown

theorem withSameNodes (hc : c.Grown) (ha : c.arena? t = some a) (hab : a.SameNodes b) :
    (c.withArena t b).Grown := by
  have hparents (x : ContextId) : b.parent? x = a.parent? x := by
    rw [Arena.parent?, Arena.parent?, Arena.node?, Arena.node?, hab.nodes]
  exact hc.withArena ha (arenaGrows_of_parents hab.lastId (hc.parent_le ha) fun x _ hp =>
    (hparents x).symm.trans hp)

theorem withChanges (hc : c.Grown) (id : RegionId)
    (changes : Pausing ChangeListener (List String)) : (c.withChanges id changes).Grown :=
  hc.congr (samePlaces_withChanges c id changes).toSameSites

theorem noteLookups (hc : c.Grown) (t : Nat) (context : Option ContextId) (keys : List String) :
    (c.noteLookups t context keys).Grown := by
  rcases noteLookups_cases c t context keys with heq | ⟨a, x, ha, heq⟩
  · rw [heq]; exact hc
  · rw [heq]; exact hc.withSameNodes ha (a.sameNodes_rememberAll _ x keys)

theorem withFocus (hc : c.Grown) (t : Nat) (target : Option ElementId) :
    (c.withFocus t target).Grown where
  trees := hc.trees.modify t fun tree => { tree with focused := target }
  regions := hc.regions
  placed hsite := by
    rw [arena?_withFocus]
    exact hc.placed hsite
  parent_le ha := by
    rw [arena?_withFocus] at ha
    exact hc.parent_le ha

theorem edit (hc : c.Grown) (e : Settings.Edit) : (c.edit e).Grown := by
  rcases edit_cases c e with ⟨change, -, heq⟩ | ⟨-, heq⟩
  · rw [heq]
    refine tellSettings_induction
      (fun d t a hd ha => hd.withSameNodes ha (a.sameNodes_settingsChanged change))
      (fun d id _ _ _ hd => hd.withChanges id _) ?_
    exact hc.congr (sameSites_of_eq rfl rfl)
  · rw [heq]
    exact hc

theorem access (hc : c.Grown) (x : Access) : (c.access x).Grown := by
  cases x with
  | operate op => exact hc.of_step (hc.step op)
  | edit e => exact hc.edit e
  | watch => exact hc.congr (sameSites_of_eq rfl rfl)
  | pause id => exact hc.congr (sameSites_withRegion c id fun _ => rfl)
  | resume id => exact resume_induction (fun d id changes hd => hd.withChanges id changes) hc id
  | focus id target =>
      rcases focus_cases c id target with heq | ⟨t, heq⟩
      · rw [Contexts.access, heq]; exact hc
      · rw [Contexts.access, heq]; exact hc.withFocus t target
  | arrange => exact hc.congr (sameSites_of_eq rfl rfl)
  | read r =>
      exact read_induction (fun d t context keys hd => hd.noteLookups t context keys) hc r

theorem accessed (hc : c.Grown) (xs : List Access) : (c.accessed xs).Grown :=
  kept_foldl Grown (fun _ x hc => hc.access x) hc xs

end Grown

theorem settings_access (hc : c.Grown) (x : Access) :
    (c.access x).settings = c.settings.edited x.edit?.toList := by
  cases x with
  | operate op => exact settings_of_step (hc.step op)
  | edit e =>
      rcases edit_cases c e with ⟨change, -, heq⟩ | heq
      · rw [access, heq]
        exact ((SameSettings.refl _).tellSettings change).settings
      · rw [access, heq.2]
        exact heq.1.symm
  | watch => rfl
  | pause id => rfl
  | resume id => exact ((SameSettings.refl c).resume id).settings
  | focus id target => exact ((SameSettings.refl c).focus id target).settings
  | arrange => rfl
  | read r => exact ((SameSettings.refl c).read r).settings

/-- The settings are those that the edits make of them. -/
theorem settings_accessed (hc : c.Grown) (xs : List Access) :
    (c.accessed xs).settings = c.settings.edited (xs.filterMap Access.edit?) := by
  induction xs generalizing c with
  | nil => rfl
  | cons x xs ih =>
      have hstep := settings_access hc x
      refine (ih (hc.access x)).trans ?_
      rw [hstep, List.filterMap_cons]
      cases x.edit? <;> rfl

end Contexts

end Shortcuts
