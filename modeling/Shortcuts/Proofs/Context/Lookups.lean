import Shortcuts.Proofs.Context.Access

/-!
What questions look up, and what is remembered of it. A key of the settings is remembered from the
lookup that found a value until a change concerns it, and this change is the one that names it.
-/

namespace Shortcuts

/-- A change of the base layer concerns all keys, any other one the keys it names and those inside
them. -/
def SettingsChange.Concerns (change : SettingsChange) (key : String) : Prop :=
  change.layer = .base ∨ ∃ k ∈ change.keys, Covers (Arena.settingPrefix ++ k) key

namespace Arena

variable {a b : Arena} {x : ContextId} {key l : String} {settings : String → Option Json}

def Remembers (a : Arena) (key : String) : Prop := key ∈ (a.remembered.getD []).keys

/-- A lookup from the context ends at the settings, which have a value. -/
def Yields (a : Arena) (settings : String → Option Json) (x : ContextId) (key : String) : Prop :=
  a.locate x key = .setting ∧ (settingValue settings key).isSome = true

/-! ### Remembering -/

theorem find_congr (hnodes : b.nodes = a.nodes)
    (hbacked : b.remembered.isSome = a.remembered.isSome) (key : String) (fuel : Nat)
    (x : ContextId) : b.find key fuel x = a.find key fuel x := by
  induction fuel generalizing x with
  | zero => rfl
  | succ fuel ih =>
      have hnode : b.node? x = a.node? x := congrArg (List.lookup x) hnodes
      rw [find, find, hnode, hbacked]
      simp only [ih]

theorem locate_congr (hnodes : b.nodes = a.nodes)
    (hbacked : b.remembered.isSome = a.remembered.isSome) (x : ContextId) (key : String) :
    b.locate x key = a.locate x key := by
  rw [locate, locate, find_congr hnodes hbacked, hnodes]

theorem of_find_setting {fuel : Nat} (h : a.find key fuel x = .setting) :
    isSettingKey key = true ∧ a.remembered.isSome = true := by
  induction fuel generalizing x with
  | zero => cases h
  | succ fuel ih =>
      rw [find] at h
      split at h
      · cases h
      · split at h
        · next hroot => exact hroot.2
        · split at h
          · cases h
          · split at h
            · exact ih h
            · cases h

theorem Yields.ne_idKey (h : a.Yields settings x key) : key ≠ idKey := by
  rintro rfl
  exact absurd (of_find_setting h.1).1 (by decide)

/-- What a lookup leaves behind: nothing, or the value that it found. -/
theorem remember_cases (a : Arena) (settings : String → Option Json) (x : ContextId)
    (key : String) : a.remember settings x key = a ∧ (a.Yields settings x key → a.Remembers key) ∨
      ∃ v, a.Yields settings x key ∧ a.remember settings x key =
        { a with remembered := some (Fields.insert key v (a.remembered.getD [])) } := by
  rw [remember]
  split
  · next hid => exact .inl ⟨rfl, fun h => absurd hid h.ne_idKey⟩
  · split
    · next known hlocate hknown =>
        split
        · next hsome =>
            refine .inl ⟨rfl, fun _ => ?_⟩
            obtain ⟨v, hv⟩ := Option.isSome_iff_exists.mp hsome
            rw [Remembers, hknown]
            exact List.mem_map_of_mem (Fields.mem_of_lookup hv)
        · split
          · next v hv =>
              rw [hknown]
              exact .inr ⟨v, ⟨hlocate, by rw [hv]; rfl⟩, rfl⟩
          · next hnone =>
              refine .inl ⟨rfl, fun h => ?_⟩
              have hvalue := h.2
              rw [hnone] at hvalue
              cases hvalue
    · next hother =>
        refine .inl ⟨rfl, fun h => ?_⟩
        obtain ⟨known, hknown⟩ := Option.isSome_iff_exists.mp (of_find_setting h.1).2
        exact absurd hknown (hother known h.1)

theorem remembers_remember_iff (a : Arena) (settings : String → Option Json) (x : ContextId)
    (key l : String) : (a.remember settings x key).Remembers l ↔
      a.Remembers l ∨ l = key ∧ a.Yields settings x key := by
  rcases a.remember_cases settings x key with ⟨heq, hold⟩ | ⟨v, hyields, heq⟩
  · rw [heq]
    refine (or_iff_left_of_imp ?_).symm
    rintro ⟨rfl, h⟩
    exact hold h
  · rw [heq]
    refine (Fields.mem_keys_insert key l v _).trans (or_comm.trans (or_congr_right ?_))
    exact (and_iff_left hyields).symm

theorem yields_remember (a : Arena) (x y : ContextId) (key l : String) :
    (a.remember settings x key).Yields settings y l ↔ a.Yields settings y l := by
  rcases a.remember_cases settings x key with ⟨heq, -⟩ | ⟨v, hyields, heq⟩
  · rw [heq]
  · rw [heq, Yields, locate_congr (a := a)]
    · rfl
    · rfl
    · exact (of_find_setting hyields.1).2.symm

theorem remembers_rememberAll_iff (a : Arena) (settings : String → Option Json) (x : ContextId)
    (keys : List String) (l : String) : (a.rememberAll settings x keys).Remembers l ↔
      a.Remembers l ∨ l ∈ keys ∧ a.Yields settings x l := by
  induction keys generalizing a with
  | nil => simp [rememberAll]
  | cons k keys ih =>
      refine (ih (a.remember settings x k)).trans ?_
      rw [remembers_remember_iff, yields_remember, List.mem_cons, or_and_right, or_assoc]
      refine or_congr_right (or_congr_left (and_congr_right fun hl => ?_))
      rw [hl]

/-! ### Forgetting -/

theorem mem_stale (known : Fields Json) (k l : String) :
    l ∈ (known.keys.filter fun l => l = settingPrefix ++ k || isSectionOf (settingPrefix ++ k) l) ↔
      l ∈ known.keys ∧ Covers (settingPrefix ++ k) l := by
  rw [List.mem_filter, Bool.or_eq_true, decide_eq_true_eq, Covers, eq_comm (a := l)]

theorem mem_keys_forgetKey {s : Fields Json × List String} {k : String} :
    l ∈ (forgetKey s k).1.keys ↔ l ∈ s.1.keys ∧ ¬ Covers (settingPrefix ++ k) l := by
  have hstale := mem_stale s.1 k l
  rw [forgetKey, Fields.keys, List.mem_map]
  constructor
  · rintro ⟨e, he, rfl⟩
    obtain ⟨he, hkept⟩ := List.mem_filter.mp he
    have hmem : e.1 ∈ s.1.keys := List.mem_map_of_mem he
    refine ⟨hmem, fun hcovers => ?_⟩
    rw [List.contains_iff_mem.mpr (hstale.mpr ⟨hmem, hcovers⟩)] at hkept
    cases hkept
  · rintro ⟨hmem, hcovers⟩
    obtain ⟨e, he, rfl⟩ := List.mem_map.mp hmem
    refine ⟨e, List.mem_filter.mpr ⟨he, ?_⟩, rfl⟩
    rw [Bool.not_eq_true', Bool.eq_false_iff, ne_eq, List.contains_iff_mem]
    exact fun h => hcovers (hstale.mp h).2

theorem mem_changed_forgetKey {s : Fields Json × List String} {k : String} :
    l ∈ (forgetKey s k).2 ↔ l ∈ s.2 ∨ l ∈ s.1.keys ∧ Covers (settingPrefix ++ k) l := by
  rw [← mem_stale, forgetKey, List.mem_append, List.mem_filter]
  by_cases hl : l ∈ s.2 <;> simp [hl]

theorem mem_foldl_forgetKey (s : Fields Json × List String) (keys : List String) (l : String) :
    (l ∈ (keys.foldl forgetKey s).1.keys ↔
      l ∈ s.1.keys ∧ ¬ ∃ k ∈ keys, Covers (settingPrefix ++ k) l) ∧
    (l ∈ (keys.foldl forgetKey s).2 ↔
      l ∈ s.2 ∨ l ∈ s.1.keys ∧ ∃ k ∈ keys, Covers (settingPrefix ++ k) l) := by
  induction keys generalizing s with
  | nil => simp
  | cons k keys ih =>
      obtain ⟨hkept, hchanged⟩ := ih (forgetKey s k)
      rw [mem_keys_forgetKey] at hkept hchanged
      rw [mem_changed_forgetKey] at hchanged
      refine ⟨hkept.trans ?_, hchanged.trans ?_⟩
      · rw [List.exists_mem_cons_iff, not_or, and_assoc]
      · rw [List.exists_mem_cons_iff]
        by_cases hcovers : Covers (settingPrefix ++ k) l <;> simp [hcovers]

/-- A change names what it makes the root forget, which is what concerns it of all that the root
remembers. -/
theorem settingsChanged_exact (a : Arena) (change : SettingsChange) (l : String) :
    (l ∈ (a.settingsChanged change).2 ↔ a.Remembers l ∧ change.Concerns l) ∧
    ((a.settingsChanged change).1.Remembers l ↔ a.Remembers l ∧ ¬ change.Concerns l) := by
  rw [settingsChanged, SettingsChange.Concerns]
  split
  · next hnone => simp [Remembers, hnone, Fields.keys]
  · next known hknown =>
      have hremembers : a.Remembers l ↔ l ∈ known.keys := by rw [Remembers, hknown]; rfl
      rw [hremembers]
      split
      · next hlayer => simp [hlayer, Remembers, Fields.keys]
      · next hlayer =>
          obtain ⟨hkept, hchanged⟩ := mem_foldl_forgetKey (known, []) change.keys l
          refine ⟨hchanged.trans ?_, hkept.trans ?_⟩
          · simp [hlayer]
          · simp [hlayer]

/-- A change that does not concern a setting leaves the value that it has for any context. -/
theorem Knows.get?_settingsChanged {s s' : Settings} {change : SettingsChange} (h : a.Knows s)
    (hchange : change.Tells s s') (x : ContextId)
    (hconcerns : ¬ change.Concerns (settingPrefix ++ key)) :
    (a.settingsChanged change).1.get? s'.get? x (settingPrefix ++ key) =
      a.get? s.get? x (settingPrefix ++ key) := by
  have hafter := h.of_tells hchange
  have hlocate := locate_congr (a.sameNodes_settingsChanged change).nodes
    (hafter.backed.trans h.backed.symm) x (settingPrefix ++ key)
  cases hfound : a.locate x (settingPrefix ++ key) with
  | setting =>
      have hsame : s'.get? key = s.get? key := by
        rcases hchange with hbase | hsame
        · exact absurd (.inl hbase) hconcerns
        · exact hsame key fun k hk hcovers =>
            hconcerns (.inr ⟨k, hk, (covers_append _ k key).mpr hcovers⟩)
      rw [hafter.get?_of_locate (hlocate.trans hfound), h.get?_of_locate hfound, hsame]
  | value v => simp only [Arena.get?, if_neg (append_ne_idKey key), hlocate, hfound]
  | missing => simp only [Arena.get?, if_neg (append_ne_idKey key), hlocate, hfound]

end Arena

/-! ### Questions -/

/-- The value that what lies over a region has for a key. -/
def Viewpoint.own? : Viewpoint → String → Option Json
  | region _, _ => none
  | overlay o, key => o.own? key

namespace Contexts

variable {c d : Contexts} {t : Nat} {key : String}

/-- Keys that are looked up from a context of a tree. -/
structure Lookup where
  tree : Nat
  context : Option ContextId
  keys : List String

def noteLookup (c : Contexts) (l : Lookup) : Contexts := c.noteLookups l.tree l.context l.keys

/-- What lies over a region answers first, and only the other keys are looked up. -/
def lookupFrom (v : Viewpoint) (tree : Nat) (context : Option ContextId) (keys : List String) :
    Lookup := ⟨tree, context, keys.filter fun k => (v.own? k).isNone⟩

/-- A clause is evaluated as far as its outcome is open, so its lookups depend on the values. -/
def lookupClause (c : Contexts) (v : Viewpoint) (clause : Clause) (tree : Nat)
    (context : Option ContextId) : Lookup :=
  lookupFrom v tree context
    (clause.lookups fun k => v.own? k <|> c.valuesAt tree context k)

/-- The region below a viewpoint, as long as clauses are evaluated there. -/
def evaluating (c : Contexts) : Viewpoint → Option Region
  | .region id => (c.region? id).filter fun r => !r.disposed
  | .overlay o => c.region? o.region

/-- What a question looks up. -/
def Read.lookup? (c : Contexts) : Read → Option Lookup
  | .get v key => ((c.region? v.base).filter fun r => !r.disposed).map fun r =>
    lookupFrom v r.tree (some r.context) [key]
  | .getAt v target keys => (c.region? v.base).map fun r =>
    lookupFrom v r.tree (c.contextOf v.base target) keys
  | .matchText v text target =>
    match Clause.ofText text, c.evaluating v with
    | .ok (some clause), some r => some (c.lookupClause v clause r.tree (c.contextFor r target))
    | _, _ => none
  | .matchRules v rules =>
    match rules, c.evaluating v with
    | some clause, some r => some (c.lookupClause v clause r.tree (some r.context))
    | _, _ => none

/-- The lookups of a question find a setting that an arena knows. -/
def Read.Finds (c : Contexts) (t : Nat) (key : String) (r : Read) : Prop :=
  ∃ l x a, r.lookup? c = some l ∧ l.tree = t ∧ l.context = some x ∧ key ∈ l.keys ∧
    c.arena? t = some a ∧ a.Yields c.settings.get? x key

def Remembers (c : Contexts) (t : Nat) (key : String) : Prop :=
  ∃ a, c.arena? t = some a ∧ a.Remembers key

theorem noteLookups_eq {a : Arena} (ha : c.arena? t = some a) (x : ContextId)
    (keys : List String) : c.noteLookups t (some x) keys =
      c.withArena t (a.rememberAll c.settings.get? x keys) := by
  unfold noteLookups
  rw [ha]

theorem noteLookups_none (c : Contexts) (t : Nat) (keys : List String) :
    c.noteLookups t none keys = c := by
  unfold noteLookups
  split
  · next hnone => cases hnone
  · rfl

theorem noteLookups_absent (h : c.arena? t = none) (context : Option ContextId)
    (keys : List String) : c.noteLookups t context keys = c := by
  unfold noteLookups
  rw [h]

theorem noteLookups_nil (hc : c.Grown) (t : Nat) (context : Option ContextId) :
    c.noteLookups t context [] = c := by
  unfold noteLookups
  split
  · next a x ha => exact withArena_self hc ha
  · rfl

theorem noteLookups_append (c : Contexts) (t : Nat) (context : Option ContextId)
    (keys more : List String) : (c.noteLookups t context keys).noteLookups t context more =
      c.noteLookups t context (keys ++ more) := by
  cases context with
  | none => rw [noteLookups_none, noteLookups_none, noteLookups_none]
  | some x =>
      cases ha : c.arena? t with
      | none => rw [noteLookups_absent ha, noteLookups_absent ha, noteLookups_absent ha]
      | some a =>
          have hafter : (c.noteLookups t (some x) keys).arena? t =
              some (a.rememberAll c.settings.get? x keys) := by
            rw [noteLookups_eq ha, arena?_withArena ha, if_pos rfl]
          have hsettings := ((SameSettings.refl c).noteLookups t (some x) keys).settings
          rw [noteLookups_eq hafter, hsettings, noteLookups_eq ha, withArena_withArena,
            noteLookups_eq ha, Arena.rememberAll, Arena.rememberAll, Arena.rememberAll,
            List.foldl_append]

/-! ### What a question comes to -/

theorem region?_noteLookups (c : Contexts) (context : Option ContextId) (keys : List String)
    (id : RegionId) : (c.noteLookups t context keys).region? id = c.region? id := by
  unfold noteLookups
  split <;> rfl

theorem contextOf_noteLookups (c : Contexts) (context : Option ContextId) (keys : List String)
    (id : RegionId) (target : Option ElementId) :
    (c.noteLookups t context keys).contextOf id target = c.contextOf id target := by
  unfold noteLookups
  split <;> rfl

/-- The keys for an element are looked up one after the other, all from the same context. -/
theorem foldl_noteGetAt (hc : c.Grown) (o : Overlay) (target : Option ElementId)
    (keys : List String) {r : Region} (hr : c.region? o.region = some r) :
    keys.foldl (fun c k => o.noteGetAt c target k) c =
      c.noteLookup (lookupFrom (.overlay o) r.tree (c.contextOf o.region target) keys) := by
  induction keys generalizing c with
  | nil => exact (noteLookups_nil hc _ _).symm
  | cons k keys ih =>
      rw [List.foldl_cons, Overlay.noteGetAt, hr]
      dsimp only
      cases hown : o.own? k with
      | some v =>
          have hskip : (k :: keys).filter (fun k => (o.own? k).isNone) =
              keys.filter fun k => (o.own? k).isNone := by rw [List.filter_cons, hown]; rfl
          exact (ih hc hr).trans (congrArg (c.noteLookups _ _) hskip.symm)
      | none =>
          have hask : (k :: keys).filter (fun k => (o.own? k).isNone) =
              [k] ++ keys.filter fun k => (o.own? k).isNone := by rw [List.filter_cons, hown]; rfl
          have hnoted := hc.noteLookups r.tree (c.contextOf o.region target) [k]
          refine (ih hnoted ((region?_noteLookups c _ _ _).trans hr)).trans ?_
          rw [contextOf_noteLookups]
          exact (noteLookups_append c _ _ _ _).trans (congrArg (c.noteLookups _ _) hask.symm)

theorem lookupFrom_region (id : RegionId) (tree : Nat) (context : Option ContextId)
    (keys : List String) : lookupFrom (.region id) tree context keys = ⟨tree, context, keys⟩ :=
  congrArg (Lookup.mk tree context) (List.filter_true keys)

theorem noteLookup_lookupClause (c : Contexts) (id : RegionId) (clause : Clause) (tree : Nat)
    (context : Option ContextId) : c.noteLookup (c.lookupClause (.region id) clause tree context) =
      c.noteLookups tree context (clause.lookups (c.valuesAt tree context)) := by
  rw [lookupClause, lookupFrom_region]
  rfl

theorem read_get (hc : c.Grown) (v : Viewpoint) (key : String) :
    c.read (.get v key) = (((Read.get v key).lookup? c).map c.noteLookup).getD c := by
  cases v with
  | region id =>
      rw [read, Viewpoint.get, noteGet, Read.lookup?, Viewpoint.base]
      cases c.region? id with
      | none => rfl
      | some r =>
          rw [Option.filter_some]
          dsimp only
          cases r.disposed <;> rfl
  | overlay o =>
      rw [read, Viewpoint.get, Overlay.noteGet, noteGet, Read.lookup?, Viewpoint.base]
      cases c.region? o.region with
      | none => exact ite_self c
      | some r =>
          rw [Option.filter_some]
          dsimp only
          cases r.disposed with
          | true => exact ite_self c
          | false =>
              cases hown : o.own? key with
              | none => simp [noteLookup, lookupFrom, Viewpoint.own?, hown]
              | some v => simp [noteLookup, lookupFrom, Viewpoint.own?, hown, noteLookups_nil hc]

theorem read_getAt (hc : c.Grown) (v : Viewpoint) (target : Option ElementId)
    (keys : List String) : c.read (.getAt v target keys) =
      (((Read.getAt v target keys).lookup? c).map c.noteLookup).getD c := by
  rw [read, Read.lookup?]
  cases v with
  | region id =>
      rw [Viewpoint.getAt, Viewpoint.base]
      cases hr : c.region? id with
      | none =>
          have hcontext : c.contextOf id target = none := by
            rw [contextOf, isDisposed, hr, if_pos rfl]
          rw [hcontext]
          exact noteLookups_none c _ keys
      | some r =>
          rw [Option.map_some, Option.map_some, lookupFrom_region]
          rfl
  | overlay o =>
      rw [Viewpoint.getAt, Viewpoint.base]
      cases hr : c.region? o.region with
      | none =>
          refine kept_foldl (· = c) (fun d k hd => ?_) rfl keys
          rw [hd, Overlay.noteGetAt, hr]
      | some r => exact foldl_noteGetAt hc o target keys hr

theorem read_matchText (c : Contexts) (v : Viewpoint) (text : String)
    (target : Option ElementId) : c.read (.matchText v text target) =
      (((Read.matchText v text target).lookup? c).map c.noteLookup).getD c := by
  rw [read, Read.lookup?]
  cases v with
  | region id =>
      rw [Viewpoint.matchText, noteMatch, evaluating]
      cases Clause.ofText text with
      | error e => rfl
      | ok parsed =>
          cases parsed with
          | none => rfl
          | some clause =>
              cases c.region? id with
              | none => rfl
              | some r =>
                  rw [Option.filter_some]
                  dsimp only
                  cases r.disposed with
                  | true => rfl
                  | false => exact (noteLookup_lookupClause c id clause r.tree _).symm
  | overlay o =>
      rw [Viewpoint.matchText, Overlay.noteMatch, evaluating]
      cases Clause.ofText text with
      | error e => rfl
      | ok parsed =>
          cases parsed with
          | none => rfl
          | some clause => cases c.region? o.region <;> rfl

theorem read_matchRules (c : Contexts) (v : Viewpoint) (rules : Option Clause) :
    c.read (.matchRules v rules) =
      (((Read.matchRules v rules).lookup? c).map c.noteLookup).getD c := by
  cases rules with
  | none => cases v <;> rfl
  | some clause =>
      cases v with
      | region id =>
          change c.noteRules id (some clause) = _
          dsimp only [noteRules, Read.lookup?, evaluating]
          cases c.region? id with
          | none => rfl
          | some r =>
              rw [Option.filter_some]
              dsimp only
              cases r.disposed with
              | true => rfl
              | false => exact (noteLookup_lookupClause c id clause r.tree _).symm
      | overlay o =>
          change o.noteRules c (some clause) = _
          dsimp only [Overlay.noteRules, Read.lookup?, evaluating]
          cases c.region? o.region <;> rfl

/-- A question leaves behind what its lookups leave behind, and nothing else. -/
theorem read_eq (hc : c.Grown) (r : Read) :
    c.read r = ((r.lookup? c).map c.noteLookup).getD c := by
  cases r with
  | get v key => exact read_get hc v key
  | getAt v target keys => exact read_getAt hc v target keys
  | matchText v text target => exact read_matchText c v text target
  | matchRules v rules => exact read_matchRules c v rules

/-! ### What is remembered -/

theorem remembers_iff {a : Arena} (ha : c.arena? t = some a) :
    c.Remembers t key ↔ a.Remembers key := by
  rw [Remembers, ha]
  simp

theorem remembers_congr (h : d.arena? t = c.arena? t) :
    d.Remembers t key ↔ c.Remembers t key := by
  rw [Remembers, Remembers, h]

/-- A question makes an arena remember the settings that it finds, and nothing else. -/
theorem remembers_read_iff (hc : c.Grown) (r : Read) :
    (c.read r).Remembers t key ↔ c.Remembers t key ∨ r.Finds c t key := by
  rw [read_eq hc, Read.Finds]
  cases r.lookup? c with
  | none => simp
  | some l =>
      obtain ⟨tree, context, keys⟩ := l
      rw [Option.map_some, Option.getD_some, noteLookup]
      cases context with
      | none =>
          rw [noteLookups_none]
          simp
      | some x =>
          cases ha : c.arena? tree with
          | none =>
              rw [noteLookups_absent ha]
              refine (or_iff_left ?_).symm
              rintro ⟨l, _, a, hl, rfl, -, -, ha', -⟩
              cases hl
              rw [ha] at ha'
              cases ha'
          | some a =>
              have hafter := arena?_withArena ha (a.rememberAll c.settings.get? x keys) t
              rw [noteLookups_eq ha]
              by_cases ht : t = tree
              · subst ht
                rw [if_pos rfl] at hafter
                rw [remembers_iff hafter, remembers_iff ha, Arena.remembers_rememberAll_iff]
                refine or_congr_right ⟨fun h => ⟨_, x, a, rfl, rfl, rfl, h.1, ha, h.2⟩, ?_⟩
                rintro ⟨l, _, _, hl, -, hx, hkey, ha', hyields⟩
                cases hl
                cases hx
                rw [ha] at ha'
                cases ha'
                exact ⟨hkey, hyields⟩
              · rw [if_neg ht] at hafter
                rw [remembers_congr hafter]
                refine (or_iff_left ?_).symm
                rintro ⟨l, _, _, hl, htree, -⟩
                cases hl
                exact ht htree.symm

end Contexts

end Shortcuts
