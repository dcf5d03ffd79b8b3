import Mathlib.Data.List.Induction
import Shortcuts.Proofs.Fields
import Shortcuts.Proofs.Keymap.Joining
import Shortcuts.Proofs.Workbench.Registration

/-!
Whole keymaps that replace one another. What a workbench has on record about a tier are the numbers
of the bindings that came into it with a whole keymap and are still there, next to some of bindings
that are gone, so a new keymap takes out what came with the earlier ones and nothing else.
-/

namespace Shortcuts

/-- An operation sets a whole keymap or resets one. -/
def Operation.setsWhole : Operation → Bool
  | setKeymap _ _ | resetScope _ | resetAll => true
  | _ => false

namespace Workbench

variable {w v : Workbench} {s t : Scope}

/-- The workbench before anything was bound. -/
def unbound (w : Workbench) : Workbench :=
  { w with dispatcher := { w.dispatcher with keymap := {}, installed := [] } }

def tier (w : Workbench) (s : Scope) : List Keymap.Entry := w.dispatcher.keymap.tier s

/-- The numbers on record of what came into a tier as a whole keymap. -/
def recorded (w : Workbench) (s : Scope) : List Nat := (w.dispatcher.installed.lookup s).getD []

/-- The chord text of a binding can be read. -/
def reads (w : Workbench) (b : Binding) : Bool :=
  (Chord.sequenceOfText w.dispatcher.platform b.keys).isOk

/-- An entry of this number came into a tier when a whole keymap was set there. -/
def CameWhole (w : Workbench) (ops : List Operation) (s : Scope) (n : Nat) : Prop :=
  ∃ before bs, before ++ [.setKeymap s bs] <+: ops ∧
    (∀ e ∈ (w.run before).tier s, e.id ≠ n) ∧
    ∃ e ∈ ((w.run before).setKeymap s bs).tier s, e.id = n

/-! ### Setting and resetting -/

theorem resetScope_eq (d : Dispatcher) (s : Scope) : d.resetScope s =
    { d with
      keymap := d.keymap.withTier s
        ((d.keymap.tier s).filter fun e => e.id ∉ (d.installed.lookup s).getD [])
      installed := d.installed.filter (·.1 ≠ s) } := by
  rw [Dispatcher.resetScope]
  split
  · next ids hids => rw [Keymap.foldl_remove, hids, Option.getD_some]
  · next hnone =>
      have htier : (d.keymap.tier s).filter
          (fun e => e.id ∉ (d.installed.lookup s).getD []) = d.keymap.tier s := by
        rw [hnone]
        simp
      have hinstalled : d.installed.filter (·.1 ≠ s) = d.installed :=
        List.filter_eq_self.mpr fun p hp =>
          decide_eq_true (Ne.symm (bne_iff_ne.mp (List.lookup_eq_none_iff.mp hnone p hp)))
      rw [htier, hinstalled, Keymap.withTier_tier]

/-- The keymap when what is on record about a tier was taken out. -/
def thinned (w : Workbench) (s : Scope) : Keymap :=
  w.dispatcher.keymap.withTier s ((w.tier s).filter fun e => e.id ∉ w.recorded s)

theorem next_thinned (w : Workbench) (s : Scope) :
    (w.thinned s).next = w.dispatcher.keymap.next := Keymap.next_withTier _ _ _

theorem resolve?_isSome (w : Workbench) (b : Binding) : (w.resolve? b).isSome = w.reads b := by
  rw [resolve?, resolve, reads]
  cases Chord.sequenceOfText w.dispatcher.platform b.keys <;> rfl

/-- Bindings that are inserted one after the other. -/
def insertAll (w : Workbench) (s : Scope) (bs : List Binding) : Workbench × List Nat :=
  bs.foldl (fun (w, ids) b =>
    let (w, number) := w.insert s b
    (w, ids ++ number.toList)) (w, [])

/-- What inserting a list of bindings comes to: those that can be read come in, in their order. -/
structure Takes (w : Workbench) (s : Scope) (bs : List Binding) (new : List Keymap.Entry)
    (r : Workbench × List Nat) : Prop where
  joins : Keymap.Joins w.dispatcher.keymap r.1.dispatcher.keymap s new
  content : new.map (fun e => (e.binding, e.chords)) =
    (bs.filter w.reads).map fun b => (b, w.resolve? b)
  numbers : r.2 = new.map Keymap.Entry.id
  rest : r.1 = w.withKeymap r.1.dispatcher.keymap

theorem insertAll_concat (w : Workbench) (s : Scope) (bs : List Binding) (b : Binding) :
    w.insertAll s (bs ++ [b]) =
      (((w.insertAll s bs).1.insert s b).1,
        (w.insertAll s bs).2 ++ ((w.insertAll s bs).1.insert s b).2.toList) := by
  rw [insertAll, List.foldl_append]
  rfl

theorem insertAll_spec (w : Workbench) (s : Scope) (bs : List Binding) :
    ∃ new, w.Takes s bs new (w.insertAll s bs) := by
  induction bs using List.reverseRecOn with
  | nil => exact ⟨[], .refl _ s, rfl, rfl, rfl⟩
  | append_singleton bs b ih =>
      obtain ⟨new, h⟩ := ih
      have hresolve : (w.insertAll s bs).1.resolve? b = w.resolve? b := by
        rw [h.rest]
        rfl
      rw [insertAll_concat, insert, hresolve]
      cases hb : w.resolve? b with
      | none =>
          have hreads : w.reads b = false := by rw [← resolve?_isSome, hb, Option.isSome_none]
          refine ⟨new, h.joins, ?_, ?_, h.rest⟩
          · rw [h.content, List.filter_append, List.filter_cons_of_neg (by simp [hreads]),
              List.filter_nil, List.append_nil]
          · rw [h.numbers, Option.toList_none, List.append_nil]
      | some chords =>
          have hreads : w.reads b = true := by rw [← resolve?_isSome, hb, Option.isSome_some]
          refine ⟨_, h.joins.insert b (some chords), ?_, ?_, ?_⟩
          · rw [List.map_append, h.content, List.filter_append, List.filter_cons_of_pos hreads,
              List.filter_nil, List.map_append, List.map_singleton, List.map_singleton, hb]
          · rw [List.map_append, h.numbers]
            rfl
          · dsimp only
            rw [h.rest]
            rfl

/-- What setting a whole keymap comes to: what is on record goes, and the bindings that can be read
come in. -/
structure Replaces (w : Workbench) (s : Scope) (bs : List Binding) (new : List Keymap.Entry)
    (w' : Workbench) : Prop where
  joins : Keymap.Joins (w.thinned s) w'.dispatcher.keymap s new
  content : new.map (fun e => (e.binding, e.chords)) =
    (bs.filter w.reads).map fun b => (b, w.resolve? b)
  rest : w' = { w with
    dispatcher := { w.dispatcher with
      keymap := w'.dispatcher.keymap
      installed := (s, new.map Keymap.Entry.id) :: w.dispatcher.installed.filter (·.1 ≠ s) }
    log := w.log ++ [.bindingsChanged] }

/-- The workbench when a tier was reset. -/
def cleared (w : Workbench) (s : Scope) : Workbench :=
  { w with dispatcher := w.dispatcher.resetScope s }

theorem setKeymap_eq (w : Workbench) (s : Scope) (bs : List Binding) : w.setKeymap s bs =
    let r := (w.cleared s).insertAll s bs
    ({ r.1 with dispatcher := { r.1.dispatcher with
      installed := (s, r.2) :: r.1.dispatcher.installed } }).note .bindingsChanged := rfl

theorem keymap_setKeymap (w : Workbench) (s : Scope) (bs : List Binding) :
    (w.setKeymap s bs).dispatcher.keymap =
      ((w.cleared s).insertAll s bs).1.dispatcher.keymap := rfl

theorem setKeymap_spec (w : Workbench) (s : Scope) (bs : List Binding) :
    ∃ new, w.Replaces s bs new (w.setKeymap s bs) := by
  obtain ⟨new, h⟩ := insertAll_spec (w.cleared s) s bs
  have hreset := resetScope_eq w.dispatcher s
  have hkeymap : (w.cleared s).dispatcher.keymap = w.thinned s := by
    rw [cleared, hreset]
    rfl
  have hresolve : (w.cleared s).resolve? = w.resolve? := by
    rw [cleared, hreset]
    rfl
  have hreads : (w.cleared s).reads = w.reads := by
    rw [cleared, hreset]
    rfl
  have hjoins := h.joins
  have hcontent := h.content
  rw [hkeymap] at hjoins
  rw [hresolve, hreads] at hcontent
  refine ⟨new, hjoins, hcontent, ?_⟩
  rw [setKeymap_eq]
  dsimp only
  rw [h.numbers, h.rest, cleared, hreset]
  rfl

/-! ### What is on record -/

theorem recorded_of_installed {l : List (Scope × List Nat)} (h : v.dispatcher.installed = l)
    (s : Scope) : v.recorded s = (l.lookup s).getD [] := by
  rw [recorded, h]

theorem recorded_cleared (w : Workbench) (s t : Scope) :
    (w.cleared s).recorded t = if t = s then [] else w.recorded t := by
  have hinstalled : (w.cleared s).dispatcher.installed = w.dispatcher.installed.filter (·.1 ≠ s) := by
    rw [cleared, resetScope_eq]
  rw [recorded_of_installed hinstalled, lookup_filter (fun t => decide (t ≠ s))]
  by_cases ht : t = s
  · simp [ht]
  · simp [ht, recorded]

theorem tier_cleared (w : Workbench) (s t : Scope) :
    (w.cleared s).tier t = (w.thinned s).tier t := by
  rw [cleared, tier, resetScope_eq]
  rfl

theorem Replaces.recorded {bs : List Binding} {new : List Keymap.Entry} {w' : Workbench}
    (h : w.Replaces s bs new w') (t : Scope) :
    w'.recorded t = if t = s then new.map Keymap.Entry.id else w.recorded t := by
  have hinstalled := congrArg (fun v : Workbench => v.dispatcher.installed) h.rest
  rw [recorded_of_installed hinstalled]
  by_cases ht : t = s
  · rw [if_pos ht, ht, List.lookup_cons_self, Option.getD_some]
  · rw [if_neg ht, List.lookup_cons, beq_eq_false_iff_ne.mpr ht,
      lookup_filter (fun t => decide (t ≠ s)), if_pos (decide_eq_true ht)]
    rfl

theorem installed_of_upkeep {w' : Workbench} (h : w.Upkeep w') :
    w'.dispatcher.installed = w.dispatcher.installed := by
  rw [h.dispatcher]

theorem lasting_installed (l : List (Scope × List Nat)) :
    Lasting fun w : Workbench => w.dispatcher.installed = l where
  beside hb h := (installed_of_upkeep hb.toUpkeep).trans h
  note _ h := h
  withPending _ h := h
  resolved h := h
  heard e h := (installed_of_upkeep (upkeep_heard _ e)).trans h

theorem installed_bind (w : Workbench) (b : Binding) :
    (w.bind b).1.dispatcher.installed = w.dispatcher.installed := by
  rcases bind_cases w b with ⟨-, h⟩ | ⟨chords, h⟩
  · rw [h]
  · rw [h]
    rfl

theorem installed_undo (w : Workbench) (r : Registration) :
    (w.undo r).dispatcher.installed = w.dispatcher.installed := by
  cases r <;> rfl

theorem installed_withDetection (w : Workbench) (r : Detection × Option NativeLayout) :
    (w.withDetection r).dispatcher.installed = w.dispatcher.installed :=
  installed_of_upkeep (upkeep_withLayout w _)

theorem installed_apply {op : Operation} (hop : op.setsWhole = false) (w : Workbench) :
    (w.apply op).dispatcher.installed = w.dispatcher.installed := by
  have hlasting := lasting_installed w.dispatcher.installed
  cases op with
  | bind b => exact installed_bind w b
  | bindAll bs =>
      rw [apply, bindAll]
      exact List.foldlRecOn (motive := fun r : Workbench × List (Disposable Registration) =>
        r.1.dispatcher.installed = w.dispatcher.installed) bs _ rfl
        fun r hr b _ => (installed_bind r.1 b).trans hr
  | release d =>
      exact List.foldlRecOn (motive := fun v : Workbench =>
        v.dispatcher.installed = w.dispatcher.installed) d.order _ rfl
        fun v hv r _ => (installed_undo v r).trans hv
  | addContext id enables =>
      rw [apply, Dispatcher.addContext]
      split <;> rfl
  | collidesIn b s =>
      rw [apply, collidesIn]
      split <;> rfl
  | press e => exact hlasting.press e rfl
  | pressChord c target => exact hlasting.press _ rfl
  | typeCommand command target => exact hlasting.typeCommand command target rfl
  | choose l => exact installed_withDetection w _
  | unchoose => exact installed_withDetection w _
  | observe o => exact installed_withDetection w _
  | nativeChanged => exact installed_withDetection w _
  | addBuiltin id =>
      rw [apply]
      split <;> rfl
  | setKeymap s bs => cases hop
  | resetScope s => cases hop
  | resetAll => cases hop
  | _ => rfl

theorem recorded_resetAll (w : Workbench) (s : Scope) :
    (w.apply .resetAll).recorded s = if s = .base then w.recorded s else [] := by
  have hinstalled : (w.apply .resetAll).dispatcher.installed =
      w.dispatcher.installed.filter (·.1 = Scope.base) := rfl
  rw [recorded_of_installed hinstalled, lookup_filter (fun s => decide (s = Scope.base))]
  by_cases hs : s = .base
  · simp [hs, recorded]
  · simp [hs]

theorem tier_resetAll (w : Workbench) (s : Scope) :
    (w.apply .resetAll).tier s = if s = .base then w.tier s else [] := by
  cases s <;> rfl

/-! ### What came of a whole keymap -/

theorem cameWhole_concat {ops : List Operation} {op : Operation} {n : Nat} :
    w.CameWhole (ops ++ [op]) s n ↔ w.CameWhole ops s n ∨ ∃ bs, op = .setKeymap s bs ∧
      (∀ e ∈ (w.run ops).tier s, e.id ≠ n) ∧
        ∃ e ∈ ((w.run ops).setKeymap s bs).tier s, e.id = n := by
  constructor
  · rintro ⟨before, bs, hpart, hn⟩
    rcases List.prefix_concat_iff.mp hpart with hall | hpart
    · obtain ⟨rfl, hop⟩ := List.append_inj' hall rfl
      exact .inr ⟨bs, (List.singleton_inj.mp hop).symm, hn⟩
    · exact .inl ⟨before, bs, hpart, hn⟩
  · rintro (⟨before, bs, hpart, hn⟩ | ⟨bs, rfl, hn⟩)
    · exact ⟨before, bs, hpart.trans (List.prefix_append ops [op]), hn⟩
    · exact ⟨ops, bs, List.prefix_rfl, hn⟩

theorem cameWhole_concat_of_ne {ops : List Operation} {op : Operation} {n : Nat}
    (h : ∀ bs, op ≠ .setKeymap s bs) :
    w.CameWhole (ops ++ [op]) s n ↔ w.CameWhole ops s n := by
  rw [cameWhole_concat, or_iff_left]
  rintro ⟨bs, rfl, -⟩
  exact h bs rfl

theorem lt_next_of_mem_tier (hw : w.dispatcher.keymap.Ordered) {e : Keymap.Entry}
    (he : e ∈ w.tier s) : e.id < w.dispatcher.keymap.next :=
  hw.counted e.id (Keymap.mem_ids.mpr ⟨s, e.row, List.mem_map_of_mem he, rfl⟩)

theorem next_le_run (w : Workbench) (ops : List Operation) :
    w.dispatcher.keymap.next ≤ (w.run ops).dispatcher.keymap.next := by
  obtain ⟨edits, hedits⟩ := follows_run w ops
  exact hedits ▸ Keymap.next_le_run _ edits

/-- An entry that was not there before has a new number. -/
theorem mem_tier_apply {op : Operation} {e : Keymap.Entry} (he : e ∈ (w.apply op).tier s) :
    (∃ d ∈ w.tier s, d.id = e.id) ∨ w.dispatcher.keymap.next ≤ e.id := by
  obtain ⟨edits, hedits⟩ := follows_run w [op]
  have hrow : e.row ∈ (w.dispatcher.keymap.run edits).roster s :=
    hedits ▸ Keymap.mem_roster.mpr ⟨e, he, rfl⟩
  rcases Keymap.mem_roster_run hrow with hold | hnew
  · obtain ⟨d, hd, hrow⟩ := Keymap.mem_roster.mp hold
    exact .inl ⟨d, hd, congrArg Prod.fst hrow⟩
  · exact .inr hnew

theorem ordered_run (w : Workbench) (ops : List Operation) :
    (w.unbound.run ops).dispatcher.keymap.Ordered :=
  (follows_run w.unbound ops).ordered

theorem CameWhole.lt {ops : List Operation} {n : Nat} (h : w.unbound.CameWhole ops s n) :
    n < (w.unbound.run ops).dispatcher.keymap.next := by
  obtain ⟨before, bs, ⟨behind, rfl⟩, -, e, he, rfl⟩ := h
  have hrun : (w.unbound.run before).setKeymap s bs = w.unbound.run (before ++ [.setKeymap s bs]) :=
    by rw [run_append]; rfl
  rw [hrun] at he
  have hlt := lt_next_of_mem_tier (ordered_run w _) he
  rw [run_append]
  exact Nat.lt_of_lt_of_le hlt (next_le_run _ behind)

/-- What is on record of a tier was given once, and of the entries that are there it names those
that came with a whole keymap. -/
structure Tracks (w : Workbench) (ops : List Operation) : Prop where
  given : ∀ s, ∀ n ∈ (w.run ops).recorded s, n < (w.run ops).dispatcher.keymap.next
  came : ∀ s, ∀ e ∈ (w.run ops).tier s,
    e.id ∈ (w.run ops).recorded s ↔ w.CameWhole ops s e.id

namespace Tracks

variable {ops : List Operation} (h : w.unbound.Tracks ops)

include h

theorem other {op : Operation} (hop : op.setsWhole = false) : w.unbound.Tracks (ops ++ [op]) := by
  have hset (s : Scope) (bs : List Binding) : op ≠ .setKeymap s bs := by
    rintro rfl
    cases hop
  have hrun : w.unbound.run (ops ++ [op]) = (w.unbound.run ops).apply op := run_append _ _ _
  have hrecorded (s : Scope) :
      ((w.unbound.run ops).apply op).recorded s = (w.unbound.run ops).recorded s :=
    recorded_of_installed (installed_apply hop _) s
  constructor
  · intro s n hn
    rw [hrun, hrecorded] at hn
    rw [hrun]
    exact Nat.lt_of_lt_of_le (h.given s n hn) (next_le_run _ [op])
  · intro s e he
    rw [hrun] at he ⊢
    rw [hrecorded, cameWhole_concat_of_ne (hset s)]
    rcases mem_tier_apply he with ⟨d, hd, hid⟩ | hnew
    · exact hid ▸ h.came s d hd
    · refine iff_of_false (fun hmem => ?_) fun hcame => ?_
      · exact Nat.not_lt.mpr hnew (h.given s _ hmem)
      · exact Nat.not_lt.mpr hnew hcame.lt

theorem resetScope (s : Scope) : w.unbound.Tracks (ops ++ [.resetScope s]) := by
  have hrun : w.unbound.run (ops ++ [.resetScope s]) = (w.unbound.run ops).cleared s :=
    run_append _ _ _
  have hnext : ((w.unbound.run ops).cleared s).dispatcher.keymap.next =
      (w.unbound.run ops).dispatcher.keymap.next := by
    rw [cleared, resetScope_eq]
    exact Keymap.next_withTier _ _ _
  constructor
  · intro t n hn
    rw [hrun, recorded_cleared] at hn
    rw [hrun, hnext]
    split at hn
    · cases hn
    · exact h.given t n hn
  · intro t e he
    rw [hrun, tier_cleared] at he
    rw [hrun, recorded_cleared, cameWhole_concat_of_ne fun _ h => by cases h]
    by_cases ht : t = s
    · subst t
      rw [thinned, Keymap.tier_withTier_self] at he
      obtain ⟨he, hout⟩ := List.mem_filter.mp he
      rw [if_pos rfl, ← h.came s e he]
      exact iff_of_false List.not_mem_nil (of_decide_eq_true hout)
    · rw [thinned, Keymap.tier_withTier_of_ne ht] at he
      rw [if_neg ht]
      exact h.came t e he

theorem resetAll : w.unbound.Tracks (ops ++ [.resetAll]) := by
  have hrun : w.unbound.run (ops ++ [.resetAll]) = (w.unbound.run ops).apply .resetAll :=
    run_append _ _ _
  constructor
  · intro s n hn
    rw [hrun, recorded_resetAll] at hn
    rw [hrun]
    split at hn
    · exact Nat.lt_of_lt_of_le (h.given s n hn) (next_le_run _ [.resetAll])
    · cases hn
  · intro s e he
    rw [hrun, tier_resetAll] at he
    rw [hrun, recorded_resetAll, cameWhole_concat_of_ne fun _ h => by cases h]
    split at he
    · next hs =>
        rw [if_pos hs]
        exact h.came s e he
    · cases he

theorem setKeymap (s : Scope) (bs : List Binding) : w.unbound.Tracks (ops ++ [.setKeymap s bs]) := by
  have hrun : w.unbound.run (ops ++ [.setKeymap s bs]) = (w.unbound.run ops).setKeymap s bs :=
    run_append _ _ _
  obtain ⟨new, hset⟩ := setKeymap_spec (w.unbound.run ops) s bs
  have hnext := hset.joins.next
  rw [next_thinned] at hnext
  constructor
  · intro t n hn
    rw [hrun, hset.recorded] at hn
    rw [hrun]
    split at hn
    · obtain ⟨e, he, rfl⟩ := List.mem_map.mp hn
      exact (hset.joins.next_le he).2
    · exact Nat.lt_of_lt_of_le (h.given t n hn) (hnext ▸ Nat.le_add_right _ _)
  · intro t e he
    rw [hrun] at he
    rw [hrun, hset.recorded]
    by_cases ht : t = s
    · subst t
      rw [if_pos rfl, cameWhole_concat]
      rcases hset.joins.mem_tier.mp he with hold | hnew
      · rw [thinned, Keymap.tier_withTier_self] at hold
        obtain ⟨hold, hout⟩ := List.mem_filter.mp hold
        refine iff_of_false (fun hmem => ?_) ?_
        · obtain ⟨d, hd, hid⟩ := List.mem_map.mp hmem
          have hlt := lt_next_of_mem_tier (ordered_run w ops) hold
          have hle := (hset.joins.next_le hd).1
          rw [next_thinned, hid] at hle
          exact Nat.not_lt.mpr hle hlt
        · rintro (hcame | ⟨-, -, hnone, -⟩)
          · exact of_decide_eq_true hout ((h.came s e hold).mpr hcame)
          · exact hnone e hold rfl
      · refine iff_of_true (List.mem_map_of_mem hnew) (.inr ⟨bs, rfl, fun d hd hid => ?_, e, he, rfl⟩)
        have hlt := lt_next_of_mem_tier (ordered_run w ops) hd
        have hle := (hset.joins.next_le hnew).1
        rw [next_thinned, ← hid] at hle
        exact Nat.not_lt.mpr hle hlt
    · have htier : ((w.unbound.run ops).setKeymap s bs).tier t = (w.unbound.run ops).tier t :=
        (hset.joins.elsewhere t ht).trans (Keymap.tier_withTier_of_ne ht _ _)
      rw [if_neg ht, cameWhole_concat_of_ne fun cs hcs => ht (by cases hcs; rfl)]
      exact h.came t e (htier ▸ he)

end Tracks

theorem tracks_run (w : Workbench) (ops : List Operation) : w.unbound.Tracks ops := by
  induction ops using List.reverseRecOn with
  | nil =>
      refine ⟨fun s n hn => ?_, fun s e he => ?_⟩
      · cases hn
      · rw [run, List.foldl_nil, tier, unbound, Keymap.tier_empty] at he
        cases he
  | append_singleton ops op ih =>
      cases op with
      | setKeymap s bs => exact ih.setKeymap s bs
      | resetScope s => exact ih.resetScope s
      | resetAll => exact ih.resetAll
      | _ => exact ih.other rfl

/-! ### Setting twice -/

theorem alike_insert {w' : Workbench} (hresolve : w'.resolve? = w.resolve?)
    (h : Keymap.Alike w.dispatcher.keymap w'.dispatcher.keymap) (s : Scope) (b : Binding) :
    Keymap.Alike (w.insert s b).1.dispatcher.keymap (w'.insert s b).1.dispatcher.keymap := by
  rw [insert, insert, hresolve]
  cases w.resolve? b with
  | none => exact h
  | some chords => exact h.insert s b (some chords)

theorem alike_insertAll {w' : Workbench} (hresolve : w'.resolve? = w.resolve?)
    (h : Keymap.Alike w.dispatcher.keymap w'.dispatcher.keymap) (s : Scope) (bs : List Binding) :
    Keymap.Alike (w.insertAll s bs).1.dispatcher.keymap (w'.insertAll s bs).1.dispatcher.keymap := by
  induction bs using List.reverseRecOn with
  | nil => exact h
  | append_singleton bs b ih =>
      have hstay (w : Workbench) : (w.insertAll s bs).1.resolve? = w.resolve? := by
        obtain ⟨new, htakes⟩ := insertAll_spec w s bs
        rw [htakes.rest]
        rfl
      rw [insertAll_concat, insertAll_concat]
      refine alike_insert ?_ ih s b
      rw [hstay, hstay, hresolve]

theorem keymap_cleared (w : Workbench) (s : Scope) :
    (w.cleared s).dispatcher.keymap = w.thinned s := by
  rw [cleared, resetScope_eq]
  rfl

theorem resolve?_cleared (w : Workbench) (s : Scope) : (w.cleared s).resolve? = w.resolve? := by
  rw [cleared, resetScope_eq]
  rfl

/-- A second keymap takes out all that came with the first one. -/
theorem tier_thinned_setKeymap (hw : w.dispatcher.keymap.Ordered) (s : Scope) (bs : List Binding)
    (t : Scope) : ((w.setKeymap s bs).thinned s).tier t = (w.thinned s).tier t := by
  obtain ⟨new, hset⟩ := setKeymap_spec w s bs
  by_cases ht : t = s
  · subst t
    have hold (e : Keymap.Entry) (he : e ∈ (w.thinned s).tier s) :
        e.id < w.dispatcher.keymap.next := by
      rw [thinned, Keymap.tier_withTier_self] at he
      exact lt_next_of_mem_tier hw (List.mem_filter.mp he).1
    have hsame (e : Keymap.Entry) (he : e ∈ (w.setKeymap s bs).tier s) :
        decide (e.id ∉ (w.setKeymap s bs).recorded s) =
          decide (e.id < (w.thinned s).next) := by
      rw [hset.recorded, if_pos rfl, decide_eq_decide]
      rcases hset.joins.mem_tier.mp he with he | he
      · refine iff_of_true (fun hmem => ?_) (next_thinned w s ▸ hold e he)
        obtain ⟨d, hd, hid⟩ := List.mem_map.mp hmem
        have hle := (hset.joins.next_le hd).1
        rw [next_thinned, hid] at hle
        exact Nat.not_lt.mpr hle (hold e he)
      · exact iff_of_false (not_not_intro (List.mem_map_of_mem he))
          (Nat.not_lt.mpr (hset.joins.next_le he).1)
    rw [thinned, Keymap.tier_withTier_self, List.filter_congr hsame]
    refine hset.joins.order.trans (List.filter_eq_self.mpr fun e he => ?_)
    exact decide_eq_true (next_thinned w s ▸ hold e he)
  · rw [thinned, Keymap.tier_withTier_of_ne ht]
    exact hset.joins.elsewhere t ht

theorem alike_setKeymap_setKeymap (hw : w.dispatcher.keymap.Ordered) (s : Scope)
    (bs cs : List Binding) :
    Keymap.Alike ((w.setKeymap s cs).setKeymap s bs).dispatcher.keymap
      (w.setKeymap s bs).dispatcher.keymap := by
  have hresolve : (w.setKeymap s cs).resolve? = w.resolve? := by
    obtain ⟨new, hset⟩ := setKeymap_spec w s cs
    rw [hset.rest]
    rfl
  rw [keymap_setKeymap (w.setKeymap s cs), keymap_setKeymap w s bs]
  refine alike_insertAll ?_ (fun t => ?_) s bs
  · rw [resolve?_cleared, resolve?_cleared, hresolve]
  · rw [keymap_cleared, keymap_cleared, tier_thinned_setKeymap hw]

/-- In the tier of a new keymap stand the entries from before that did not come whole, in their
order, and one for each binding that can be read, those of as many chords in their order. Nothing
else changes but for one event. -/
structure Swaps (v : Workbench) (s : Scope) (whole : Nat → Prop) (bs : List Binding)
    (kept new : List Keymap.Entry) (v' : Workbench) : Prop where
  part : kept.Sublist (v.tier s)
  old : ∀ e ∈ v.tier s, e ∈ kept ↔ ¬ whole e.id
  content : new.map (fun e => (e.binding, e.chords)) =
    (bs.filter v.reads).map fun b => (b, v.resolve? b)
  numbers : new.map Keymap.Entry.id = List.range' v.dispatcher.keymap.next new.length
  all : (v'.tier s).Perm (kept ++ new)
  order : (v'.tier s).filter (fun e => e.id < v.dispatcher.keymap.next) = kept
  alike : ∀ n, (v'.tier s).filter (fun e => e.binding.strokes = n) =
    (kept ++ new).filter fun e => e.binding.strokes = n
  elsewhere : ∀ t, t ≠ s → v'.tier t = v.tier t
  rest : v' = { v with
    dispatcher := { v.dispatcher with
      keymap := v'.dispatcher.keymap
      installed := v'.dispatcher.installed }
    log := v.log ++ [.bindingsChanged] }

theorem swaps_setKeymap (w : Workbench) (ops : List Operation) (s : Scope) (bs : List Binding) :
    ∃ kept new, (w.unbound.run ops).Swaps s (w.unbound.CameWhole ops s) bs kept new
      ((w.unbound.run ops).setKeymap s bs) := by
  have hcame := (tracks_run w ops).came s
  have hordered := ordered_run w ops
  generalize w.unbound.run ops = v at hcame hordered ⊢
  obtain ⟨new, hset⟩ := setKeymap_spec v s bs
  have hjoins := hset.joins
  have htier : (v.thinned s).tier s = (v.tier s).filter fun e => e.id ∉ v.recorded s :=
    Keymap.tier_withTier_self _ _ _
  have hold : ∀ e ∈ (v.thinned s).tier s, e.id < v.dispatcher.keymap.next := fun e he => by
    rw [htier] at he
    exact lt_next_of_mem_tier hordered (List.mem_filter.mp he).1
  refine ⟨(v.thinned s).tier s, new, ?_, fun e he => ?_, hset.content, ?_, hjoins.whole, ?_,
    hjoins.alike, fun t ht => ?_, ?_⟩
  · exact htier ▸ List.filter_sublist
  · rw [htier, List.mem_filter, decide_eq_true_iff, ← hcame e he]
    exact and_iff_right he
  · rw [hjoins.numbers, next_thinned]
  · rw [← next_thinned v s, tier, hjoins.order, next_thinned]
    exact List.filter_eq_self.mpr fun e he => decide_eq_true (hold e he)
  · exact (hjoins.elsewhere t ht).trans (Keymap.tier_withTier_of_ne ht _ _)
  · have hrest := hset.rest
    rw [hrest]

/-- Whatever was done to a workbench since nothing was bound, a new keymap takes the place of those
that were set for its tier before, and of nothing else. A second one leaves what it would have left
alone, and resetting empties the tiers above the base. -/
theorem setKeymap_exact (w : Workbench) (ops : List Operation) (s : Scope) (bs : List Binding) :
    let v := w.unbound.run ops
    (∃ kept new, v.Swaps s (w.unbound.CameWhole ops s) bs kept new (v.setKeymap s bs)) ∧
      (∀ cs t, (((v.setKeymap s cs).setKeymap s bs).tier t).map Keymap.Entry.unnumbered =
        ((v.setKeymap s bs).tier t).map Keymap.Entry.unnumbered) ∧
          ∀ t, (v.apply .resetAll).tier t = if t = .base then v.tier t else [] :=
  ⟨swaps_setKeymap w ops s bs,
    fun cs t => alike_setKeymap_setKeymap (ordered_run w ops) s bs cs t, tier_resetAll _⟩

end Workbench

end Shortcuts
