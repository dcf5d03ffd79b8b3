import Shortcuts.Proofs.Dispatch.Selection
import Shortcuts.Proofs.Workbench.Freshness

/-!
A marker takes every binding with the signature it names away that stands behind it. It is found
by the same keys as the binding, because neither has stale chords, and it is allowed along with it.
-/

namespace Shortcuts

theorem Binding.target?_keeps {b : Binding} {signature : Signature} (h : b.target? = some signature) :
    signature.context = b.context ∧ signature.condition = b.condition ∧ signature.keys = b.keys := by
  rw [target?] at h
  split at h
  · rw [← Option.some.inj h]
    exact ⟨rfl, rfl, rfl⟩
  · cases h

namespace Keymap

/-- The bindings of all tiers in the order in which they are considered. -/
def ranked (m : Keymap) : List ScopedBinding := Scope.strongestFirst.flatMap m.inScope

theorem ranked_eq_map_scan (m : Keymap) :
    m.ranked = m.scan.map fun p => ⟨p.2.binding, p.1⟩ := by
  have htier (s : Scope) : m.inScope s =
      ((m.tier s).map fun e => (s, e)).map fun p => ⟨p.2.binding, p.1⟩ := by
    rw [List.map_map]
    rfl
  simp only [ranked, scan, Scope.strongestFirst, List.flatMap_cons, List.flatMap_nil,
    List.append_nil, List.map_append, htier]

theorem getElem?_ranked {m : Keymap} {i : Nat} {s : Scope} {e : Entry}
    (h : m.scan[i]? = some (s, e)) : m.ranked[i]? = some ⟨e.binding, s⟩ := by
  rw [ranked_eq_map_scan, List.getElem?_map, h, Option.map_some]

theorem exists_scan_of_ranked {m : Keymap} {i : Nat} {b : ScopedBinding}
    (h : m.ranked[i]? = some b) :
    ∃ e, m.scan[i]? = some (b.scope, e) ∧ e.binding = b.toBinding := by
  rw [ranked_eq_map_scan, List.getElem?_map] at h
  obtain ⟨⟨s, e⟩, he, rfl⟩ := Option.map_eq_some_iff.mp h
  exact ⟨e, he, rfl⟩

theorem mem_tier_of_scan {m : Keymap} {i : Nat} {s : Scope} {e : Entry}
    (h : m.scan[i]? = some (s, e)) : e ∈ m.tier s := by
  obtain ⟨t, _, ht⟩ := List.mem_flatMap.mp (List.mem_of_getElem? h)
  obtain ⟨d, hd, hde⟩ := List.mem_map.mp ht
  cases hde
  exact hd

theorem ranked_congr {m m' : Keymap} (h : ∀ s, (m'.tier s).map Entry.binding =
    (m.tier s).map Entry.binding) : m'.ranked = m.ranked := by
  have hscope : m'.inScope = m.inScope := by
    funext s
    have hs := congrArg (List.map fun b => ScopedBinding.mk b s) (h s)
    rwa [List.map_map, List.map_map] at hs
  rw [ranked, hscope, ranked]

theorem ranked_clearResolved (m : Keymap) : m.clearResolved.ranked = m.ranked := by
  refine ranked_congr fun s => ?_
  rw [tier_clearResolved, unresolve, List.map_map]
  rfl

theorem ranked_resolveAll (m : Keymap) (resolve : Binding → Option (List Chord)) :
    (m.resolveAll resolve).ranked = m.ranked := by
  refine ranked_congr fun s => ?_
  rw [tier_resolveAll, List.map_map]
  exact List.map_congr_left fun e _ => binding_resolved resolve e

theorem ranked_resolveTier (m : Keymap) (resolve : Binding → Option (List Chord)) (s : Scope) :
    (m.resolveTier resolve s).ranked = m.ranked := by
  refine ranked_congr fun t => ?_
  rw [resolveTier]
  by_cases h : t = s
  · subst t
    rw [tier_withTier_self, List.map_map]
    refine List.map_congr_left fun e _ => ?_
    rw [Function.comp_apply]
    split
    · rfl
    · exact binding_resolved resolve e
  · rw [tier_withTier_of_ne h]

end Keymap

namespace Workbench

theorem resolve?_eq_of_keys (w : Workbench) {a b : Binding} (h : a.keys = b.keys) :
    w.resolve? a = w.resolve? b := by
  rw [resolve?, resolve?, resolve, resolve, h]

/-- Without stale chords, the chords of an entry depend on its text alone. -/
theorem Fresh.chordsOf_eq {w : Workbench} (hf : w.Fresh) {i : Nat} {s : Scope} {e : Keymap.Entry}
    (h : w.dispatcher.keymap.scan[i]? = some (s, e)) : w.chordsOf e = w.resolve? e.binding := by
  cases hc : e.chords with
  | none => rw [chordsOf, Keymap.Entry.resolved, hc]
  | some chords =>
      rw [hf s e (Keymap.mem_tier_of_scan h) chords hc, chordsOf, Keymap.Entry.resolved, hc]
      exact hc

theorem ranked_withLayout (w : Workbench) (r : ActiveLayout × Bool) :
    (w.withLayout r).dispatcher.keymap.ranked = w.dispatcher.keymap.ranked := by
  rw [withLayout]
  split
  · exact Keymap.ranked_clearResolved _
  · rfl

/-- A marker stands before a binding that it names, and the keybinding context of both, if it is
known, enables both or none. -/
structure Unbinds (w : Workbench) (i j : Nat) (m b : ScopedBinding) : Prop where
  marker : w.dispatcher.keymap.ranked[i]? = some m
  binding : w.dispatcher.keymap.ranked[j]? = some b
  before : i < j
  names : m.target? = some b.signature
  alike : ∀ id enables, b.context = some id → w.dispatcher.contexts.lookup id = some enables →
    enables m.toBinding = enables b.toBinding

section Unbinds

variable {w : Workbench} {i j : Nat} {m b : ScopedBinding} (h : w.Unbinds i j m b)

include h

theorem Unbinds.allows {target : Option ElementId} (ha : w.Allows target b.toBinding) :
    w.Allows target m.toBinding := by
  obtain ⟨hcontext, hcondition, _⟩ := Binding.target?_keeps h.names
  refine ⟨fun id enables hid hl => ?_, fun text ht => ?_⟩
  · have hb : b.context = some id := hcontext.trans hid
    rw [h.alike id enables hb hl]
    exact ha.context id enables hb hl
  · exact ha.condition text (hcondition.trans ht)

/-- Whatever the contexts and commands are, no typed chords use what was unbound. -/
theorem Unbinds.not_usable (hf : w.Fresh) (typed : List Chord) (target : Option ElementId)
    (s : Scope) (e : Keymap.Entry) : ¬ w.Usable typed target j s e := by
  intro hu
  obtain ⟨d, hd, hdm⟩ := Keymap.exists_scan_of_ranked h.marker
  obtain rfl : ScopedBinding.mk e.binding s = b :=
    Option.some.inj ((Keymap.getElem?_ranked hu.place).symm.trans h.binding)
  obtain ⟨_, _, hkeys⟩ := Binding.target?_keeps h.names
  -- marker and binding have one text, but their chords may have been looked up at different times
  have hchords : w.chordsOf d = w.chordsOf e := by
    rw [hf.chordsOf_eq hd, hf.chordsOf_eq hu.place, hdm]
    exact (w.resolve?_eq_of_keys hkeys).symm
  have hbegins : w.Begins typed d := by
    obtain ⟨chords, hc, htyped⟩ := hu.begins
    exact ⟨chords, hchords.trans hc, htyped⟩
  have hallowed : w.Allows target d.binding := by
    rw [hdm]
    exact h.allows hu.allowed
  refine hu.not_silenced ⟨i, h.before, m.scope, d, hd, hbegins, hallowed, ?_⟩
  rw [hdm, h.names]

/-- A binding equal to the unbound one can only be usable before the marker. -/
theorem Unbinds.lt_of_usable (hf : w.Fresh) {typed : List Chord} {target : Option ElementId}
    {k : Nat} {s : Scope} {e : Keymap.Entry} (hu : w.Usable typed target k s e)
    (hb : ScopedBinding.mk e.binding s = b) : k < i := by
  subst b
  rcases Nat.lt_trichotomy k i with hlt | rfl | hgt
  · exact hlt
  · have hm : ScopedBinding.mk e.binding s = m :=
      Option.some.inj ((Keymap.getElem?_ranked hu.place).symm.trans h.marker)
    have hnot : m.isMarker = false := by
      rw [← hm]
      exact hu.not_marker
    rw [Binding.isMarker, h.names] at hnot
    cases hnot
  · have hlater : w.Unbinds i k m ⟨e.binding, s⟩ :=
      ⟨h.marker, Keymap.getElem?_ranked hu.place, hgt, h.names, h.alike⟩
    exact absurd hu (hlater.not_usable hf typed target s e)

theorem Unbinds.of_ranked {w' : Workbench}
    (hranked : w'.dispatcher.keymap.ranked = w.dispatcher.keymap.ranked)
    (hcontexts : w'.dispatcher.contexts = w.dispatcher.contexts) : w'.Unbinds i j m b := by
  refine ⟨?_, ?_, h.before, h.names, ?_⟩
  · rw [hranked, h.marker]
  · rw [hranked, h.binding]
  · rw [hcontexts]
    exact h.alike

theorem Unbinds.withLayout (r : ActiveLayout × Bool) : (w.withLayout r).Unbinds i j m b := by
  refine h.of_ranked (ranked_withLayout w r) ?_
  rw [(upkeep_withLayout w r).dispatcher]

theorem Unbinds.collisions (s : Scope) (typed : List Chord) :
    (w.collisions s typed).1.Unbinds i j m b :=
  h.of_ranked (Keymap.ranked_resolveTier _ _ s) rfl

end Unbinds

theorem lasting_unbinds (i j : Nat) (m b : ScopedBinding) :
    Lasting fun w => w.Unbinds i j m b where
  beside hbeside h := by
    refine h.of_ranked ?_ ?_
    · rw [hbeside.keymap]
    · rw [hbeside.dispatcher]
  note _ h := h.of_ranked rfl rfl
  withPending _ h := h.of_ranked rfl rfl
  resolved h := h.of_ranked (Keymap.ranked_resolveAll _ _) rfl
  heard _ h := h.withLayout _

theorem Unbinds.apply {w : Workbench} {i j : Nat} {m b : ScopedBinding} (h : w.Unbinds i j m b)
    {op : Operation} (hop : op.rebinds = false) : (w.apply op).Unbinds i j m b := by
  have hlasting := lasting_unbinds i j m b
  cases op with
  | collisions s typed => exact h.collisions s typed
  | collidesIn b s =>
      rw [Workbench.apply, collidesIn]
      split
      · exact h
      · next chords _ => exact h.collisions s chords
  | find typed => exact hlasting.resolved h
  | press e => exact hlasting.press e h
  | pressChord c target => exact hlasting.press _ h
  | typeCommand command target => exact hlasting.typeCommand command target h
  | choose | unchoose | observe | nativeChanged => exact h.withLayout _
  | addBuiltin id =>
      rw [Workbench.apply]
      split
      · exact h.of_ranked rfl rfl
      · exact h
  | addLayout | refresh | setNative | start | adopt | serve => exact h.of_ranked rfl rfl
  | _ => cases hop

theorem Unbinds.run {w : Workbench} {i j : Nat} {m b : ScopedBinding} (h : w.Unbinds i j m b)
    {ops : List Operation} (hops : ∀ op ∈ ops, op.rebinds = false) :
    (w.run ops).Unbinds i j m b := by
  induction ops generalizing w with
  | nil => exact h
  | cons op ops ih =>
      obtain ⟨hop, hlater⟩ := List.forall_mem_cons.mp hops
      exact ih (h.apply hop) hlater

theorem press_found {w : Workbench} {e : KeyEvent} {found : Match}
    (h : (w.press e).2.2 = some found) :
    ((w.heard e).findAt (w.typedWith e) e.target).2 = some found := by
  cases hi : e.isIgnored with
  | true =>
      rw [press_of_isIgnored w hi] at h
      cases h
  | false => rw [← (handles_press w hi).found, h]

/-- Unbinding is effective. When a marker stands before a binding that it names, then whatever
keys, layouts, contexts and commands follow, no key is answered with that binding. If one is
answered with an equal binding, that stands before the marker. -/
theorem press_never_unbound {p : Preferences} {env : Locale.Environment} {storage : Option Storage}
    {start : Workbench} (hstart : ofPreferences p env storage = .ok start)
    {ops later : List Operation} (hsilent : ∀ op ∈ ops ++ later, op.isSilent = false)
    {i j : Nat} {m b : ScopedBinding} (h : (start.run ops).Unbinds i j m b)
    (hlater : ∀ op ∈ later, op.rebinds = false) (e : KeyEvent) :
    let w := start.run (ops ++ later)
    (∀ s d, ¬ (w.heard e).Decides (w.typedWith e) e.target j s d) ∧
      ∀ found, (w.press e).2.2 = some found → found.binding = b →
        ∃ k < i, w.dispatcher.keymap.ranked[k]? = some b := by
  intro w
  have hfresh : (w.heard e).Fresh :=
    robust_fresh.heard e (fresh_run_of_not_silent (fresh_ofPreferences hstart) hsilent)
  have hunbinds : (w.heard e).Unbinds i j m b := by
    have hw : w.Unbinds i j m b := by
      rw [show w = (start.run ops).run later from run_append start ops later]
      exact h.run hlater
    exact hw.withLayout _
  refine ⟨fun s d hd => hunbinds.not_usable hfresh _ _ s d hd.toUsable, ?_⟩
  intro found hfound hb
  obtain ⟨k, s, d, hd, ha⟩ := (findAt_eq_some_iff _ _ _ found).mp (press_found hfound)
  have hdb : ScopedBinding.mk d.binding s = b := ha.binding_eq.symm.trans hb
  refine ⟨k, hunbinds.lt_of_usable hfresh hd.toUsable hdb, ?_⟩
  rw [← ranked_withLayout w (w.layout.observe e.chord), ← hdb]
  exact Keymap.getElem?_ranked hd.place

/-- A workbench without preferences. -/
def plain : Workbench :=
  match ofPreferences {} {} none with
  | .ok w => w
  | .error _ => default

def saveKey : Binding := { command := "save", keys := "ctrl+s" }

def noSaveKey : Binding := { saveKey with command := "-save" }

def unsaving : List Operation := [.bind saveKey, .setKeymap .user [noSaveKey]]

/-- The user takes the only key of a command away, and no key runs it any more, whatever layout is
chosen. -/
theorem press_never_unbound_save : ofPreferences {} {} none = .ok plain ∧
    (plain.run unsaving).Unbinds 0 1 ⟨noSaveKey, .user⟩ ⟨saveKey, .base⟩ ∧
      ∀ l e found, ((plain.run (unsaving ++ [.choose l])).press e).2.2 = some found →
        found.binding ≠ ⟨saveKey, .base⟩ := by
  have hstart : ofPreferences {} {} none = .ok plain := rfl
  have hranked : (plain.run unsaving).dispatcher.keymap.ranked =
      [⟨noSaveKey, .user⟩, ⟨saveKey, .base⟩] := rfl
  have hunbinds : (plain.run unsaving).Unbinds 0 1 ⟨noSaveKey, .user⟩ ⟨saveKey, .base⟩ :=
    ⟨by rw [hranked]; rfl, by rw [hranked]; rfl, by decide, by decide, fun _ _ hid => by cases hid⟩
  refine ⟨hstart, hunbinds, fun l e found hfound hb => ?_⟩
  have hsilent : ∀ op ∈ unsaving ++ [.choose l], op.isSilent = false := by
    simp [unsaving, Operation.isSilent]
  have hlater : ∀ op ∈ [Operation.choose l], op.rebinds = false := by simp [Operation.rebinds]
  obtain ⟨k, hk, _⟩ := (press_never_unbound hstart hsilent hunbinds hlater e).2 found hfound hb
  exact absurd hk (Nat.not_lt_zero k)

end Workbench

end Shortcuts
