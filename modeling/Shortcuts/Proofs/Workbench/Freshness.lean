import Shortcuts.Proofs.Chord.Prefix
import Shortcuts.Proofs.Workbench.Edits

/-!
Whether the chords that are kept with the bindings are those on the layout in use. Every operation
keeps them so, except two that take over a layout without announcing it.
-/

namespace Shortcuts

namespace Keymap

/-- All known chords are those that `resolve` gives. -/
def Fresh (resolve : Binding → Option (List Chord)) (m : Keymap) : Prop :=
  ∀ s, ∀ e ∈ m.tier s, ∀ chords, e.chords = some chords → resolve e.binding = some chords

variable {resolve : Binding → Option (List Chord)}

theorem fresh_empty : ({} : Keymap).Fresh resolve := by
  intro s e he
  rw [tier_empty] at he
  cases he

/-- Whether known chords are other strokes than those that `resolve` gives. -/
def Entry.isStale (resolve : Binding → Option (List Chord)) (e : Entry) : Bool :=
  e.chords.any fun chords => (resolve e.binding).map Chord.strokes != some (Chord.strokes chords)

theorem Fresh.isStale_eq_false {m : Keymap} (hf : m.Fresh resolve) (s : Scope) {e : Entry}
    (he : e ∈ m.tier s) : e.isStale resolve = false := by
  cases hc : e.chords with
  | none => rw [Entry.isStale, hc, Option.any_none]
  | some chords =>
      rw [Entry.isStale, hc, Option.any_some, hf s e he chords hc, Option.map_some, bne_self_eq_false]

theorem Within.fresh {m m' : Keymap} (h : m.Within m') (hf : m'.Fresh resolve) :
    m.Fresh resolve := fun s e he => hf s e (h s e he)

theorem fresh_insert {m : Keymap} (hf : m.Fresh resolve) (s : Scope) (b : Binding) :
    (m.insert s b (resolve b)).1.Fresh resolve := by
  intro t e he found hfound
  rcases mem_tier_insert.mp he with ⟨_, rfl⟩ | he
  · exact hfound
  · exact hf t e he found hfound

theorem fresh_clearResolved (m : Keymap) : m.clearResolved.Fresh resolve := by
  intro s e he chords hchords
  rw [tier_clearResolved, unresolve] at he
  obtain ⟨d, _, rfl⟩ := List.mem_map.mp he
  cases hchords

theorem resolved_fresh {e : Entry} (hf : ∀ chords, e.chords = some chords →
    resolve e.binding = some chords) {chords : List Chord}
    (h : (e.resolved resolve).chords = some chords) : resolve e.binding = some chords := by
  cases hc : e.chords with
  | none => simpa [Entry.resolved, hc] using h
  | some known =>
      rw [Entry.resolved, hc] at h
      exact hf chords h

theorem fresh_resolveAll {m : Keymap} (hf : m.Fresh resolve) :
    (m.resolveAll resolve).Fresh resolve := by
  intro s e he chords hchords
  rw [tier_resolveAll] at he
  obtain ⟨d, hd, rfl⟩ := List.mem_map.mp he
  rw [binding_resolved]
  exact resolved_fresh (hf s d hd) hchords

theorem fresh_resolveTier {m : Keymap} (hf : m.Fresh resolve) (s : Scope) :
    (m.resolveTier resolve s).Fresh resolve := by
  intro t e he chords hchords
  rw [resolveTier] at he
  by_cases ht : t = s
  · subst t
    rw [tier_withTier_self] at he
    obtain ⟨d, hd, rfl⟩ := List.mem_map.mp he
    split at hchords
    · next hm => rw [if_pos hm]; exact hf s d hd chords hchords
    · next hm =>
        rw [if_neg hm, binding_resolved]
        exact resolved_fresh (hf s d hd) hchords
  · rw [tier_withTier_of_ne ht] at he
    exact hf t e he chords hchords

theorem fresh_apply {m : Keymap} (hf : m.Fresh resolve) {op : Operation} (h : op.LooksUp resolve) :
    (m.apply op).Fresh resolve := by
  cases op with
  | insert s b chords =>
      cases h
      exact fresh_insert hf s b
  | remove s id => exact (within_remove m s id).fresh hf
  | removeWhere s test => exact (within_removeWhere m s test).fresh hf
  | clear s => exact (within_clear m s).fresh hf
  | clearResolved => exact fresh_clearResolved m
  | resolveAll look =>
      cases h
      exact fresh_resolveAll hf
  | resolveTier look s =>
      cases h
      exact fresh_resolveTier hf s

end Keymap

namespace Workbench

/-- No known chords of a binding are stale. -/
def Fresh (w : Workbench) : Prop := w.dispatcher.keymap.Fresh w.resolve?

structure SameChords (w w' : Workbench) : Prop where
  platform : w'.dispatcher.platform = w.dispatcher.platform
  resolve : w'.layout.resolve = w.layout.resolve

theorem SameChords.resolve?_eq {w w' : Workbench} (h : w.SameChords w') :
    w'.resolve? = w.resolve? := by
  funext b
  simp only [resolve?, Workbench.resolve, h.platform, h.resolve]

theorem SameChords.fresh {w w' : Workbench} (h : w.SameChords w')
    (hk : w'.dispatcher.keymap.Fresh w.resolve?) : w'.Fresh := by
  rw [Fresh, h.resolve?_eq]
  exact hk

theorem fresh_withKeymap {w : Workbench} {keymap : Keymap} (h : keymap.Fresh w.resolve?) :
    (w.withKeymap keymap).Fresh := SameChords.fresh ⟨rfl, rfl⟩ h

theorem resolve_eq_of_quiet {s : ActiveLayout} {d : Detection} (h : d.platform = s.detection.platform) :
    ({ s with detection := d } : ActiveLayout).resolve = s.resolve := by
  funext c
  simp only [ActiveLayout.resolve, h]

theorem fresh_withQuietDetection {w : Workbench} {d : Detection}
    (h : d.platform = w.layout.detection.platform) (hf : w.Fresh) :
    (w.withQuietDetection d).Fresh := by
  have hsame : w.SameChords (w.withQuietDetection d) := ⟨rfl, resolve_eq_of_quiet h⟩
  exact hsame.fresh hf

theorem follow_cases (s : ActiveLayout) (d : Detection) (announced : Option NativeLayout) :
    (s.follow d announced).2 = true ∨ s.follow d announced = ({ s with detection := d }, false) := by
  cases announced with
  | none => exact .inr rfl
  | some n =>
      cases hs : s.following with
      | false => exact .inr (by simp [ActiveLayout.follow, hs])
      | true => exact .inl (by simp [ActiveLayout.follow, hs])

theorem fresh_withDetection {w : Workbench} {r : Detection × Option NativeLayout}
    (h : r.1.platform = w.layout.detection.platform) (hf : w.Fresh) :
    (w.withDetection r).Fresh := by
  rw [withDetection]
  rcases follow_cases w.layout r.1 r.2 with htaken | hquiet
  · -- the announcement forgets all chords, so it does not matter which layout was taken
    rw [withLayout, if_pos htaken]
    exact Keymap.fresh_clearResolved _
  · rw [hquiet]
    exact fresh_withQuietDetection h hf

theorem robust_fresh : Robust Fresh where
  edit _ h hf := fresh_withKeymap (Keymap.fresh_apply hf h)
  other {w w'} hf hsame := by
    refine SameChords.fresh ⟨hsame.platform, ?_⟩ ?_
    · rw [hsame.layout]
    · rwa [hsame.keymap]
  detection := fresh_withDetection
  quiet := fresh_withQuietDetection

/-- An operation keeps the chords of all bindings whose chords are known. -/
def KeepsKnown (w : Workbench) (op : Operation) : Prop :=
  ∀ s, ∀ e ∈ w.dispatcher.keymap.tier s, e.chords.isSome = true →
    (w.apply op).resolve? e.binding = w.resolve? e.binding

/-- What a silent operation leaves stale are the bindings whose chords it changes. -/
theorem fresh_apply_iff {w : Workbench} (hf : w.Fresh) (op : Operation) :
    (w.apply op).Fresh ↔ (op.isSilent = true → w.KeepsKnown op) := by
  constructor
  · intro hf' hs s e he hknown
    obtain ⟨chords, hchords⟩ := Option.isSome_iff_exists.mp hknown
    rw [Fresh, dispatcher_apply_of_isSilent hs] at hf'
    rw [hf' s e he chords hchords, hf s e he chords hchords]
  · intro hkeeps
    cases hs : op.isSilent with
    | false => exact robust_fresh.apply hs hf
    | true =>
        rw [Fresh, dispatcher_apply_of_isSilent hs]
        intro s e he chords hchords
        rw [hkeeps hs s e he (by rw [hchords]; rfl)]
        exact hf s e he chords hchords

theorem fresh_run {w : Workbench} (hf : w.Fresh) {ops : List Operation}
    (h : ∀ before op, before ++ [op] <+: ops → op.isSilent = true → (w.run before).KeepsKnown op) :
    (w.run ops).Fresh := by
  induction ops generalizing w with
  | nil => exact hf
  | cons op ops ih =>
      have hstep : (w.apply op).Fresh :=
        (fresh_apply_iff hf op).mpr (h [] op (List.prefix_append [op] ops))
      refine ih hstep fun before op' hpart => ?_
      exact h (op :: before) op' ((List.prefix_cons_inj op).mpr hpart)

theorem fresh_run_of_not_silent {w : Workbench} (hf : w.Fresh) {ops : List Operation}
    (hops : ∀ op ∈ ops, op.isSilent = false) : (w.run ops).Fresh := by
  refine fresh_run hf fun before op hpart hs => ?_
  have hop : op ∈ ops := hpart.subset (List.mem_append_right before (List.mem_singleton_self op))
  rw [hops op hop] at hs
  cases hs

theorem fresh_of_empty {w : Workbench} (h : w.dispatcher.keymap = {}) : w.Fresh := by
  rw [Fresh, h]
  exact Keymap.fresh_empty

theorem keymap_ofPreferences {p : Preferences} {env : Locale.Environment} {storage : Option Storage}
    {w : Workbench} (h : ofPreferences p env storage = .ok w) : w.dispatcher.keymap = {} := by
  obtain ⟨d, d', -, -, hw⟩ := ofPreferences_eq h
  rw [hw]
  rfl

theorem fresh_ofPreferences {p : Preferences} {env : Locale.Environment} {storage : Option Storage}
    {w : Workbench} (h : ofPreferences p env storage = .ok w) : w.Fresh :=
  fresh_of_empty (keymap_ofPreferences h)

/-- While operations are done to a workbench that had no bindings, known chords are those on the
layout in use all the time, exactly if no operation that replaces the layout silently changes the
chords of a binding whose chords are known by then. -/
theorem fresh_throughout_iff (w : Workbench) (h : w.dispatcher.keymap = {}) (ops : List Operation) :
    (∀ before, before <+: ops → (w.run before).Fresh) ↔
      ∀ before op, before ++ [op] <+: ops → op.isSilent = true → (w.run before).KeepsKnown op := by
  constructor
  · intro hfresh before op hpart
    have hbefore := hfresh before ((List.prefix_append before [op]).trans hpart)
    have hafter := hfresh (before ++ [op]) hpart
    rw [run_append] at hafter
    exact (fresh_apply_iff hbefore op).mp hafter
  · intro hkeeps before hbefore
    refine fresh_run (fresh_of_empty h) fun before' op hpart => ?_
    exact hkeeps before' op (hpart.trans hbefore)

/-- A workbench on a keyboard that is not known yet. -/
def unstarted : Workbench :=
  assemble false (.start .pc none none none) false { platform := .pc, labels := default }

def undoKey : Binding := { command := "undo", keys := "ctrl+z" }

/-- If the layout is taken before anything is bound, nothing is stale. -/
theorem fresh_throughout_start_bind : unstarted.dispatcher.keymap = {} ∧
    ∀ before, before <+: [.start, .bind undoKey] → (unstarted.run before).Fresh := by
  refine ⟨rfl, (fresh_throughout_iff unstarted rfl [.start, .bind undoKey]).mpr ?_⟩
  rintro (_ | ⟨first, _ | ⟨second, rest⟩⟩) op hpart hs
  · intro s e he
    rw [show (unstarted.run []).dispatcher.keymap = {} from rfl, Keymap.tier_empty] at he
    cases he
  · have hop : op = .bind undoKey := by simpa using (List.cons_prefix_cons.mp hpart).2
    rw [hop] at hs
    cases hs
  · exact absurd hpart.length_le (by simp)

/-- A layout on which the key of `y` types `z`. -/
def qwertz : Layout :=
  { name := "Swapped", hardware := .pc, language := "de"
    native := { keys := [("KeyY", { plain := "z" })] } }

/-- What was bound before a layout is taken keeps the chords that it had without a layout. -/
theorem stale_bind_start : unstarted.dispatcher.keymap = {} ∧
    ¬ (unstarted.run [.bind undoKey, .choose qwertz, .start]).Fresh := by
  refine ⟨rfl, fun hf => ?_⟩
  generalize hw : unstarted.run [.bind undoKey, .choose qwertz, .start] = w at hf
  have hstale : (w.dispatcher.keymap.base.any (Keymap.Entry.isStale w.resolve?)) = true := by
    rw [← hw]
    decide +kernel
  obtain ⟨e, he, hes⟩ := List.any_eq_true.mp hstale
  rw [hf.isStale_eq_false .base he] at hes
  cases hes

end Workbench

end Shortcuts
