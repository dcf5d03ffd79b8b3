import Shortcuts.Proofs.Chord.PrefixOrder
import Shortcuts.Proofs.Dispatch.Filing
import Shortcuts.Proofs.Workbench.Freshness

/-!
What a report of collisions contains. Each part of it is a part of the tier, in the order of the
tier, and a binding collides with a tier if the chords of the one begin those of another there.
Whether two bindings collide does not depend on which of them is asked for, as long as the chords
that are kept with them are those on the layout in use.
-/

namespace Shortcuts

/-- One of two sequences begins the other. -/
def Chord.AreNested (s r : List Chord) : Prop :=
  strokes s <+: strokes r ∨ strokes r <+: strokes s

theorem Chord.areNested_iff_compare (s r : List Chord) : AreNested s r ↔ compare s r ≠ .apart := by
  rw [ne_eq, compare_eq_apart_iff, AreNested]
  tauto

namespace Workbench

variable {w v : Workbench} {s t : Scope} {q : List Chord} {b : Binding} {e : Keymap.Entry}

theorem resolve?_eq_some_iff : w.resolve? b = some q ↔
    ∃ cs, Chord.sequenceOfText w.dispatcher.platform b.keys = .ok cs ∧
      cs.map w.layout.resolve = q := by
  rw [resolve?, resolve]
  cases Chord.sequenceOfText w.dispatcher.platform b.keys <;> simp [Except.map, Except.toOption]

/-- A binding gets into the way of an entry: neither has a condition, both are for one keybinding
context, and the chords of one begin those of the other. -/
structure Meets (w : Workbench) (b : Binding) (e : Keymap.Entry) : Prop where
  runs : e.binding.isMarker = false
  context : e.binding.context = b.context
  free : e.binding.condition = none ∧ b.condition = none
  nested : ∃ q chords, w.resolve? b = some q ∧ w.chordsOf e = some chords ∧
    Chord.AreNested q chords

theorem collidesIn_iff_meets (w : Workbench) (b : Binding) (s : Scope) :
    (w.collidesIn b s).2 = true ↔ ∃ e ∈ w.dispatcher.keymap.tier s, w.Meets b e := by
  rw [collidesIn]
  cases hq : w.resolve? b with
  | none =>
      refine iff_of_false Bool.false_ne_true ?_
      rintro ⟨e, -, h⟩
      obtain ⟨q, chords, hq', -⟩ := h.nested
      rw [hq] at hq'
      cases hq'
  | some q =>
      dsimp only
      rw [Bool.not_eq_true', Collisions.isEmpty_filter_iff]
      simp only [filedUnder_collisions, mem_filed, decide_eq_true_eq, Bool.and_eq_true,
        Option.isNone_iff_eq_none]
      constructor
      · rintro ⟨result, x, ⟨e, he, hruns, ⟨chords, hchords, hresult, hne⟩, rfl⟩,
          ⟨hcontext, hfree⟩, hb⟩
        refine ⟨e, he, hruns, hcontext, ⟨hfree, hb⟩, q, chords, hq, hchords, ?_⟩
        exact (Chord.areNested_iff_compare q chords).mpr (hresult ▸ hne)
      · rintro ⟨e, he, hruns, hcontext, ⟨hfree, hb⟩, _, chords, hq', hchords, hnested⟩
        rw [hq] at hq'
        cases hq'
        exact ⟨Chord.compare q chords, ⟨e.binding, s⟩, ⟨e, he, hruns, ⟨chords, hchords, rfl,
          (Chord.areNested_iff_compare q chords).mp hnested⟩, rfl⟩, ⟨hcontext, hfree⟩, hb⟩

/-! ### Two bindings -/

theorem strokes_chordsOf (h : e.isStale w.resolve? = false) :
    (w.chordsOf e).map Chord.strokes = (w.resolve? e.binding).map Chord.strokes := by
  rw [chordsOf, Keymap.Entry.resolved]
  cases hchords : e.chords with
  | none => rfl
  | some chords =>
      dsimp only
      rw [Keymap.Entry.isStale, hchords, Option.any_some, bne_eq_false_iff_eq] at h
      rw [hchords, h]
      rfl

/-- Of two bindings each gets into the way of the other, or neither does, if both are kept with the
chords that they have on the layout. -/
theorem Meets.turned {e' : Keymap.Entry} (h : w.Meets e'.binding e) (hsame : w.SameChords v)
    (hruns : e'.binding.isMarker = false) (hkept : e.isStale w.resolve? = false)
    (hkept' : e'.isStale v.resolve? = false) : v.Meets e.binding e' := by
  obtain ⟨q, chords, hq, hchords, hnested⟩ := h.nested
  have hstrokes := strokes_chordsOf hkept
  have hstrokes' := strokes_chordsOf hkept'
  rw [hchords, Option.map_some] at hstrokes
  rw [hsame.resolve?_eq, hq, Option.map_some] at hstrokes'
  obtain ⟨r, hr, hrs⟩ := Option.map_eq_some_iff.mp hstrokes.symm
  obtain ⟨r', hr', hrs'⟩ := Option.map_eq_some_iff.mp hstrokes'
  refine ⟨hruns, h.context.symm, h.free.symm, r, r', ?_, hr', ?_⟩
  · rw [hsame.resolve?_eq]
    exact hr
  · rw [Chord.AreNested, hrs, hrs']
    exact hnested.symm

theorem SameChords.symm (h : w.SameChords v) : v.SameChords w := ⟨h.platform.symm, h.resolve.symm⟩

theorem collidesIn_single (h : w.dispatcher.keymap.tier s = [e]) :
    (w.collidesIn b s).2 = true ↔ w.Meets b e := by
  rw [collidesIn_iff_meets, h]
  simp

/-- A report names every binding of a tier that runs a command and whose chords stand to the given
ones in one of three ways, once, in the order of the tier, and nothing else; a binding collides with
a tier exactly if an unconditional one for the same context there has chords that begin its own or
go on from them. Two bindings, each alone in a tier, collide both or neither, unless one of them is
kept with chords that are not those of the layout. -/
theorem collision_report_exact (w : Workbench) (s : Scope) (q : List Chord) (b : Binding) :
    ((w.collisions s q).2.full =
        w.filed s (fun chords => Chord.strokes q = Chord.strokes chords) ∧
      (w.collisions s q).2.begun = w.filed s (fun chords =>
        Chord.strokes q <+: Chord.strokes chords ∧ Chord.strokes q ≠ Chord.strokes chords) ∧
      (w.collisions s q).2.shadow = w.filed s (fun chords =>
        Chord.strokes chords <+: Chord.strokes q ∧ Chord.strokes chords ≠ Chord.strokes q)) ∧
    ((w.collidesIn b s).2 = true ↔
      ∃ cs, Chord.sequenceOfText w.dispatcher.platform b.keys = .ok cs ∧ b.condition = none ∧
        ∃ e ∈ w.dispatcher.keymap.tier s, e.binding.isMarker = false ∧
          e.binding.condition = none ∧ e.binding.context = b.context ∧
            ∃ chords, w.chordsOf e = some chords ∧
              (Chord.strokes (cs.map w.layout.resolve) <+: Chord.strokes chords ∨
                Chord.strokes chords <+: Chord.strokes (cs.map w.layout.resolve))) ∧
    ∀ v t e e', w.SameChords v → w.dispatcher.keymap.tier s = [e] →
      v.dispatcher.keymap.tier t = [e'] → e.binding.isMarker = false →
        e'.binding.isMarker = false → e.isStale w.resolve? = false →
          e'.isStale v.resolve? = false →
            (w.collidesIn e'.binding s).2 = (v.collidesIn e.binding t).2 := by
  refine ⟨⟨?_, ?_, ?_⟩, ?_, ?_⟩
  · refine (filedUnder_collisions w s q .full).trans (filed_congr fun chords => ?_)
    simp [Chord.compare_eq_full_iff]
  · refine (filedUnder_collisions w s q .begun).trans (filed_congr fun chords => ?_)
    simp [Chord.compare_eq_begun_iff]
  · refine (filedUnder_collisions w s q .shadow).trans (filed_congr fun chords => ?_)
    simp [Chord.compare_eq_shadow_iff]
  · rw [collidesIn_iff_meets]
    constructor
    · rintro ⟨e, he, h⟩
      obtain ⟨_, chords, hq, hchords, hnested⟩ := h.nested
      obtain ⟨cs, hcs, rfl⟩ := resolve?_eq_some_iff.mp hq
      exact ⟨cs, hcs, h.free.2, e, he, h.runs, h.free.1, h.context, chords, hchords, hnested⟩
    · rintro ⟨cs, hcs, hb, e, he, hruns, hfree, hcontext, chords, hchords, hnested⟩
      exact ⟨e, he, hruns, hcontext, ⟨hfree, hb⟩, _, chords,
        resolve?_eq_some_iff.mpr ⟨cs, hcs, rfl⟩, hchords, hnested⟩
  · intro v t e e' hsame hs ht hruns hruns' hkept hkept'
    rw [Bool.eq_iff_iff, collidesIn_single hs, collidesIn_single ht]
    exact ⟨fun h => h.turned hsame hruns' hkept hkept',
      fun h => h.turned hsame.symm hruns hkept' hkept⟩

def redoKey : Binding := { command := "redo", keys := "ctrl+z ctrl+y" }

/-- Two bindings for the layout in use. -/
def editing : Workbench :=
  unstarted.run [.choose qwertz, .start, .bind undoKey, .setKeymap .user [redoKey]]

/-- One chord and two that begin with it collide whichever is asked for. -/
theorem collision_report_exact_editing :
    ∃ e e', editing.dispatcher.keymap.tier .base = [e] ∧
      editing.dispatcher.keymap.tier .user = [e'] ∧ e.binding = undoKey ∧ e'.binding = redoKey ∧
      e.isStale editing.resolve? = false ∧ e'.isStale editing.resolve? = false ∧
      (editing.collidesIn redoKey .base).2 = true ∧ (editing.collidesIn undoKey .user).2 = true := by
  obtain ⟨e, hbase, hundo, hkept⟩ : ∃ e, editing.dispatcher.keymap.tier .base = [e] ∧
      e.binding = undoKey ∧ e.isStale editing.resolve? = false :=
    ⟨_, rfl, rfl, by decide +kernel⟩
  obtain ⟨e', huser, hredo, hkept'⟩ : ∃ e, editing.dispatcher.keymap.tier .user = [e] ∧
      e.binding = redoKey ∧ e.isStale editing.resolve? = false :=
    ⟨_, rfl, rfl, by decide +kernel⟩
  have hruns : e.binding.isMarker = false := hundo ▸ (by decide)
  have hruns' : e'.binding.isMarker = false := hredo ▸ (by decide)
  have hfirst : (editing.collidesIn redoKey .base).2 = true := by decide +kernel
  have hsame := (collision_report_exact editing .base [] redoKey).2.2 editing .user e e'
    ⟨rfl, rfl⟩ hbase huser hruns hruns' hkept hkept'
  rw [hundo, hredo] at hsame
  exact ⟨e, e', hbase, huser, hundo, hredo, hkept, hkept', hfirst, hsame.symm.trans hfirst⟩

/-- A binding that was registered before the layout was taken collides with one registered after it,
but not the other way round. -/
theorem collision_one_way :
    let w := unstarted.run [.bind undoKey, .choose qwertz, .start,
      .setKeymap .user [{ command := "redo", keys := "ctrl+y" }]]
    ∃ e e', w.dispatcher.keymap.tier .base = [e] ∧ w.dispatcher.keymap.tier .user = [e'] ∧
      e.binding = undoKey ∧ e'.binding = { command := "redo", keys := "ctrl+y" } ∧
      (w.collidesIn e'.binding .base).2 = false ∧ (w.collidesIn e.binding .user).2 = true := by
  refine ⟨_, _, rfl, rfl, rfl, rfl, ?_, ?_⟩
  · decide +kernel
  · decide +kernel

end Workbench

end Shortcuts
