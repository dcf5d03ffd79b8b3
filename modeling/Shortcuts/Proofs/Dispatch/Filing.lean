import Shortcuts.Proofs.Dispatch.Selection
import Shortcuts.Workbench.Basic

/-!
How colliding bindings are filed. Under each result of comparing stands a part of the tier, in the
order of the tier.
-/

namespace Shortcuts

namespace Collisions

/-- What is filed under a result; nothing is filed where sequences part. -/
def filedUnder (c : Collisions) : Chord.Comparison → List ScopedBinding
  | .full => c.full
  | .begun => c.begun
  | .shadow => c.shadow
  | .apart => []

theorem filedUnder_add (c : Collisions) (given result : Chord.Comparison) (b : ScopedBinding) :
    (c.add given b).filedUnder result =
      c.filedUnder result ++ if given = result ∧ result ≠ .apart then [b] else [] := by
  cases given <;> cases result <;> simp [add, filedUnder]

theorem isEmpty_iff (c : Collisions) :
    c.isEmpty = true ↔ ∀ result, c.filedUnder result = [] := by
  rw [isEmpty, Bool.and_eq_true, Bool.and_eq_true, List.isEmpty_iff, List.isEmpty_iff,
    List.isEmpty_iff]
  constructor
  · rintro ⟨⟨hfull, hbegun⟩, hshadow⟩ result
    cases result with
    | full => exact hfull
    | begun => exact hbegun
    | shadow => exact hshadow
    | apart => rfl
  · exact fun h => ⟨⟨h .full, h .begun⟩, h .shadow⟩

theorem filedUnder_filter (c : Collisions) (keep : Binding → Bool) (result : Chord.Comparison) :
    (c.filter keep).filedUnder result = (c.filedUnder result).filter fun b => keep b.toBinding := by
  cases result <;> rfl

theorem isEmpty_filter_iff (c : Collisions) (keep : Binding → Bool) :
    (c.filter keep).isEmpty = false ↔
      ∃ result, ∃ b ∈ c.filedUnder result, keep b.toBinding = true := by
  rw [← Bool.not_eq_true, isEmpty_iff]
  simp [filedUnder_filter, List.filter_eq_nil_iff]

end Collisions

namespace Workbench

variable {w : Workbench} {s : Scope}

/-- The bindings of a tier that run a command and whose chords satisfy a test, in their order. -/
def filed (w : Workbench) (s : Scope) (test : List Chord → Bool) : List ScopedBinding :=
  ((w.dispatcher.keymap.tier s).filter fun e =>
    !e.binding.isMarker && (w.chordsOf e).any test).map fun e => ⟨e.binding, s⟩

theorem mem_filed {test : List Chord → Bool} {x : ScopedBinding} : x ∈ w.filed s test ↔
    ∃ e ∈ w.dispatcher.keymap.tier s, e.binding.isMarker = false ∧
      (∃ chords, w.chordsOf e = some chords ∧ test chords = true) ∧ x = ⟨e.binding, s⟩ := by
  simp only [filed, List.mem_map, List.mem_filter, Bool.and_eq_true, Bool.not_eq_true',
    Option.any_eq_true_iff_get]
  constructor
  · rintro ⟨e, ⟨he, hmarker, hsome, htest⟩, rfl⟩
    exact ⟨e, he, hmarker, ⟨_, (Option.some_get hsome).symm, htest⟩, rfl⟩
  · rintro ⟨e, he, hmarker, ⟨chords, hchords, htest⟩, rfl⟩
    refine ⟨e, ⟨he, hmarker, ?_, ?_⟩, rfl⟩
    · rw [hchords]
      rfl
    · simpa [hchords] using htest

/-- Files an entry under what comparing a sequence with it gives, unless it is a marker. -/
def fileEntry (s : Scope) (q : List Chord) (c : Collisions) (e : Keymap.Entry) : Collisions :=
  match e.binding.isMarker, e.chords with
  | false, some chords => c.add (Chord.compare q chords) ⟨e.binding, s⟩
  | _, _ => c

theorem filedUnder_foldl (s : Scope) (q : List Chord) (result : Chord.Comparison)
    (c : Collisions) (entries : List Keymap.Entry) :
    (entries.foldl (fileEntry s q) c).filedUnder result = c.filedUnder result ++
      ((entries.filter fun e => !e.binding.isMarker && e.chords.any fun chords =>
        Chord.compare q chords = result ∧ result ≠ .apart).map fun e => ⟨e.binding, s⟩) := by
  induction entries generalizing c with
  | nil => simp
  | cons e entries ih =>
      rw [List.foldl_cons, ih, fileEntry, List.filter_cons]
      cases hmarker : e.binding.isMarker with
      | true => simp
      | false =>
          cases hchords : e.chords with
          | none => simp
          | some chords =>
              dsimp only
              rw [Collisions.filedUnder_add]
              by_cases hresult : Chord.compare q chords = result ∧ result ≠ .apart <;>
                simp [hresult]

/-- Under each result stand the bindings that comparing gave it for, each once and in order. -/
theorem filedUnder_collisions (w : Workbench) (s : Scope) (q : List Chord)
    (result : Chord.Comparison) : (w.collisions s q).2.filedUnder result =
      w.filed s fun chords => Chord.compare q chords = result ∧ result ≠ .apart := by
  have hfold : (w.collisions s q).2 =
      ((w.dispatcher.keymap.resolveTier w.resolve? s).tier s).foldl (fileEntry s q) {} := rfl
  rw [hfold, filedUnder_foldl, Keymap.resolveTier, Keymap.tier_withTier_self, List.filter_map,
    List.map_map, filed]
  have hstart : ({} : Collisions).filedUnder result = [] := by cases result <;> rfl
  rw [hstart, List.nil_append]
  -- an entry whose chords were looked up is still that of the same binding
  have hbinding (e : Keymap.Entry) :
      (if e.binding.isMarker then e else e.resolved w.resolve?).binding = e.binding := by
    split
    · rfl
    · exact Keymap.binding_resolved w.resolve? e
  simp only [Function.comp_def, hbinding]
  congr 1
  refine List.filter_congr fun e _ => ?_
  cases hmarker : e.binding.isMarker with
  | true => rfl
  | false => simp [chordsOf]

theorem filed_congr {test test' : List Chord → Bool} (h : ∀ chords, test chords = test' chords) :
    w.filed s test = w.filed s test' := congrArg (w.filed s) (funext h)

/-- Chords of a tier collide with none of its bindings exactly if they part from those of every one
that runs a command. -/
theorem collisions_isEmpty_iff (w : Workbench) (s : Scope) (q : List Chord) :
    (w.collisions s q).2.isEmpty = true ↔
      ∀ e ∈ w.dispatcher.keymap.tier s, e.binding.isMarker = false →
        ∀ chords, w.chordsOf e = some chords → Chord.compare q chords = .apart := by
  simp only [Collisions.isEmpty_iff, filedUnder_collisions, List.eq_nil_iff_forall_not_mem,
    mem_filed, decide_eq_true_eq]
  constructor
  · intro h e he hruns chords hchords
    refine Decidable.byContradiction fun hne => ?_
    exact h (Chord.compare q chords) ⟨e.binding, s⟩ ⟨e, he, hruns, ⟨chords, hchords, rfl, hne⟩, rfl⟩
  · rintro h result _ ⟨e, he, hruns, ⟨chords, hchords, hresult, hne⟩, -⟩
    exact hne (hresult ▸ h e he hruns chords hchords)

end Workbench

end Shortcuts
