import Shortcuts.Proofs.Keymap.Order

/-!
Several entries at once: those that come into a tier one after the other, and those that are taken
out of it by their numbers. What was there before stays in its order.
-/

namespace Shortcuts.Keymap

variable {m m' : Keymap} {s : Scope}

/-! ### Coming in -/

/-- Entries with consecutive numbers came into a tier, each behind those of as many chords. -/
structure Joins (m m' : Keymap) (s : Scope) (new : List Entry) : Prop where
  next : m'.next = m.next + new.length
  numbers : new.map Entry.id = List.range' m.next new.length
  whole : (m'.tier s).Perm (m.tier s ++ new)
  order : (m'.tier s).filter (fun e => e.id < m.next) = (m.tier s).filter fun e => e.id < m.next
  alike : ∀ n, (m'.tier s).filter (fun e => e.binding.strokes = n) =
    (m.tier s ++ new).filter fun e => e.binding.strokes = n
  elsewhere : ∀ t, t ≠ s → m'.tier t = m.tier t

theorem Joins.refl (m : Keymap) (s : Scope) : Joins m m s [] where
  next := rfl
  numbers := rfl
  whole := by rw [List.append_nil]
  order := rfl
  alike n := by rw [List.append_nil]
  elsewhere _ _ := rfl

theorem Joins.insert {new : List Entry} (h : Joins m m' s new) (b : Binding)
    (chords : Option (List Chord)) :
    Joins m (m'.insert s b chords).1 s (new ++ [⟨m'.next, b, chords⟩]) := by
  obtain ⟨before, behind, hadds⟩ := adds_insert m' s b chords
  have hlate : ¬ m'.next < m.next := by
    have := h.next
    omega
  refine ⟨?_, ?_, ?_, ?_, fun n => ?_, fun t ht => ?_⟩
  · rw [hadds.next, h.next, List.length_append, List.length_singleton, Nat.add_assoc]
  · rw [List.map_append, h.numbers, List.length_append, List.length_singleton, List.range'_concat,
      Nat.one_mul, ← h.next]
    rfl
  · rw [hadds.new, ← List.append_assoc]
    refine List.perm_middle.trans ?_
    rw [← hadds.old]
    exact (h.whole.cons _).trans (List.perm_append_singleton _ _).symm
  · rw [hadds.new, List.filter_append, List.filter_cons_of_neg (by simpa using hlate),
      ← List.filter_append, ← hadds.old, h.order]
  · rw [hadds.new, ← List.append_assoc, List.filter_append (m.tier s ++ new), ← h.alike,
      hadds.old, List.filter_append, List.filter_append, List.append_assoc]
    congr 1
    by_cases hn : b.strokes = n
    · have hbehind : behind.filter (fun e => decide (e.binding.strokes = n)) = [] :=
        List.filter_eq_nil_iff.mpr fun x hx => by simpa [← hn] using hadds.unlike x hx
      rw [List.filter_cons_of_pos (by simpa using hn), hbehind,
        List.filter_cons_of_pos (by simpa using hn), List.filter_nil, List.nil_append]
    · rw [List.filter_cons_of_neg (by simpa using hn), List.filter_cons_of_neg (by simpa using hn),
        List.filter_nil, List.append_nil]
  · rw [hadds.elsewhere t ht, h.elsewhere t ht]

theorem Joins.mem_tier {new : List Entry} (h : Joins m m' s new) {e : Entry} :
    e ∈ m'.tier s ↔ e ∈ m.tier s ∨ e ∈ new := by
  rw [h.whole.mem_iff, List.mem_append]

theorem Joins.next_le {new : List Entry} (h : Joins m m' s new) {e : Entry} (he : e ∈ new) :
    m.next ≤ e.id ∧ e.id < m'.next := by
  have hid : e.id ∈ List.range' m.next new.length := h.numbers ▸ List.mem_map_of_mem he
  rw [h.next]
  exact List.mem_range'_1.mp hid

/-! ### Going out -/

theorem withTier_withTier (m : Keymap) (s : Scope) (entries entries' : List Entry) :
    (m.withTier s entries).withTier s entries' = m.withTier s entries' := by
  cases s <;> rfl

theorem foldl_remove (m : Keymap) (s : Scope) (ids : List Nat) :
    ids.foldl (fun m id => (m.remove s id).1) m =
      m.withTier s ((m.tier s).filter fun e => e.id ∉ ids) := by
  induction ids generalizing m with
  | nil =>
      have hall : (m.tier s).filter (fun e => e.id ∉ ([] : List Nat)) = m.tier s := by simp
      rw [hall, withTier_tier, List.foldl_nil]
  | cons id ids ih =>
      rw [List.foldl_cons, ih, remove, tier_withTier_self, withTier_withTier, List.filter_filter]
      congr 2
      funext e
      simp [Bool.and_comm]

/-! ### Whatever the numbers are -/

/-- An entry, whatever its number. -/
def Entry.unnumbered (e : Entry) : Entry := { e with id := 0 }

/-- The same entries stand in the same order in each tier, whatever their numbers. -/
def Alike (m m' : Keymap) : Prop :=
  ∀ s, (m.tier s).map Entry.unnumbered = (m'.tier s).map Entry.unnumbered

theorem map_place (e : Entry) (entries : List Entry) :
    (place e entries).map Entry.unnumbered =
      place e.unnumbered (entries.map Entry.unnumbered) := by
  have hstrokes (x : Entry) : x.unnumbered.binding.strokes = x.binding.strokes := rfl
  have hbehind : (entries.map Entry.unnumbered).reverse.takeWhile
      (fun x => !decide (x.binding.strokes = e.binding.strokes)) =
        (entries.reverse.takeWhile
          fun x => !decide (x.binding.strokes = e.binding.strokes)).map Entry.unnumbered := by
    rw [← List.map_reverse, List.takeWhile_map]
    rfl
  simp only [place, hstrokes, hbehind, List.any_map, Function.comp_def, List.length_reverse,
    List.length_map]
  split
  · simp
  · simp

theorem Alike.insert (h : Alike m m') (s : Scope) (b : Binding) (chords : Option (List Chord)) :
    Alike (m.insert s b chords).1 (m'.insert s b chords).1 := by
  intro t
  rw [tier_insert, tier_insert]
  by_cases ht : t = s
  · subst t
    rw [tier_withTier_self, tier_withTier_self, map_place, map_place, h s]
    rfl
  · rw [tier_withTier_of_ne ht, tier_withTier_of_ne ht]
    exact h t

end Shortcuts.Keymap
