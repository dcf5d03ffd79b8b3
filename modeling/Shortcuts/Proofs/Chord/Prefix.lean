import Shortcuts.Chord.Basic

/-! Comparing sequences of chords is comparing their strokes as prefixes of each other. -/

namespace Shortcuts.Chord

/-- What counts of a sequence when it is compared: the characters that were seen do not. -/
def strokes (cs : List Chord) : List Stroke := cs.map Chord.toStroke

@[simp] theorem strokes_nil : strokes [] = [] := rfl

@[simp] theorem strokes_cons (c : Chord) (cs : List Chord) :
    strokes (c :: cs) = c.toStroke :: strokes cs := rfl

theorem beq_iff_toStroke_eq (a b : Chord) : (a == b) = true ↔ a.toStroke = b.toStroke := by
  change (a.toStroke == b.toStroke) = true ↔ _
  exact beq_iff_eq

theorem compare_cons_cons (a b : Chord) (s r : List Chord) :
    compare (a :: s) (b :: r) = if a.toStroke = b.toStroke then compare s r else .apart := by
  simp only [compare, beq_iff_toStroke_eq]

theorem compare_eq_full_iff (s r : List Chord) :
    compare s r = .full ↔ strokes s = strokes r := by
  induction s generalizing r with
  | nil => cases r <;> simp [compare]
  | cons a s ih =>
      cases r with
      | nil => simp [compare]
      | cons b r =>
          rw [compare_cons_cons]
          by_cases h : a.toStroke = b.toStroke
          · rw [if_pos h, ih]
            simp [h]
          · rw [if_neg h]
            simp [h]

theorem compare_eq_begun_iff (s r : List Chord) :
    compare s r = .begun ↔ strokes s <+: strokes r ∧ strokes s ≠ strokes r := by
  induction s generalizing r with
  | nil => cases r <;> simp [compare]
  | cons a s ih =>
      cases r with
      | nil => simp [compare]
      | cons b r =>
          rw [compare_cons_cons]
          by_cases h : a.toStroke = b.toStroke
          · rw [if_pos h, ih]
            simp [h, List.cons_prefix_cons]
          · rw [if_neg h]
            simp [h, List.cons_prefix_cons]

/-- The two results that make a registered sequence a match: the typed one begins it. -/
theorem prefix_iff_compare (s r : List Chord) :
    strokes s <+: strokes r ↔ compare s r = .full ∨ compare s r = .begun := by
  rw [compare_eq_full_iff, compare_eq_begun_iff]
  constructor
  · intro h
    by_cases he : strokes s = strokes r
    · exact .inl he
    · exact .inr ⟨h, he⟩
  · rintro (he | ⟨h, _⟩)
    · exact he ▸ List.prefix_refl (strokes s)
    · exact h

theorem compare_eq_apart_iff (s r : List Chord) :
    compare s r = .apart ↔ ¬ strokes s <+: strokes r ∧ ¬ strokes r <+: strokes s := by
  induction s generalizing r with
  | nil => cases r <;> simp [compare]
  | cons a s ih =>
      cases r with
      | nil => simp [compare]
      | cons b r =>
          rw [compare_cons_cons]
          by_cases h : a.toStroke = b.toStroke
          · rw [if_pos h, ih]
            simp [h, List.cons_prefix_cons]
          · rw [if_neg h]
            simp [h, Ne.symm h, List.cons_prefix_cons]

end Shortcuts.Chord
