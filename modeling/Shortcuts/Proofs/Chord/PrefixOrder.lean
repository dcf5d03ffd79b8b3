import Mathlib.Data.List.Infix
import Shortcuts.Proofs.Chord.Prefix

/-!
The order that comparing sequences of chords amounts to. The four results are those of the prefix
order on strokes, and whether one sequence begins another is read off them; so they turn with the
two sequences, do not count what stands in front of both, and go on from one sequence to the next.
-/

namespace Shortcuts.Chord

variable {a b c : List Chord}

/-- The result for the same sequences with their parts exchanged. -/
def Comparison.turned : Comparison → Comparison
  | full => full
  | begun => shadow
  | shadow => begun
  | apart => apart

/-- What the lengths of two sequences say when neither parts from the other. -/
def Comparison.ofLengths (m n : Nat) : Comparison :=
  match Ord.compare m n with
  | .eq => .full
  | .lt => .begun
  | .gt => .shadow

theorem Comparison.ofLengths_succ (m n : Nat) : ofLengths (m + 1) (n + 1) = ofLengths m n := by
  have hcompare : Ord.compare (m + 1) (n + 1) = Ord.compare m n := by
    simp only [Nat.compare_eq_ite_lt, Nat.add_lt_add_iff_right]
  rw [ofLengths, ofLengths, hcompare]

/-- Sequences are compared as far as the shorter one goes, and then by their lengths. -/
theorem compare_eq_ofLengths (a b : List Chord) :
    compare a b =
      let common := min a.length b.length
      if strokes (a.take common) = strokes (b.take common) then
        Comparison.ofLengths a.length b.length
      else .apart := by
  induction a generalizing b with
  | nil => cases b <;> simp [compare, Comparison.ofLengths, Nat.compare_eq_ite_lt]
  | cons x a ih =>
      cases b with
      | nil => simp [compare, Comparison.ofLengths, Nat.compare_eq_ite_lt]
      | cons y b =>
          rw [compare_cons_cons, ih]
          by_cases h : x.toStroke = y.toStroke
          · simp [h, Nat.succ_min_succ, Comparison.ofLengths_succ]
          · simp [h, Nat.succ_min_succ]

theorem compare_comm (a b : List Chord) : compare b a = (compare a b).turned := by
  induction a generalizing b with
  | nil => cases b <;> rfl
  | cons x a ih =>
      cases b with
      | nil => rfl
      | cons y b =>
          rw [compare_cons_cons, compare_cons_cons, ih]
          by_cases h : x.toStroke = y.toStroke
          · simp [h]
          · simp [h, Ne.symm h, Comparison.turned]

theorem compare_eq_shadow_iff (a b : List Chord) :
    compare a b = .shadow ↔ strokes b <+: strokes a ∧ strokes b ≠ strokes a := by
  rw [← compare_eq_begun_iff, compare_comm a b]
  cases compare a b <;> simp [Comparison.turned]

theorem compare_append (front a b : List Chord) :
    compare (front ++ a) (front ++ b) = compare a b := by
  induction front with
  | nil => rfl
  | cons x front ih => simpa [compare_cons_cons] using ih

theorem compare_begun_trans (hab : compare a b = .begun) (hbc : compare b c = .begun) :
    compare a c = .begun := by
  rw [compare_eq_begun_iff] at hab hbc ⊢
  refine ⟨hab.1.trans hbc.1, fun heq => hbc.2 ?_⟩
  exact hbc.1.eq_of_length_le (heq ▸ hab.1.length_le)

theorem startsWith_iff_strokes (a b : List Chord) :
    startsWith a b = true ↔ strokes b <+: strokes a := by
  induction b generalizing a with
  | nil => simp [startsWith]
  | cons y b ih =>
      cases a with
      | nil => simp [startsWith]
      | cons x a =>
          have htail := ih a
          simp only [startsWith, Bool.and_eq_true, decide_eq_true_eq] at htail ⊢
          simp only [List.length_cons, Nat.add_le_add_iff_right, List.zip_cons_cons, List.all_cons,
            Bool.and_eq_true, beq_iff_toStroke_eq, strokes_cons, List.cons_prefix_cons, ← htail]
          tauto

/-- The second sequence begins the first exactly if they are the same or the first goes on. -/
theorem startsWith_iff_compare (a b : List Chord) :
    startsWith a b = true ↔ compare a b = .full ∨ compare a b = .shadow := by
  rw [startsWith_iff_strokes, prefix_iff_compare, compare_comm a b]
  cases compare a b <;> simp [Comparison.turned]

/-- Comparing two sequences tells how their strokes stand in the prefix order, whatever characters
were seen, and all that holds of this order holds of it. -/
theorem compare_prefix_order (a b : List Chord) :
    ((compare a b = .full ↔ strokes a = strokes b) ∧
      (compare a b = .begun ↔ strokes a <+: strokes b ∧ strokes a ≠ strokes b) ∧
      (compare a b = .shadow ↔ strokes b <+: strokes a ∧ strokes b ≠ strokes a) ∧
      (compare a b = .apart ↔ ¬ strokes a <+: strokes b ∧ ¬ strokes b <+: strokes a)) ∧
    compare b a = (compare a b).turned ∧
    (startsWith a b = true ↔ compare a b = .full ∨ compare a b = .shadow) ∧
    (isPrefixOf a b = true ↔ compare a b = .full ∨ compare a b = .begun) ∧
    (∀ front, compare (front ++ a) (front ++ b) = compare a b) ∧
    ∀ c, compare a b = .begun → compare b c = .begun → compare a c = .begun := by
  refine ⟨⟨compare_eq_full_iff a b, compare_eq_begun_iff a b, compare_eq_shadow_iff a b,
    compare_eq_apart_iff a b⟩, compare_comm a b, startsWith_iff_compare a b, ?_,
    fun front => compare_append front a b, fun c => compare_begun_trans⟩
  rw [isPrefixOf, startsWith_iff_strokes, prefix_iff_compare]

def withCtrl (code : String) (character : Option String) : Chord :=
  { ctrl := true, key := Key.ofCode? code, character }

/-- The second sequence goes on from the first and the third from the second, whatever the first
key was seen to produce. -/
theorem compare_prefix_order_three :
    compare [withCtrl "KeyK" none] [withCtrl "KeyK" (some "k"), withCtrl "KeyP" none] = .begun ∧
      compare [withCtrl "KeyK" (some "k"), withCtrl "KeyP" none]
        [withCtrl "KeyK" none, withCtrl "KeyP" none, withCtrl "KeyS" none] = .begun ∧
      compare [withCtrl "KeyK" none]
        [withCtrl "KeyK" none, withCtrl "KeyP" none, withCtrl "KeyS" none] = .begun := by
  have hone : compare [withCtrl "KeyK" none]
      [withCtrl "KeyK" (some "k"), withCtrl "KeyP" none] = .begun := by decide
  have htwo : compare [withCtrl "KeyK" (some "k"), withCtrl "KeyP" none]
      [withCtrl "KeyK" none, withCtrl "KeyP" none, withCtrl "KeyS" none] = .begun := by decide
  exact ⟨hone, htwo, (compare_prefix_order _ _).2.2.2.2.2 _ hone htwo⟩

end Shortcuts.Chord
