import Shortcuts.Text.Case

/-!
Lower case is lower already. No row of the table leads to a code point that a row covers, so what
is lowered once stays as it is; of a capital sigma nothing is left.
-/

namespace Shortcuts.Text

/-! ### Rows -/

namespace CaseRow

variable {r r' : CaseRow} {c : Nat}

/-- Nothing that the first row leads to is covered by the second. Where the two lie over each
other, one has the odd and the other the even code points. -/
def avoids (r r' : CaseRow) : Bool :=
  (r.map r.high).blt r'.low || r'.high.blt (r.map r.low) ||
    ((r.step == 2 || r.low == r.high) && r'.step == 2 && r.map r.low % 2 != r'.low % 2)

/-- All that the row leads to are characters. -/
def staysValid (r : CaseRow) : Bool :=
  0 ≤ r.low + r.shift && (r.map r.high < 0xD800 || 0xDFFF < r.map r.low) && r.map r.high < 0x110000

theorem covers_iff : r.covers c = true ↔ r.low ≤ c ∧ c ≤ r.high ∧ (c - r.low) % r.step = 0 := by
  simp only [covers, Bool.and_eq_true, decide_eq_true_eq, beq_iff_eq, and_assoc]

theorem map_eq (hr : r.staysValid = true) (hc : r.covers c = true) :
    r.map c = r.map r.low + (c - r.low) := by
  simp only [staysValid, Bool.and_eq_true, decide_eq_true_eq] at hr
  obtain ⟨hlow, -, -⟩ := covers_iff.mp hc
  simp only [map]
  omega

theorem map_mem (hc : r.covers c = true) : r.map r.low ≤ r.map c ∧ r.map c ≤ r.map r.high := by
  obtain ⟨hlow, hhigh, -⟩ := covers_iff.mp hc
  simp only [map]
  omega

theorem isValidChar_map (hr : r.staysValid = true) (hc : r.covers c = true) :
    (r.map c).isValidChar := by
  obtain ⟨hlow, hhigh⟩ := map_mem hc
  simp only [staysValid, Bool.and_eq_true, Bool.or_eq_true, decide_eq_true_eq] at hr
  simp only [Nat.isValidChar]
  omega

theorem not_covers_map (hr : r.staysValid = true) (h : r.avoids r' = true)
    (hc : r.covers c = true) : r'.covers (r.map c) = false := by
  refine Bool.eq_false_iff.mpr fun hc' => ?_
  obtain ⟨hlow, hhigh, hstep⟩ := covers_iff.mp hc
  obtain ⟨hlow', hhigh', hstep'⟩ := covers_iff.mp hc'
  obtain ⟨hmaplow, hmaphigh⟩ := map_mem hc
  have hmap := map_eq hr hc
  simp only [avoids, Bool.or_eq_true, Bool.and_eq_true, Nat.blt_eq, beq_iff_eq, bne_iff_ne] at h
  rcases h with (h | h) | ⟨⟨htwo | hone, htwo'⟩, hparity⟩
  · omega
  · omega
  · rw [htwo] at hstep
    rw [htwo'] at hstep'
    omega
  · rw [htwo'] at hstep'
    omega

end CaseRow

/-! ### The table -/

/-- A row for each letter that lowering changes. -/
def loweredRows : List CaseRow := lowerSpecial.map (fun e => ⟨e.1, e.1, 1, 0⟩) ++ lowerRows

/-- No row covers the character. -/
def IsLowered (c : Char) : Prop := ∀ r ∈ loweredRows, r.covers c.toNat = false

instance (c : Char) : Decidable (IsLowered c) :=
  inferInstanceAs (Decidable (∀ r ∈ loweredRows, r.covers c.toNat = false))

set_option maxRecDepth 10000 in
theorem lowerRows_avoid : (lowerRows.all fun r => r.high < 128 ||
    (r.staysValid && loweredRows.all r.avoids)) = true := by
  decide +kernel

theorem low_loweredRows : (loweredRows.all fun r => r.low == 65 && r.high == 90 || 128 ≤ r.low) =
    true := by
  decide +kernel

theorem isLowered_special : ∀ e ∈ lowerSpecial, ∀ n ∈ e.2, IsLowered (Char.ofNat n) := by
  decide +kernel

theorem mapThrough_of_not_covered {rows : List CaseRow} {n : Nat}
    (h : ∀ r ∈ rows, r.covers n = false) : mapThrough rows n = n := by
  have hnone : rows.find? (·.covers n) = none := by
    refine List.find?_eq_none.mpr fun r hr => ?_
    rw [h r hr]
    exact Bool.false_ne_true
  rw [mapThrough, hnone]

theorem lookup_special_eq_none_iff {n : Nat} : lowerSpecial.lookup n = none ↔
    ∀ e ∈ lowerSpecial, CaseRow.covers ⟨e.1, e.1, 1, 0⟩ n = false := by
  rw [List.lookup_eq_none_iff]
  refine forall₂_congr fun e _ => ?_
  have hcovers : CaseRow.covers ⟨e.1, e.1, 1, 0⟩ n = true ↔ n = e.1 := by
    rw [CaseRow.covers_iff]
    change e.1 ≤ n ∧ n ≤ e.1 ∧ (n - e.1) % 1 = 0 ↔ n = e.1
    omega
  rw [bne_iff_ne, Bool.eq_false_iff, ne_eq, ne_eq, hcovers]

/-! ### Characters -/

variable {c d : Char}

theorem toNat_ofNat_of_isValidChar {n : Nat} (h : n.isValidChar) : (Char.ofNat n).toNat = n := by
  rw [Char.ofNat, dif_pos h]
  rfl

theorem isLowered_iff : IsLowered c ↔
    lowerSpecial.lookup c.toNat = none ∧ ∀ r ∈ lowerRows, r.covers c.toNat = false := by
  rw [IsLowered, loweredRows, List.forall_mem_append, List.forall_mem_map,
    lookup_special_eq_none_iff]

theorem isLowered_mapThrough (h : 128 ≤ c.toNat) (hspecial : lowerSpecial.lookup c.toNat = none) :
    IsLowered (Char.ofNat (mapThrough lowerRows c.toNat)) := by
  cases hrow : lowerRows.find? (·.covers c.toNat) with
  | none =>
      have hnot : ∀ r ∈ lowerRows, r.covers c.toNat = false := fun r hr =>
        Bool.eq_false_iff.mpr (List.find?_eq_none.mp hrow r hr)
      rw [mapThrough_of_not_covered hnot, Char.ofNat_toNat]
      exact isLowered_iff.mpr ⟨hspecial, hnot⟩
  | some r =>
      have hcovers : r.covers c.toNat = true :=
        List.find?_some (p := fun r : CaseRow => r.covers c.toNat) hrow
      have hhigh : ¬ r.high < 128 :=
        Nat.not_lt.mpr (Nat.le_trans h (CaseRow.covers_iff.mp hcovers).2.1)
      have hchecked := List.all_eq_true.mp lowerRows_avoid r (List.mem_of_find?_eq_some hrow)
      rw [decide_eq_false hhigh, Bool.false_or, Bool.and_eq_true, List.all_eq_true] at hchecked
      obtain ⟨hvalid, havoids⟩ := hchecked
      intro r' hr'
      rw [mapThrough, hrow, toNat_ofNat_of_isValidChar (CaseRow.isValidChar_map hvalid hcovers)]
      exact CaseRow.not_covers_map hvalid (havoids r' hr') hcovers

theorem isLowered_of_ascii (h : c.toNat < 128) (hc : ¬ (65 ≤ c.toNat ∧ c.toNat ≤ 90)) :
    IsLowered c := by
  intro r hr
  have hrow := List.all_eq_true.mp low_loweredRows r hr
  simp only [Bool.or_eq_true, Bool.and_eq_true, beq_iff_eq, decide_eq_true_eq] at hrow
  refine Bool.eq_false_iff.mpr fun hcovers => ?_
  obtain ⟨hlow, hhigh, -⟩ := CaseRow.covers_iff.mp hcovers
  omega

theorem isLowered_toLower (h : c.toNat < 128) : IsLowered c.toLower := by
  by_cases hc : c.val ≥ 'A'.val ∧ c.val ≤ 'Z'.val
  · have hlow : 65 ≤ c.toNat := UInt32.le_iff_toNat_le.mp hc.1
    have hhigh : c.toNat ≤ 90 := UInt32.le_iff_toNat_le.mp hc.2
    have hsum : c.toLower.toNat = (c.toNat + 32) % 2 ^ 32 := congrArg Char.toNat (dif_pos hc)
    refine isLowered_of_ascii ?_ ?_ <;> omega
  · have hsame : c.toLower = c := dif_neg hc
    rw [hsame]
    exact isLowered_of_ascii h hc

theorem isLowered_of_mem_lowerChar (h : d ∈ lowerChar c) : IsLowered d := by
  rw [lowerChar] at h
  split at h
  · next hascii =>
      rw [List.mem_singleton.mp h]
      exact isLowered_toLower hascii
  · next hascii =>
      split at h
      · next cs hspecial =>
          obtain ⟨n, hn, rfl⟩ := List.mem_map.mp h
          obtain ⟨e, e', he, -⟩ := List.lookup_eq_some_iff.mp hspecial
          exact isLowered_special (c.toNat, cs) (he ▸ List.mem_append_right e (.head e')) n hn
      · next hspecial =>
          rw [List.mem_singleton.mp h]
          exact isLowered_mapThrough (Nat.le_of_not_lt hascii) hspecial

namespace IsLowered

theorem toLower_eq (h : IsLowered c) : c.toLower = c := by
  refine dif_neg ?_
  rintro ⟨hlow, hhigh⟩
  have hrow := (isLowered_iff.mp h).2 ⟨65, 90, 1, 32⟩ (.head _)
  rw [CaseRow.covers_iff.mpr] at hrow
  · cases hrow
  · exact ⟨UInt32.le_iff_toNat_le.mp hlow, UInt32.le_iff_toNat_le.mp hhigh, Nat.mod_one _⟩

theorem lowerChar_eq (h : IsLowered c) : lowerChar c = [c] := by
  obtain ⟨hspecial, hrows⟩ := isLowered_iff.mp h
  rw [lowerChar, h.toLower_eq, hspecial, mapThrough_of_not_covered hrows, Char.ofNat_toNat]
  exact ite_self [c]

theorem ne_sigma (h : IsLowered c) : c ≠ 'Σ' := by
  rintro rfl
  exact absurd h (by decide +kernel)

end IsLowered

/-! ### Texts -/

theorem isLowered_of_mem_lowerAfter {before s : List Char} (h : d ∈ lowerAfter before s) :
    IsLowered d := by
  induction s generalizing before with
  | nil => cases h
  | cons c s ih =>
      rw [lowerAfter] at h
      rcases List.mem_append.mp h with h | h
      · split at h
        · rw [List.mem_singleton.mp h]
          split <;> decide +kernel
        · exact isLowered_of_mem_lowerChar h
      · exact ih h

theorem lowerAfter_of_isLowered {before s : List Char} (h : ∀ c ∈ s, IsLowered c) :
    lowerAfter before s = s := by
  induction s generalizing before with
  | nil => rfl
  | cons c s ih =>
      obtain ⟨hc, hs⟩ := List.forall_mem_cons.mp h
      rw [lowerAfter, if_neg hc.ne_sigma, hc.lowerChar_eq, ih hs, List.singleton_append]

theorem lower_lower (s : List Char) : lower (lower s) = lower s :=
  lowerAfter_of_isLowered fun _ => isLowered_of_mem_lowerAfter

end Shortcuts.Text
