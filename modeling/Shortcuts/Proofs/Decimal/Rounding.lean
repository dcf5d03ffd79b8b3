import Mathlib.Tactic.Ring
import Mathlib.Tactic.Linarith
import Shortcuts.Decimal.Shortest

/-!
Rounding to a double. Whatever is rounded gives a number in standard form, and the interval of a
number in standard form is made of ratios that round to it.
-/

namespace Shortcuts.Double

/-- Where a quotient rounds to: not more than half the divisor away, and at exactly half to an even
number. -/
theorem roundHalfEven_eq {num den m : Nat} (hden : 0 < den) (hlow : 2 * m * den ≤ 2 * num + den)
    (hhigh : 2 * num ≤ (2 * m + 1) * den)
    (htie : m % 2 = 0 ∨ (2 * m * den < 2 * num + den ∧ 2 * num < (2 * m + 1) * den)) :
    roundHalfEven num den = m := by
  have hdiv : den * (num / den) + num % den = num := Nat.div_add_mod num den
  have hlt : num % den < den := Nat.mod_lt num hden
  rw [roundHalfEven]
  generalize num / den = q at hdiv ⊢
  generalize num % den = r at hdiv hlt ⊢
  subst hdiv
  have hle : q ≤ m := by
    by_contra h
    have : (m + 1) * den ≤ q * den := Nat.mul_le_mul_right den (by omega)
    nlinarith
  have hge : m ≤ q + 1 := by
    by_contra h
    have : (q + 2) * den ≤ m * den := Nat.mul_le_mul_right den (by omega)
    nlinarith
  obtain rfl | rfl : m = q ∨ m = q + 1 := by omega
  · have hr : 2 * r ≤ den := by nlinarith
    have htie' : m % 2 = 0 ∨ 2 * r < den := htie.imp_right fun h => by nlinarith [h.2]
    split
    · rfl
    · split
      · omega
      · rw [if_pos (by omega)]
  · have hr : den ≤ 2 * r := by nlinarith
    have htie' : (q + 1) % 2 = 0 ∨ den < 2 * r := htie.imp_right fun h => by nlinarith [h.1]
    split
    · omega
    · split
      · rfl
      · rw [if_neg (by omega)]

theorem roundHalfEven_le {num den n : Nat} (h : num < n * den) : roundHalfEven num den ≤ n := by
  have hden : 0 < den := Nat.pos_of_ne_zero fun h0 => by simp [h0] at h
  have hq : num / den < n := (Nat.div_lt_iff_lt_mul hden).mpr h
  rw [roundHalfEven]
  split
  · omega
  · split
    · omega
    · split <;> omega

theorem le_roundHalfEven {num den n : Nat} (hden : 0 < den) (h : n * den ≤ num) :
    n ≤ roundHalfEven num den := by
  have hq : n ≤ num / den := (Nat.le_div_iff_mul_le hden).mpr h
  rw [roundHalfEven]
  split
  · exact hq
  · split
    · omega
    · split <;> omega

/-- Rounding a number of smallest steps. -/
def ofSteps (negative : Bool) (steps den : Nat) : Double :=
  let e := (steps / den).log2 - 52
  let m := roundHalfEven steps (den * Nat.pow 2 e)
  let (m, e) := if m = Nat.pow 2 53 then (Nat.pow 2 52, e + 1) else (m, e)
  if 2045 < e then infinite negative else finite negative m e

theorem ofRatio_eq_ofSteps (s : Bool) (num den : Nat) :
    ofRatio s num den = ofSteps s (num * stepsPerOne) den := rfl

/-- A significand and an exponent in standard form: the significand has at most 53 bits, and no
fewer unless the exponent is the least. -/
structure Standard (m e : Nat) : Prop where
  lt : m < 2 ^ 53
  le : e = 0 ∨ 2 ^ 52 ≤ m
  top : e ≤ 2045

/-- A number other than zero is in standard form. -/
def IsStandard : Double → Prop
  | finite _ m e => m = 0 ∨ Standard m e
  | _ => True

theorem ofSteps_eq (s : Bool) {steps den e m : Nat} (he : (steps / den).log2 - 52 = e)
    (hm : roundHalfEven steps (den * 2 ^ e) = m) :
    ofSteps s steps den =
      if m = 2 ^ 53 then (if 2045 < e + 1 then infinite s else finite s (2 ^ 52) (e + 1))
      else if 2045 < e then infinite s else finite s m e := by
  rw [ofSteps, he]
  simp only [Nat.pow_eq, hm]
  by_cases h : m = 2 ^ 53
  · rw [if_pos h, if_pos h]
  · rw [if_neg h, if_neg h]

theorem lt_of_log2 {n e : Nat} (h : n.log2 - 52 = e) : n < 2 ^ 53 * 2 ^ e := by
  rw [← Nat.pow_add]
  exact Nat.lt_of_lt_of_le Nat.lt_log2_self (Nat.pow_le_pow_right (by decide) (by omega))

theorem le_of_log2 {n e : Nat} (h : n.log2 - 52 = e) (he : e ≠ 0) : 2 ^ 52 * 2 ^ e ≤ n := by
  have hn : n ≠ 0 := by
    rintro rfl
    rw [Nat.log2_zero] at h
    omega
  rw [← Nat.pow_add]
  exact Nat.le_trans (Nat.pow_le_pow_right (by decide) (by omega)) (Nat.log2_self_le hn)

theorem isStandard_ofSteps (s : Bool) (steps : Nat) {den : Nat} (hden : 0 < den) :
    (ofSteps s steps den).IsStandard := by
  obtain ⟨e, he⟩ : ∃ e, (steps / den).log2 - 52 = e := ⟨_, rfl⟩
  obtain ⟨m, hm⟩ : ∃ m, roundHalfEven steps (den * 2 ^ e) = m := ⟨_, rfl⟩
  have hle : m ≤ 2 ^ 53 := by
    rw [← hm]
    apply roundHalfEven_le
    have := (Nat.div_lt_iff_lt_mul hden).mp (lt_of_log2 he)
    rwa [Nat.mul_comm den, ← Nat.mul_assoc]
  have hge : e = 0 ∨ 2 ^ 52 ≤ m := by
    refine or_iff_not_imp_left.mpr fun h0 => ?_
    rw [← hm]
    refine le_roundHalfEven (Nat.mul_pos hden (Nat.two_pow_pos e)) ?_
    have := (Nat.le_div_iff_mul_le hden).mp (le_of_log2 he h0)
    rwa [Nat.mul_comm den, ← Nat.mul_assoc]
  rw [ofSteps_eq s he hm]
  split
  · split
    · trivial
    · exact .inr ⟨by decide, .inr (Nat.le_refl _), by omega⟩
  · split
    · trivial
    · exact .inr ⟨by omega, hge, by omega⟩

theorem Interval.holds_iff {i : Interval} {scaled scale : Nat} : i.holds scaled scale = true ↔
    i.low * scale ≤ scaled ∧ scaled ≤ i.high * scale ∧
      (i.closed = true ∨ (i.low * scale < scaled ∧ scaled < i.high * scale)) := by
  rw [Interval.holds]
  cases i.closed with
  | true => simp
  | false =>
      simp only [Bool.false_eq_true, if_false, Bool.and_eq_true, decide_eq_true_eq, false_or]
      exact ⟨fun h => ⟨h.1.le, h.2.le, h⟩, fun h => h.2.2⟩

/-- In quarters of a smallest step, the numbers that are not farther from a number in standard form
than from its neighbours, and the middles if the significand is even. -/
theorem holds_interval_iff {m e scaled scale : Nat} : (interval m e).holds scaled scale = true ↔
    let unit := 2 ^ e * scale
    let low := (4 * m - if m = 2 ^ 52 ∧ 0 < e then 1 else 2) * unit
    let high := (4 * m + 2) * unit
    low ≤ scaled ∧ scaled ≤ high ∧ (m % 2 = 0 ∨ (low < scaled ∧ scaled < high)) := by
  rw [Interval.holds_iff]
  simp only [interval, Nat.pow_eq, decide_eq_true_eq, Nat.mul_assoc]

theorem log2_sub_of_lt {n e : Nat} (hlt : n < 2 ^ 53 * 2 ^ e) (hle : e = 0 ∨ 2 ^ 52 * 2 ^ e ≤ n) :
    n.log2 - 52 = e := by
  rw [← Nat.pow_add] at hlt hle
  by_cases hn : n = 0
  · subst hn
    have : 0 < 2 ^ (52 + e) := Nat.two_pow_pos _
    rw [Nat.log2_zero]
    omega
  · have hhigh : n.log2 < 53 + e := (Nat.log2_lt hn).mpr hlt
    rcases hle with rfl | hle
    · omega
    · have hlow : 52 + e ≤ n.log2 := (Nat.le_log2 hn).mpr hle
      omega

theorem log2_div_sub {steps den e : Nat} (hden : 0 < den) (hlt : steps < 2 ^ 53 * (den * 2 ^ e))
    (hle : e = 0 ∨ 2 ^ 52 * (den * 2 ^ e) ≤ steps) : (steps / den).log2 - 52 = e := by
  rw [Nat.mul_comm den, ← Nat.mul_assoc] at hlt hle
  exact log2_sub_of_lt ((Nat.div_lt_iff_lt_mul hden).mpr hlt)
    (hle.imp_right (Nat.le_div_iff_mul_le hden).mpr)

/-- A ratio in the interval of a number in standard form rounds to this number. -/
theorem ofSteps_of_holds (s : Bool) {m e steps den : Nat} (hm : 0 < m) (hs : Standard m e)
    (hden : 0 < den) (h : (interval m e).holds (4 * steps) den = true) :
    ofSteps s steps den = finite s m e := by
  obtain ⟨hlow, hhigh, htie⟩ := holds_interval_iff.mp h
  obtain ⟨hlt, hle, htop⟩ := hs
  by_cases hbelow : m = 2 ^ 52 ∧ 0 < e ∧ steps < m * (2 ^ e * den)
  · -- the number is a power of two and the ratio is below it, on the finer grid
    obtain ⟨rfl, hpos, hsteps⟩ := hbelow
    obtain ⟨e, rfl⟩ : ∃ k, e = k + 1 := ⟨e - 1, by omega⟩
    have hunit : 2 ^ (e + 1) * den = 2 * (den * 2 ^ e) := by rw [Nat.pow_succ]; ring
    have hfine : 0 < den * 2 ^ e := Nat.mul_pos hden (Nat.two_pow_pos e)
    rw [if_pos ⟨rfl, hpos⟩, hunit] at hlow
    rw [hunit] at hsteps
    have he : (steps / den).log2 - 52 = e :=
      log2_div_sub hden (by omega) (.inr (by omega))
    have hround : roundHalfEven steps (den * 2 ^ e) = 2 ^ 53 :=
      roundHalfEven_eq hfine (by omega) (by omega) (.inl (by decide))
    rw [ofSteps_eq s he hround, if_pos rfl, if_neg (by omega)]
  · have hunit : 0 < den * 2 ^ e := Nat.mul_pos hden (Nat.two_pow_pos e)
    rw [Nat.mul_comm (2 ^ e)] at hlow hhigh htie hbelow
    have hlow' : (4 * m - 2) * (den * 2 ^ e) ≤ 4 * steps :=
      (Nat.mul_le_mul_right _ (by split <;> omega)).trans hlow
    have htie' : m % 2 = 0 ∨ ((4 * m - 2) * (den * 2 ^ e) < 4 * steps ∧
        4 * steps < (4 * m + 2) * (den * 2 ^ e)) :=
      htie.imp_right fun h =>
        ⟨(Nat.mul_le_mul_right _ (by split <;> omega)).trans_lt h.1, h.2⟩
    generalize hu : den * 2 ^ e = unit at *
    have he : (steps / den).log2 - 52 = e := by
      refine log2_div_sub hden ?_ (or_iff_not_imp_left.mpr fun h0 => ?_)
      · have : (4 * m + 2) * unit ≤ (4 * 2 ^ 53 - 2) * unit := Nat.mul_le_mul_right _ (by omega)
        rw [hu]
        omega
      · rw [hu]
        by_cases hm52 : m = 2 ^ 52
        · have hsteps := mt (fun h => ⟨hm52, Nat.pos_of_ne_zero h0, h⟩) hbelow
          rw [hm52] at hsteps
          exact Nat.le_of_not_lt hsteps
        · have : (4 * 2 ^ 52 + 2) * unit ≤ (4 * m - 2) * unit := Nat.mul_le_mul_right _ (by omega)
          omega
    obtain ⟨n, rfl⟩ : ∃ n, m = n + 1 := ⟨m - 1, by omega⟩
    have hround : roundHalfEven steps unit = n + 1 := by
      rw [show 4 * (n + 1) - 2 = 4 * n + 2 by omega] at hlow' htie'
      refine roundHalfEven_eq hunit ?_ ?_ (htie'.imp_right fun h => ⟨?_, ?_⟩) <;> linarith
    rw [ofSteps_eq s he (hu ▸ hround), if_neg (by omega), if_neg (by omega)]

end Shortcuts.Double
