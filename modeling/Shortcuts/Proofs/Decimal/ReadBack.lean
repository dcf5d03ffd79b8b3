import Mathlib.Tactic.Positivity
import Shortcuts.Decimal.Literal
import Shortcuts.Proofs.Decimal.Rounding

/-!
Plain texts of numbers read back. The shortest decimal lies in the interval of its number, and the
digits of a plain text are those of the shortest decimal.
-/

namespace Shortcuts.Double

namespace Interval

variable {i : Interval} {tie : Tie}

theorem nearestMultiple_spec {k : Int} {d : Nat} (h : i.nearestMultiple tie k = some d) :
    0 < d ∧ i.holds (d * (quarters * 10 ^ k.toNat)) (10 ^ (-k).toNat) = true := by
  simp only [nearestMultiple, Nat.pow_eq] at h
  have hand : ∀ {n : Nat} {b : Bool}, (decide (0 < n) && b) = true → 0 < n ∧ b = true :=
    fun h => by simpa using h
  split at h
  · next hboth =>
      obtain ⟨hbelow, habove⟩ := Bool.and_eq_true_iff.mp hboth
      split at h
      · cases h; exact hand hbelow
      · split at h
        · cases h; exact ⟨Nat.succ_pos _, habove⟩
        · cases tie with
          | up => cases h; exact ⟨Nat.succ_pos _, habove⟩
          | toEven => 
              dsimp only at h
              split at h
              · cases h; exact hand hbelow
              · cases h; exact ⟨Nat.succ_pos _, habove⟩
  · split at h
    · next hbelow => cases h; exact hand hbelow
    · split at h
      · next habove => cases h; exact ⟨Nat.succ_pos _, habove⟩
      · cases h

theorem quarters_pos : 0 < quarters := by decide +kernel

/-- If the power of ten is not above the distance of the value from the low end, the multiple
below the value is in the interval. -/
theorem nearestMultiple_ne_none {k : Int}
    (h : i.low * 10 ^ (-k).toNat + quarters * 10 ^ k.toNat ≤ i.value * 10 ^ (-k).toNat)
    (hhigh : i.value < i.high) : i.nearestMultiple tie k ≠ none := by
  have hunit : 0 < quarters * 10 ^ k.toNat := Nat.mul_pos quarters_pos (by positivity)
  have hvalue : i.value * 10 ^ (-k).toNat < i.high * 10 ^ (-k).toNat :=
    Nat.mul_lt_mul_of_pos_right hhigh (by positivity)
  have hpos : 0 < i.value * 10 ^ (-k).toNat / (quarters * 10 ^ k.toNat) :=
    Nat.div_pos ((Nat.le_add_left _ _).trans h) hunit
  have hle := Nat.div_mul_le_self (i.value * 10 ^ (-k).toNat) (quarters * 10 ^ k.toNat)
  have hlt : i.value * 10 ^ (-k).toNat <
      i.value * 10 ^ (-k).toNat / (quarters * 10 ^ k.toNat) * (quarters * 10 ^ k.toNat) +
        quarters * 10 ^ k.toNat := Nat.lt_div_mul_add hunit
  have hholds : i.holds (i.value * 10 ^ (-k).toNat / (quarters * 10 ^ k.toNat) *
      (quarters * 10 ^ k.toNat)) (10 ^ (-k).toNat) = true := by
    rw [holds_iff]
    refine ⟨?_, ?_, .inr ⟨?_, ?_⟩⟩ <;> omega
  simp only [nearestMultiple, Nat.pow_eq, decide_eq_true hpos, hholds, Bool.true_and, if_true]
  split
  · split
    · simp
    · split
      · simp
      · cases tie <;> simp
  · simp

theorem coarsest_spec (fuel : Nat) (k : Int)
    (h : ∃ j : Nat, j < fuel ∧ i.nearestMultiple tie (k - j) ≠ none) :
    ∃ d l, i.coarsest tie fuel k = (d, l) ∧ i.nearestMultiple tie l = some d ∧
      k - fuel < l ∧ l ≤ k := by
  induction fuel generalizing k with
  | zero => simp at h
  | succ fuel ih =>
      rw [coarsest]
      cases hd : i.nearestMultiple tie k with
      | some d => exact ⟨d, k, rfl, hd, by omega, le_rfl⟩
      | none =>
          obtain ⟨j, hj, hne⟩ := h
          obtain ⟨j, rfl⟩ : ∃ j', j = j' + 1 := by
            refine ⟨j - 1, (Nat.succ_pred_eq_of_pos (Nat.pos_of_ne_zero ?_)).symm⟩
            rintro rfl
            exact hne (by simpa using hd)
          have hnext : k - 1 - (j : Int) = k - ((j + 1 : Nat) : Int) := by omega
          obtain ⟨d, l, hc, hl, hlow, hhigh⟩ := ih (k - 1) ⟨j, by omega, by rwa [hnext]⟩
          exact ⟨d, l, hc, hl, by omega, by omega⟩

end Interval

theorem interval_low_lt (m e : Nat) (hm : 0 < m) : (interval m e).low < (interval m e).value := by
  simp only [interval, Nat.pow_eq]
  exact Nat.mul_lt_mul_of_pos_right (by split <;> omega) (Nat.two_pow_pos e)

theorem interval_lt_high (m e : Nat) : (interval m e).value < (interval m e).high := by
  simp only [interval, Nat.pow_eq]
  exact Nat.mul_lt_mul_of_pos_right (by omega) (Nat.two_pow_pos e)

/-- The shortest decimal is found, and it is in the interval. -/
theorem shortest_spec (tie : Tie) {m : Nat} (e : Nat) (hm : 0 < m) :
    ∃ d k, shortest tie m e = (d, k) ∧ 0 < d ∧ -330 < k ∧ k ≤ 310 ∧
      (interval m e).holds (d * (Interval.quarters * 10 ^ k.toNat)) (10 ^ (-k).toNat) = true := by
  have hexists : ∃ j : Nat, j < 640 ∧ (interval m e).nearestMultiple tie (310 - j) ≠ none := by
    refine ⟨639, by decide, Interval.nearestMultiple_ne_none ?_ (interval_lt_high m e)⟩
    have hunit : Interval.quarters * 10 ^ (310 - ((639 : Nat) : Int)).toNat ≤
        10 ^ (-(310 - ((639 : Nat) : Int))).toNat := by decide +kernel
    have hlow := Nat.mul_le_mul_right (10 ^ (-(310 - ((639 : Nat) : Int))).toNat)
      (Nat.succ_le_of_lt (interval_low_lt m e hm))
    rw [Nat.succ_mul] at hlow
    omega
  obtain ⟨d, k, hc, hk, hlow, hhigh⟩ := Interval.coarsest_spec 640 310 hexists
  obtain ⟨hd, hholds⟩ := Interval.nearestMultiple_spec hk
  exact ⟨d, k, hc, hd, by omega, hhigh, hholds⟩


/-! ### Digits -/

theorem ofDigits_append (s t : List Char) :
    ofDigits (s ++ t) = ofDigits s * 10 ^ t.length + ofDigits t := by
  have hfold : ∀ n, t.foldl (fun n c => 10 * n + (c.toNat - 48)) n =
      n * 10 ^ t.length + ofDigits t := by
    induction t with
    | nil => simp [ofDigits]
    | cons c t ih =>
        intro n
        have hc : ofDigits (c :: t) = (10 * 0 + (c.toNat - 48)) * 10 ^ t.length + ofDigits t := ih _
        rw [List.foldl_cons, ih, hc, List.length_cons, pow_succ]
        ring
  rw [ofDigits, List.foldl_append, hfold]
  rfl

theorem ofDigits_zeros (n : Nat) : ofDigits (zeros n) = 0 := by
  induction n with
  | zero => rfl
  | succ n ih => exact ih

theorem ofDigits_decimalDigits (n : Nat) : ofDigits (decimalDigits n) = n :=
  Nat.ofDigitChars_toDigits (by decide) (by decide)

def AllDigits (s : List Char) : Prop := ∀ c ∈ s, c.isDigit = true

theorem allDigits_decimalDigits (n : Nat) : AllDigits (decimalDigits n) :=
  fun _ hc => Nat.isDigit_of_mem_toDigits (by decide) (by decide) hc

theorem allDigits_zeros (n : Nat) : AllDigits (zeros n) := by
  intro c hc
  rw [List.eq_of_mem_replicate hc]
  rfl

theorem AllDigits.append {s t : List Char} (hs : AllDigits s) (ht : AllDigits t) :
    AllDigits (s ++ t) := fun c hc => (List.mem_append.mp hc).elim (hs c) (ht c)

theorem takeWhile_digits {s t : List Char} (hs : AllDigits s) (ht : t.head?.all (!·.isDigit)) :
    (s ++ t).takeWhile Char.isDigit = s ∧ (s ++ t).dropWhile Char.isDigit = t := by
  rw [List.takeWhile_append_of_pos hs, List.dropWhile_append_of_pos hs]
  cases t with
  | nil => simp
  | cons c t =>
      have hc : c.isDigit = false := by simpa using ht
      simp [hc]

theorem toLower_of_isDigit {c : Char} (h : c.isDigit = true) : c.toLower = c := by
  simp only [Char.isDigit, Bool.and_eq_true, decide_eq_true_eq] at h
  refine dif_neg ?_
  rintro ⟨hupper, -⟩
  exact absurd (UInt32.le_trans hupper h.2) (by decide)

/-- What starts with a digit is no word. -/
theorem ofList_map_toLower_ne {s : List Char} (hs : s.head?.any Char.isDigit) {w : String}
    (hw : w.toList.head?.all (!·.isDigit)) : String.ofList (s.map Char.toLower) ≠ w := by
  rintro rfl
  cases s with
  | nil => simp at hs
  | cons c s =>
      have hc : c.isDigit = true := by simpa using hs
      rw [String.toList_ofList] at hw
      simp [toLower_of_isDigit hc, hc] at hw

theorem AllDigits.any_head? {s : List Char} (hs : AllDigits s) (hne : s ≠ []) (t : List Char) :
    (s ++ t).head?.any Char.isDigit := by
  obtain ⟨c, r, rfl⟩ := List.exists_cons_of_ne_nil hne
  simpa using hs c List.mem_cons_self

theorem readUnsigned_digits (negative : Bool) {s : List Char} (hs : AllDigits s) (hne : s ≠ []) :
    readUnsigned negative s = some (ofDecimal negative (ofDigits s) 0) := by
  have hword : ∀ w : String, w.toList.head?.all (!·.isDigit) →
      String.ofList (s.map Char.toLower) ≠ w := fun w hw =>
    ofList_map_toLower_ne (by simpa using hs.any_head? hne []) hw
  obtain ⟨htake, hdrop⟩ := takeWhile_digits (t := []) hs rfl
  rw [List.append_nil] at htake hdrop
  simp [readUnsigned, hword "inf" (by decide), hword "infinity" (by decide),
    hword "nan" (by decide), htake, hdrop, hne, readExponent]

theorem readUnsigned_point (negative : Bool) {s t : List Char} (hs : AllDigits s)
    (ht : AllDigits t) (hne : s ≠ []) :
    readUnsigned negative (s ++ '.' :: t) =
      some (ofDecimal negative (ofDigits (s ++ t)) (-t.length)) := by
  have hword : ∀ w : String, w.toList.head?.all (!·.isDigit) →
      String.ofList ((s ++ '.' :: t).map Char.toLower) ≠ w := fun w hw =>
    ofList_map_toLower_ne (hs.any_head? hne _) hw
  obtain ⟨htake, hdrop⟩ := takeWhile_digits (t := '.' :: t) hs rfl
  obtain ⟨htake', hdrop'⟩ := takeWhile_digits (t := []) ht rfl
  rw [List.append_nil] at htake' hdrop'
  rw [readUnsigned]
  simp only [hword "inf" (by decide), hword "infinity" (by decide), hword "nan" (by decide), htake,
    hdrop, htake', hdrop', readExponent]
  simp [hne]

/-! ### Reading back -/

theorem ofDigits_zero_point_zeros (n : Nat) (s : List Char) :
    ofDigits ('0' :: (zeros n ++ s)) = ofDigits s := by
  rw [show '0' :: (zeros n ++ s) = zeros (n + 1) ++ s from rfl, ofDigits_append, ofDigits_zeros,
    Nat.zero_mul, Nat.zero_add]

/-- Digits with a place for each power of ten are read as these digits. -/
theorem readUnsigned_positional (negative : Bool) {s : List Char} (hs : AllDigits s) (hne : s ≠ [])
    (k : Int) :
    readUnsigned negative (positional s k) =
      some (if 0 ≤ k then ofDecimal negative (ofDigits s * 10 ^ k.toNat) 0
        else ofDecimal negative (ofDigits s) k) := by
  rw [positional]
  split
  · rw [readUnsigned_digits negative (hs.append (allDigits_zeros _)) (by simp [hne]),
      ofDigits_append, ofDigits_zeros, zeros, List.length_replicate, Nat.add_zero]
  · dsimp only
    split
    · next hk hafter =>
        rw [readUnsigned_point negative (fun c hc => hs c (List.mem_of_mem_take hc))
            (fun c hc => hs c (List.mem_of_mem_drop hc)) (by simp [hne]; omega),
          List.take_append_drop, List.length_drop]
        congr 2
        omega
    · next hk hafter =>
        have hzero : AllDigits ['0'] := allDigits_zeros 1
        rw [← List.singleton_append (x := '0'),
          readUnsigned_point negative hzero ((allDigits_zeros _).append hs) (List.cons_ne_nil _ _),
          List.singleton_append, ofDigits_zero_point_zeros]
        congr 2
        simp only [zeros, List.length_append, List.length_replicate]
        omega

/-- The shortest decimal of a number in standard form rounds to this number. -/
theorem ofDecimal_shortest (negative : Bool) (tie : Tie) {m e d : Nat} {k : Int} (hm : 0 < m)
    (hs : Standard m e) (h : shortest tie m e = (d, k)) :
    (if 0 ≤ k then ofDecimal negative (d * 10 ^ k.toNat) 0 else ofDecimal negative d k) =
      finite negative m e := by
  obtain ⟨d', k', h', hd, hlow, hhigh, hholds⟩ := shortest_spec tie e hm
  obtain ⟨rfl, rfl⟩ : d' = d ∧ k' = k := by
    rw [h'] at h
    exact Prod.mk.inj h
  have hround : ofRatio negative (d' * 10 ^ k'.toNat) (10 ^ (-k').toNat) = finite negative m e := by
    rw [ofRatio_eq_ofSteps]
    refine ofSteps_of_holds negative hm hs (Nat.pow_pos (by decide)) ?_
    have hquarters : 4 * (d' * 10 ^ k'.toNat * stepsPerOne) =
        d' * (Interval.quarters * 10 ^ k'.toNat) := by
      rw [Interval.quarters]
      ring
    rw [hquarters]
    exact hholds
  split
  · next hk =>
      have hpos : d' * 10 ^ k'.toNat ≠ 0 := (Nat.mul_pos hd (Nat.pow_pos (by decide))).ne'
      rw [show (-k').toNat = 0 by omega] at hround
      simp only [ofDecimal, hpos, Nat.pow_eq]
      rw [if_neg (by decide), if_neg (by decide), if_neg (by omega), if_pos (by decide)]
      simpa using hround
  · next hk =>
      rw [show k'.toNat = 0 by omega, pow_zero, Nat.mul_one] at hround
      simp only [ofDecimal, hd.ne', Nat.pow_eq, if_false, hk]
      rw [if_neg (by omega), if_neg (by omega)]
      exact hround

theorem decimalDigits_ne_nil (n : Nat) : decimalDigits n ≠ [] := Nat.toDigits_ne_nil

theorem positional_any_head? {s : List Char} (hs : AllDigits s) (hne : s ≠ []) (k : Int) :
    (positional s k).head?.any Char.isDigit := by
  rw [positional]
  split
  · exact hs.any_head? hne _
  · dsimp only
    split
    · next hafter =>
        exact AllDigits.any_head? (fun c hc => hs c (List.mem_of_mem_take hc))
          (by simp [hne]; omega) _
    · rfl

theorem read?_of_digit {s : List Char} (h : s.head?.any Char.isDigit) :
    read? s = readUnsigned false s := by
  unfold read?
  split
  · exact absurd h (by simp)
  · exact absurd h (by simp)
  · rfl

theorem readUnsigned_body (negative : Bool) {m e : Nat} (hm : 0 < m) (hs : Standard m e) :
    readUnsigned negative (positional (decimalDigits (shortest .up m e).1) (shortest .up m e).2) =
      some (finite negative m e) := by
  obtain ⟨d, k, h⟩ : ∃ d k, shortest .up m e = (d, k) := ⟨_, _, rfl⟩
  rw [h, readUnsigned_positional negative (allDigits_decimalDigits _) (decimalDigits_ne_nil _),
    ofDigits_decimalDigits, ofDecimal_shortest negative .up hm hs h]

theorem same_self {x : Double} (h : x ≠ nan) : x.same x := by
  cases x with
  | nan => exact absurd rfl h
  | infinite negative => simp only [same, rank, beq_self_eq_true]
  | finite negative m e => simp only [same, rank, beq_self_eq_true]

/-- Plain texts read back as the number that they were written for. -/
theorem read?_plain {x : Double} (hx : x.IsStandard) (hnan : x ≠ nan) :
    ∃ y, read? x.plain = some y ∧ x.same y := by
  cases x with
  | nan => exact absurd rfl hnan
  | infinite negative =>
      refine ⟨infinite negative, ?_, same_self hnan⟩
      cases negative <;> decide +kernel
  | finite negative m e =>
      rcases Nat.eq_zero_or_pos m with rfl | hm
      · refine ⟨finite negative 0 0, ?_, ?_⟩
        · simp only [plain, if_true]
          cases negative <;> decide +kernel
        · cases negative <;> simp [same, rank]
      · refine ⟨finite negative m e, ?_, same_self hnan⟩
        have hs : Standard m e := hx.resolve_left hm.ne'
        cases negative with
        | true =>
            simp only [plain, hm.ne', if_true, if_false, read?]
            exact readUnsigned_body true hm hs
        | false =>
            simp only [plain, hm.ne', if_false, Bool.false_eq_true]
            rw [read?_of_digit
              (positional_any_head? (allDigits_decimalDigits _) (decimalDigits_ne_nil _) _)]
            exact readUnsigned_body false hm hs

/-! ### What is read -/

theorem isStandard_ofRatio (negative : Bool) (num : Nat) {den : Nat} (hden : 0 < den) :
    (ofRatio negative num den).IsStandard := by
  rw [ofRatio_eq_ofSteps]
  exact isStandard_ofSteps negative _ hden

theorem isStandard_ofDecimal (negative : Bool) (digits : Nat) (exponent : Int) :
    (ofDecimal negative digits exponent).IsStandard := by
  simp only [ofDecimal, Nat.pow_eq]
  split
  · exact .inl rfl
  · split
    · trivial
    · split
      · exact .inl rfl
      · split
        · exact isStandard_ofRatio negative _ Nat.one_pos
        · exact isStandard_ofRatio negative _ (Nat.pow_pos (by decide))

theorem isStandard_readUnsigned {negative : Bool} {s : List Char} {x : Double}
    (h : readUnsigned negative s = some x) : x.IsStandard := by
  simp only [readUnsigned] at h
  split at h
  · cases h; trivial
  · split at h
    · cases h; trivial
    · obtain ⟨-, h⟩ := Option.ite_none_left_eq_some.mp h
      obtain ⟨k, -, rfl⟩ := Option.map_eq_some_iff.mp h
      exact isStandard_ofDecimal negative _ _

/-- Every number that is read is in standard form. -/
theorem isStandard_read? {s : List Char} {x : Double} (h : read? s = some x) : x.IsStandard := by
  unfold read? at h
  split at h <;> exact isStandard_readUnsigned h

/-! ### Characters -/

/-- The characters that plain texts are made of. -/
def isPlainChar (c : Char) : Bool := c.isDigit || "-.infNa".toList.contains c

theorem AllDigits.all_isPlainChar {s : List Char} (hs : AllDigits s) : s.all isPlainChar := by
  rw [List.all_eq_true]
  intro c hc
  rw [isPlainChar, hs c hc, Bool.true_or]

theorem all_isPlainChar_positional {s : List Char} (hs : AllDigits s) (k : Int) :
    (positional s k).all isPlainChar := by
  have hpoint : isPlainChar '.' = true := by decide
  have hzero : isPlainChar '0' = true := by decide
  have hdigits := hs.all_isPlainChar
  have hzeros : ∀ n, (zeros n).all isPlainChar := fun n => (allDigits_zeros n).all_isPlainChar
  rw [positional]
  split
  · rw [List.all_append, hdigits, hzeros]
    rfl
  · dsimp only
    split
    · rw [← List.take_append_drop (s.length - (-k).toNat) s, List.all_append,
        Bool.and_eq_true] at hdigits
      rw [List.all_append, List.all_cons, hpoint, hdigits.1, hdigits.2]
      rfl
    · rw [List.all_cons, List.all_cons, List.all_append, hpoint, hzero, hzeros, hdigits]
      rfl

theorem all_isPlainChar_plain (x : Double) : x.plain.all isPlainChar := by
  cases x with
  | nan => decide
  | infinite negative => cases negative <;> decide
  | finite negative m e =>
      have hbody : (if m = 0 then ['0'] else
          positional (decimalDigits (shortest .up m e).1) (shortest .up m e).2).all
            isPlainChar := by
        split
        · decide
        · exact all_isPlainChar_positional (allDigits_decimalDigits _) _
      cases negative with
      | true => exact Bool.and_eq_true_iff.mpr ⟨by decide, hbody⟩
      | false => exact hbody

end Shortcuts.Double
