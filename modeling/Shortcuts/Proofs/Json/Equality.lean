import Shortcuts.Json.Basic
import Shortcuts.Proofs.Decimal.Rounding

/-!
Equality of values. Numbers are equal when they have the same size, and of those in standard form
only the two zeros are when they are not the same. What is equal to the same value is equal, though
a value with a NaN in it is not equal to itself.
-/

namespace Shortcuts

/-! ### Numbers -/

namespace Double

variable {a b : Double}

theorem same_iff : a.same b = true ↔ ∃ x, a.rank = some x ∧ b.rank = some x := by
  rw [same]
  cases a.rank with
  | none => simp
  | some x =>
      cases b.rank with
      | none => simp
      | some y =>
          simp only [beq_iff_eq, Option.some.injEq, exists_eq_left']
          exact eq_comm

theorem rank_eq_of_same (h : a.same b = true) : a.rank = b.rank := by
  obtain ⟨x, ha, hb⟩ := same_iff.mp h
  rw [ha, hb]

theorem same_comm (a b : Double) : a.same b = b.same a := by
  rw [Bool.eq_iff_iff, same_iff, same_iff]
  exact exists_congr fun x => and_comm

theorem isNan_iff : a.isNan = true ↔ a.rank = none := by
  cases a with
  | nan => exact iff_of_true rfl rfl
  | infinite | finite => exact iff_of_false Bool.false_ne_true nofun

theorem eq_finite_of_isZero (h : a.isZero = true) : ∃ s e, a = finite s 0 e := by
  cases a with
  | nan | infinite => cases h
  | finite s m e =>
      cases m with
      | zero => exact ⟨s, e, rfl⟩
      | succ m => cases h

/-- A magnitude with a sign, as ranks have it. -/
theorem signed_inj {s t : Bool} {k l : Nat} (hk : 0 < k)
    (h : (if s then -(k : Int) else k) = if t then -(l : Int) else l) : s = t ∧ k = l := by
  cases s <;> cases t <;> simp at h ⊢ <;> omega

theorem signed_eq_zero_iff {s : Bool} {k : Nat} :
    (if s then -(k : Int) else k) = 0 ↔ k = 0 := by
  cases s <;> simp

/-- Infinities stand beyond all other numbers. -/
theorem rank_infinite : ∃ n : Nat, (∀ m ≤ 2100, 2 ^ m ≤ n) ∧
    ∀ s, (infinite s).rank = some (if s then -(n : Int) else n) :=
  ⟨Nat.pow 2 2100, fun _ h => Nat.pow_le_pow_right Nat.two_pos h, fun _ => rfl⟩

theorem isZero_iff : a.isZero = true ↔ a.rank = some 0 := by
  cases a with
  | nan => exact iff_of_false Bool.false_ne_true nofun
  | infinite s =>
      obtain ⟨n, hn, hrank⟩ := rank_infinite
      rw [hrank, Option.some_inj, signed_eq_zero_iff]
      exact iff_of_false Bool.false_ne_true (Nat.ne_of_gt (hn 0 (Nat.zero_le _)))
  | finite s m e =>
      have hrank : (finite s m e).rank = some 0 ↔ m * 2 ^ e = 0 :=
        Option.some_inj.trans signed_eq_zero_iff
      have hpow : 2 ^ e ≠ 0 := Nat.ne_of_gt (Nat.two_pow_pos e)
      rw [hrank, Nat.mul_eq_zero, or_iff_left hpow]
      cases m with
      | zero => exact iff_of_true rfl rfl
      | succ m => exact iff_of_false Bool.false_ne_true (Nat.succ_ne_zero m)

/-! What is asked of numbers is asked of their sizes. -/

section Congruence

variable (h : a.rank = b.rank)

include h

theorem isZero_congr : a.isZero = b.isZero := by
  rw [Bool.eq_iff_iff, isZero_iff, isZero_iff, h]

theorem isNan_congr : a.isNan = b.isNan := by
  rw [Bool.eq_iff_iff, isNan_iff, isNan_iff, h]

theorem same_congr (c : Double) : a.same c = b.same c := by
  rw [same, same, h]

theorem less_congr (c : Double) : a.less c = b.less c ∧ c.less a = c.less b := by
  rw [less, less, less, less, h]
  exact ⟨rfl, rfl⟩

theorem atMost_congr (c : Double) : a.atMost c = b.atMost c ∧ c.atMost a = c.atMost b := by
  rw [atMost, atMost, atMost, atMost, h]
  exact ⟨rfl, rfl⟩

end Congruence

/-! Numbers in standard form -/

theorem Standard.eq {m e n f : Nat} (h : Standard m e) (h' : Standard n f)
    (heq : m * 2 ^ e = n * 2 ^ f) : m = n ∧ e = f := by
  have hexponent : ∀ {m e : Nat}, Standard m e → (m * 2 ^ e).log2 - 52 = e := fun {m e} h =>
    log2_sub_of_lt (Nat.mul_lt_mul_of_pos_right h.lt (Nat.two_pow_pos e))
      (h.le.imp_right fun hm => Nat.mul_le_mul_right _ hm)
  have he : e = f := by rw [← hexponent h, heq, hexponent h']
  subst he
  exact ⟨Nat.eq_of_mul_eq_mul_right (Nat.two_pow_pos e) heq, rfl⟩

theorem Standard.lt_two_pow {m e : Nat} (h : Standard m e) : m * 2 ^ e < 2 ^ (53 + e) := by
  rw [Nat.pow_add]
  exact Nat.mul_lt_mul_of_pos_right h.lt (Nat.two_pow_pos e)

theorem rank_finite_ne_infinite {s t : Bool} {m e : Nat} (h : (finite s m e).IsStandard) :
    (infinite t).rank ≠ (finite s m e).rank := by
  obtain ⟨n, hn, hrank⟩ := rank_infinite
  intro heq
  rw [hrank] at heq
  have hsize := (signed_inj (hn 0 (Nat.zero_le _)) (Option.some.inj heq)).2
  rcases h with rfl | h
  · rw [Nat.zero_mul] at hsize
    exact Nat.ne_of_gt (hn 0 (Nat.zero_le _)) hsize
  · have hle := hn (53 + e) (Nat.le_trans (Nat.add_le_add_left h.top 53) (by decide))
    exact Nat.ne_of_gt (Nat.lt_of_lt_of_le h.lt_two_pow hle) hsize

/-- Of numbers in standard form only the zeros have a size in common. -/
theorem eq_of_rank (ha : a.IsStandard) (hb : b.IsStandard) (h : a.rank = b.rank)
    (hzero : a.isZero = false) : a = b := by
  cases a with
  | nan =>
      cases b with
      | nan => rfl
      | infinite | finite => cases h
  | infinite s =>
      cases b with
      | nan => cases h
      | infinite t =>
          obtain ⟨n, hn, hrank⟩ := rank_infinite
          rw [hrank, hrank] at h
          rw [(signed_inj (hn 0 (Nat.zero_le _)) (Option.some.inj h)).1]
      | finite => exact absurd h (rank_finite_ne_infinite hb)
  | finite s m e =>
      cases b with
      | nan => cases h
      | infinite => exact absurd h.symm (rank_finite_ne_infinite ha)
      | finite t n f =>
          have hm : m ≠ 0 := by
            rintro rfl
            cases hzero
          have hpos := Nat.mul_pos (Nat.pos_of_ne_zero hm) (Nat.two_pow_pos e)
          obtain ⟨rfl, hsize⟩ := signed_inj hpos (Option.some.inj h)
          have hn : n ≠ 0 := by
            rintro rfl
            rw [Nat.zero_mul] at hsize
            exact Nat.ne_of_gt hpos hsize
          obtain ⟨rfl, rfl⟩ := (ha.resolve_left hm).eq (hb.resolve_left hn) hsize
          rfl

end Double

/-! ### Values -/

namespace Json

theorem Number.beq_comm : ∀ n m : Number, n.beq m = m.beq n
  | .int _, .int _ => Bool.beq_comm
  | .float x, .float y => Double.same_comm x y
  | .int _, .float _ | .float _, .int _ => rfl

theorem Number.rank_toDouble : ∀ {n m : Number}, n.beq m = true →
    n.toDouble.rank = m.toDouble.rank
  | .int _, .int _, h => by rw [eq_of_beq h]
  | .float _, .float _, h => Double.rank_eq_of_same h

theorem Number.beq_trans : ∀ {n m l : Number}, n.beq m = true → m.beq l = true → n.beq l = true
  | .int _, .int _, .int _, h, h' => beq_iff_eq.mpr ((eq_of_beq h).trans (eq_of_beq h'))
  | .float _, .float _, .float _, h, h' => by
      obtain ⟨x, hn, hm⟩ := Double.same_iff.mp h
      exact Double.same_iff.mpr ⟨x, hn, (Double.rank_eq_of_same h').symm.trans hm⟩

mutual
theorem beq_comm : ∀ a b : Json, beq a b = beq b a
  | .null, b => by cases b <;> rfl
  | .bool _, b => by
      cases b with
      | bool => exact Bool.beq_comm
      | _ => rfl
  | .num n, b => by
      cases b with
      | num m => exact Number.beq_comm n m
      | _ => rfl
  | .str _, b => by
      cases b with
      | str => exact Bool.beq_comm
      | _ => rfl
  | .arr as, b => by
      cases b with
      | arr bs => exact beqItems_comm as bs
      | _ => rfl
  | .obj as, b => by
      cases b with
      | obj bs => exact beqFields_comm as bs
      | _ => rfl

theorem beqItems_comm : ∀ as bs : List Json, beqItems as bs = beqItems bs as
  | [], [] => rfl
  | [], _ :: _ => rfl
  | _ :: _, [] => rfl
  | a :: as, b :: bs => by rw [beqItems, beqItems, beq_comm a b, beqItems_comm as bs]

theorem beqFields_comm : ∀ as bs : List (String × Json), beqFields as bs = beqFields bs as
  | [], [] => rfl
  | [], _ :: _ => rfl
  | _ :: _, [] => rfl
  | (k, a) :: as, (l, b) :: bs => by
      rw [beqFields, beqFields, beq_comm a b, beqFields_comm as bs, Bool.beq_comm]
end

mutual
theorem beq_trans : ∀ {a b c : Json}, beq a b = true → beq b c = true → beq a c = true
  | .null, .null, _, _, h' => h'
  | .bool _, .bool _, .bool _, h, h' => beq_iff_eq.mpr ((eq_of_beq h).trans (eq_of_beq h'))
  | .num _, .num _, .num _, h, h' => Number.beq_trans h h'
  | .str _, .str _, .str _, h, h' => beq_iff_eq.mpr ((eq_of_beq h).trans (eq_of_beq h'))
  | .arr as, .arr bs, .arr cs, h, h' => beqItems_trans as bs cs h h'
  | .obj as, .obj bs, .obj cs, h, h' => beqFields_trans as bs cs h h'

theorem beqItems_trans : ∀ as bs cs : List Json, beqItems as bs = true →
    beqItems bs cs = true → beqItems as cs = true
  | [], [], _, _, h' => h'
  | a :: as, b :: bs, c :: cs, h, h' => by
      rw [beqItems, Bool.and_eq_true] at h h' ⊢
      exact ⟨beq_trans h.1 h'.1, beqItems_trans as bs cs h.2 h'.2⟩

theorem beqFields_trans : ∀ as bs cs : List (String × Json), beqFields as bs = true →
    beqFields bs cs = true → beqFields as cs = true
  | [], [], _, _, h' => h'
  | (k, a) :: as, (l, b) :: bs, (m, c) :: cs, h, h' => by
      rw [beqFields, Bool.and_eq_true, Bool.and_eq_true] at h h' ⊢
      exact ⟨⟨beq_iff_eq.mpr ((eq_of_beq h.1.1).trans (eq_of_beq h'.1.1)),
        beq_trans h.1.2 h'.1.2⟩, beqFields_trans as bs cs h.2 h'.2⟩
end

/-- Equal values are equal to the same values. -/
theorem beq_congr_left {a b : Json} (h : (a == b) = true) (c : Json) : (a == c) = (b == c) := by
  have hback : beq b a = true := (beq_comm b a).trans h
  exact Bool.eq_iff_iff.mpr ⟨beq_trans hback, beq_trans h⟩

theorem beq_congr_right {a b : Json} (h : (a == b) = true) (c : Json) : (c == a) = (c == b) := by
  calc (c == a) = (a == c) := beq_comm c a
    _ = (b == c) := beq_congr_left h c
    _ = (c == b) := beq_comm b c

end Json

end Shortcuts
