import Mathlib.Data.List.Perm.Subperm
import Mathlib.Data.List.Nodup

/-!
Climbing by pointers. A function says for some things which one is above them; a climb takes a
number of steps. Where no climb comes back to its start, climbs are no longer than there are
things below others, so a search that goes up with as much fuel never runs out of it.
-/

namespace Shortcuts

variable {α : Type}

/-- `Climbs above x n y`: from `x` it is `n` steps up to `y`. -/
inductive Climbs (above : α → Option α) : α → Nat → α → Prop
  | start (x : α) : Climbs above x 0 x
  | up {x y z : α} {n : Nat} (h : Climbs above x n y) (hy : above y = some z) :
      Climbs above x (n + 1) z

/-- Nothing is above itself. -/
def Acyclic (above : α → Option α) : Prop := ∀ x n, ¬ Climbs above x (n + 1) x

/-- No climb from `x` takes `fuel` steps. -/
def EndsWithin (above : α → Option α) (fuel : Nat) (x : α) : Prop :=
  ∀ n y, Climbs above x n y → n < fuel

namespace Climbs

variable {f g : α → Option α} {x y z p : α} {m n : Nat}

theorem trans (h : Climbs f x m y) (h' : Climbs f y n z) : Climbs f x (m + n) z := by
  induction h' with
  | start => exact h
  | up _ hz ih => exact ih.up hz

theorem of_above (hx : f x = some y) (h : Climbs f y n z) : Climbs f x (n + 1) z := by
  have := (Climbs.up (.start x) hx).trans h
  rwa [Nat.zero_add, Nat.add_comm] at this

theorem above (h : Climbs f x (n + 1) z) : ∃ y, f x = some y ∧ Climbs f y n z := by
  induction n generalizing z with
  | zero =>
      cases h with
      | up h hz =>
          cases h
          exact ⟨z, hz, .start z⟩
  | succ n ih =>
      cases h with
      | up h hz =>
          obtain ⟨y, hy, hyz⟩ := ih h
          exact ⟨y, hy, hyz.up hz⟩

/-- The longer of two climbs from one start goes on where the other ends. -/
theorem resume (h : Climbs f x m y) (h' : Climbs f x (m + n) z) : Climbs f y n z := by
  induction m generalizing x with
  | zero =>
      cases h
      rwa [Nat.zero_add] at h'
  | succ m ih =>
      obtain ⟨w, hw, hwy⟩ := h.above
      rw [Nat.succ_add] at h'
      obtain ⟨w', hw', hwz⟩ := h'.above
      rw [hw] at hw'
      cases hw'
      exact ih hwy hwz

theorem unique (h : Climbs f x n y) (h' : Climbs f x n z) : y = z := by
  have hend : Climbs f y 0 z := h.resume h'
  cases hend
  rfl

theorem mono (hfg : ∀ x y, f x = some y → g x = some y) (h : Climbs f x n y) :
    Climbs g x n y := by
  induction h with
  | start => exact .start x
  | up _ hy ih => exact ih.up (hfg _ _ hy)

/-- What is above a thing does not count for how far it is to this thing. -/
theorem of_agree (hfg : ∀ y, y ≠ x → g y = f y) (h : Climbs f p n x) :
    ∃ m, Climbs g p m x := by
  induction n generalizing p with
  | zero =>
      cases h
      exact ⟨0, .start x⟩
  | succ n ih =>
      by_cases hp : p = x
      · subst hp
        exact ⟨0, .start p⟩
      · obtain ⟨q, hq, hqx⟩ := h.above
        obtain ⟨m, hm⟩ := ih hqx
        exact ⟨m + 1, hm.of_above ((hfg p hp).trans hq)⟩

/-- A climb after `x` was put below `p` is one from before, or it goes over `x` and `p`. -/
theorem split (hfg : ∀ y, y ≠ x → g y = f y) (hx : g x = some p) (h : Climbs g y n z) :
    Climbs f y n z ∨ ∃ k m, Climbs g y k x ∧ Climbs g p m z := by
  induction h with
  | start => exact .inl (.start y)
  | @up w z n h hz ih =>
      rcases ih with ih | ⟨k, m, hk, hm⟩
      · by_cases hw : w = x
        · subst hw
          rw [hx] at hz
          cases hz
          exact .inr ⟨n, 0, h, .start p⟩
        · exact .inl (ih.up ((hfg w hw).symm.trans hz))
      · exact .inr ⟨k, m + 1, hk, hm.up hz⟩

/-- The things that a climb passes are different ones where none of them is above itself, so they
are no more than there are. -/
theorem steps_le (hf : ∀ m y n, Climbs f x m y → ¬ Climbs f y (n + 1) y) {xs : List α}
    (hxs : ∀ y z, f y = some z → y ∈ xs) (h : Climbs f x n y) : n ≤ xs.length := by
  -- those passed so far are below where the climb has come to, which is not one of them
  have hpassed : ∃ ys : List α, ys.length = n ∧ ys.Nodup ∧ ys ⊆ xs ∧
      ∀ z ∈ ys, ∃ m, Climbs f z (m + 1) y := by
    induction h with
    | start => exact ⟨[], rfl, .nil, List.nil_subset _, by simp⟩
    | @up y z n h hz ih =>
        obtain ⟨ys, hlen, hnodup, hsub, hbelow⟩ := ih
        have hy : y ∉ ys := fun hy => by
          obtain ⟨m, hm⟩ := hbelow y hy
          exact hf n y m h hm
        refine ⟨y :: ys, congrArg (· + 1) hlen, List.nodup_cons.mpr ⟨hy, hnodup⟩,
          List.cons_subset.mpr ⟨hxs y z hz, hsub⟩, List.forall_mem_cons.mpr ⟨?_, ?_⟩⟩
        · exact ⟨0, (Climbs.start y).up hz⟩
        · intro w hw
          obtain ⟨m, hm⟩ := hbelow w hw
          exact ⟨m + 1, hm.up hz⟩
  obtain ⟨ys, hlen, hnodup, hsub, -⟩ := hpassed
  rw [← hlen]
  exact (hnodup.subperm hsub).length_le

end Climbs

namespace Acyclic

variable {f g : α → Option α} {x y p : α} {m n : Nat}

theorem mono (hf : Acyclic f) (hgf : ∀ x y, g x = some y → f x = some y) : Acyclic g :=
  fun x n h => hf x n (h.mono hgf)

/-- Putting `x` below `p` closes a loop exactly if `p` is `x` or below it. -/
theorem iff_of_agree (hf : Acyclic f) (hfg : ∀ y, y ≠ x → g y = f y) (hx : g x = some p) :
    Acyclic g ↔ ¬ ∃ n, Climbs f p n x := by
  constructor
  · rintro hg ⟨n, h⟩
    obtain ⟨m, hm⟩ := h.of_agree hfg
    exact hg x m (hm.of_above hx)
  · intro h z n hz
    rcases hz.split hfg hx with hz | ⟨k, m, hk, hm⟩
    · exact hf z n hz
    · have hback : ∀ y, y ≠ x → f y = g y := fun y hy => (hfg y hy).symm
      obtain ⟨l, hl⟩ := (hm.trans hk).of_agree hback
      exact h ⟨l, hl⟩

/-- A climb that ends at `x` or below does not pass what is above `x`. -/
theorem climbs_of_agree {w z : α} (hf : Acyclic f) (hfg : ∀ y, y ≠ x → g y = f y)
    (h : Climbs f w m z) (hz : Climbs f z n x) : Climbs g w m z := by
  induction h generalizing n with
  | start => exact .start w
  | @up y z m h hy ih =>
      have hyx := hz.of_above hy
      have hne : y ≠ x := by
        rintro rfl
        exact hf y n hyx
      exact (ih hyx).up ((hfg y hne).trans hy)

theorem steps_unique (hf : Acyclic f) (h : Climbs f x m y) (h' : Climbs f x n y) : m = n := by
  rcases Nat.lt_trichotomy m n with hlt | heq | hlt
  · obtain ⟨k, rfl⟩ := Nat.exists_eq_add_of_lt hlt
    exact absurd (h.resume h') (hf y k)
  · exact heq
  · obtain ⟨k, rfl⟩ := Nat.exists_eq_add_of_lt hlt
    exact absurd (h'.resume h) (hf y k)

theorem endsWithin (hf : Acyclic f) {xs : List α} (hxs : ∀ x y, f x = some y → x ∈ xs) (x : α) :
    EndsWithin f (xs.length + 1) x :=
  fun _ _ h => Nat.lt_succ_of_le (h.steps_le (fun _ y n _ => hf y n) hxs)

end Acyclic

namespace EndsWithin

variable {f : α → Option α} {fuel m n : Nat} {x y : α}

theorem above (h : EndsWithin f (fuel + 1) x) (hy : f x = some y) : EndsWithin f fuel y :=
  fun n z hz => Nat.lt_of_succ_lt_succ (h (n + 1) z (hz.of_above hy))

theorem of_above (h : ∀ y, f x = some y → EndsWithin f fuel y) : EndsWithin f (fuel + 1) x := by
  intro n z hz
  cases n with
  | zero => exact Nat.succ_pos fuel
  | succ n =>
      obtain ⟨y, hy, hyz⟩ := hz.above
      exact Nat.succ_lt_succ (h y hy n z hyz)

theorem ne_zero : ¬ EndsWithin f 0 x := fun h => Nat.not_lt_zero 0 (h 0 x (.start x))

/-- From what is above itself there are climbs of any length. -/
theorem not_loop (h : EndsWithin f fuel x) (hxy : Climbs f x m y) : ¬ Climbs f y (n + 1) y := by
  intro hloop
  have hround : ∀ k, ∃ l, k ≤ l ∧ Climbs f y l y := by
    intro k
    induction k with
    | zero => exact ⟨0, Nat.le_refl 0, .start y⟩
    | succ k ih =>
        obtain ⟨l, hl, hyy⟩ := ih
        exact ⟨l + (n + 1), by omega, hyy.trans hloop⟩
  obtain ⟨l, hl, hyy⟩ := hround fuel
  have hlt := h (m + l) y (hxy.trans hyy)
  omega

/-- As much fuel as there are things below others is enough, if any is. -/
theorem bounded (h : EndsWithin f fuel x) {xs : List α} (hxs : ∀ y z, f y = some z → y ∈ xs) :
    EndsWithin f (xs.length + 1) x :=
  fun _ _ hy => Nat.lt_succ_of_le (hy.steps_le (fun _ _ _ hxy => h.not_loop hxy) hxs)

end EndsWithin

end Shortcuts
