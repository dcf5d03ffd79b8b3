/-!
Runs of a system that takes one step after the other. Where a single step keeps a property unless
it does something that breaks it, a whole run keeps the property exactly if no step in it does.
-/

namespace Shortcuts

variable {σ ι : Type}

theorem kept_foldl {step : σ → ι → σ} (Kept : σ → Prop) (hkept : ∀ s i, Kept s → Kept (step s i))
    {s : σ} (hs : Kept s) (is : List ι) :
    Kept (is.foldl step s) := by
  induction is generalizing s with
  | nil => exact hs
  | cons i is ih => exact ih (hkept s i hs)

/-- What one step brings about stays. -/
theorem foldl_turned {step : σ → ι → σ} {P Q : σ → Prop} {i : ι}
    (hbefore : ∀ s i, P s → P (step s i)) (hturn : ∀ s, P s → Q (step s i))
    (hafter : ∀ s i, Q s → Q (step s i)) {s : σ} (hs : P s) {is : List ι} (hi : i ∈ is) :
    Q (is.foldl step s) := by
  obtain ⟨earlier, later, rfl⟩ := List.append_of_mem hi
  rw [List.foldl_append, List.foldl_cons]
  exact kept_foldl Q hafter (hturn _ (kept_foldl P hbefore hs earlier)) later

theorem good_throughout_iff (step : σ → ι → σ) (Kept Good : σ → Prop) (Breaks : σ → ι → Prop)
    (hkept : ∀ s i, Kept s → Kept (step s i))
    (hstep : ∀ s i, Kept s → Good s → (Good (step s i) ↔ ¬ Breaks s i)) {s : σ} (hs : Kept s)
    (hgood : Good s) (is : List ι) :
    (∀ before, before <+: is → Good (before.foldl step s)) ↔
      ∀ before i, before ++ [i] <+: is → ¬ Breaks (before.foldl step s) i := by
  have hnext : ∀ before i, Good (before.foldl step s) →
      (Good ((before ++ [i]).foldl step s) ↔ ¬ Breaks (before.foldl step s) i) := by
    intro before i h
    rw [List.foldl_append]
    exact hstep _ i (kept_foldl Kept hkept hs before) h
  constructor
  · intro h before i hpart
    have hbefore := h before ((List.prefix_append before [i]).trans hpart)
    exact (hnext before i hbefore).mp (h _ hpart)
  · intro h before hpart
    -- the steps of the part are added at its end, one after the other
    suffices hrev : ∀ reversed : List ι, reversed.reverse <+: is →
        Good (reversed.reverse.foldl step s) by
      have := hrev before.reverse
      rw [List.reverse_reverse] at this
      exact this hpart
    intro reversed
    induction reversed with
    | nil => exact fun _ => hgood
    | cons i reversed ih =>
        intro hpart
        rw [List.reverse_cons] at hpart ⊢
        have hbefore := ih ((List.prefix_append _ [i]).trans hpart)
        exact (hnext _ i hbefore).mpr (h _ i hpart)

/-- What begins at a step of a run has not ended since the last one at which it began. -/
def Since (Begins Ends : List ι → ι → Prop) (is : List ι) : Prop :=
  ∃ earlier i later, is = earlier ++ i :: later ∧ Begins earlier i ∧
    ∀ part j, part ++ [j] <+: later → ¬ Ends (earlier ++ i :: part) j

theorem not_since_nil (Begins Ends : List ι → ι → Prop) : ¬ Since Begins Ends [] := by
  rintro ⟨earlier, i, later, h, -⟩
  exact absurd h.symm (List.append_ne_nil_of_right_ne_nil _ (List.cons_ne_nil _ _))

theorem since_concat {Begins Ends : List ι → ι → Prop} {is : List ι} {i : ι} :
    Since Begins Ends (is ++ [i]) ↔ Begins is i ∨ Since Begins Ends is ∧ ¬ Ends is i := by
  constructor
  · rintro ⟨earlier, j, later, hsplit, hbegins, hlasts⟩
    rcases List.eq_nil_or_concat later with rfl | ⟨later, k, rfl⟩
    · obtain ⟨rfl, hlast⟩ := List.append_inj' hsplit rfl
      cases hlast
      exact .inl hbegins
    · rw [List.concat_eq_append] at hsplit hlasts
      rw [← List.cons_append, ← List.append_assoc] at hsplit
      obtain ⟨rfl, hlast⟩ := List.append_inj' hsplit rfl
      cases hlast
      refine .inr ⟨⟨earlier, j, later, rfl, hbegins, fun part k hpart => ?_⟩,
        hlasts later i List.prefix_rfl⟩
      exact hlasts part k (hpart.trans (List.prefix_append later _))
  · rintro (hbegins | ⟨⟨earlier, j, later, rfl, hbegins, hlasts⟩, hend⟩)
    · refine ⟨is, i, [], rfl, hbegins, fun part j hpart => ?_⟩
      exact absurd (List.prefix_nil.mp hpart) (by simp)
    · refine ⟨earlier, j, later ++ [i], by simp, hbegins, fun part k hpart => ?_⟩
      rcases List.prefix_concat_iff.mp hpart with heq | hearlier
      · obtain ⟨rfl, hlast⟩ := List.append_inj' heq rfl
        cases hlast
        exact hend
      · exact hlasts part k hearlier

end Shortcuts
