import Shortcuts.Keymap.Basic

/-! What every operation of a keymap does to each of its tiers. -/

namespace Shortcuts.Keymap

/-- The entries of all tiers in the order in which they are considered. -/
def scan (m : Keymap) : List (Scope × Entry) :=
  Scope.strongestFirst.flatMap fun s => (m.tier s).map fun e => (s, e)

@[simp] theorem tier_withTier_self (m : Keymap) (s : Scope) (entries : List Entry) :
    (m.withTier s entries).tier s = entries := by
  cases s <;> rfl

theorem tier_withTier_of_ne {s t : Scope} (h : t ≠ s) (m : Keymap) (entries : List Entry) :
    (m.withTier s entries).tier t = m.tier t := by
  cases s <;> cases t <;> first | rfl | exact absurd rfl h

@[simp] theorem tier_clearResolved (m : Keymap) (s : Scope) :
    m.clearResolved.tier s = unresolve (m.tier s) := by
  cases s <;> rfl

@[simp] theorem tier_resolveAll (m : Keymap) (resolve : Binding → Option (List Chord)) (s : Scope) :
    (m.resolveAll resolve).tier s = (m.tier s).map (Entry.resolved resolve) := by
  cases s <;> rfl

@[simp] theorem tier_empty (s : Scope) : ({} : Keymap).tier s = [] := by
  cases s <;> rfl

@[simp] theorem binding_resolved (resolve : Binding → Option (List Chord)) (e : Entry) :
    (e.resolved resolve).binding = e.binding := by
  cases h : e.chords <;> simp [Entry.resolved, h]

theorem exists_last {α : Type} {p : α → Bool} {l : List α} (h : l.any p = true) :
    ∃ before x behind, l = before ++ x :: behind ∧ p x = true ∧ ∀ y ∈ behind, p y = false := by
  induction l with
  | nil => cases h
  | cons a l ih =>
      cases hl : l.any p with
      | true =>
          obtain ⟨before, x, behind, rfl, hx, hbehind⟩ := ih hl
          exact ⟨a :: before, x, behind, rfl, hx, hbehind⟩
      | false =>
          rw [List.any_cons, hl, Bool.or_false] at h
          exact ⟨[], a, l, rfl, h, by simpa using hl⟩

theorem takeWhile_behind {α : Type} {p : α → Bool} {x : α} {behind : List α} (hx : p x = true)
    (h : ∀ y ∈ behind, p y = false) (before : List α) :
    ((before ++ x :: behind).reverse.takeWhile (!p ·)).reverse = behind := by
  have hall : ∀ y ∈ behind.reverse, (!p y) = true := fun y hy => by
    rw [h y (List.mem_reverse.mp hy), Bool.not_false]
  rw [List.reverse_append, List.reverse_cons, List.append_assoc,
    List.takeWhile_append_of_pos hall, List.singleton_append,
    List.takeWhile_cons_of_neg (by simp [hx]), List.append_nil, List.reverse_reverse]

/-- A new entry comes behind the last one of as many chords if there is one, else to the end. -/
theorem place_cases (e : Entry) (entries : List Entry) :
    ∃ before behind, entries = before ++ behind ∧ place e entries = before ++ e :: behind ∧
      (∀ x ∈ behind, x.binding.strokes ≠ e.binding.strokes) ∧
      ((∃ rest x, before = rest ++ [x] ∧ x.binding.strokes = e.binding.strokes) ∨
        behind = [] ∧ ∀ x ∈ before, x.binding.strokes ≠ e.binding.strokes) := by
  let alike : Entry → Bool := fun x => decide (x.binding.strokes = e.binding.strokes)
  cases hany : entries.any alike with
  | true =>
      obtain ⟨rest, x, behind, rfl, hx, hbehind⟩ := exists_last hany
      refine ⟨rest ++ [x], behind, by simp, ?_, fun y hy => ?_, .inl ⟨rest, x, rfl, ?_⟩⟩
      · have hlast := takeWhile_behind hx hbehind rest
        simp only [place]
        have hlength : (rest ++ x :: behind).length - behind.length = (rest ++ [x]).length := by
          simp only [List.length_append, List.length_cons, List.length_nil]
          omega
        rw [if_pos hany, hlast, hlength, List.append_cons rest x behind, List.take_left]
      · exact of_decide_eq_false (hbehind y hy)
      · exact of_decide_eq_true hx
  | false =>
      have hother : ∀ x ∈ entries, x.binding.strokes ≠ e.binding.strokes := by
        simpa [alike] using hany
      have hplace : place e entries = entries ++ [e] := by
        simp only [place]
        exact if_neg (by rw [hany]; exact Bool.false_ne_true)
      exact ⟨entries, [], (List.append_nil entries).symm, hplace, nofun, .inr ⟨rfl, hother⟩⟩

theorem mem_place {x e : Entry} {entries : List Entry} :
    x ∈ place e entries ↔ x = e ∨ x ∈ entries := by
  obtain ⟨before, behind, rfl, hplace, -⟩ := place_cases e entries
  rw [hplace]
  simp [or_left_comm]

theorem tier_insert (m : Keymap) (s : Scope) (b : Binding) (chords : Option (List Chord))
    (t : Scope) : (m.insert s b chords).1.tier t =
      (m.withTier s (place ⟨m.next, b, chords⟩ (m.tier s))).tier t := by
  cases t <;> rfl

theorem mem_tier_insert {x : Entry} {m : Keymap} {s t : Scope} {b : Binding}
    {chords : Option (List Chord)} : x ∈ (m.insert s b chords).1.tier t ↔
      (t = s ∧ x = ⟨m.next, b, chords⟩) ∨ x ∈ m.tier t := by
  rw [tier_insert]
  by_cases h : t = s
  · subst t
    rw [tier_withTier_self, mem_place]
    simp
  · rw [tier_withTier_of_ne h]
    simp [h]

/-- Every entry of the first keymap stands in the same tier of the second. -/
def Within (m m' : Keymap) : Prop := ∀ s, ∀ x ∈ m.tier s, x ∈ m'.tier s

theorem within_withTier {m : Keymap} {s : Scope} {entries : List Entry}
    (h : ∀ x ∈ entries, x ∈ m.tier s) : (m.withTier s entries).Within m := by
  intro t x hx
  by_cases ht : t = s
  · subst t
    rw [tier_withTier_self] at hx
    exact h x hx
  · rwa [tier_withTier_of_ne ht] at hx

theorem within_remove (m : Keymap) (s : Scope) (id : Nat) : (m.remove s id).1.Within m :=
  within_withTier fun _ hx => (List.mem_filter.mp hx).1

theorem within_removeWhere (m : Keymap) (s : Scope) (test : Binding → Bool) :
    (m.removeWhere s test).1.Within m :=
  within_withTier fun _ hx => (List.mem_filter.mp hx).1

theorem within_clear (m : Keymap) (s : Scope) : (m.clear s).Within m :=
  within_withTier fun _ hx => by cases hx

end Shortcuts.Keymap
