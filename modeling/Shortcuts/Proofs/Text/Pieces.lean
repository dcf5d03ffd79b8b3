import Mathlib.Data.List.Induction
import Shortcuts.Text.Blank

/-!
Texts that are cut at separators. Pieces without a separator, joined by one, are cut into the same
pieces again, and so are words that are joined by blanks.
-/

namespace Shortcuts.Text

variable {p : Char → Bool} {sep : Char} {s w : List Char} {ws : List (List Char)}

theorem splitBy_of_not (h : ∀ c ∈ w, p c = false) : splitBy p w = [w] := by
  induction w with
  | nil => rfl
  | cons c w ih =>
      obtain ⟨hc, hw⟩ := List.forall_mem_cons.mp h
      simp [splitBy, hc, ih hw]

theorem splitBy_append (h : ∀ c ∈ w, p c = false) (hsep : p sep = true) (s : List Char) :
    splitBy p (w ++ sep :: s) = w :: splitBy p s := by
  induction w with
  | nil => simp [splitBy, hsep]
  | cons c w ih =>
      obtain ⟨hc, hw⟩ := List.forall_mem_cons.mp h
      simp [splitBy, hc, ih hw]

theorem splitBy_intercalate (hsep : p sep = true) (hne : ws ≠ [])
    (h : ∀ w ∈ ws, ∀ c ∈ w, p c = false) : splitBy p ([sep].intercalate ws) = ws := by
  induction ws with
  | nil => exact absurd rfl hne
  | cons w ws ih =>
      obtain ⟨hw, hws⟩ := List.forall_mem_cons.mp h
      cases ws with
      | nil =>
          rw [List.intercalate_singleton]
          exact splitBy_of_not hw
      | cons w' ws =>
          rw [List.intercalate_cons_cons, List.append_assoc, List.singleton_append,
            splitBy_append hw hsep, ih (List.cons_ne_nil w' ws) hws]

theorem intercalate_splitBy (sep : Char) (s : List Char) :
    [sep].intercalate (splitBy (· = sep) s) = s := by
  induction s with
  | nil => rfl
  | cons c s ih =>
      obtain ⟨w, ws, hws⟩ := List.exists_cons_of_ne_nil (splitBy_ne_nil (· = sep) s)
      rw [hws] at ih
      by_cases hc : c = sep
      · rw [splitBy, if_pos (decide_eq_true hc), hws, List.intercalate_cons_cons, ih, hc]
        rfl
      · rw [splitBy, if_neg (by simpa using hc), hws]
        cases ws with
        | nil => exact congrArg (c :: ·) ih
        | cons w' ws =>
            rw [List.intercalate_cons_cons] at ih ⊢
            exact congrArg (c :: ·) ih

theorem mem_intercalate {c : Char} (h : c ∈ [sep].intercalate ws) :
    c = sep ∨ ∃ w ∈ ws, c ∈ w := by
  induction ws with
  | nil => cases h
  | cons w ws ih =>
      cases ws with
      | nil =>
          rw [List.intercalate_singleton] at h
          exact .inr ⟨w, .head _, h⟩
      | cons w' ws =>
          rw [List.intercalate_cons_cons, List.append_assoc, List.singleton_append] at h
          rcases List.mem_append.mp h with h | h
          · exact .inr ⟨w, .head _, h⟩
          · rcases List.mem_cons.mp h with h | h
            · exact .inl h
            · exact (ih h).imp_right fun ⟨v, hv, hc⟩ => ⟨v, .tail _ hv, hc⟩

/-- A character behind a text that does not cut it goes to the last piece. -/
theorem splitBy_concat {c : Char} (hc : p c = false) (s : List Char) : ∃ before last,
    splitBy p s = before ++ [last] ∧ splitBy p (s ++ [c]) = before ++ [last ++ [c]] := by
  induction s with
  | nil => exact ⟨[], [], rfl, by simp [splitBy, hc]⟩
  | cons x s ih =>
      obtain ⟨before, last, hs, hconcat⟩ := ih
      cases hx : p x with
      | true => exact ⟨[] :: before, last, by simp [splitBy, hx, hs], by simp [splitBy, hx, hconcat]⟩
      | false =>
          cases before with
          | nil => exact ⟨[], x :: last, by simp [splitBy, hx, hs], by simp [splitBy, hx, hconcat]⟩
          | cons w before =>
              exact ⟨(x :: w) :: before, last, by simp [splitBy, hx, hs],
                by simp [splitBy, hx, hconcat]⟩

/-! ### Blanks -/

theorem trim_cons {c : Char} (hc : isBlank c = true) (s : List Char) : trim (c :: s) = trim s := by
  rw [trim, trimBy, List.dropWhile_cons_of_pos hc]
  rfl

theorem trim_concat {c : Char} (hc : isBlank c = true) (s : List Char) :
    trim (s ++ [c]) = trim s := by
  rw [trim, trimBy, List.dropWhile_append]
  split
  · next h =>
      rw [List.isEmpty_iff] at h
      simp [trim, trimBy, h, hc]
  · rw [List.reverse_append, List.reverse_singleton, List.singleton_append,
      List.dropWhile_cons_of_pos hc]
    rfl

/-- Blanks at the ends of a text do not count for its trimmed pieces. -/
theorem map_trim_splitBy_trim (hp : ∀ c, isBlank c = true → p c = false) (s : List Char) :
    (splitBy p (trim s)).map trim = (splitBy p s).map trim := by
  have hfront : ∀ s, (splitBy p (s.dropWhile isBlank)).map trim = (splitBy p s).map trim := by
    intro s
    induction s with
    | nil => rfl
    | cons c s ih =>
        cases hc : isBlank c with
        | false => rw [List.dropWhile_cons_of_neg (by simp [hc])]
        | true =>
            obtain ⟨w, ws, hs⟩ := List.exists_cons_of_ne_nil (splitBy_ne_nil p s)
            rw [List.dropWhile_cons_of_pos hc, ih, hs]
            simp [splitBy, hp c hc, hs, trim_cons hc]
  have hback : ∀ s, (splitBy p (s.reverse.dropWhile isBlank).reverse).map trim =
      (splitBy p s).map trim := by
    intro s
    induction s using List.reverseRecOn with
    | nil => rfl
    | append_singleton s c ih =>
        rw [List.reverse_append, List.reverse_singleton, List.singleton_append]
        cases hc : isBlank c with
        | false =>
            rw [List.dropWhile_cons_of_neg (by simp [hc]), List.reverse_cons, List.reverse_reverse]
        | true =>
            obtain ⟨before, last, hs, hconcat⟩ := splitBy_concat (hp c hc) s
            rw [List.dropWhile_cons_of_pos hc, ih, hs, hconcat]
            simp [trim_concat hc]
  rw [trim, trimBy, hback, hfront]

theorem trim_of_not_blank (h : ∀ c ∈ s, isBlank c = false) : trim s = s := by
  have hdrop : ∀ s : List Char, (∀ c ∈ s, isBlank c = false) → s.dropWhile isBlank = s := by
    intro s hs
    cases s with
    | nil => rfl
    | cons c s => rw [List.dropWhile_cons_of_neg (by simp [hs c (.head _)])]
  rw [trim, trimBy, hdrop s h, hdrop s.reverse fun c hc => h c (List.mem_reverse.mp hc),
    List.reverse_reverse]

theorem words_intercalate (hne : ∀ w ∈ ws, w ≠ []) (h : ∀ w ∈ ws, ∀ c ∈ w, isBlank c = false) :
    words ([' '].intercalate ws) = ws := by
  cases ws with
  | nil => rfl
  | cons w ws =>
      rw [words, splitBy_intercalate (by decide) (List.cons_ne_nil w ws) h, List.filter_eq_self]
      intro v hv
      simpa using hne v hv

end Shortcuts.Text
