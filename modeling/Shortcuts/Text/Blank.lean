/-! Blank characters, and the cutting of a text at them. -/

namespace Shortcuts.Text

/-- The characters with the White_Space property. -/
def isBlank (c : Char) : Bool :=
  let n := c.toNat
  (9 ≤ n && n ≤ 13) || n == 0x20 || n == 0x85 || n == 0xA0 || n == 0x1680 ||
    (0x2000 ≤ n && n ≤ 0x200A) || n == 0x2028 || n == 0x2029 || n == 0x202F || n == 0x205F ||
    n == 0x3000

/-- Drops the characters of a class from both ends. -/
def trimBy (p : Char → Bool) (s : List Char) : List Char :=
  ((s.dropWhile p).reverse.dropWhile p).reverse

def trim (s : List Char) : List Char := trimBy isBlank s

/-- The pieces between the characters of a class; one more than there are such characters. -/
def splitBy (p : Char → Bool) : List Char → List (List Char)
  | [] => [[]]
  | c :: s =>
    if p c then [] :: splitBy p s
    else match splitBy p s with
      | [] => [[c]]
      | w :: ws => (c :: w) :: ws

theorem splitBy_ne_nil (p : Char → Bool) (s : List Char) : splitBy p s ≠ [] := by
  cases s with
  | nil => simp [splitBy]
  | cons c s =>
    by_cases h : p c
    · simp [splitBy, h]
    · cases hs : splitBy p s <;> simp [splitBy, h, hs]

/-- No piece has a character of the class. -/
theorem not_of_mem_splitBy {p : Char → Bool} {s w : List Char} (hw : w ∈ splitBy p s) :
    ∀ c ∈ w, p c = false := by
  induction s generalizing w with
  | nil => simp_all [splitBy]
  | cons x s ih =>
    by_cases hx : p x
    · simp only [splitBy, hx, if_true, List.mem_cons] at hw
      rcases hw with rfl | hw
      · simp
      · exact ih hw
    · obtain ⟨v, vs, hv⟩ := List.exists_cons_of_ne_nil (splitBy_ne_nil p s)
      simp only [splitBy, hx, hv, Bool.false_eq_true, if_false, List.mem_cons] at hw
      rcases hw with rfl | hw
      · intro c hc
        rcases List.mem_cons.1 hc with rfl | hc
        · simpa using hx
        · exact ih (hv ▸ List.mem_cons_self) c hc
      · exact ih (hv ▸ List.mem_cons_of_mem _ hw)

/-- The maximal runs of characters that are not blank. -/
def words (s : List Char) : List (List Char) :=
  (splitBy isBlank s).filter (!·.isEmpty)

theorem mem_words {s w : List Char} (h : w ∈ words s) : w ≠ [] ∧ ∀ c ∈ w, isBlank c = false := by
  obtain ⟨hw, hne⟩ := List.mem_filter.1 h
  exact ⟨by simpa using hne, not_of_mem_splitBy hw⟩

end Shortcuts.Text
