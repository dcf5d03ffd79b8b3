import Shortcuts.Clause.Basic
import Shortcuts.Proofs.Json.Equality

/-!
Values that are equal are alike for clauses. Truth, equality, order and membership go by the size of
numbers; only a pattern, which is looked for in a text, can tell two equal values apart, and of the
numbers in standard form these are the two zeros.
-/

namespace Shortcuts

namespace Clause

/-- The same, or equal. A value with a NaN in it is not equal to itself. -/
inductive Alike : Option Json → Option Json → Prop
  | same (v : Option Json) : Alike v v
  | num {n m : Json.Number} (h : n.beq m = true) : Alike (some (.num n)) (some (.num m))
  | arr {as bs : List Json} (h : Json.beqItems as bs = true) :
      Alike (some (.arr as)) (some (.arr bs))
  | obj {as bs : List (String × Json)} (h : Json.beqFields as bs = true) :
      Alike (some (.obj as)) (some (.obj bs))

mutual
/-- The keys in whose values the clause looks for patterns. -/
def searches : Clause → List String
  | matching k _ _ => [k]
  | not c => searches c
  | all cs => searchesIn cs
  | any cs => searchesIn cs
  | _ => []

def searchesIn : List Clause → List String
  | [] => []
  | c :: cs => searches c ++ searchesIn cs
end

variable {v w v' w' : Option Json} {a b : Json}

theorem Alike.of_beq : ∀ {a b : Json}, a.beq b = true → Alike (some a) (some b)
  | .null, .null, _ => .same _
  | .bool x, .bool y, h => by
      obtain rfl : x = y := eq_of_beq h
      exact .same _
  | .num _, .num _, h => .num h
  | .str x, .str y, h => by
      obtain rfl : x = y := eq_of_beq h
      exact .same _
  | .arr _, .arr _, h => .arr h
  | .obj _, .obj _, h => .obj h

theorem Alike.exists_some (h : Alike (some a) w) : ∃ b, w = some b := by
  cases h <;> exact ⟨_, rfl⟩

/-! ### What is asked of values -/

theorem isTruthy_congr (h : Alike v w) : v.any isTruthy = w.any isTruthy := by
  cases h with
  | same | arr | obj => rfl
  | num h =>
      have hrank := Json.Number.rank_toDouble h
      rw [Option.any_some, Option.any_some, isTruthy, isTruthy, Double.isZero_congr hrank,
        Double.isNan_congr hrank]

theorem looseEqual_congr (h : Alike v w) (l : Literal) : looseEqual v l = looseEqual w l := by
  cases h with
  | same | arr | obj => rfl
  | num h => cases l <;> exact Double.same_congr (Json.Number.rank_toDouble h) _

theorem rank_strictNumber (h : Alike v w) : (strictNumber v).rank = (strictNumber w).rank := by
  cases h with
  | same | arr | obj => rfl
  | num h => exact Json.Number.rank_toDouble h

theorem Order.holds_congr {x y : Double} (h : x.rank = y.rank) (o : Order) (bound : Double) :
    o.holds x bound = o.holds y bound := by
  cases o with
  | greater => exact (Double.less_congr h bound).2
  | atLeast => exact (Double.atMost_congr h bound).2
  | less => exact (Double.less_congr h bound).1
  | atMost => exact (Double.atMost_congr h bound).1

/-! Membership -/

theorem contains_item_congr (h : (a == b) = true) (items : List Json) :
    items.contains a = items.contains b := by
  induction items with
  | nil => rfl
  | cons i items ih => rw [List.contains_cons, List.contains_cons, ih, Json.beq_congr_left h]

theorem contains_items_congr {items items' : List Json} (h : Json.beqItems items items' = true)
    (a : Json) : items.contains a = items'.contains a := by
  induction items generalizing items' with
  | nil =>
      cases items' with
      | nil => rfl
      | cons => cases h
  | cons i items ih =>
      cases items' with
      | nil => cases h
      | cons i' items' =>
          rw [Json.beqItems, Bool.and_eq_true] at h
          rw [List.contains_cons, List.contains_cons, ih h.2, Json.beq_congr_right h.1]

theorem lookup_fields_congr {fields fields' : List (String × Json)}
    (h : Json.beqFields fields fields' = true) (k : String) :
    (fields.lookup k).isSome = (fields'.lookup k).isSome := by
  induction fields generalizing fields' with
  | nil =>
      cases fields' with
      | nil => rfl
      | cons => cases h
  | cons f fields ih =>
      cases fields' with
      | nil => cases h
      | cons f' fields' =>
          obtain ⟨l, a⟩ := f
          obtain ⟨l', a'⟩ := f'
          rw [Json.beqFields, Bool.and_eq_true, Bool.and_eq_true] at h
          rw [List.lookup_cons, List.lookup_cons, eq_of_beq h.1.1]
          cases k == l' with
          | true => rfl
          | false => exact ih h.2

theorem contains_congr_source (h : Alike v v') (w : Option Json) :
    contains v w = contains v' w := by
  cases w with
  | none => cases h <;> rfl
  | some item =>
      cases h with
      | same | num => rfl
      | arr h => exact contains_items_congr h item
      | obj h =>
          cases item with
          | str k => exact lookup_fields_congr h k
          | _ => rfl

theorem contains_congr_item (h : Alike w w') (v : Option Json) :
    contains v w = contains v w' := by
  cases h with
  | same => rfl
  | num h | arr h | obj h =>
      cases v with
      | none => rfl
      | some source =>
          cases source with
          | arr items => exact contains_item_congr h items
          | _ => rfl

/-! Patterns -/

/-- A value that is a float is one in standard form. -/
def IsStandard : Option Json → Prop
  | some (.num (.float d)) => d.IsStandard
  | _ => True

/-- One is the zero without a sign, and the other the one with it. -/
def AreBothZeros (v w : Option Json) : Prop :=
  ∃ s e e', v = some (.num (.float (.finite s 0 e))) ∧ w = some (.num (.float (.finite (!s) 0 e')))

/-- Equal values have one text, but for the two zeros. -/
theorem zeros_of_searchedText_ne (hv : IsStandard v) (hw : IsStandard w) (h : Alike v w)
    (hne : searchedText v ≠ searchedText w) : AreBothZeros v w := by
  cases h with
  | same | arr | obj => exact absurd rfl hne
  | @num n m h =>
      match n, m, h with
      | .int _, .int _, h => exact absurd (eq_of_beq h ▸ rfl) hne
      | .float x, .float y, h =>
          have hrank := Double.rank_eq_of_same h
          cases hzero : x.isZero with
          | false => exact absurd (Double.eq_of_rank hv hw hrank hzero ▸ rfl) hne
          | true =>
              obtain ⟨s, e, rfl⟩ := Double.eq_finite_of_isZero hzero
              obtain ⟨t, f, rfl⟩ := Double.eq_finite_of_isZero (Double.isZero_congr hrank ▸ hzero)
              have hst : t = !s := by
                refine Bool.eq_not.mpr fun hts => hne ?_
                simp only [searchedText, Json.Number.text, Json.floatText, if_true, hts]
              exact ⟨s, e, f, rfl, hst ▸ rfl⟩

/-! ### Evaluation -/

mutual
/-- Alike values make no difference, unless a pattern is looked for in different texts. -/
theorem evaluate_congr {value value' : String → Option Json}
    (h : ∀ k, Alike (value k) (value' k)) : ∀ c : Clause,
    (∀ k ∈ c.searches, searchedText (value k) = searchedText (value' k)) →
      c.evaluate value = c.evaluate value'
  | always, _ => rfl
  | never, _ => rfl
  | defined k, _ => isTruthy_congr (h k)
  | not c, ht => congrArg Bool.not (evaluate_congr h c ht)
  | equals k l, _ => looseEqual_congr (h k) l
  | differs k l, _ => congrArg Bool.not (looseEqual_congr (h k) l)
  | compares o k bound, _ => o.holds_congr (rank_strictNumber (h k)) bound
  | matching k source flags, ht => by
      rw [evaluate, evaluate, matchesText, matchesText, ht k (.head _)]
  | isIn k source, _ =>
      (contains_congr_source (h source) _).trans (contains_congr_item (h k) _)
  | notIn k source, _ => congrArg Bool.not
      ((contains_congr_source (h source) _).trans (contains_congr_item (h k) _))
  | all cs, ht => evaluateAll_congr h cs ht
  | any cs, ht => evaluateAny_congr h cs ht

theorem evaluateAll_congr {value value' : String → Option Json}
    (h : ∀ k, Alike (value k) (value' k)) : ∀ cs : List Clause,
    (∀ k ∈ searchesIn cs, searchedText (value k) = searchedText (value' k)) →
      evaluateAll value cs = evaluateAll value' cs
  | [], _ => rfl
  | c :: cs, ht => by
      rw [searchesIn, List.forall_mem_append] at ht
      rw [evaluateAll, evaluateAll, evaluate_congr h c ht.1, evaluateAll_congr h cs ht.2]

theorem evaluateAny_congr {value value' : String → Option Json}
    (h : ∀ k, Alike (value k) (value' k)) : ∀ cs : List Clause,
    (∀ k ∈ searchesIn cs, searchedText (value k) = searchedText (value' k)) →
      evaluateAny value cs = evaluateAny value' cs
  | [], _ => rfl
  | c :: cs, ht => by
      rw [searchesIn, List.forall_mem_append] at ht
      rw [evaluateAny, evaluateAny, evaluate_congr h c ht.1, evaluateAny_congr h cs ht.2]
end

end Clause

end Shortcuts
