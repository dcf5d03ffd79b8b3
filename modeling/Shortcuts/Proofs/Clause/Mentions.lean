import Shortcuts.Proofs.Clause.Congruence
import Shortcuts.Proofs.Fields

/-!
The keys of a clause are all that its outcome depends on. Two contexts that see alike values of
them, and the same text wherever a pattern is looked for, answer the clause alike, whatever they
see of other keys.
-/

namespace Shortcuts.Clause

variable {value value' : String → Option Json} {v w : Option Json} {k : String}

theorem mem_keys (c : Clause) : k ∈ c.keys ↔ k ∈ c.mentions := mem_sortedKeys _ _

/-! ### What is read -/

mutual
theorem mem_mentions_of_mem_lookups : ∀ c : Clause, k ∈ c.lookups value → k ∈ c.mentions
  | always, h | never, h => by cases h
  | defined _, h | equals _ _, h | differs _ _, h | compares _ _ _, h | matching _ _ _, h
  | isIn _ _, h | notIn _ _, h => h
  | not c, h => mem_mentions_of_mem_lookups c h
  | all cs, h => mem_mentionsIn_of_mem_lookupsAll cs h
  | any cs, h => mem_mentionsIn_of_mem_lookupsAny cs h

theorem mem_mentionsIn_of_mem_lookupsAll :
    ∀ cs : List Clause, k ∈ lookupsAll value cs → k ∈ mentionsIn cs
  | [], h => by cases h
  | c :: cs, h => by
      rw [lookupsAll, List.mem_append] at h
      rw [mentionsIn, List.mem_append]
      refine h.imp (mem_mentions_of_mem_lookups c) fun h => ?_
      split at h
      · exact mem_mentionsIn_of_mem_lookupsAll cs h
      · cases h

theorem mem_mentionsIn_of_mem_lookupsAny :
    ∀ cs : List Clause, k ∈ lookupsAny value cs → k ∈ mentionsIn cs
  | [], h => by cases h
  | c :: cs, h => by
      rw [lookupsAny, List.mem_append] at h
      rw [mentionsIn, List.mem_append]
      refine h.imp (mem_mentions_of_mem_lookups c) fun h => ?_
      split at h
      · cases h
      · exact mem_mentionsIn_of_mem_lookupsAny cs h
end

mutual
theorem mem_mentions_of_mem_searches : ∀ c : Clause, k ∈ c.searches → k ∈ c.mentions
  | matching _ _ _, h => h
  | not c, h => mem_mentions_of_mem_searches c h
  | all cs, h => mem_mentionsIn_of_mem_searchesIn cs h
  | any cs, h => mem_mentionsIn_of_mem_searchesIn cs h
  | always, h | never, h | defined _, h | equals _ _, h | differs _ _, h | compares _ _ _, h
  | isIn _ _, h | notIn _ _, h => by cases h

theorem mem_mentionsIn_of_mem_searchesIn :
    ∀ cs : List Clause, k ∈ searchesIn cs → k ∈ mentionsIn cs
  | [], h => by cases h
  | c :: cs, h => by
      rw [searchesIn, List.mem_append] at h
      rw [mentionsIn, List.mem_append]
      exact h.imp (mem_mentions_of_mem_searches c) (mem_mentionsIn_of_mem_searchesIn cs)
end

/-! ### What counts -/

mutual
theorem evaluate_eq_of_mentions : ∀ c : Clause, (∀ k ∈ c.mentions, value k = value' k) →
    c.evaluate value = c.evaluate value'
  | always, _ | never, _ => rfl
  | not c, h => congrArg Bool.not (evaluate_eq_of_mentions c h)
  | all cs, h => evaluateAll_eq_of_mentions cs h
  | any cs, h => evaluateAny_eq_of_mentions cs h
  | defined k, h | equals k _, h | differs k _, h | compares _ k _, h | matching k _ _, h => by
      simp only [evaluate, h k (.head _)]
  | isIn k source, h | notIn k source, h => by
      simp only [evaluate, h k (.head _), h source (.tail _ (.head _))]

theorem evaluateAll_eq_of_mentions : ∀ cs : List Clause,
    (∀ k ∈ mentionsIn cs, value k = value' k) → evaluateAll value cs = evaluateAll value' cs
  | [], _ => rfl
  | c :: cs, h => by
      rw [mentionsIn, List.forall_mem_append] at h
      rw [evaluateAll, evaluateAll, evaluate_eq_of_mentions c h.1,
        evaluateAll_eq_of_mentions cs h.2]

theorem evaluateAny_eq_of_mentions : ∀ cs : List Clause,
    (∀ k ∈ mentionsIn cs, value k = value' k) → evaluateAny value cs = evaluateAny value' cs
  | [], _ => rfl
  | c :: cs, h => by
      rw [mentionsIn, List.forall_mem_append] at h
      rw [evaluateAny, evaluateAny, evaluate_eq_of_mentions c h.1,
        evaluateAny_eq_of_mentions cs h.2]
end

theorem evaluate_eq_of_keys (c : Clause) (halike : ∀ k ∈ c.keys, Alike (value k) (value' k))
    (htexts : ∀ k ∈ c.searches, searchedText (value k) = searchedText (value' k)) :
    c.evaluate value = c.evaluate value' := by
  -- of the other keys the values of both sides are taken to be the same
  let mixed (k : String) : Option Json := if k ∈ c.mentions then value' k else value k
  have hmixed : ∀ k ∈ c.mentions, mixed k = value' k := fun k hk => if_pos hk
  rw [← evaluate_eq_of_mentions c hmixed]
  apply evaluate_congr
  · intro k
    by_cases hk : k ∈ c.mentions
    · rw [hmixed k hk]
      exact halike k (c.mem_keys.mpr hk)
    · rw [show mixed k = value k from if_neg hk]
      exact .same _
  · intro k hk
    rw [hmixed k (mem_mentions_of_mem_searches c hk)]
    exact htexts k hk

/-! ### Answers that differ -/

theorem Alike.of_eq (h : (v == w) = true) : Alike v w := by
  match v, w, h with
  | none, none, _ => exact .same none
  | some a, some b, h => exact .of_beq h

/-- Two values that are equal, but have different texts. -/
structure PassesUnseen (v w : Option Json) : Prop where
  equal : (v == w) = true
  texts : searchedText v ≠ searchedText w
  zeros : IsStandard v → IsStandard w → AreBothZeros v w

/-- Where a clause is answered otherwise a key of it has another value, or the clause looks for a
pattern where the text is another one though the value is equal. -/
theorem exists_of_evaluate_ne {c : Clause} (h : c.evaluate value ≠ c.evaluate value') :
    (∃ k ∈ c.keys, value k ≠ value' k ∧ (value k == value' k) = false) ∨
      ∃ k ∈ c.searches, PassesUnseen (value k) (value' k) := by
  by_contra hnone
  push Not at hnone
  obtain ⟨hkeys, hsearches⟩ := hnone
  have halike : ∀ k ∈ c.keys, Alike (value k) (value' k) := by
    intro k hk
    by_cases heq : value k = value' k
    · rw [heq]
      exact .same _
    · exact .of_eq (Bool.not_eq_false _ ▸ hkeys k hk heq)
  apply h
  apply evaluate_eq_of_keys c halike
  intro k hk
  by_contra htexts
  have hmem : k ∈ c.keys := c.mem_keys.mpr (mem_mentions_of_mem_searches c hk)
  have hne : value k ≠ value' k := fun heq => htexts (by rw [heq])
  exact hsearches k hk
    { equal := Bool.not_eq_false _ ▸ hkeys k hmem hne
      texts := htexts
      zeros := fun hv hw => zeros_of_searchedText_ne hv hw (halike k hmem) htexts }

end Shortcuts.Clause
