import Shortcuts.Proofs.Clause.Spelling
import Shortcuts.Proofs.Text.Pieces

/-!
Reading the text of a clause. The tokens that it is meant to have can be derived, a derivation for
each phrase of the clause, so its text is read as a clause that is equal to it.
-/

namespace Shortcuts.Clause

open Grammar

/-! ### Equal clauses -/

theorem joins_of_same (k : Connective) {c d : Clause} (h : c.same d = true) :
    k.joins d = k.joins c := by
  cases k <;> cases c <;> cases d <;> first | rfl | simp [same] at h

theorem isTight_of_joins {k : Connective} {c : Clause} (h : k.joins c = true) :
    c.isTight = false := by
  cases k <;> cases c <;> first | rfl | cases h

theorem length_of_sameAll {cs ds : List Clause} (h : sameAll cs ds = true) :
    ds.length = cs.length := by
  induction cs generalizing ds with
  | nil => cases ds with
    | nil => rfl
    | cons d ds => cases h
  | cons c cs ih => cases ds with
    | nil => cases h
    | cons d ds =>
        rw [sameAll, Bool.and_eq_true] at h
        exact congrArg (· + 1) (ih h.2)

theorem group_of_length (k : Connective) {cs : List Clause} (h : 2 ≤ cs.length) :
    k.group cs = k.join cs := by
  match cs, h with
  | _ :: _ :: _, _ => rfl

theorem flat_join (k : Connective) (cs : List Clause) :
    (k.join cs).flat = k.group (flatMembers k cs) := by cases k <;> rfl

theorem joins_join (k : Connective) (cs : List Clause) : k.joins (k.join cs) = true := by
  cases k <;> rfl

theorem members_eq {k : Connective} {c : Clause} (h : k.joins c = false) : k.members c = [c] := by
  rcases members_cases k c with ⟨cs, rfl, -⟩ | ⟨-, hm⟩
  · rw [joins_join] at h
    cases h
  · exact hm

/-! ### Phrases -/

/-- The tokens of `c` are `ts`, and `d` is equal to `c` once it is flat. -/
structure Rereads (c : Clause) (ts : List Token) (d : Clause) : Prop where
  tokens : ts = c.tokens
  same : c.same d.flat = true

/-- A derivation of the tokens of a clause, of the least kind of phrase that it can be. -/
inductive HasPhrase (c : Clause) : Prop
  | unary (u : Unary) (h : Rereads c u.tokens u.clause)
      (hand : Connective.and.joins c = false) (hor : Connective.or.joins c = false)
  | conjunction (k : Conjunction) (h : Rereads c k.tokens k.clause)
      (hand : Connective.and.joins c = true) (hor : Connective.or.joins c = false)
  | disjunction (d : Disjunction) (h : Rereads c d.tokens d.clause)
      (hor : Connective.or.joins c = true)

theorem Rereads.single {c d : Clause} {ts : List Token} (h : Rereads c ts d) {k : Connective}
    (hk : k.joins c = false) : Rereads c ts (k.join [d]) where
  tokens := h.tokens
  same := by
    have hd : k.joins d.flat = false := (joins_of_same k h.same).trans hk
    rw [flat_join, flatMembers, flatMembers, List.append_nil, members_eq hd]
    exact h.same

namespace HasPhrase

variable {c : Clause}

theorem exists_conjunction (h : HasPhrase c) (hor : Connective.or.joins c = false) :
    ∃ k : Conjunction, Rereads c k.tokens k.clause := by
  cases h with
  | unary u h hand _ =>
      refine ⟨.single u, ?_⟩
      rw [Conjunction.tokens]
      exact h.single hand
  | conjunction k h => exact ⟨k, h⟩
  | disjunction d h hor' => rw [hor] at hor'; cases hor'

theorem exists_disjunction (h : HasPhrase c) :
    ∃ d : Disjunction, Rereads c d.tokens d.clause := by
  by_cases hor : Connective.or.joins c = false
  · obtain ⟨k, hk⟩ := h.exists_conjunction hor
    refine ⟨.single k, ?_⟩
    rw [Disjunction.tokens]
    exact hk.single hor
  · cases h with
    | unary _ _ _ hor' | conjunction _ _ _ hor' => exact absurd hor' hor
    | disjunction d h _ => exact ⟨d, h⟩

theorem exists_group (h : HasPhrase c) : ∃ u : Unary,
    u.tokens = .opening :: (c.tokens ++ [.closing]) ∧ c.same u.clause.flat = true := by
  obtain ⟨d, hd⟩ := h.exists_disjunction
  exact ⟨.group d, by rw [Unary.tokens, hd.tokens], hd.same⟩

/-- A member of a conjunction, between parentheses if it is a disjunction. -/
theorem exists_member (h : HasPhrase c) (hand : Connective.and.joins c = false) : ∃ u : Unary,
    u.tokens = enclose (Connective.and.encloses c) c.tokens ∧ c.same u.clause.flat = true := by
  have hencloses : Connective.and.encloses c = Connective.or.joins c := by cases c <;> rfl
  rw [hencloses]
  cases h with
  | unary u h _ hor => rw [hor]; exact ⟨u, h.tokens, h.same⟩
  | conjunction _ _ hand' _ => rw [hand] at hand'; cases hand'
  | disjunction d h hor => rw [hor]; exact (HasPhrase.disjunction d h hor).exists_group

/-- What is negated, between parentheses unless it is a leaf that can do without, or a negation. -/
theorem exists_negated (h : HasPhrase c) : ∃ u : Unary,
    u.tokens = enclose (!c.isTight) c.tokens ∧ c.same u.clause.flat = true := by
  cases htight : c.isTight with
  | false => exact h.exists_group
  | true =>
      cases h with
      | unary u h _ _ => exact ⟨u, h.tokens, h.same⟩
      | conjunction _ _ hand _ => rw [isTight_of_joins hand] at htight; cases htight
      | disjunction _ _ hor => rw [isTight_of_joins hor] at htight; cases htight

end HasPhrase

theorem exists_conjunction_of_members {cs : List Clause} (hne : cs ≠ [])
    (h : ∀ c ∈ cs, HasPhrase c ∧ Connective.and.joins c = false) :
    ∃ k : Conjunction, k.tokens = memberTokens .and cs ∧
      sameAll cs (flatMembers .and k.members) = true := by
  induction cs with
  | nil => exact absurd rfl hne
  | cons c cs ih =>
      obtain ⟨⟨hc, hand⟩, hcs⟩ := List.forall_mem_cons.mp h
      obtain ⟨u, htokens, hsame⟩ := hc.exists_member hand
      have hu : Connective.and.members u.clause.flat = [u.clause.flat] :=
        members_eq ((joins_of_same .and hsame).trans hand)
      cases cs with
      | nil =>
          refine ⟨.single u, htokens, ?_⟩
          rw [Conjunction.members, flatMembers, flatMembers, List.append_nil, hu]
          simp [sameAll, hsame]
      | cons d cs =>
          obtain ⟨k, hk, hsames⟩ := ih (List.cons_ne_nil _ _) hcs
          refine ⟨.and u k, by rw [Conjunction.tokens, htokens, hk]; rfl, ?_⟩
          rw [Conjunction.members, flatMembers, hu, List.singleton_append, sameAll, hsame, hsames]
          rfl

theorem exists_disjunction_of_members {cs : List Clause} (hne : cs ≠ [])
    (h : ∀ c ∈ cs, HasPhrase c ∧ Connective.or.joins c = false) :
    ∃ d : Disjunction, d.tokens = memberTokens .or cs ∧
      sameAll cs (flatMembers .or d.members) = true := by
  induction cs with
  | nil => exact absurd rfl hne
  | cons c cs ih =>
      obtain ⟨⟨hc, hor⟩, hcs⟩ := List.forall_mem_cons.mp h
      obtain ⟨k, htokens, hsame⟩ := hc.exists_conjunction hor
      have hk : Connective.or.members (all k.members).flat = [k.clause.flat] :=
        members_eq ((joins_of_same .or hsame).trans hor)
      cases cs with
      | nil =>
          refine ⟨.single k, htokens, ?_⟩
          rw [Disjunction.members, flatMembers, flatMembers, List.append_nil, hk]
          simp [sameAll, hsame]
      | cons d cs =>
          obtain ⟨d, hd, hsames⟩ := ih (List.cons_ne_nil _ _) hcs
          refine ⟨.or k d, by rw [Disjunction.tokens, htokens, hd]; rfl, ?_⟩
          rw [Disjunction.members, flatMembers, hk, List.singleton_append, sameAll, hsame, hsames]
          rfl

/-! ### Leaves -/

/-- A literal as an operand. -/
def Literal.name : Literal → Name
  | bool b => .word (constantWord b)
  | str s => if isBare s then .word s.toList else .quoted s.toList

theorem Literal.token_name (l : Literal) : l.name.token = l.token := by
  cases l with
  | bool b => rfl
  | str s => rw [name, token]; split <;> rfl

theorem Literal.literal_name (l : Literal) : l.name.literal = l := by
  cases l with
  | bool b => cases b <;> rfl
  | str s =>
      rw [name]
      split
      · next hbare =>
          have hkey := isBare_iff.mp hbare
          rw [Name.literal, if_neg hkey.ne_true, if_neg hkey.ne_false, String.ofList_toList]
      · rw [Name.literal, String.ofList_toList]

theorem trim_of_isWord {w : List Char} (h : IsWord w) : Text.trim w = w :=
  Text.trim_of_not_blank fun c hc => (isWordChar_iff.mp (h.all c hc)).1

/-- A key with an operation on it. -/
def IsKey.unary {k : String} (h : IsKey k) (op : Operation) : Unary :=
  .key k.toList ⟨h.ne_true, h.ne_false⟩ op

theorem hasPhrase_leaf {c : Clause} (hleaf : c.IsLeaf) (hlegible : c.IsLegible)
    (hlossless : c.IsLossless) : HasPhrase c := by
  cases c with
  | always => exact .unary (.constant true) ⟨rfl, rfl⟩ rfl rfl
  | never => exact .unary (.constant false) ⟨rfl, rfl⟩ rfl rfl
  | defined k =>
      exact .unary (IsKey.unary hlegible .defined)
        ⟨rfl, by simp [IsKey.unary, Unary.clause, Operation.clause, flat, same]⟩ rfl rfl
  | equals k l =>
      exact .unary (hlegible.1.unary (.equals l.name))
        ⟨by simp [IsKey.unary, Unary.tokens, Operation.tokens, tokens, l.token_name],
          by simp [IsKey.unary, Unary.clause, Operation.clause, flat, same, l.literal_name]⟩ rfl rfl
  | differs k l =>
      exact .unary (hlegible.1.unary (.differs l.name))
        ⟨by simp [IsKey.unary, Unary.tokens, Operation.tokens, tokens, l.token_name],
          by simp [IsKey.unary, Unary.clause, Operation.clause, flat, same, l.literal_name]⟩ rfl rfl
  | compares o k bound =>
      have hnan : bound ≠ .nan := hlossless.1 bound rfl
      obtain ⟨y, hy, hsame⟩ := Double.read?_plain hlegible.2 hnan
      have hnumeric : Double.read? (Text.trim (Name.word bound.plain).text.toList) = some y := by
        rw [Name.text, String.toList_ofList, trim_of_isWord (isWord_plain hlegible.2 hnan), hy]
      exact .unary (hlegible.1.unary (.compares o (.word bound.plain) y hnumeric))
        ⟨rfl, by simp [IsKey.unary, Unary.clause, Operation.clause, flat, same, hsame]⟩ rfl rfl
  | matching k source flags =>
      have hcompiles : (Pattern.ofLiteral? (String.ofList source.toList)
          (String.ofList flags.toList)).isSome = true := by
        rw [String.ofList_toList, String.ofList_toList]
        exact hlegible.2.2.2
      exact .unary (hlegible.1.unary (.matching source.toList flags.toList hcompiles))
        ⟨rfl, by simp [IsKey.unary, Unary.clause, Operation.clause, flat, same]⟩ rfl rfl
  | isIn k source =>
      exact .unary (IsKey.unary hlegible (.isIn (.word source.toList)))
        ⟨rfl, by simp [IsKey.unary, Unary.clause, Operation.clause, Name.text, flat, same]⟩ rfl rfl
  | notIn k source =>
      exact .unary (IsKey.unary hlegible (.notIn (.word source.toList)))
        ⟨rfl, by simp [IsKey.unary, Unary.clause, Operation.clause, Name.text, flat, same]⟩ rfl rfl
  | not _ | all _ | any _ => exact hleaf.elim

/-! ### All clauses -/

mutual
theorem hasPhrase : (c : Clause) → c.IsFlat → (∀ l ∈ c.leaves, l.IsLegible ∧ l.IsLossless) →
    HasPhrase c
  | not c, hflat, h => by
      obtain ⟨u, htokens, hsame⟩ := (hasPhrase c hflat h).exists_negated
      exact .unary (.not u) ⟨by rw [Unary.tokens, htokens, tokens], hsame⟩ rfl rfl
  | all cs, ⟨hlen, hflat⟩, h => by
      have hcs := areFlat_iff.mp hflat
      obtain ⟨k, htokens, hsame⟩ := exists_conjunction_of_members
        (List.ne_nil_of_length_pos (by omega))
        fun c hc => ⟨hasPhrases cs (fun c hc => (hcs c hc).1) h c hc, (hcs c hc).2⟩
      refine .conjunction k ⟨by rw [htokens, tokens], ?_⟩ rfl rfl
      have hlen' := length_of_sameAll hsame
      rw [Conjunction.clause, flat, group_of_length .and (by omega)]
      exact hsame
  | any cs, ⟨hlen, hflat⟩, h => by
      have hcs := areFlat_iff.mp hflat
      obtain ⟨d, htokens, hsame⟩ := exists_disjunction_of_members
        (List.ne_nil_of_length_pos (by omega))
        fun c hc => ⟨hasPhrases cs (fun c hc => (hcs c hc).1) h c hc, (hcs c hc).2⟩
      refine .disjunction d ⟨by rw [htokens, tokens], ?_⟩ rfl
      have hlen' := length_of_sameAll hsame
      rw [Disjunction.clause, flat, group_of_length .or (by omega)]
      exact hsame
  | always, _, h | never, _, h | defined _, _, h | equals _ _, _, h | differs _ _, _, h
  | compares _ _ _, _, h | matching _ _ _, _, h | isIn _ _, _, h | notIn _ _, _, h =>
      have ⟨hlegible, hlossless⟩ := h _ (List.mem_singleton_self _)
      hasPhrase_leaf trivial hlegible hlossless

theorem hasPhrases : (cs : List Clause) → (∀ c ∈ cs, c.IsFlat) →
    (∀ l ∈ leavesOf cs, l.IsLegible ∧ l.IsLossless) → ∀ c ∈ cs, HasPhrase c
  | [], _, _ => by simp
  | c :: cs, hflat, h => by
      rw [leavesOf] at h
      obtain ⟨hc, hcs⟩ := List.forall_mem_cons.mp hflat
      exact List.forall_mem_cons.mpr
        ⟨hasPhrase c hc fun l hl => h l (List.mem_append_left _ hl),
          hasPhrases cs hcs fun l hl => h l (List.mem_append_right _ hl)⟩
end

/-- The text of a flat clause whose leaves can be written is read as this clause. -/
theorem ofText_text {c : Clause} (hflat : c.IsFlat)
    (h : ∀ l ∈ c.leaves, l.IsLegible ∧ l.IsLossless) :
    ∃ e, ofText c.text = .ok (some e) ∧ c.same e = true := by
  obtain ⟨d, htokens, hsame⟩ := (hasPhrase c hflat h).exists_disjunction
  have hlexes : Lexes c.text.toList c.tokens := by
    have := (spells_text c h [] (by simp [Ends]) c.tokens).mpr ⟨[], by simp, .nil⟩
    rwa [List.append_nil] at this
  obtain ⟨ts, hlex, hts⟩ := lex_ok_iff.mpr hlexes
  have hread := ofTokens_ok_iff.mpr ⟨d, htokens.trans hts.symm, rfl⟩
  refine ⟨_, ?_, hsame⟩
  rw [ofText, hlex]
  cases ts with
  | nil => cases hread
  | cons t ts => exact congrArg (Except.map some) hread

end Shortcuts.Clause
