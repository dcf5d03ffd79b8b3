import Shortcuts.Clause.Reader

/-!
The grammar of when-clauses, as the type of its derivations:

    disjunction ::= conjunction | conjunction || disjunction
    conjunction ::= unary | unary && conjunction
    unary       ::= ! unary | ( disjunction ) | true | false | key operation

where the operation behind a key may be missing. A derivation has the tokens that it derives, a
truth value in every context, and a clause.
-/

namespace Shortcuts.Clause

namespace Grammar

/-- A word or a quoted text, where both may stand. -/
inductive Name where
  | word (w : List Char)
  | quoted (s : List Char)

def Name.token : Name → Token
  | word w => .word w
  | quoted s => .quoted s

def Name.text : Name → String
  | word w => String.ofList w
  | quoted s => String.ofList s

def constantWord : Bool → List Char
  | true => ['t', 'r', 'u', 'e']
  | false => ['f', 'a', 'l', 's', 'e']

/-- The words for truth values are truth values unless they are quoted. -/
def Name.literal : Name → Literal
  | word w =>
    if w = constantWord true then .bool true
    else if w = constantWord false then .bool false
    else .str (String.ofList w)
  | quoted s => .str (String.ofList s)

def orderToken : Order → Token
  | .greater => .greater
  | .atLeast => .atLeast
  | .less => .less
  | .atMost => .atMost

/-- What is asked of a key. The right-hand side of a comparison is a number, and a regular
expression is one that can be compiled. -/
inductive Operation where
  | defined
  | equals (value : Name)
  | differs (value : Name)
  | compares (order : Order) (bound : Name) (number : Double)
      (numeric : Double.read? (Text.trim bound.text.toList) = some number)
  | matching (source flags : List Char)
      (compiles : (Pattern.ofLiteral? (String.ofList source) (String.ofList flags)).isSome = true)
  | isIn (source : Name)
  | notIn (source : Name)

def Operation.tokens : Operation → List Token
  | defined => []
  | equals v => [.equal, v.token]
  | differs v => [.notEqual, v.token]
  | compares o bound _ _ => [orderToken o, bound.token]
  | matching source flags _ => [.tilde, .regex source flags]
  | isIn source => [.word ['i', 'n'], source.token]
  | notIn source => [.word ['n', 'o', 't'], .word ['i', 'n'], source.token]

def Operation.clause (key : String) : Operation → Clause
  | defined => .defined key
  | equals v => .equals key v.literal
  | differs v => .differs key v.literal
  | compares o _ number _ => .compares o key number
  | matching source flags _ => .matching key (String.ofList source) (String.ofList flags)
  | isIn source => .isIn key source.text
  | notIn source => .notIn key source.text

mutual
inductive Disjunction where
  | single (c : Conjunction)
  | or (c : Conjunction) (d : Disjunction)

inductive Conjunction where
  | single (u : Unary)
  | and (u : Unary) (c : Conjunction)

inductive Unary where
  | not (u : Unary)
  | group (d : Disjunction)
  | constant (b : Bool)
  | key (w : List Char) (isKey : w ≠ constantWord true ∧ w ≠ constantWord false) (op : Operation)
end

mutual
def Disjunction.tokens : Disjunction → List Token
  | .single c => c.tokens
  | .or c d => c.tokens ++ .or :: d.tokens

def Conjunction.tokens : Conjunction → List Token
  | .single u => u.tokens
  | .and u c => u.tokens ++ .and :: c.tokens

def Unary.tokens : Unary → List Token
  | .not u => .not :: u.tokens
  | .group d => .opening :: (d.tokens ++ [.closing])
  | .constant b => [.word (constantWord b)]
  | .key w _ op => .word w :: op.tokens
end

mutual
/-- The truth value of a derivation in a context. -/
def Disjunction.holds (value : String → Option Json) : Disjunction → Bool
  | .single c => c.holds value
  | .or c d => c.holds value || d.holds value

def Conjunction.holds (value : String → Option Json) : Conjunction → Bool
  | .single u => u.holds value
  | .and u c => u.holds value && c.holds value

def Unary.holds (value : String → Option Json) : Unary → Bool
  | .not u => !u.holds value
  | .group d => d.holds value
  | .constant b => b
  | .key w _ op => (op.clause (String.ofList w)).evaluate value
end

mutual
/-- The clauses that a disjunction joins, each a group even if it has a single member. -/
def Disjunction.members : Disjunction → List Clause
  | .single c => [.all c.members]
  | .or c d => .all c.members :: d.members

def Conjunction.members : Conjunction → List Clause
  | .single u => [u.clause]
  | .and u c => u.clause :: c.members

def Unary.clause : Unary → Clause
  | .not u => .not u.clause
  | .group d => .any d.members
  | .constant b => if b then .always else .never
  | .key w _ op => op.clause (String.ofList w)
end

/-- A derivation as a clause: one group for each disjunction and each conjunction in it. -/
def Disjunction.clause (d : Disjunction) : Clause := .any d.members

def Conjunction.clause (c : Conjunction) : Clause := .all c.members

end Grammar

/-! ### Flat clauses -/

inductive Connective where
  | and
  | or

namespace Connective

def join : Connective → List Clause → Clause
  | and => all
  | or => any

/-- The members that a clause brings into a group. -/
def members : Connective → Clause → List Clause
  | and, all cs => cs
  | or, any cs => cs
  | _, c => [c]

/-- A group, or the only member that it has. -/
def group (k : Connective) : List Clause → Clause
  | [c] => c
  | cs => k.join cs

def joins : Connective → Clause → Bool
  | and, all _ => true
  | or, any _ => true
  | _, _ => false

/-- The truth value of a group in a context. -/
def holds (value : String → Option Json) : Connective → List Clause → Bool
  | and, cs => cs.all (evaluate value)
  | or, cs => cs.any (evaluate value)

def apply : Connective → Bool → Bool → Bool
  | and, a, b => a && b
  | or, a, b => a || b

end Connective

mutual
/-- The clause with groups in groups of their own kind dissolved, and without groups of one. -/
def flat : Clause → Clause
  | not c => not c.flat
  | all cs => Connective.and.group (flatMembers .and cs)
  | any cs => Connective.or.group (flatMembers .or cs)
  | c => c

def flatMembers (k : Connective) : List Clause → List Clause
  | [] => []
  | c :: cs => k.members c.flat ++ flatMembers k cs
end

mutual
/-- Every group has several members, none of which is a group of the same kind. -/
def IsFlat : Clause → Prop
  | not c => c.IsFlat
  | all cs => 2 ≤ cs.length ∧ AreFlat .and cs
  | any cs => 2 ≤ cs.length ∧ AreFlat .or cs
  | _ => True

def AreFlat (k : Connective) : List Clause → Prop
  | [] => True
  | c :: cs => c.IsFlat ∧ k.joins c = false ∧ AreFlat k cs
end

/-! ### Meaning -/

section Meaning

variable (value : String → Option Json) (k : Connective)

theorem evaluateAll_eq_all (cs : List Clause) :
    evaluateAll value cs = cs.all (evaluate value) := by
  induction cs with
  | nil => rfl
  | cons c cs ih => rw [evaluateAll, ih, List.all_cons]

theorem evaluateAny_eq_any (cs : List Clause) :
    evaluateAny value cs = cs.any (evaluate value) := by
  induction cs with
  | nil => rfl
  | cons c cs ih => rw [evaluateAny, ih, List.any_cons]

theorem evaluate_join (cs : List Clause) : (k.join cs).evaluate value = k.holds value cs := by
  cases k with
  | and => exact evaluateAll_eq_all value cs
  | or => exact evaluateAny_eq_any value cs

theorem holds_cons (c : Clause) (cs : List Clause) :
    k.holds value (c :: cs) = k.apply (c.evaluate value) (k.holds value cs) := by
  cases k <;> rfl

theorem holds_append (cs ds : List Clause) :
    k.holds value (cs ++ ds) = k.apply (k.holds value cs) (k.holds value ds) := by
  cases k with
  | and => exact List.all_append
  | or => exact List.any_append

theorem holds_singleton (c : Clause) : k.holds value [c] = c.evaluate value := by
  cases k <;> simp [Connective.holds]

theorem evaluate_group (cs : List Clause) : (k.group cs).evaluate value = k.holds value cs := by
  match cs with
  | [] => exact evaluate_join value k []
  | [c] => exact (holds_singleton value k c).symm
  | c :: d :: cs => exact evaluate_join value k (c :: d :: cs)

theorem holds_members (c : Clause) : k.holds value (k.members c) = c.evaluate value := by
  cases k <;> cases c
  case and.all cs => exact (evaluate_join value .and cs).symm
  case or.any cs => exact (evaluate_join value .or cs).symm
  all_goals exact holds_singleton value _ _

mutual
/-- Dissolving groups does not change what a clause says. -/
theorem evaluate_flat : (c : Clause) → c.flat.evaluate value = c.evaluate value
  | not c => by rw [flat, evaluate, evaluate, evaluate_flat c]
  | all cs => by
      rw [flat, evaluate_group, holds_flatMembers .and cs]
      exact (evaluate_join value .and cs).symm
  | any cs => by
      rw [flat, evaluate_group, holds_flatMembers .or cs]
      exact (evaluate_join value .or cs).symm
  | always | never | defined _ | equals _ _ | differs _ _ | compares _ _ _ | matching _ _ _
  | isIn _ _ | notIn _ _ => rfl

theorem holds_flatMembers (k : Connective) : (cs : List Clause) →
    k.holds value (flatMembers k cs) = k.holds value cs
  | [] => rfl
  | c :: cs => by
      rw [flatMembers, holds_append, holds_members, evaluate_flat c, holds_flatMembers k cs,
        holds_cons]
end

mutual
theorem Grammar.Disjunction.holds_members : (d : Grammar.Disjunction) →
    Connective.or.holds value d.members = d.holds value
  | .single c => by
      rw [Disjunction.members, holds_singleton, Disjunction.holds, ← c.holds_members]
      exact evaluate_join value .and c.members
  | .or c d => by
      rw [Disjunction.members, holds_cons, d.holds_members, Disjunction.holds, ← c.holds_members,
        ← evaluate_join value .and]
      rfl

theorem Grammar.Conjunction.holds_members : (c : Grammar.Conjunction) →
    Connective.and.holds value c.members = c.holds value
  | .single u => by
      rw [Conjunction.members, holds_singleton, u.evaluate_clause, Conjunction.holds]
  | .and u c => by
      rw [Conjunction.members, holds_cons, u.evaluate_clause, c.holds_members, Conjunction.holds]
      rfl

theorem Grammar.Unary.evaluate_clause : (u : Grammar.Unary) →
    u.clause.evaluate value = u.holds value
  | .not u => by rw [Unary.clause, evaluate, u.evaluate_clause, Unary.holds]
  | .group d => by
      rw [Unary.clause, Unary.holds, ← d.holds_members]
      exact evaluate_join value .or d.members
  | .constant true => rfl
  | .constant false => rfl
  | .key _ _ _ => rfl
end

theorem Grammar.Disjunction.evaluate_clause (d : Grammar.Disjunction) :
    d.clause.evaluate value = d.holds value := by
  rw [← d.holds_members]
  exact evaluate_join value .or d.members

end Meaning

/-! ### Flatness -/

theorem areFlat_iff {k : Connective} {cs : List Clause} :
    AreFlat k cs ↔ ∀ c ∈ cs, c.IsFlat ∧ k.joins c = false := by
  induction cs with
  | nil => simp [AreFlat]
  | cons c cs ih => rw [AreFlat, ih, List.forall_mem_cons, and_assoc]

/-- Clauses that a flat group may have as members. -/
structure Joinable (k : Connective) (cs : List Clause) : Prop where
  ne_nil : cs ≠ []
  flat : AreFlat k cs

theorem Joinable.append {k : Connective} {cs ds : List Clause} (hc : Joinable k cs)
    (hd : Joinable k ds) : Joinable k (cs ++ ds) := by
  refine ⟨by simp [hc.ne_nil], areFlat_iff.mpr fun c h => ?_⟩
  rcases List.mem_append.mp h with h | h
  · exact areFlat_iff.mp hc.flat c h
  · exact areFlat_iff.mp hd.flat c h

theorem isFlat_join {k : Connective} {cs : List Clause} :
    (k.join cs).IsFlat ↔ 2 ≤ cs.length ∧ AreFlat k cs := by
  cases k <;> exact Iff.rfl

theorem members_cases (k : Connective) (c : Clause) :
    (∃ cs, c = k.join cs ∧ k.members c = cs) ∨ (k.joins c = false ∧ k.members c = [c]) := by
  cases k <;> cases c
  case and.all cs => exact .inl ⟨cs, rfl, rfl⟩
  case or.any cs => exact .inl ⟨cs, rfl, rfl⟩
  all_goals exact .inr ⟨rfl, rfl⟩

theorem joinable_members (k : Connective) {c : Clause} (h : c.IsFlat) :
    Joinable k (k.members c) := by
  rcases members_cases k c with ⟨cs, rfl, hm⟩ | ⟨hj, hm⟩
  · obtain ⟨hlen, hflat⟩ := isFlat_join.mp h
    rw [hm]
    exact ⟨List.ne_nil_of_length_pos (by omega), hflat⟩
  · rw [hm]
    exact ⟨List.cons_ne_nil c [], h, hj, trivial⟩

theorem Joinable.isFlat_group {k : Connective} {cs : List Clause} (h : Joinable k cs) :
    (k.group cs).IsFlat := by
  match cs, h with
  | [], h => exact absurd rfl h.ne_nil
  | [c], h => exact h.flat.1
  | _ :: _ :: _, h => exact isFlat_join.mpr ⟨by simp, h.flat⟩

mutual
theorem Grammar.Disjunction.joinable : (d : Grammar.Disjunction) →
    Joinable .or (flatMembers .or d.members)
  | .single c => by
      have h := joinable_members .or c.joinable.isFlat_group
      simpa only [Disjunction.members, flatMembers, flat, List.append_nil] using h
  | .or c d => by
      have h := joinable_members .or c.joinable.isFlat_group
      simpa only [Disjunction.members, flatMembers, flat] using h.append d.joinable

theorem Grammar.Conjunction.joinable : (c : Grammar.Conjunction) →
    Joinable .and (flatMembers .and c.members)
  | .single u => by
      simpa only [Conjunction.members, flatMembers, List.append_nil] using
        joinable_members .and u.isFlat
  | .and u c => by
      simpa only [Conjunction.members, flatMembers] using
        (joinable_members .and u.isFlat).append c.joinable

theorem Grammar.Unary.isFlat : (u : Grammar.Unary) → u.clause.flat.IsFlat
  | .not u => u.isFlat
  | .group d => d.joinable.isFlat_group
  | .constant true => trivial
  | .constant false => trivial
  | .key _ _ op => by cases op <;> trivial
end

theorem Grammar.Disjunction.isFlat (d : Grammar.Disjunction) : d.clause.flat.IsFlat :=
  d.joinable.isFlat_group

end Shortcuts.Clause
