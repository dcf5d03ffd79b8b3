import Mathlib
import Shortcuts.Proofs.Clause.Grammar
import Shortcuts.Proofs.Outcome

/-!
The reader of when-clauses against their grammar: it takes the tokens of a derivation, and what it
gives is the clause of that derivation.
-/

namespace Shortcuts.Clause

/-- Tokens without their offsets. -/
def kinds (ts : Tokens) : List Token := ts.map Prod.snd

theorem length_kinds (ts : Tokens) : (kinds ts).length = ts.length := List.length_map _

theorem kinds_eq_cons {ts : Tokens} {t : Token} {us : List Token} (h : kinds ts = t :: us) :
    ∃ n r, ts = (n, t) :: r ∧ kinds r = us := by
  obtain ⟨⟨n, s⟩, r, rfl, rfl, hr⟩ := List.map_eq_cons_iff.mp h
  exact ⟨n, r, rfl, hr⟩

theorem flatMembers_eq (k : Connective) (cs : List Clause) :
    flatMembers k cs = (cs.map flat).flatMap k.members := by
  induction cs with
  | nil => rfl
  | cons c cs ih => rw [flatMembers, ih, List.map_cons, List.flatMap_cons]

theorem joinAll_eq (cs : List Clause) :
    joinAll cs = Connective.and.group (cs.flatMap Connective.and.members) := by
  rw [joinAll]
  refine congrArg Connective.and.group (congrArg cs.flatMap (funext fun c => ?_))
  cases c <;> rfl

theorem joinAny_eq (cs : List Clause) :
    joinAny cs = Connective.or.group (cs.flatMap Connective.or.members) := by
  rw [joinAny]
  refine congrArg Connective.or.group (congrArg cs.flatMap (funext fun c => ?_))
  cases c <;> rfl

theorem joinAll_map_flat (cs : List Clause) : joinAll (cs.map flat) = (all cs).flat := by
  rw [joinAll_eq, flat, flatMembers_eq]

theorem joinAny_map_flat (cs : List Clause) : joinAny (cs.map flat) = (any cs).flat := by
  rw [joinAny_eq, flat, flatMembers_eq]

open Grammar

theorem readName_sound {ts r : Tokens} {s : String} (h : readName ts = .ok (s, r)) :
    ∃ name : Name, kinds ts = name.token :: kinds r ∧ s = name.text := by
  match ts, h with
  | (n, .word w) :: ts, h => cases h; exact ⟨.word w, rfl, rfl⟩
  | (n, .quoted w) :: ts, h => cases h; exact ⟨.quoted w, rfl, rfl⟩

@[simp] theorem readName_name (n : Nat) (name : Name) (r : Tokens) :
    readName ((n, name.token) :: r) = .ok (name.text, r) := by
  cases name <;> rfl

@[simp] theorem readLiteral_name (n : Nat) (name : Name) (r : Tokens) :
    readLiteral ((n, name.token) :: r) = .ok (name.literal, r) := by
  cases name with
  | quoted s => rfl
  | word w =>
      simp only [Name.token, readLiteral, Name.literal]
      split
      · next h => cases h; rfl
      · next h => cases h; rfl
      · next htrue hfalse =>
          have hw : w ≠ constantWord true ∧ w ≠ constantWord false :=
            ⟨fun h => htrue n r (by rw [h]; rfl), fun h => hfalse n r (by rw [h]; rfl)⟩
          rw [if_neg hw.1, if_neg hw.2]
          rfl

theorem readLiteral_sound {ts r : Tokens} {l : Literal} (h : readLiteral ts = .ok (l, r)) :
    ∃ name : Name, kinds ts = name.token :: kinds r ∧ l = name.literal := by
  have hname : ∃ n name, ∃ r', ts = (n, Name.token name) :: r' := by
    match ts, h with
    | (n, .word w) :: r', h => exact ⟨n, .word w, r', rfl⟩
    | (n, .quoted w) :: r', h => exact ⟨n, .quoted w, r', rfl⟩
  obtain ⟨n, name, r', rfl⟩ := hname
  rw [readLiteral_name] at h
  cases h
  exact ⟨name, rfl, rfl⟩

theorem readBound_sound {ts r : Tokens} {d : Double} (h : readBound ts = .ok (d, r)) :
    ∃ name : Name, kinds ts = name.token :: kinds r ∧
      Double.read? (Text.trim name.text.toList) = some d := by
  rw [readBound] at h
  split at h
  · cases h
  · next s r' hname =>
      split at h
      · next d' hd =>
          cases h
          obtain ⟨name, hts, rfl⟩ := readName_sound hname
          exact ⟨name, hts, hd⟩
      · cases h

theorem readBound_name {name : Name} {d : Double}
    (h : Double.read? (Text.trim name.text.toList) = some d) (n : Nat) (r : Tokens) :
    readBound ((n, name.token) :: r) = .ok (d, r) := by
  rw [readBound, readName_name]
  dsimp only
  rw [h]

theorem readRegex_sound {ts r : Tokens} {p : String × String} (h : readRegex ts = .ok (p, r)) :
    ∃ source flags, kinds ts = .regex source flags :: kinds r ∧
      p = (String.ofList source, String.ofList flags) ∧
      (Pattern.ofLiteral? (String.ofList source) (String.ofList flags)).isSome = true := by
  match ts, h with
  | (n, .regex source flags) :: ts, h =>
      simp only [readRegex] at h
      split at h
      · next hc => cases h; exact ⟨source, flags, rfl, rfl, hc⟩
      · cases h

theorem readOperation_sound {key : String} {ts r : Tokens} {c : Clause}
    (h : readOperation key ts = .ok (c, r)) :
    ∃ op : Operation, kinds ts = op.tokens ++ kinds r ∧ c = op.clause key := by
  have hbound : ∀ {o : Order} {n : Nat} {r' : Tokens},
      (readBound r').map (fun x => (compares o key x.1, x.2)) = .ok (c, r) →
        ∃ op : Operation, kinds ((n, orderToken o) :: r') = op.tokens ++ kinds r ∧
          c = op.clause key := by
    intro o n r' h
    obtain ⟨⟨d, r''⟩, hr, he⟩ := of_map_eq_ok h
    cases he
    obtain ⟨name, hts, hd⟩ := readBound_sound hr
    refine ⟨.compares o name d hd, ?_, rfl⟩
    simp only [kinds, List.map_cons, Operation.tokens] at hts ⊢
    rw [hts]; rfl
  unfold readOperation at h
  split at h
  · next n r' => 
      obtain ⟨⟨l, r''⟩, hr, he⟩ := of_map_eq_ok h
      cases he
      obtain ⟨name, hts, rfl⟩ := readLiteral_sound hr
      exact ⟨.equals name, congrArg (Token.equal :: ·) hts, rfl⟩
  · next n r' => 
      obtain ⟨⟨l, r''⟩, hr, he⟩ := of_map_eq_ok h
      cases he
      obtain ⟨name, hts, rfl⟩ := readLiteral_sound hr
      exact ⟨.differs name, congrArg (Token.notEqual :: ·) hts, rfl⟩
  · exact hbound h
  · exact hbound h
  · exact hbound h
  · exact hbound h
  · next n r' => 
      obtain ⟨⟨⟨s, f⟩, r''⟩, hr, he⟩ := of_map_eq_ok h
      cases he
      obtain ⟨source, flags, hts, he, hc⟩ := readRegex_sound hr
      cases he
      exact ⟨.matching source flags hc, congrArg (Token.tilde :: ·) hts, rfl⟩
  · next n r' => 
      obtain ⟨⟨s, r''⟩, hr, he⟩ := of_map_eq_ok h
      cases he
      obtain ⟨name, hts, rfl⟩ := readName_sound hr
      exact ⟨.isIn name, congrArg (Token.word ['i', 'n'] :: ·) hts, rfl⟩
  · next n m r' => 
      obtain ⟨⟨s, r''⟩, hr, he⟩ := of_map_eq_ok h
      cases he
      obtain ⟨name, hts, rfl⟩ := readName_sound hr
      exact ⟨.notIn name,
        congrArg (Token.word ['n', 'o', 't'] :: Token.word ['i', 'n'] :: ·) hts, rfl⟩
  · cases h
    exact ⟨.defined, rfl, rfl⟩

/-- What may stand behind a phrase: one of the given tokens, or nothing. -/
def Stops (stops : List Token) (us : List Token) : Prop := ∀ t ∈ us.head?, t ∈ stops

theorem Stops.mono {stops stops' us : List Token} (h : Stops stops us) (hs : stops ⊆ stops') :
    Stops stops' us := fun t ht => hs (h t ht)

theorem readOperation_complete (key : String) (op : Operation) {ts : Tokens} {us : List Token}
    (h : kinds ts = op.tokens ++ us) (hstops : Stops [.closing, .or, .and] us) :
    ∃ r, readOperation key ts = .ok (op.clause key, r) ∧ kinds r = us := by
  cases op with
  | defined =>
      refine ⟨ts, ?_, h⟩
      change kinds ts = us at h
      match ts, h with
      | [], _ => rfl
      | (n, t) :: ts, h => 
          have ht : t ∈ [Token.closing, .or, .and] := hstops t (by rw [← h]; rfl)
          simp only [List.mem_cons, List.not_mem_nil, or_false] at ht
          rcases ht with rfl | rfl | rfl <;> rfl
  | equals v =>
      obtain ⟨n, ts, rfl, hts⟩ := kinds_eq_cons h
      obtain ⟨m, r, rfl, hr⟩ := kinds_eq_cons hts
      refine ⟨r, ?_, hr⟩
      simp only [readOperation, readLiteral_name]
      rfl
  | differs v =>
      obtain ⟨n, ts, rfl, hts⟩ := kinds_eq_cons h
      obtain ⟨m, r, rfl, hr⟩ := kinds_eq_cons hts
      refine ⟨r, ?_, hr⟩
      simp only [readOperation, readLiteral_name]
      rfl
  | compares o bound number numeric =>
      obtain ⟨n, ts, rfl, hts⟩ := kinds_eq_cons h
      obtain ⟨m, r, rfl, hr⟩ := kinds_eq_cons hts
      refine ⟨r, ?_, hr⟩
      cases o <;> simp only [orderToken, readOperation, readBound_name numeric] <;> rfl
  | matching source flags compiles =>
      obtain ⟨n, ts, rfl, hts⟩ := kinds_eq_cons h
      obtain ⟨m, r, rfl, hr⟩ := kinds_eq_cons hts
      refine ⟨r, ?_, hr⟩
      simp only [readOperation, readRegex, if_pos compiles]
      rfl
  | isIn source =>
      obtain ⟨n, ts, rfl, hts⟩ := kinds_eq_cons h
      obtain ⟨m, r, rfl, hr⟩ := kinds_eq_cons hts
      refine ⟨r, ?_, hr⟩
      simp only [readOperation, readName_name]
      rfl
  | notIn source =>
      obtain ⟨n, ts, rfl, hin⟩ := kinds_eq_cons h
      obtain ⟨n', ts', rfl, hsource⟩ := kinds_eq_cons hin
      obtain ⟨m, r, rfl, hr⟩ := kinds_eq_cons hsource
      refine ⟨r, ?_, hr⟩
      simp only [readOperation, readName_name]
      rfl

/-! The reader answers with what a derivation of the tokens that it takes says. -/

mutual
theorem readAny_sound : (fuel : Nat) → {ts r : Tokens} → {c : Clause} →
    readAny fuel ts = .ok (c, r) →
      ∃ d : Disjunction, kinds ts = d.tokens ++ kinds r ∧ c = d.clause.flat
  | 0, _, _, _, h => by cases h
  | fuel + 1, ts, r, c, h => by
      obtain ⟨⟨cs, r'⟩, hcs, he⟩ := of_bind_eq_ok h
      cases he
      obtain ⟨d, hts, rfl⟩ := readDisjuncts_sound fuel hcs
      exact ⟨d, hts, joinAny_map_flat d.members⟩

theorem readDisjuncts_sound : (fuel : Nat) → {ts r : Tokens} → {cs : List Clause} →
    readDisjuncts fuel ts = .ok (cs, r) →
      ∃ d : Disjunction, kinds ts = d.tokens ++ kinds r ∧ cs = d.members.map flat
  | 0, _, _, _, h => by cases h
  | fuel + 1, ts, r, cs, h => by
      obtain ⟨⟨c, r'⟩, hc, he⟩ := of_bind_eq_ok h
      obtain ⟨k, hk, rfl⟩ := readAll_sound fuel hc
      dsimp only at he
      split at he
      · next n q =>
          obtain ⟨⟨ds, q'⟩, hds, he⟩ := of_bind_eq_ok he
          cases he
          obtain ⟨d, hd, rfl⟩ := readDisjuncts_sound fuel hds
          refine ⟨.or k d, ?_, rfl⟩
          rw [hk, kinds, List.map_cons, ← kinds, hd, Disjunction.tokens]
          simp
      · cases he
        exact ⟨.single k, hk, rfl⟩

theorem readAll_sound : (fuel : Nat) → {ts r : Tokens} → {c : Clause} →
    readAll fuel ts = .ok (c, r) →
      ∃ k : Conjunction, kinds ts = k.tokens ++ kinds r ∧ c = k.clause.flat
  | 0, _, _, _, h => by cases h
  | fuel + 1, ts, r, c, h => by
      obtain ⟨⟨cs, r'⟩, hcs, he⟩ := of_bind_eq_ok h
      cases he
      obtain ⟨k, hts, rfl⟩ := readConjuncts_sound fuel hcs
      exact ⟨k, hts, joinAll_map_flat k.members⟩

theorem readConjuncts_sound : (fuel : Nat) → {ts r : Tokens} → {cs : List Clause} →
    readConjuncts fuel ts = .ok (cs, r) →
      ∃ k : Conjunction, kinds ts = k.tokens ++ kinds r ∧ cs = k.members.map flat
  | 0, _, _, _, h => by cases h
  | fuel + 1, ts, r, cs, h => by
      obtain ⟨⟨c, r'⟩, hc, he⟩ := of_bind_eq_ok h
      obtain ⟨u, hu, rfl⟩ := readUnary_sound fuel hc
      dsimp only at he
      split at he
      · next n q =>
          obtain ⟨⟨ds, q'⟩, hds, he⟩ := of_bind_eq_ok he
          cases he
          obtain ⟨k, hk, rfl⟩ := readConjuncts_sound fuel hds
          refine ⟨.and u k, ?_, rfl⟩
          rw [hu, kinds, List.map_cons, ← kinds, hk, Conjunction.tokens]
          simp
      · cases he
        exact ⟨.single u, hu, rfl⟩

theorem readUnary_sound : (fuel : Nat) → {ts r : Tokens} → {c : Clause} →
    readUnary fuel ts = .ok (c, r) →
      ∃ u : Unary, kinds ts = u.tokens ++ kinds r ∧ c = u.clause.flat
  | 0, _, _, _, h => by cases h
  | fuel + 1, ts, r, c, h => by
      unfold readUnary at h
      dsimp only at h
      split at h
      · cases h
      · next n q =>
          obtain ⟨⟨d, q'⟩, hd, he⟩ := of_bind_eq_ok h
          cases he
          obtain ⟨u, hu, rfl⟩ := readUnary_sound fuel hd
          exact ⟨.not u, congrArg (Token.not :: ·) hu, rfl⟩
      · next n q =>
          obtain ⟨⟨c', q'⟩, hc, he⟩ := of_bind_eq_ok h
          obtain ⟨d, hq, rfl⟩ := readAny_sound fuel hc
          dsimp only at he
          split at he
          · cases he
          · next m q'' =>
              cases he
              refine ⟨.group d, ?_, rfl⟩
              rw [kinds, List.map_cons, ← kinds, hq, Unary.tokens]
              simp [kinds]
          · cases he
      · cases h
        exact ⟨.constant true, rfl, rfl⟩
      · cases h
        exact ⟨.constant false, rfl, rfl⟩
      · next n w q htrue hfalse =>
          obtain ⟨op, hop, rfl⟩ := readOperation_sound h
          have hkey : w ≠ constantWord true ∧ w ≠ constantWord false := ⟨htrue, hfalse⟩
          refine ⟨.key w hkey op, congrArg (Token.word w :: ·) hop, ?_⟩
          cases op <;> rfl
      · cases h
end

/-! A derivation is found, if enough fuel is left for the tokens. -/

mutual
theorem readAny_complete : (d : Disjunction) → (fuel : Nat) → {ts : Tokens} → {us : List Token} →
    kinds ts = d.tokens ++ us → Stops [.closing] us → 5 * ts.length + 5 ≤ fuel →
      ∃ r, readAny fuel ts = .ok (d.clause.flat, r) ∧ kinds r = us
  | d, fuel, ts, us, hts, hstops, hfuel => by
      obtain ⟨fuel, rfl⟩ := Nat.exists_eq_succ_of_ne_zero (by omega : fuel ≠ 0)
      obtain ⟨r, hr, hus⟩ := readDisjuncts_complete d fuel hts hstops (by omega)
      refine ⟨r, ?_, hus⟩
      rw [readAny, hr]
      exact congrArg (fun c => Except.ok (c, r)) (joinAny_map_flat d.members)

theorem readDisjuncts_complete : (d : Disjunction) → (fuel : Nat) → {ts : Tokens} →
    {us : List Token} → kinds ts = d.tokens ++ us → Stops [.closing] us →
    5 * ts.length + 4 ≤ fuel →
      ∃ r, readDisjuncts fuel ts = .ok (d.members.map flat, r) ∧ kinds r = us
  | .single k, fuel, ts, us, hts, hstops, hfuel => by
      obtain ⟨fuel, rfl⟩ := Nat.exists_eq_succ_of_ne_zero (by omega : fuel ≠ 0)
      obtain ⟨r, hr, hus⟩ := readAll_complete k fuel hts (hstops.mono (by simp)) (by omega)
      refine ⟨r, ?_, hus⟩
      rw [readDisjuncts, hr]
      dsimp only [bind, Except.bind]
      split
      · next n q =>
          have := hstops .or (by rw [← hus]; rfl)
          simp at this
      · rfl
  | .or k d, fuel, ts, us, hts, hstops, hfuel => by
      obtain ⟨fuel, rfl⟩ := Nat.exists_eq_succ_of_ne_zero (by omega : fuel ≠ 0)
      have hts' : kinds ts = k.tokens ++ (.or :: (d.tokens ++ us)) := by
        rw [hts, Disjunction.tokens]; simp
      obtain ⟨r, hr, hus⟩ := readAll_complete k fuel hts' (by simp [Stops]) (by omega)
      obtain ⟨n, q, rfl, hq⟩ := kinds_eq_cons hus
      have hlen : q.length + 1 ≤ ts.length := by
        have := congrArg List.length hts'
        rw [length_kinds, List.length_append, List.length_cons, ← hq, length_kinds] at this
        omega
      obtain ⟨r', hr', hus'⟩ := readDisjuncts_complete d fuel hq hstops (by omega)
      refine ⟨r', ?_, hus'⟩
      rw [readDisjuncts, hr]
      dsimp only [bind, Except.bind]
      rw [hr']
      rfl

theorem readAll_complete : (k : Conjunction) → (fuel : Nat) → {ts : Tokens} → {us : List Token} →
    kinds ts = k.tokens ++ us → Stops [.closing, .or] us → 5 * ts.length + 3 ≤ fuel →
      ∃ r, readAll fuel ts = .ok (k.clause.flat, r) ∧ kinds r = us
  | k, fuel, ts, us, hts, hstops, hfuel => by
      obtain ⟨fuel, rfl⟩ := Nat.exists_eq_succ_of_ne_zero (by omega : fuel ≠ 0)
      obtain ⟨r, hr, hus⟩ := readConjuncts_complete k fuel hts hstops (by omega)
      refine ⟨r, ?_, hus⟩
      rw [readAll, hr]
      exact congrArg (fun c => Except.ok (c, r)) (joinAll_map_flat k.members)

theorem readConjuncts_complete : (k : Conjunction) → (fuel : Nat) → {ts : Tokens} →
    {us : List Token} → kinds ts = k.tokens ++ us → Stops [.closing, .or] us →
    5 * ts.length + 2 ≤ fuel →
      ∃ r, readConjuncts fuel ts = .ok (k.members.map flat, r) ∧ kinds r = us
  | .single u, fuel, ts, us, hts, hstops, hfuel => by
      obtain ⟨fuel, rfl⟩ := Nat.exists_eq_succ_of_ne_zero (by omega : fuel ≠ 0)
      obtain ⟨r, hr, hus⟩ := readUnary_complete u fuel hts (hstops.mono (by simp)) (by omega)
      refine ⟨r, ?_, hus⟩
      rw [readConjuncts, hr]
      dsimp only [bind, Except.bind]
      split
      · next n q =>
          have := hstops .and (by rw [← hus]; rfl)
          simp at this
      · rfl
  | .and u k, fuel, ts, us, hts, hstops, hfuel => by
      obtain ⟨fuel, rfl⟩ := Nat.exists_eq_succ_of_ne_zero (by omega : fuel ≠ 0)
      have hts' : kinds ts = u.tokens ++ (.and :: (k.tokens ++ us)) := by
        rw [hts, Conjunction.tokens]; simp
      obtain ⟨r, hr, hus⟩ := readUnary_complete u fuel hts' (by simp [Stops]) (by omega)
      obtain ⟨n, q, rfl, hq⟩ := kinds_eq_cons hus
      have hlen : q.length + 1 ≤ ts.length := by
        have := congrArg List.length hts'
        rw [length_kinds, List.length_append, List.length_cons, ← hq, length_kinds] at this
        omega
      obtain ⟨r', hr', hus'⟩ := readConjuncts_complete k fuel hq hstops (by omega)
      refine ⟨r', ?_, hus'⟩
      rw [readConjuncts, hr]
      dsimp only [bind, Except.bind]
      rw [hr']
      rfl

theorem readUnary_complete : (u : Unary) → (fuel : Nat) → {ts : Tokens} → {us : List Token} →
    kinds ts = u.tokens ++ us → Stops [.closing, .or, .and] us → 5 * ts.length + 1 ≤ fuel →
      ∃ r, readUnary fuel ts = .ok (u.clause.flat, r) ∧ kinds r = us
  | .not u, fuel, ts, us, hts, hstops, hfuel => by
      obtain ⟨fuel, rfl⟩ := Nat.exists_eq_succ_of_ne_zero (by omega : fuel ≠ 0)
      obtain ⟨n, q, rfl, hq⟩ := kinds_eq_cons hts
      rw [List.length_cons] at hfuel
      obtain ⟨r, hr, hus⟩ := readUnary_complete u fuel hq hstops (by omega)
      refine ⟨r, ?_, hus⟩
      rw [readUnary, hr]
      rfl
  | .group d, fuel, ts, us, hts, hstops, hfuel => by
      obtain ⟨fuel, rfl⟩ := Nat.exists_eq_succ_of_ne_zero (by omega : fuel ≠ 0)
      obtain ⟨n, q, rfl, hq⟩ := kinds_eq_cons hts
      rw [List.length_cons] at hfuel
      have hq' : kinds q = d.tokens ++ .closing :: us := by
        rw [hq]; simp
      obtain ⟨r, hr, hus⟩ := readAny_complete d fuel hq' (by simp [Stops]) (by omega)
      obtain ⟨m, r', rfl, hus'⟩ := kinds_eq_cons hus
      refine ⟨r', ?_, hus'⟩
      rw [readUnary, hr]
      rfl
  | .constant b, fuel, ts, us, hts, hstops, hfuel => by
      obtain ⟨fuel, rfl⟩ := Nat.exists_eq_succ_of_ne_zero (by omega : fuel ≠ 0)
      obtain ⟨n, q, rfl, hq⟩ := kinds_eq_cons hts
      refine ⟨q, ?_, hq⟩
      cases b <;> rfl
  | .key w hkey op, fuel, ts, us, hts, hstops, hfuel => by
      obtain ⟨fuel, rfl⟩ := Nat.exists_eq_succ_of_ne_zero (by omega : fuel ≠ 0)
      obtain ⟨n, q, rfl, hq⟩ := kinds_eq_cons hts
      obtain ⟨r, hr, hus⟩ := readOperation_complete (String.ofList w) op hq hstops
      refine ⟨r, ?_, hus⟩
      rw [readUnary, hr]
      · cases op <;> rfl
      · exact hkey.1
      · exact hkey.2
end

theorem ofTokens_ok_iff {ts : Tokens} {c : Clause} :
    ofTokens ts = .ok c ↔ ∃ d : Disjunction, d.tokens = kinds ts ∧ d.clause.flat = c := by
  constructor
  · intro h
    obtain ⟨⟨c', r⟩, hc, he⟩ := of_bind_eq_ok h
    obtain ⟨d, hts, rfl⟩ := readAny_sound _ hc
    dsimp only at he
    split at he
    · cases he
      exact ⟨d, by simpa [kinds] using hts.symm, rfl⟩
    · cases he
  · rintro ⟨d, hts, rfl⟩
    have hts' : kinds ts = d.tokens ++ [] := by rw [hts, List.append_nil]
    obtain ⟨r, hr, hus⟩ := readAny_complete d _ hts' (by simp [Stops]) (Nat.le_refl _)
    rw [ofTokens, hr, List.map_eq_nil_iff.mp hus]
    rfl

/-- A text is read exactly if its tokens can be derived. Every derivation of them gives the
clause that is read: groups in groups of their own kind are dissolved, groups of one are left out,
and in every context it holds as the derivation does. -/
theorem ofText_derives {s : String} {ts : Tokens} (hlex : lex s.toList = .ok ts) (hts : ts ≠ []) :
    ((∃ c, ofText s = .ok (some c)) ↔ ∃ d : Disjunction, d.tokens = kinds ts) ∧
      ∀ d : Disjunction, d.tokens = kinds ts →
        ofText s = .ok (some d.clause.flat) ∧ d.clause.flat.IsFlat ∧
          ∀ value, d.clause.flat.evaluate value = d.holds value := by
  have htext : ofText s = (ofTokens ts).map some := by
    rw [ofText, hlex]
    cases ts with
    | nil => exact absurd rfl hts
    | cons t ts => rfl
  have hread : ∀ d : Disjunction, d.tokens = kinds ts → ofText s = .ok (some d.clause.flat) := by
    intro d hd
    rw [htext, ofTokens_ok_iff.mpr ⟨d, hd, rfl⟩]
    rfl
  refine ⟨⟨?_, fun ⟨d, hd⟩ => ⟨_, hread d hd⟩⟩, fun d hd => ⟨hread d hd, d.isFlat, ?_⟩⟩
  · rintro ⟨c, hc⟩
    rw [htext] at hc
    obtain ⟨c', hc', _⟩ := of_map_eq_ok hc
    obtain ⟨d, hd, _⟩ := ofTokens_ok_iff.mp hc'
    exact ⟨d, hd⟩
  · intro value
    rw [evaluate_flat, d.evaluate_clause]

/-- `!a || (b || true && not in c)`, where `not` is a key. -/
def nested : Disjunction :=
  .or (.single (.not (.key ['a'] (by decide) .defined)))
    (.single (.single (.group (.or (.single (.key ['b'] (by decide) .defined))
      (.single (.and (.constant true)
        (.single (.key ['n', 'o', 't'] (by decide) (.isIn (.word ['c']))))))))))

theorem ofText_derives_nested :
    lex "!a||(b||true&&not in c)".toList = .ok
        [(0, .not), (1, .word ['a']), (2, .or), (4, .opening), (5, .word ['b']), (6, .or),
          (8, .word ['t', 'r', 'u', 'e']), (12, .and), (14, .word ['n', 'o', 't']),
          (18, .word ['i', 'n']), (21, .word ['c']), (22, .closing)] ∧
      ofText "!a||(b||true&&not in c)" = .ok (some (any
        [not (defined "a"), defined "b", all [always, isIn "not" "c"]])) ∧
      ∀ value, nested.clause.flat.evaluate value = nested.holds value := by
  have hlex : lex "!a||(b||true&&not in c)".toList = .ok
      [(0, .not), (1, .word ['a']), (2, .or), (4, .opening), (5, .word ['b']), (6, .or),
        (8, .word ['t', 'r', 'u', 'e']), (12, .and), (14, .word ['n', 'o', 't']),
        (18, .word ['i', 'n']), (21, .word ['c']), (22, .closing)] := by cbv
  obtain ⟨hread, _, hholds⟩ := (ofText_derives hlex (by simp)).2 nested rfl
  exact ⟨hlex, hread, hholds⟩

end Shortcuts.Clause
