import Shortcuts.Proofs.Clause.Rereading

/-!
Which clauses are read back from their texts. A clause that was read has leaves that a text can
have, so all that its text can lose is a number that is none, and where a membership source begins
and ends: sources are written without quotes, also those that are no words.
-/

namespace Shortcuts.Clause

open Grammar

/-! ### Leaves of what is read -/

def sourcesOf (cs : List Clause) : List String := (leavesOf cs).filterMap source?

theorem leavesOf_append (cs ds : List Clause) :
    leavesOf (cs ++ ds) = leavesOf cs ++ leavesOf ds := by
  induction cs with
  | nil => rfl
  | cons c cs ih => rw [List.cons_append, leavesOf, leavesOf, ih, List.append_assoc]

theorem leaves_join (k : Connective) (cs : List Clause) : (k.join cs).leaves = leavesOf cs := by
  cases k <;> rfl

theorem leavesOf_singleton (c : Clause) : leavesOf [c] = c.leaves := List.append_nil _

theorem leavesOf_members (k : Connective) (c : Clause) : leavesOf (k.members c) = c.leaves := by
  rcases members_cases k c with ⟨cs, rfl, hm⟩ | ⟨-, hm⟩
  · rw [hm, leaves_join]
  · rw [hm, leavesOf_singleton]

theorem leaves_group (k : Connective) (cs : List Clause) : (k.group cs).leaves = leavesOf cs := by
  match cs with
  | [] => exact leaves_join k []
  | [c] => exact (leavesOf_singleton c).symm
  | c :: d :: cs => exact leaves_join k (c :: d :: cs)

mutual
theorem leaves_flat : (c : Clause) → c.flat.leaves = c.leaves
  | not c => leaves_flat c
  | all cs => by rw [flat, leaves_group, leavesOf_flatMembers .and cs]; rfl
  | any cs => by rw [flat, leaves_group, leavesOf_flatMembers .or cs]; rfl
  | always | never | defined _ | equals _ _ | differs _ _ | compares _ _ _ | matching _ _ _
  | isIn _ _ | notIn _ _ => rfl

theorem leavesOf_flatMembers (k : Connective) : (cs : List Clause) →
    leavesOf (flatMembers k cs) = leavesOf cs
  | [] => rfl
  | c :: cs => by
      rw [flatMembers, leavesOf_append, leavesOf_members, leaves_flat c, leavesOf_flatMembers k cs,
        leavesOf]
end

/-- What a token of a text is made of. -/
def IsLegibleToken : Token → Prop
  | .word w => IsWord w
  | .quoted s => ∃ q, IsQuote q ∧ q ∉ s
  | .regex source flags => IsSource source ∧ IsFlags flags
  | _ => True

theorem Starts.isLegible {s r : List Char} {ts : List Token} (h : Starts s ts r) :
    ∀ t ∈ ts, IsLegibleToken t := by
  cases h with
  | @operator c s t k h =>
      rw [List.forall_mem_singleton]
      unfold operator? at h
      split at h <;> cases h <;> trivial
  | regex _ hsource hflags => simp [IsLegibleToken, hsource, hflags]
  | quoted hq hs => simpa [IsLegibleToken] using ⟨_, hq, hs⟩
  | word hw => simpa [IsLegibleToken] using hw

theorem Lexes.isLegible {s : List Char} {ts : List Token} (h : Lexes s ts) :
    ∀ t ∈ ts, IsLegibleToken t := by
  induction h with
  | nil => simp
  | blank _ _ ih => exact ih
  | step hs _ ih => exact fun t ht => (List.mem_append.mp ht).elim (hs.isLegible t) (ih t)

theorem isKey_ofList {w : List Char} (hw : IsWord w)
    (hkey : w ≠ constantWord true ∧ w ≠ constantWord false) : IsKey (String.ofList w) where
  word := by rwa [String.toList_ofList]
  ne_true := by rw [String.toList_ofList]; exact hkey.1
  ne_false := by rw [String.toList_ofList]; exact hkey.2

theorem Grammar.Name.isQuotable {n : Name} (h : IsLegibleToken n.token) :
    n.literal.IsQuotable := by
  cases n with
  | word w =>
      have hsingle : ¬ isWordChar '\'' = true := by decide
      have hquotable : (Literal.str (String.ofList w)).IsQuotable :=
        ⟨_, .single, by rw [String.toList_ofList]; exact fun hq => hsingle (h.all _ hq)⟩
      rw [Name.literal]
      split
      · trivial
      · split
        · trivial
        · exact hquotable
  | quoted s =>
      obtain ⟨q, hq, hs⟩ := h
      exact ⟨q, hq, by rwa [String.toList_ofList]⟩

theorem Grammar.Operation.isLegible {k : String} (hk : IsKey k) {op : Operation}
    (h : ∀ t ∈ op.tokens, IsLegibleToken t) : (op.clause k).IsLegible := by
  cases op with
  | defined => exact hk
  | equals v => exact ⟨hk, v.isQuotable (h _ (by simp [Operation.tokens]))⟩
  | differs v => exact ⟨hk, v.isQuotable (h _ (by simp [Operation.tokens]))⟩
  | compares o bound number numeric => exact ⟨hk, Double.isStandard_read? numeric⟩
  | matching source flags compiles =>
      obtain ⟨hsource, hflags⟩ : IsSource source ∧ IsFlags flags :=
        h (.regex source flags) (by simp [Operation.tokens])
      refine ⟨hk, ?_, ?_, compiles⟩ <;> rwa [String.toList_ofList]
  | isIn source => exact hk
  | notIn source => exact hk

theorem Grammar.Operation.leaves_clause (k : String) (op : Operation) :
    (op.clause k).leaves = [op.clause k] := by cases op <;> rfl

mutual
theorem Grammar.Disjunction.isLegible : (d : Disjunction) → (∀ t ∈ d.tokens, IsLegibleToken t) →
    ∀ l ∈ leavesOf d.members, l.IsLegible
  | .single k, h => by
      rw [Disjunction.members, leavesOf_singleton]
      exact k.isLegible h
  | .or k d, h => by
      rw [Disjunction.tokens, List.forall_mem_append, List.forall_mem_cons] at h
      rw [Disjunction.members, leavesOf, List.forall_mem_append]
      exact ⟨k.isLegible h.1, d.isLegible h.2.2⟩

theorem Grammar.Conjunction.isLegible : (k : Conjunction) → (∀ t ∈ k.tokens, IsLegibleToken t) →
    ∀ l ∈ leavesOf k.members, l.IsLegible
  | .single u, h => by
      rw [Conjunction.members, leavesOf_singleton]
      exact u.isLegible h
  | .and u k, h => by
      rw [Conjunction.tokens, List.forall_mem_append, List.forall_mem_cons] at h
      rw [Conjunction.members, leavesOf, List.forall_mem_append]
      exact ⟨u.isLegible h.1, k.isLegible h.2.2⟩

theorem Grammar.Unary.isLegible : (u : Unary) → (∀ t ∈ u.tokens, IsLegibleToken t) →
    ∀ l ∈ u.clause.leaves, l.IsLegible
  | .not u, h => u.isLegible (List.forall_mem_cons.mp h).2
  | .group d, h => by
      rw [Unary.tokens, List.forall_mem_cons, List.forall_mem_append] at h
      exact d.isLegible h.2.1
  | .constant true, _ => by simp [Unary.clause, leaves, IsLegible]
  | .constant false, _ => by simp [Unary.clause, leaves, IsLegible]
  | .key w hkey op, h => by
      obtain ⟨hw, hop⟩ := List.forall_mem_cons.mp h
      rw [Unary.clause, op.leaves_clause, List.forall_mem_singleton]
      exact op.isLegible (isKey_ofList hw hkey) hop
end

theorem exists_derivation_of_ofText {s : String} {c : Clause} (h : ofText s = .ok (some c)) :
    ∃ ts, lex s.toList = .ok ts ∧ ∃ d : Disjunction, d.tokens = kinds ts ∧ d.clause.flat = c := by
  obtain ⟨ts, hlex, htext⟩ := of_bind_eq_ok h
  cases ts with
  | nil => cases htext
  | cons t ts =>
      obtain ⟨c', hc', heq⟩ := of_map_eq_ok htext
      cases heq
      exact ⟨_, hlex, ofTokens_ok_iff.mp hc'⟩

/-- What is read from a text is flat, and a text can have its leaves. -/
theorem isLegible_of_ofText {s : String} {c : Clause} (h : ofText s = .ok (some c)) :
    c.IsFlat ∧ ∀ l ∈ c.leaves, l.IsLegible := by
  obtain ⟨ts, hlex, d, htokens, rfl⟩ := exists_derivation_of_ofText h
  have hlexes := lex_ok_iff.mp ⟨ts, hlex, rfl⟩
  rw [leaves_flat]
  exact ⟨d.isFlat, d.isLegible (htokens ▸ hlexes.isLegible)⟩

/-! ### Membership sources among tokens -/

/-- Where the reading of a phrase is. -/
inductive Place where
  | start
  | behindKey
  | behindNot
  | operand
  | source

def comparesValue : Token → Bool
  | .equal | .notEqual | .less | .atMost | .greater | .atLeast | .tilde => true
  | _ => false

def name? : Token → Option String
  | .word w => some (String.ofList w)
  | .quoted s => some (String.ofList s)
  | _ => none

/-- Where the reading is behind a token. -/
def Place.next : Place → Token → Place
  | start, .word w =>
    if w = constantWord true ∨ w = constantWord false then start else behindKey
  | behindKey, .word ['i', 'n'] => source
  | behindKey, .word ['n', 'o', 't'] => behindNot
  | behindKey, t => if comparesValue t then operand else start
  | behindNot, _ => source
  | _, _ => start

/-- The texts of the tokens where membership sources stand, from left to right. -/
def scan : Place → List Token → List (Option String)
  | _, [] => []
  | .source, t :: ts => name? t :: scan .start ts
  | p, t :: ts => scan (p.next t) ts

theorem scan_behindKey {ts : List Token} (h : Stops [.closing, .or, .and] ts) :
    scan .behindKey ts = scan .start ts := by
  cases ts with
  | nil => rfl
  | cons t ts =>
      have := h t rfl
      simp only [List.mem_cons, List.not_mem_nil, or_false] at this
      rcases this with rfl | rfl | rfl <;> rfl

theorem scan_key {w : List Char} (hkey : w ≠ constantWord true ∧ w ≠ constantWord false)
    (ts : List Token) : scan .start (.word w :: ts) = scan .behindKey ts := by
  rw [scan, Place.next, if_neg (not_or.mpr hkey)]
  simp

theorem name?_token (n : Name) : name? n.token = some n.text := by cases n <;> rfl

theorem scan_operation (k : String) (op : Operation) {us : List Token}
    (h : Stops [.closing, .or, .and] us) :
    scan .behindKey (op.tokens ++ us) = (op.clause k).sources.map some ++ scan .start us := by
  cases op with
  | defined => exact scan_behindKey h
  | compares o _ _ _ => cases o <;> rfl
  | isIn source => exact congrArg (· :: scan .start us) (name?_token source)
  | notIn source => exact congrArg (· :: scan .start us) (name?_token source)
  | equals _ | differs _ | matching _ _ _ => rfl

theorem sourcesOf_cons (c : Clause) (cs : List Clause) :
    sourcesOf (c :: cs) = c.sources ++ sourcesOf cs := List.filterMap_append

theorem sourcesOf_singleton (c : Clause) : sourcesOf [c] = c.sources :=
  congrArg (List.filterMap source?) (leavesOf_singleton c)

mutual
theorem Grammar.Disjunction.scan_tokens : (d : Disjunction) → {us : List Token} →
    Stops [.closing, .or, .and] us →
      scan .start (d.tokens ++ us) = (sourcesOf d.members).map some ++ scan .start us
  | .single k, us, h => by
      rw [Disjunction.tokens, k.scan_tokens h, Disjunction.members, sourcesOf_singleton]
      rfl
  | .or k d, us, h => by
      rw [Disjunction.tokens, List.append_assoc, k.scan_tokens (by simp [Stops]),
        Disjunction.members, sourcesOf_cons, List.map_append, List.append_assoc, ← d.scan_tokens h]
      rfl

theorem Grammar.Conjunction.scan_tokens : (k : Conjunction) → {us : List Token} →
    Stops [.closing, .or, .and] us →
      scan .start (k.tokens ++ us) = (sourcesOf k.members).map some ++ scan .start us
  | .single u, us, h => by
      rw [Conjunction.tokens, u.scan_tokens h, Conjunction.members, sourcesOf_singleton]
  | .and u k, us, h => by
      rw [Conjunction.tokens, List.append_assoc, u.scan_tokens (by simp [Stops]),
        Conjunction.members, sourcesOf_cons, List.map_append, List.append_assoc, ← k.scan_tokens h]
      rfl

theorem Grammar.Unary.scan_tokens : (u : Unary) → {us : List Token} →
    Stops [.closing, .or, .and] us →
      scan .start (u.tokens ++ us) = u.clause.sources.map some ++ scan .start us
  | .not u, us, h => u.scan_tokens h
  | .group d, us, h => by
      rw [Unary.tokens, List.cons_append, List.append_assoc]
      exact d.scan_tokens (by simp [Stops])
  | .constant true, us, h => rfl
  | .constant false, us, h => rfl
  | .key w hkey op, us, h => by
      rw [Unary.tokens, List.cons_append, scan_key hkey, scan_operation _ op h]
      rfl
end

mutual
theorem sources_of_same : (c d : Clause) → c.same d = true → d.sources = c.sources
  | not c, d, h => by
      cases d with
      | not d => exact sources_of_same c d h
      | _ => cases h
  | all cs, d, h => by
      cases d with
      | all ds => exact sourcesOf_of_sameAll cs ds h
      | _ => cases h
  | any cs, d, h => by
      cases d with
      | any ds => exact sourcesOf_of_sameAll cs ds h
      | _ => cases h
  | isIn k source, d, h => by
      cases d with
      | isIn l source' =>
          obtain ⟨-, hsource⟩ := Bool.and_eq_true_iff.mp h
          rw [eq_of_beq hsource]
          rfl
      | _ => cases h
  | notIn k source, d, h => by
      cases d with
      | notIn l source' =>
          obtain ⟨-, hsource⟩ := Bool.and_eq_true_iff.mp h
          rw [eq_of_beq hsource]
          rfl
      | _ => cases h
  | always, d, h | never, d, h | defined _, d, h | equals _ _, d, h | differs _ _, d, h
  | compares _ _ _, d, h | matching _ _ _, d, h => by
      cases d <;> first | rfl | cases h

theorem sourcesOf_of_sameAll : (cs ds : List Clause) → sameAll cs ds = true →
    sourcesOf ds = sourcesOf cs
  | [], [], _ => rfl
  | c :: cs, d :: ds, h => by
      obtain ⟨hc, hcs⟩ := Bool.and_eq_true_iff.mp h
      rw [sourcesOf_cons, sourcesOf_cons, sources_of_same c d hc, sourcesOf_of_sameAll cs ds hcs]
end

/-! ### What stands behind a source -/

/-- What stands behind the text of a clause in the text of a clause around it. -/
inductive Follows : List Char → Prop
  | nil : Follows []
  | closing (r : List Char) : Follows (')' :: r)
  | sign (k : Connective) (r : List Char) : Follows (k.sign.toList ++ r)

/-- No quote comes next. -/
theorem Follows.ne_quote {r blanks t : List Char} (h : Follows r)
    (hblanks : ∀ c ∈ blanks, Text.isBlank c = true) {q : Char} (hq : IsQuote q) :
    r ≠ blanks ++ q :: t := by
  intro heq
  have hquote : r.dropWhile Text.isBlank = q :: t := by
    rw [heq]
    exact (takeWhile_eq hblanks (ends_cons (isBlank_of_isStop hq.isStop) t)).2
  cases h with
  | nil => cases hquote
  | closing r => cases hquote; cases hq
  | sign k r => cases k <;> cases hquote <;> cases hq

theorem Lexes.exists_quoted {s x : List Char} {us : List Token} (h : Lexes s (.quoted x :: us)) :
    ∃ blanks q r, (∀ c ∈ blanks, Text.isBlank c = true) ∧ IsQuote q ∧ q ∉ x ∧
      s = blanks ++ q :: (x ++ q :: r) := by
  generalize hts : Token.quoted x :: us = ts at h
  induction h with
  | nil => cases hts
  | @blank c s ts hc h ih =>
      obtain ⟨blanks, q, r, hblanks, hq, hx, rfl⟩ := ih hts
      exact ⟨c :: blanks, q, r, List.forall_mem_cons.mpr ⟨hc, hblanks⟩, hq, hx, rfl⟩
  | step hs hr ih =>
      cases hs with
      | operator hop =>
          cases hts
          unfold operator? at hop
          split at hop <;> cases hop
      | regex => cases hts
      | word => cases hts
      | @quoted q s r hq hs =>
          cases hts
          exact ⟨[], q, _, by simp, hq, hs, rfl⟩

/-- A source without quotes is read as itself only if it is a word. -/
theorem isWord_of_lexes {x r : List Char} {t : Token} {us : List Token} (hr : Follows r)
    (h : Lexes (x ++ r) (t :: us)) (ht : name? t = some (String.ofList x)) : IsWord x := by
  cases t with
  | word w =>
      have hw : w = x := String.ofList_injective (Option.some.inj ht)
      exact hw ▸ h.isLegible _ List.mem_cons_self
  | quoted s =>
      have hs : s = x := String.ofList_injective (Option.some.inj ht)
      subst hs
      obtain ⟨blanks, q, r', hblanks, hq, hx, heq⟩ := h.exists_quoted
      rcases List.append_eq_append_iff.mp heq with ⟨a, rfl, hra⟩ | ⟨a, rfl, hra⟩
      · refine absurd hra (hr.ne_quote (fun c hc => hblanks c (List.mem_append_right _ hc)) hq)
      · cases a with
        | nil =>
            have hnil : ∀ c ∈ ([] : List Char), Text.isBlank c = true := by simp
            exact absurd hra.symm (hr.ne_quote hnil hq)
        | cons c a =>
            have hc : q = c := (List.cons.inj hra).1
            exact absurd (by simp [hc]) hx
  | _ => cases ht

/-! ### Reading the text -/

/-- What can be said of a leaf without regard to membership sources. -/
def IsSound (l : Clause) : Prop := l.IsLegible ∧ ∀ x ∈ l.bound?, x ≠ .nan

theorem isLossless_of_sources {c : Clause} (h : ∀ l ∈ c.leaves, l.IsSound)
    (hsources : ∀ s ∈ c.sources, IsWord s.toList) :
    ∀ l ∈ c.leaves, l.IsLegible ∧ l.IsLossless := fun l hl =>
  ⟨(h l hl).1, (h l hl).2, fun s hs => hsources s (List.mem_filterMap.mpr ⟨l, hl, hs⟩)⟩

theorem scan_tokens {c : Clause} (hflat : c.IsFlat)
    (h : ∀ l ∈ c.leaves, l.IsLegible ∧ l.IsLossless) {us : List Token}
    (hus : Stops [.closing, .or, .and] us) :
    scan .start (c.tokens ++ us) = c.sources.map some ++ scan .start us := by
  obtain ⟨d, htokens, hsame⟩ := (hasPhrase c hflat h).exists_disjunction
  have hsources : sourcesOf d.members = c.sources := by
    rw [← sources_of_same c _ hsame, sources, leaves_flat]
    rfl
  rw [← htokens, d.scan_tokens hus, hsources]

theorem scan_enclose {c : Clause} (hflat : c.IsFlat)
    (h : ∀ l ∈ c.leaves, l.IsLegible ∧ l.IsLossless) (b : Bool) {us : List Token}
    (hus : Stops [.closing, .or, .and] us) :
    scan .start (enclose b c.tokens ++ us) = c.sources.map some ++ scan .start us := by
  cases b with
  | false => exact scan_tokens hflat h hus
  | true =>
      have hclosing : Stops [.closing, .or, .and] (.closing :: us) := by simp [Stops]
      have htokens : enclose true c.tokens ++ us = .opening :: (c.tokens ++ .closing :: us) := by
        simp [enclose]
      rw [htokens]
      exact scan_tokens hflat h hclosing

/-- Parentheses around a text do not change what is scanned. -/
theorem lexes_enclosed {b : Bool} {s : String} {r : List Char} {us : List Token} (hr : Follows r)
    (h : Lexes ((if b then parenthesized s else s).toList ++ r) us) :
    ∃ r' vs, Follows r' ∧ Lexes (s.toList ++ r') vs ∧ scan .start us = scan .start vs := by
  cases b with
  | false => exact ⟨r, us, hr, h, rfl⟩
  | true =>
      have htext : (if true then parenthesized s else s).toList ++ r =
          '(' :: (s.toList ++ ')' :: r) := by simp [parenthesized]
      rw [htext] at h
      have hopening : Starts ('(' :: (s.toList ++ ')' :: r)) [.opening] (s.toList ++ ')' :: r) :=
        .operator (k := 0) rfl
      obtain ⟨vs, rfl, hvs⟩ := hopening.lexes_iff.mp h
      exact ⟨_, vs, .closing r, hvs, rfl⟩

/-- The source of a membership, behind the tokens that lead to it. -/
theorem isWord_source {o r : List Char} {ts us : List Token} {source : String} (ho : Spells o ts)
    (hscan : ∀ vs, scan .start (ts ++ vs) = scan .source vs) (hr : Follows r)
    (h : Lexes (o ++ ' ' :: (source.toList ++ r)) us) (hsome : [some source] <+: scan .start us) :
    IsWord source.toList := by
  have hblank : Text.isBlank ' ' = true := by decide
  have hbegins := (ho _ (ends_cons (by decide) (source.toList ++ r))).trans (begins_blank hblank _)
  obtain ⟨vs, rfl, hvs⟩ := (hbegins us).mp h
  rw [List.append_nil, hscan] at hsome
  cases vs with
  | nil => simp [scan] at hsome
  | cons t vs =>
      rw [scan, List.cons_prefix_cons] at hsome
      exact isWord_of_lexes hr hvs (by rw [String.ofList_toList]; exact hsome.1.symm)

mutual
/-- If the sources found among the tokens of a clause's text are those of the clause, they are
words. -/
theorem isWord_sources : (c : Clause) → c.IsFlat → (∀ l ∈ c.leaves, l.IsSound) →
    {r : List Char} → {us : List Token} → Follows r → Lexes (c.text.toList ++ r) us →
    c.sources.map some <+: scan .start us → ∀ source ∈ c.sources, IsWord source.toList
  | not c, hflat, h, r, us, hr, hlex, hsome => by
      rw [text_not, String.toList_append] at hlex
      obtain ⟨vs, rfl, hvs⟩ :=
        (starts_negation (c := c) (fun l hl => (h l hl).1) r).lexes_iff.mp hlex
      obtain ⟨r', ws, hr', hws, hscan⟩ := lexes_enclosed hr hvs
      exact isWord_sources c hflat h hr' hws (hscan ▸ hsome)
  | all cs, ⟨_, hflat⟩, h, r, us, hr, hlex, hsome => by
      rw [show (all cs).text = membersText .and cs from text_join .and cs] at hlex
      exact isWord_sourcesOf .and cs hflat h hr hlex hsome
  | any cs, ⟨_, hflat⟩, h, r, us, hr, hlex, hsome => by
      rw [show (any cs).text = membersText .or cs from text_join .or cs] at hlex
      exact isWord_sourcesOf .or cs hflat h hr hlex hsome
  | isIn k source, _, h, r, us, hr, hlex, hsome => by
      have hk : IsKey k := (h _ (List.mem_singleton_self _)).1
      have hin := (Spells.word hk.word).append (.blank (.word isWord_in))
      have htext : (isIn k source).text.toList ++ r =
          k.toList ++ [' ', 'i', 'n'] ++ ' ' :: (source.toList ++ r) := by simp [text]
      rw [htext] at hlex
      have hsource := isWord_source hin
        (fun vs => (scan_key ⟨hk.ne_true, hk.ne_false⟩ _).trans rfl) hr hlex hsome
      simpa [sources, leaves, source?] using hsource
  | notIn k source, _, h, r, us, hr, hlex, hsome => by
      have hk : IsKey k := (h _ (List.mem_singleton_self _)).1
      have hin := (Spells.word hk.word).append
        (.blank ((Spells.word isWord_not).append (.blank (.word isWord_in))))
      have htext : (notIn k source).text.toList ++ r =
          k.toList ++ [' ', 'n', 'o', 't', ' ', 'i', 'n'] ++ ' ' :: (source.toList ++ r) := by
        simp [text]
      rw [htext] at hlex
      have hsource := isWord_source hin
        (fun vs => (scan_key ⟨hk.ne_true, hk.ne_false⟩ _).trans rfl) hr hlex hsome
      simpa [sources, leaves, source?] using hsource
  | always, _, _, _, _, _, _, _ | never, _, _, _, _, _, _, _ | defined _, _, _, _, _, _, _, _
  | equals _ _, _, _, _, _, _, _, _ | differs _ _, _, _, _, _, _, _, _
  | compares _ _ _, _, _, _, _, _, _, _ | matching _ _ _, _, _, _, _, _, _, _ => by
      simp [sources, leaves, source?]

theorem isWord_sourcesOf (k : Connective) : (cs : List Clause) → AreFlat k cs →
    (∀ l ∈ leavesOf cs, l.IsSound) → {r : List Char} → {us : List Token} → Follows r →
    Lexes ((membersText k cs).toList ++ r) us → (sourcesOf cs).map some <+: scan .start us →
    ∀ source ∈ sourcesOf cs, IsWord source.toList
  | [], _, _, _, _, _, _, _ => by simp [sourcesOf, leavesOf]
  | [c], ⟨hflat, _⟩, h, r, us, hr, hlex, hsome => by
      rw [leavesOf_singleton] at h
      rw [sourcesOf_singleton] at hsome ⊢
      obtain ⟨r', ws, hr', hws, hscan⟩ := lexes_enclosed (b := k.encloses c) hr hlex
      exact isWord_sources c hflat h hr' hws (hscan ▸ hsome)
  | c :: d :: cs, ⟨hflat, _, hflats⟩, h, r, us, hr, hlex, hsome => by
      rw [leavesOf, List.forall_mem_append] at h
      rw [sourcesOf_cons, List.map_append] at hsome
      rw [sourcesOf_cons, List.forall_mem_append]
      rw [membersText_cons, String.toList_append, String.toList_append, List.append_assoc,
        List.append_assoc] at hlex
      -- the first member is followed by the sign of the connective
      obtain ⟨r', ws, hr', hws, hscan⟩ := lexes_enclosed (b := k.encloses c) (.sign k _) hlex
      have hc := isWord_sources c hflat h.1 hr' hws
        (hscan ▸ (List.prefix_append _ _).trans hsome)
      -- its sources are words, so it is read in full, and the others begin behind it
      have hlossless := isLossless_of_sources h.1 hc
      have hmember := spells_enclose (k.encloses c) (spells_text c hlossless)
      have hbegins := (hmember _ (ends_sign k ((membersText k (d :: cs)).toList ++ r))).trans
        (begins_sign k _)
      obtain ⟨vs, rfl, hvs⟩ := (hbegins us).mp hlex
      have hstops : Stops [.closing, .or, .and] ([k.token] ++ vs) := by
        cases k <;> simp [Stops, Connective.token]
      rw [List.append_assoc, scan_enclose hflat hlossless _ hstops,
        List.prefix_append_right_inj] at hsome
      refine ⟨hc, isWord_sourcesOf k (d :: cs) hflats h.2 hr hvs ?_⟩
      cases k <;> exact hsome
end

/-- A clause that was read, and compares values with numbers only, is read back from its text
exactly if its membership sources are words. -/
theorem ofText_text_iff {s : String} {c : Clause} (h : ofText s = .ok (some c))
    (hnan : ∀ x ∈ c.bounds, x ≠ .nan) :
    (∃ e, ofText c.text = .ok (some e) ∧ c.same e = true) ↔
      ∀ source ∈ c.sources, IsWord source.toList := by
  obtain ⟨hflat, hlegible⟩ := isLegible_of_ofText h
  have hsound : ∀ l ∈ c.leaves, l.IsSound := fun l hl =>
    ⟨hlegible l hl, fun x hx => hnan x (List.mem_filterMap.mpr ⟨l, hl, hx⟩)⟩
  constructor
  · rintro ⟨e, he, hsame⟩
    obtain ⟨ts, hlex, d, htokens, rfl⟩ := exists_derivation_of_ofText he
    have hlexes : Lexes (c.text.toList ++ []) (kinds ts) := by
      rw [List.append_nil]
      exact lex_ok_iff.mp ⟨ts, hlex, rfl⟩
    have hend : Stops [.closing, .or, .and] [] := by simp [Stops]
    have hscan := d.scan_tokens hend
    rw [List.append_nil, htokens] at hscan
    refine isWord_sources c hflat hsound .nil hlexes ?_
    rw [hscan, ← sources_of_same c _ hsame, sources, leaves_flat]
    exact List.prefix_append _ _
  · exact fun hsources => ofText_text hflat (isLossless_of_sources hsound hsources)

theorem ofText_text_quoted_word :
    ofText "!(a in 'b')" = .ok (some (not (isIn "a" "b"))) ∧
      ∃ e, ofText (not (isIn "a" "b")).text = .ok (some e) ∧
        (not (isIn "a" "b")).same e = true := by
  have h : ofText "!(a in 'b')" = .ok (some (not (isIn "a" "b"))) := by cbv
  refine ⟨h, (ofText_text_iff h ?_).mpr ?_⟩
  · simp [bounds, leaves, bound?]
  · have hb : IsWord "b".toList := isWord_of_all (by decide) (by decide)
    simpa [sources, leaves, source?] using hb

/-- A source of two words is written as it is, and the second of them is then in the way. -/
theorem ofText_text_two_words :
    ofText "a in 'b c'" = .ok (some (isIn "a" "b c")) ∧ (isIn "a" "b c").bounds = [] ∧
      (isIn "a" "b c").text = "a in b c" ∧
      ofText (isIn "a" "b c").text = .error (.unexpectedToken "c" 7) ∧
      ¬ ∃ e, ofText (isIn "a" "b c").text = .ok (some e) ∧ (isIn "a" "b c").same e = true := by
  have htext : (isIn "a" "b c").text = "a in b c" := by decide
  have herror : ofText (isIn "a" "b c").text = .error (.unexpectedToken "c" 7) := by
    rw [htext]
    cbv
  refine ⟨by cbv, rfl, htext, herror, ?_⟩
  rintro ⟨e, he, -⟩
  rw [herror] at he
  cases he

end Shortcuts.Clause
