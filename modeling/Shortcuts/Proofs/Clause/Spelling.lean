import Shortcuts.Clause.Printer
import Shortcuts.Proofs.Clause.Lexing
import Shortcuts.Proofs.Decimal.ReadBack

/-!
The tokens of the text of a clause. A text spells tokens if it has exactly these tokens wherever a
word can end behind it. The text of a clause spells the tokens that it is meant to have, provided
that its keys, literals and regular expressions are as a text can have them and its membership
sources are words.
-/

namespace Shortcuts

namespace Clause

open Grammar

mutual
/-- The clauses without members that a clause is made of, from left to right. -/
def leaves : Clause → List Clause
  | not c => c.leaves
  | all cs => leavesOf cs
  | any cs => leavesOf cs
  | c => [c]

def leavesOf : List Clause → List Clause
  | [] => []
  | c :: cs => c.leaves ++ leavesOf cs
end

def IsLeaf : Clause → Prop
  | not _ => False
  | all _ => False
  | any _ => False
  | _ => True

def source? : Clause → Option String
  | isIn _ source => some source
  | notIn _ source => some source
  | _ => none

def bound? : Clause → Option Double
  | compares _ _ bound => some bound
  | _ => none

/-- The membership sources of a clause, from left to right. -/
def sources (c : Clause) : List String := c.leaves.filterMap source?

/-- The numbers that a clause compares values with. -/
def bounds (c : Clause) : List Double := c.leaves.filterMap bound?

/-- A word that is no truth value. -/
structure IsKey (k : String) : Prop where
  word : IsWord k.toList
  ne_true : k.toList ≠ constantWord true
  ne_false : k.toList ≠ constantWord false

/-- One of the quotes can stand around the text. -/
def Literal.IsQuotable : Literal → Prop
  | bool _ => True
  | str s => ∃ q, IsQuote q ∧ q ∉ s.toList

/-- A leaf that a text can have. -/
def IsLegible : Clause → Prop
  | defined k => IsKey k
  | equals k l => IsKey k ∧ l.IsQuotable
  | differs k l => IsKey k ∧ l.IsQuotable
  | compares _ k bound => IsKey k ∧ bound.IsStandard
  | matching k source flags => IsKey k ∧ IsSource source.toList ∧ IsFlags flags.toList ∧
      (Pattern.ofLiteral? source flags).isSome = true
  | isIn k _ => IsKey k
  | notIn k _ => IsKey k
  | _ => True

/-- What the text of a leaf loses: a number that is none, and where a source that is no word
begins and ends. -/
def IsLossless (c : Clause) : Prop :=
  (∀ x ∈ c.bound?, x ≠ .nan) ∧ ∀ source ∈ c.source?, IsWord source.toList

/-! ### The tokens of a clause -/

/-- A text that is written without quotes. -/
def isBare (s : String) : Bool :=
  !s.isEmpty && s.toList.all isWordChar && s ≠ "true" && s ≠ "false"

def Literal.token : Literal → Token
  | bool b => .word (constantWord b)
  | str s => if isBare s then .word s.toList else .quoted s.toList

def enclose (b : Bool) (ts : List Token) : List Token :=
  if b then .opening :: (ts ++ [.closing]) else ts

namespace Connective

def token : Connective → Token
  | and => .and
  | or => .or

def sign : Connective → String
  | and => " && "
  | or => " || "

/-- Whether a member is put between parentheses. -/
def encloses : Connective → Clause → Bool
  | and, c => c.isDisjunction
  | or, _ => false

end Connective

mutual
/-- The tokens that the text of a clause is meant to have. -/
def tokens : Clause → List Token
  | always => [.word (constantWord true)]
  | never => [.word (constantWord false)]
  | defined k => [.word k.toList]
  | not c => .not :: enclose (!c.isTight) c.tokens
  | equals k l => [.word k.toList, .equal, l.token]
  | differs k l => [.word k.toList, .notEqual, l.token]
  | compares o k bound => [.word k.toList, orderToken o, .word bound.plain]
  | matching k source flags => [.word k.toList, .tilde, .regex source.toList flags.toList]
  | isIn k source => [.word k.toList, .word ['i', 'n'], .word source.toList]
  | notIn k source =>
    [.word k.toList, .word ['n', 'o', 't'], .word ['i', 'n'], .word source.toList]
  | all cs => memberTokens .and cs
  | any cs => memberTokens .or cs

def memberTokens (k : Connective) : List Clause → List Token
  | [] => []
  | [c] => enclose (k.encloses c) c.tokens
  | c :: d :: cs => enclose (k.encloses c) c.tokens ++ k.token :: memberTokens k (d :: cs)
end

def memberText (k : Connective) (c : Clause) : String :=
  if k.encloses c then parenthesized c.text else c.text

def membersText (k : Connective) (cs : List Clause) : String :=
  k.sign.intercalate (cs.map (memberText k))

theorem conjuncts_eq (cs : List Clause) : conjuncts cs = cs.map (memberText .and) := by
  induction cs with
  | nil => rfl
  | cons c cs ih => rw [conjuncts, ih]; rfl

theorem disjuncts_eq (cs : List Clause) : disjuncts cs = cs.map (memberText .or) := by
  induction cs with
  | nil => rfl
  | cons c cs ih => rw [disjuncts, ih]; rfl

theorem text_join (k : Connective) (cs : List Clause) : (k.join cs).text = membersText k cs := by
  cases k with
  | and => rw [membersText, ← conjuncts_eq]; rfl
  | or => rw [membersText, ← disjuncts_eq]; rfl

theorem membersText_cons (k : Connective) (c d : Clause) (cs : List Clause) :
    membersText k (c :: d :: cs) = memberText k c ++ k.sign ++ membersText k (d :: cs) :=
  String.intercalate_cons_cons

/-! ### Characters of words -/

theorem isWordChar_of_isAlphanum {c : Char} (h : c.isAlphanum = true) : isWordChar c = true := by
  have hrange : 48 ≤ c.toNat ∧ c.toNat ≤ 57 ∨ 65 ≤ c.toNat ∧ c.toNat ≤ 90 ∨
      97 ≤ c.toNat ∧ c.toNat ≤ 122 := by
    simp only [Char.isAlphanum, Char.isAlpha, Char.isUpper, Char.isLower, Char.isDigit,
      Bool.or_eq_true, Bool.and_eq_true, decide_eq_true_eq, ge_iff_le, UInt32.le_iff_toNat_le] at h
    have htoNat : c.toNat = c.val.toNat := rfl
    have hbounds : ('0' : Char).val.toNat = 48 ∧ ('9' : Char).val.toNat = 57 ∧
        ('A' : Char).val.toNat = 65 ∧ ('Z' : Char).val.toNat = 90 ∧
        ('a' : Char).val.toNat = 97 ∧ ('z' : Char).val.toNat = 122 := by decide
    omega
  refine isWordChar_iff.mpr ⟨?_, ?_⟩
  · simp only [Text.isBlank, Bool.or_eq_false_iff, Bool.and_eq_false_iff, decide_eq_false_iff_not,
      beq_eq_false_iff_ne]
    omega
  · rw [← Bool.not_eq_true, isStop_iff]
    intro hmem
    simp only [List.mem_cons, List.not_mem_nil, or_false] at hmem
    rcases hmem with rfl | rfl | rfl | rfl | rfl | rfl | rfl | rfl | rfl | rfl <;>
      exact absurd hrange (by decide)

theorem isWordChar_of_isPlainChar {c : Char} (h : Double.isPlainChar c = true) :
    isWordChar c = true := by
  rcases Bool.or_eq_true_iff.mp h with h | h
  · exact isWordChar_of_isAlphanum (by rw [Char.isAlphanum, h, Bool.or_true])
  · have hmem : c ∈ ['-', '.', 'i', 'n', 'f', 'N', 'a'] := List.contains_iff_mem.mp h
    simp only [List.mem_cons, List.not_mem_nil, or_false] at hmem
    rcases hmem with rfl | rfl | rfl | rfl | rfl | rfl | rfl <;> decide

theorem isWord_plain {x : Double} (hx : x.IsStandard) (hnan : x ≠ .nan) : IsWord x.plain where
  ne_nil := by
    intro h
    obtain ⟨y, hy, -⟩ := Double.read?_plain hx hnan
    rw [h] at hy
    cases hy
  all c hc :=
    isWordChar_of_isPlainChar (List.all_eq_true.mp (Double.all_isPlainChar_plain x) c hc)

theorem isBare_iff {s : String} : isBare s = true ↔ IsKey s := by
  have htrue : s ≠ "true" ↔ s.toList ≠ constantWord true := not_congr String.toList_inj.symm
  have hfalse : s ≠ "false" ↔ s.toList ≠ constantWord false := not_congr String.toList_inj.symm
  have hempty : s.isEmpty = false ↔ s.toList ≠ [] := by simp
  simp only [isBare, Bool.and_eq_true, Bool.not_eq_true', List.all_eq_true, decide_eq_true_eq,
    htrue, hfalse, hempty]
  exact ⟨fun h => ⟨⟨h.1.1.1, h.1.1.2⟩, h.1.2, h.2⟩,
    fun h => ⟨⟨⟨h.word.ne_nil, h.word.all⟩, h.ne_true⟩, h.ne_false⟩⟩

/-! ### Spelling -/

/-- The tokens of `s` are `ts` and the tokens of `r`, if it has any. -/
def Begins (s : List Char) (ts : List Token) (r : List Char) : Prop :=
  ∀ us, Lexes s us ↔ ∃ vs, us = ts ++ vs ∧ Lexes r vs

theorem Starts.begins {s r : List Char} {ts : List Token} (h : Starts s ts r) : Begins s ts r :=
  fun _ => h.lexes_iff

theorem begins_blank {c : Char} (hc : Text.isBlank c = true) (r : List Char) :
    Begins (c :: r) [] r := by
  intro us
  rw [lexes_blank_iff hc]
  exact ⟨fun h => ⟨us, rfl, h⟩, by rintro ⟨vs, rfl, h⟩; exact h⟩

theorem Begins.trans {s r t : List Char} {ts us : List Token} (h : Begins s ts r)
    (h' : Begins r us t) : Begins s (ts ++ us) t := by
  intro vs
  rw [h vs]
  constructor
  · rintro ⟨ws, rfl, hws⟩
    obtain ⟨xs, rfl, hxs⟩ := (h' ws).mp hws
    exact ⟨xs, by rw [List.append_assoc], hxs⟩
  · rintro ⟨xs, rfl, hxs⟩
    exact ⟨us ++ xs, by rw [List.append_assoc], (h' _).mpr ⟨xs, rfl, hxs⟩⟩

/-- A text has certain tokens wherever it stands before the end of a word. -/
def Spells (s : List Char) (ts : List Token) : Prop :=
  ∀ r, Ends isWordChar r → Begins (s ++ r) ts r

theorem Ends.alpha {r : List Char} (h : Ends isWordChar r) : Ends Char.isAlpha r := by
  intro c hc
  have hword := h c hc
  rw [← Bool.not_eq_true] at hword ⊢
  exact fun halpha => hword (isWordChar_of_isAlphanum (by rw [Char.isAlphanum, halpha]; rfl))

theorem ends_cons {p : Char → Bool} {c : Char} (h : p c = false) (r : List Char) :
    Ends p (c :: r) := by
  intro d hd
  cases hd
  exact h

/-- An operator between blanks. -/
theorem begins_operation {c : Char} {o : List Char} {x : Token}
    (hop : ∀ r, operator? c ((o ++ ' ' :: r).take 2) = some (x, o.length)) (r : List Char) :
    Begins (' ' :: c :: (o ++ ' ' :: r)) [x] r := by
  have hstarts := Starts.operator (hop r)
  rw [List.drop_left] at hstarts
  exact (begins_blank (by decide) _).trans (hstarts.begins.trans (begins_blank (by decide) r))

theorem starts_opening (r : List Char) : Starts ('(' :: r) [.opening] r := .operator (k := 0) rfl

namespace Spells

variable {s t : List Char} {ts us : List Token}

theorem word (h : IsWord s) : Spells s [.word s] := fun _ hr => (Starts.word h hr).begins

theorem quoted {q : Char} (hq : IsQuote q) (hs : q ∉ s) :
    Spells (q :: (s ++ [q])) [.quoted s] := by
  intro r _
  have := (Starts.quoted (r := r) hq hs).begins
  simpa using this

theorem regex {source flags : List Char} (hsource : IsSource source) (hflags : IsFlags flags) :
    Spells ('=' :: '~' :: ' ' :: '/' :: (source ++ '/' :: flags))
      [.tilde, .regex source flags] := by
  intro r hr
  have hblank : ∀ c ∈ [' '], Text.isBlank c = true := List.forall_mem_singleton.mpr (by decide)
  have := (Starts.regex hblank hsource hflags hr.alpha).begins
  simpa using this

theorem blank (h : Spells s ts) : Spells (' ' :: s) ts :=
  fun r hr => (begins_blank (by decide) (s ++ r)).trans (h r hr)

theorem append (hs : Spells s ts) (ht : Spells (' ' :: t) us) :
    Spells (s ++ ' ' :: t) (ts ++ us) := by
  intro r hr
  rw [List.append_assoc]
  exact (hs _ (ends_cons (by decide) (t ++ r))).trans (ht r hr)

theorem operation {c : Char} {o : List Char} {x : Token}
    (hop : ∀ r, operator? c ((o ++ ' ' :: r).take 2) = some (x, o.length)) (h : Spells s ts) :
    Spells (' ' :: c :: (o ++ ' ' :: s)) (x :: ts) := by
  intro r hr
  have := (begins_operation hop (s ++ r)).trans (h r hr)
  simpa using this

theorem parenthesized (h : Spells s ts) :
    Spells ('(' :: (s ++ [')'])) (.opening :: (ts ++ [.closing])) := by
  intro r _
  have hclosing : Starts (')' :: r) [.closing] r := .operator (k := 0) rfl
  have := (starts_opening _).begins.trans ((h _ (ends_cons (by decide) r)).trans hclosing.begins)
  simpa using this

end Spells

/-! ### The text of a clause -/

theorem isWord_constantWord (b : Bool) : IsWord (constantWord b) := by
  cases b <;> exact isWord_of_all (by decide) (by decide)

theorem isWord_in : IsWord ['i', 'n'] := isWord_of_all (List.cons_ne_nil _ _) (by decide)

theorem isWord_not : IsWord ['n', 'o', 't'] := isWord_of_all (List.cons_ne_nil _ _) (by decide)

theorem spells_literal {l : Literal} (h : l.IsQuotable) : Spells l.text.toList [l.token] := by
  cases l with
  | bool b =>
      cases b with
      | true => exact .word (isWord_constantWord true)
      | false => exact .word (isWord_constantWord false)
  | str s =>
      obtain ⟨q, hq, hs⟩ := h
      have htext : (Literal.str s).text = if isBare s then s
        else if s.toList.contains '\'' then "\"" ++ s ++ "\"" else "'" ++ s ++ "'" := rfl
      rw [htext, Literal.token]
      split
      · next hbare => exact .word (isBare_iff.mp hbare).word
      · split
        · next hquote =>
            have hsingle : '\'' ∈ s.toList := List.contains_iff_mem.mp hquote
            cases hq with
            | single => exact absurd hsingle hs
            | double => simpa using Spells.quoted .double hs
        · next hquote =>
            have hsingle : '\'' ∉ s.toList := mt List.contains_iff_mem.mpr hquote
            simpa using Spells.quoted .single hsingle

theorem spells_order (o : Order) {s : List Char} {ts : List Token} (h : Spells s ts) :
    Spells (' ' :: (o.sign.toList ++ ' ' :: s)) (orderToken o :: ts) := by
  cases o with
  | greater => exact .operation (o := []) (fun r => rfl) h
  | atLeast => exact .operation (o := ['=']) (fun r => rfl) h
  | less => exact .operation (o := []) (fun r => rfl) h
  | atMost => exact .operation (o := ['=']) (fun r => rfl) h

theorem spells_leaf {c : Clause} (hleaf : c.IsLeaf) (hlegible : c.IsLegible)
    (hlossless : c.IsLossless) : Spells c.text.toList c.tokens := by
  cases c with
  | always => exact .word (isWord_constantWord true)
  | never => exact .word (isWord_constantWord false)
  | defined k => exact .word hlegible.word
  | equals k l =>
      have := (Spells.word hlegible.1.word).append
        (.operation (c := '=') (o := ['=']) (fun r => rfl) (spells_literal hlegible.2))
      simpa [text, tokens] using this
  | differs k l =>
      have := (Spells.word hlegible.1.word).append
        (.operation (c := '!') (o := ['=']) (fun r => rfl) (spells_literal hlegible.2))
      simpa [text, tokens] using this
  | compares o k bound =>
      have hbound := isWord_plain hlegible.2 (hlossless.1 bound rfl)
      have := (Spells.word hlegible.1.word).append (spells_order o (.word hbound))
      simpa [text, tokens] using this
  | matching k source flags =>
      have := (Spells.word hlegible.1.word).append
        (.blank (.regex hlegible.2.1 hlegible.2.2.1))
      simpa [text, tokens] using this
  | isIn k source =>
      have hsource := hlossless.2 source rfl
      have := (Spells.word hlegible.word).append
        (.blank ((Spells.word isWord_in).append (.blank (.word hsource))))
      simpa [text, tokens] using this
  | notIn k source =>
      have hsource := hlossless.2 source rfl
      have := (Spells.word hlegible.word).append
        (.blank ((Spells.word isWord_not).append (.blank ((Spells.word isWord_in).append
          (.blank (.word hsource))))))
      simpa [text, tokens] using this
  | not _ | all _ | any _ => exact hleaf.elim

theorem spells_enclose (b : Bool) {s : String} {ts : List Token} (h : Spells s.toList ts) :
    Spells (if b then parenthesized s else s).toList (enclose b ts) := by
  cases b with
  | true => simpa [parenthesized, enclose] using h.parenthesized
  | false => exact h

theorem begins_sign (k : Connective) (r : List Char) :
    Begins (k.sign.toList ++ r) [k.token] r := by
  cases k with
  | and => exact begins_operation (c := '&') (o := ['&']) (fun _ => rfl) r
  | or => exact begins_operation (c := '|') (o := ['|']) (fun _ => rfl) r

theorem ends_sign (k : Connective) (r : List Char) : Ends isWordChar (k.sign.toList ++ r) := by
  cases k <;> exact ends_cons (by decide) _

/-- What is negated as it stands behind the negation. -/
def negatedText (c : Clause) : String := if !c.isTight then parenthesized c.text else c.text

theorem text_not (c : Clause) : (not c).text = "!" ++ c.negatedText := by
  rw [text, negatedText]
  cases c.isTight <;> rfl

theorem head?_negatedText {c : Clause} (hlegible : ∀ l ∈ c.leaves, l.IsLegible) :
    ∃ d, c.negatedText.toList.head? = some d ∧ d ≠ '=' := by
  cases c with
  | always => exact ⟨'t', rfl, by decide⟩
  | never => exact ⟨'f', rfl, by decide⟩
  | defined k =>
      have hword : IsWord k.toList := (hlegible (defined k) (List.mem_singleton_self _)).word
      obtain ⟨d, s, hk⟩ := List.exists_cons_of_ne_nil hword.ne_nil
      refine ⟨d, congrArg List.head? hk, ?_⟩
      rintro rfl
      exact absurd (hword.all '=' (by simp [hk])) (by decide)
  | not c => exact ⟨'!', by simp [negatedText, isTight, text], by decide⟩
  | equals _ _ | differs _ _ | compares _ _ _ | matching _ _ _ | isIn _ _ | notIn _ _ | all _
  | any _ => exact ⟨'(', by simp [negatedText, isTight, parenthesized], by decide⟩

theorem starts_negation {c : Clause} (hlegible : ∀ l ∈ c.leaves, l.IsLegible) (r : List Char) :
    Starts ('!' :: (c.negatedText.toList ++ r)) [.not] (c.negatedText.toList ++ r) := by
  obtain ⟨d, hhead, hd⟩ := head?_negatedText hlegible
  obtain ⟨s, hs⟩ := List.head?_eq_some_iff.mp hhead
  rw [hs]
  exact .operator (k := 0) (by simp [operator?, hd])

mutual
theorem spells_text : (c : Clause) → (∀ l ∈ c.leaves, l.IsLegible ∧ l.IsLossless) →
    Spells c.text.toList c.tokens
  | not c, h => by
      have hinner : Spells c.negatedText.toList (enclose (!c.isTight) c.tokens) :=
        spells_enclose (!c.isTight) (spells_text c h)
      intro r hr
      rw [text_not, String.toList_append, tokens]
      exact (starts_negation (c := c) (fun l hl => (h l hl).1) r).begins.trans (hinner r hr)
  | all cs, h => by
      rw [show (all cs).text = membersText .and cs from text_join .and cs, tokens]
      exact spells_members .and cs h
  | any cs, h => by
      rw [show (any cs).text = membersText .or cs from text_join .or cs, tokens]
      exact spells_members .or cs h
  | always, h | never, h | defined _, h | equals _ _, h | differs _ _, h | compares _ _ _, h
  | matching _ _ _, h | isIn _ _, h | notIn _ _, h =>
      have ⟨hlegible, hlossless⟩ := h _ (List.mem_singleton_self _)
      spells_leaf trivial hlegible hlossless

theorem spells_members (k : Connective) : (cs : List Clause) →
    (∀ l ∈ leavesOf cs, l.IsLegible ∧ l.IsLossless) →
      Spells (membersText k cs).toList (memberTokens k cs)
  | [], _ => fun r _ us => ⟨fun h => ⟨us, rfl, h⟩, by rintro ⟨vs, rfl, h⟩; exact h⟩
  | [c], h => by
      rw [leavesOf, leavesOf, List.append_nil] at h
      exact spells_enclose (k.encloses c) (spells_text c h)
  | c :: d :: cs, h => by
      rw [leavesOf] at h
      have hc := spells_enclose (k.encloses c)
        (spells_text c fun l hl => h l (List.mem_append_left _ hl))
      have hcs := spells_members k (d :: cs) fun l hl => h l (List.mem_append_right _ hl)
      intro r hr
      rw [membersText_cons, String.toList_append, String.toList_append, memberTokens,
        List.append_assoc, List.append_assoc]
      exact (hc _ (ends_sign k _)).trans ((begins_sign k _).trans (hcs r hr))
end

end Clause

end Shortcuts
