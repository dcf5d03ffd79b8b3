import Shortcuts.Proofs.Clause.Lexing

/-!
Tokens in texts. Every token is located where its first character stands, so offsets ascend, and
what the lexer refuses is located in the text as well. Printed tokens with blanks between them are
read as the same tokens, and the lists that can be printed so are those that some text has.
-/

namespace Shortcuts.Clause

/-! ### Offsets -/

/-- The character `c` stands behind the first `n` bytes of a text. -/
def StandsAt (s : List Char) (n : Nat) (c : Char) : Prop :=
  ∃ before after, s = before ++ c :: after ∧ (String.ofList before).utf8ByteSize = n

/-- The characters that a token can begin with. -/
def Token.OpensWith : Token → Char → Prop
  | quoted _, c => IsQuote c
  | t, c => t.chars.head? = some c

namespace Error

def offset? : Error → Option Nat
  | unexpectedToken _ n | unexpectedChar _ n | unterminatedString n | unterminatedRegex n => some n
  | _ => none

/-- The characters that an error can be about. -/
def IsAbout : Error → Char → Prop
  | unexpectedChar d _, c => c = d
  | unterminatedString _, c => IsQuote c
  | unterminatedRegex _, c => c = '/'
  | _, _ => True

/-- If an error has an offset, one of these characters is located there, which it is about. -/
def IsIn (l : Located) (e : Error) : Prop := ∀ n ∈ e.offset?, ∃ c, (n, c) ∈ l ∧ e.IsAbout c

theorem IsIn.mono {l l' : Located} {e : Error} (h : e.IsIn l) (hl : l ⊆ l') : e.IsIn l' :=
  fun n hn => (h n hn).imp fun _ hc => ⟨hl hc.1, hc.2⟩

end Error

theorem isQuote_iff {c : Char} : IsQuote c ↔ c = '\'' ∨ c = '"' := by
  constructor
  · rintro (_ | _)
    · exact .inl rfl
    · exact .inr rfl
  · rintro (rfl | rfl)
    · exact .single
    · exact .double

theorem standsAt_of_mem_locate {n m : Nat} {c : Char} {s : List Char} (h : (n, c) ∈ locate m s) :
    ∃ k, StandsAt s k c ∧ n = m + k := by
  induction s generalizing m with
  | nil => cases h
  | cons d s ih =>
      rcases List.mem_cons.mp h with heq | h
      · cases heq
        exact ⟨0, ⟨[], s, rfl, rfl⟩, rfl⟩
      · obtain ⟨k, ⟨before, after, rfl, hk⟩, rfl⟩ := ih h
        refine ⟨k + d.utf8Size, ⟨d :: before, after, rfl, ?_⟩, by omega⟩
        rw [String.utf8ByteSize_ofList] at hk ⊢
        rw [String.utf8Len, hk]

theorem locate_increases (m : Nat) (s : List Char) :
    (locate m s).Pairwise fun p q => p.1 < q.1 := by
  induction s generalizing m with
  | nil => exact .nil
  | cons c s ih =>
      refine List.pairwise_cons.mpr ⟨fun p hp => ?_, ih (m + c.utf8Size)⟩
      obtain ⟨k, -, hk⟩ := standsAt_of_mem_locate (c := p.2) hp
      have hsize := c.utf8Size_pos
      dsimp only
      omega

/-- The tokens are located at these characters. -/
def AreHeads (heads : Located) (ts : Tokens) : Prop :=
  List.Forall₂ (fun p t => t.1 = p.1 ∧ t.2.OpensWith p.2) heads ts

theorem areHeads_single {n : Nat} {c : Char} {t : Token} (h : t.OpensWith c) :
    AreHeads [(n, c)] [(n, t)] := .cons ⟨rfl, h⟩ .nil

namespace AreHeads

variable {heads : Located} {ts : Tokens}

theorem offsets (h : AreHeads heads ts) : ts.map Prod.fst = heads.map Prod.fst := by
  induction h with
  | nil => rfl
  | cons h _ ih => exact congrArg₂ List.cons h.1 ih

theorem exists_head (h : AreHeads heads ts) {t : Nat × Token} (ht : t ∈ ts) :
    ∃ c, (t.1, c) ∈ heads ∧ t.2.OpensWith c := by
  induction h with
  | nil => cases ht
  | @cons p t' _ _ h _ ih =>
      rcases List.mem_cons.mp ht with rfl | ht
      · exact ⟨p.2, h.1 ▸ .head _, h.2⟩
      · exact (ih ht).imp fun _ hc => ⟨.tail _ hc.1, hc.2⟩

end AreHeads

theorem opensWith_of_operator? {c : Char} {s : List Char} {t : Token} {k : Nat}
    (h : operator? c s = some (t, k)) : t.OpensWith c := by
  unfold operator? at h
  split at h <;> cases h <;> rfl

theorem opensWith_of_takeRegex {l r : Located} {t : Nat × Token} (h : takeRegex l = .ok (t, r)) :
    t.2.OpensWith '/' := by
  obtain ⟨_, source, flags, -, -, -, -, ht, -⟩ := takeRegex_sound h
  rw [ht]
  rfl

theorem lexOne_heads {n : Nat} {c : Char} {l r : Located} {ts : Tokens}
    (h : lexOne n c l = .ok (ts, r)) :
    ∃ heads, AreHeads heads ts ∧ (heads ++ r).Sublist ((n, c) :: l) := by
  have hrest := (lexOne_sublist h).cons_cons (n, c)
  rw [lexOne] at h
  split at h
  · next t k hop =>
      cases h
      exact ⟨_, areHeads_single (opensWith_of_operator? hop), hrest⟩
  · split at h
    · next hc =>
        split at h
        · cases h
        · next t r' hr =>
            cases h
            have hslash := (takeRegex_sublist hr).trans (List.tail_sublist l)
            exact ⟨[(n, c), (t.1, '/')], .cons ⟨rfl, congrArg some hc.1.symm⟩
              (.cons ⟨rfl, opensWith_of_takeRegex hr⟩ .nil), hslash.cons_cons _⟩
    · split at h
      · next hq =>
          split at h
          · cases h
          · cases h
            exact ⟨_, areHeads_single (isQuote_iff.mpr hq), hrest⟩
      · split at h
        · cases h
          exact ⟨_, areHeads_single rfl, hrest⟩
        · cases h

theorem takeRegex_isIn {l : Located} {e : Error} (h : takeRegex l = .error e) : e.IsIn l := by
  have hdrop := (List.dropWhile_sublist (Text.isBlank ·.2) (l := l)).subset
  rw [takeRegex] at h
  split at h
  · cases h
    rintro _ ⟨⟩
  · next n c l' hl =>
      rw [hl] at hdrop
      split at h
      · cases h
        rintro _ ⟨⟩
        exact ⟨c, hdrop (.head _), rfl⟩
      · next hc =>
          split at h
          · cases h
            have hslash : c = '/' := Decidable.not_not.mp hc
            rintro _ ⟨⟩
            exact ⟨c, hdrop (.head _), hslash⟩
          · cases h

theorem lexOne_isIn {n : Nat} {c : Char} {l : Located} {e : Error} (h : lexOne n c l = .error e) :
    e.IsIn ((n, c) :: l) := by
  rw [lexOne] at h
  split at h
  · cases h
  · split at h
    · split at h
      · next hr =>
          cases h
          exact (takeRegex_isIn hr).mono
            fun p hp => .tail _ ((List.tail_sublist l).subset hp)
      · cases h
    · split at h
      · next hq =>
          split at h
          · cases h
            rintro _ ⟨⟩
            exact ⟨c, .head _, isQuote_iff.mpr hq⟩
          · cases h
      · split at h
        · cases h
        · cases h
          rintro _ ⟨⟩
          exact ⟨c, .head _, rfl⟩

theorem lexFrom_heads {l : Located} {us : Tokens} (h : lexFrom l = .ok us) :
    ∃ heads, AreHeads heads us ∧ heads.Sublist l := by
  fun_induction lexFrom l generalizing us with
  | case1 =>
      cases h
      exact ⟨[], .nil, List.Sublist.refl []⟩
  | case2 n c l hc ih =>
      obtain ⟨heads, hheads, hl⟩ := ih h
      exact ⟨heads, hheads, hl.cons _⟩
  | case3 => cases h
  | case4 => cases h
  | case5 n c l hc ts r hone hlen vs hrest ih =>
      cases h
      obtain ⟨before, hbefore, hl⟩ := lexOne_heads hone
      obtain ⟨behind, hbehind, hr⟩ := ih hrest
      exact ⟨before ++ behind, List.rel_append hbefore hbehind,
        ((List.Sublist.refl before).append hr).trans hl⟩

theorem lexFrom_isIn {l : Located} {e : Error} (h : lexFrom l = .error e) : e.IsIn l := by
  fun_induction lexFrom l with
  | case1 => cases h
  | case2 n c l hc ih => exact (ih h).mono (List.subset_cons_self _ l)
  | case3 n c l hc e' hone =>
      cases h
      exact lexOne_isIn hone
  | case4 n c l hc ts r hone hlen e' hrest ih =>
      cases h
      exact (ih hrest).mono fun p hp => .tail _ ((lexOne_sublist hone).subset hp)
  | case5 => cases h

/-! ### Printed tokens -/

namespace Token

/-- A token that a text can have alone, without the one that belongs to it. -/
def StandsAlone : Token → Prop
  | tilde => False
  | regex _ _ => False
  | quoted s => ∃ q, IsQuote q ∧ q ∉ s
  | word w => IsWord w
  | _ => True

/-- The texts of a token. A string can have either quote around it, unless it contains that one. -/
inductive IsPrinted : Token → List Char → Prop
  | quoted {q : Char} {s : List Char} (hq : IsQuote q) (hs : q ∉ s) :
      IsPrinted (.quoted s) (q :: (s ++ [q]))
  | chars {t : Token} (h : ∀ s, t ≠ .quoted s) : IsPrinted t t.chars

end Token

/-- Lists of tokens that a text can have: match operators and regular expressions are in them as
pairs only. -/
inductive ArePrintable : List Token → Prop
  | nil : ArePrintable []
  | alone {t : Token} {ts : List Token} (ht : t.StandsAlone) (h : ArePrintable ts) :
      ArePrintable (t :: ts)
  | matching {source flags : List Char} {ts : List Token} (hsource : IsSource source)
      (hflags : IsFlags flags) (h : ArePrintable ts) :
      ArePrintable (.tilde :: .regex source flags :: ts)

/-- A text ends, or goes on with a blank. -/
def IsApart (r : List Char) : Prop := ∀ c ∈ r.head?, c = ' '

theorem IsApart.ends {r : List Char} (h : IsApart r) {p : Char → Bool} (hp : p ' ' = false) :
    Ends p r := fun c hc => h c hc ▸ hp

theorem IsApart.cases {r : List Char} (h : IsApart r) : r = [] ∨ ∃ r', r = ' ' :: r' := by
  cases r with
  | nil => exact .inl rfl
  | cons c r => exact .inr ⟨r, congrArg (· :: r) (h c rfl)⟩

open Token (IsPrinted)

theorem starts_operator {c : Char} {o r : List Char} {t : Token} (hr : IsApart r)
    (hend : operator? c (o.take 2) = some (t, o.length))
    (hblank : ∀ r, operator? c ((o ++ ' ' :: r).take 2) = some (t, o.length)) :
    Starts (c :: (o ++ r)) [t] r := by
  have hop : operator? c ((o ++ r).take 2) = some (t, o.length) := by
    rcases hr.cases with rfl | ⟨r, rfl⟩
    · rwa [List.append_nil]
    · exact hblank r
  have := Starts.operator hop
  rwa [List.drop_left] at this

theorem starts_printed {t : Token} {x r : List Char} (ht : t.StandsAlone) (hx : IsPrinted t x)
    (hr : IsApart r) : Starts (x ++ r) [t] r := by
  cases hx with
  | quoted hq hs =>
      have := Starts.quoted (r := r) hq hs
      simpa using this
  | chars h =>
      cases t with
      | opening | closing | not | less | greater =>
          exact starts_operator (o := []) hr rfl fun _ => rfl
      | and | or | equal | notEqual | atMost | atLeast =>
          exact starts_operator (o := [_]) hr rfl fun _ => rfl
      | tilde | regex source flags => exact ht.elim
      | quoted s => exact absurd rfl (h s)
      | word w => exact .word ht (hr.ends (by decide))

/-- A text that stands for some tokens wherever it is apart goes before a blank and the others. -/
theorem lexes_intercalate_cons {x : List Char} {texts : List (List Char)} {ts us : List Token}
    (hx : ∀ r, IsApart r → Starts (x ++ r) ts r)
    (h : Lexes ([' '].intercalate texts) us) : Lexes ([' '].intercalate (x :: texts)) (ts ++ us) := by
  cases texts with
  | nil =>
      rw [List.intercalate_singleton, ← List.append_nil x]
      exact .step (hx [] nofun) h
  | cons y texts =>
      rw [List.intercalate_cons_cons, List.append_assoc, List.singleton_append]
      exact .step (hx _ fun c hc => (Option.some.inj hc).symm) (.blank (by decide) h)

theorem intercalate_join {α : Type} (sep x y : List α) (texts : List (List α)) :
    sep.intercalate (x :: y :: texts) = sep.intercalate ((x ++ sep ++ y) :: texts) := by
  cases texts with
  | nil => simp [List.intercalate_cons_cons]
  | cons z texts => simp [List.intercalate_cons_cons]

theorem lexes_printed {ts : List Token} (h : ArePrintable ts) {texts : List (List Char)}
    (htexts : List.Forall₂ IsPrinted ts texts) : Lexes ([' '].intercalate texts) ts := by
  induction h generalizing texts with
  | nil =>
      cases htexts
      exact .nil
  | alone ht _ ih =>
      obtain ⟨x, rest, hx, hrest, rfl⟩ := List.forall₂_cons_left_iff.mp htexts
      exact lexes_intercalate_cons (fun r hr => starts_printed ht hx hr) (ih hrest)
  | @matching source flags ts hsource hflags _ ih =>
      obtain ⟨_, behind, ⟨⟩, hbehind, rfl⟩ := List.forall₂_cons_left_iff.mp htexts
      obtain ⟨_, rest, ⟨⟩, hrest, rfl⟩ := List.forall₂_cons_left_iff.mp hbehind
      have hblank : ∀ c ∈ [' '], Text.isBlank c = true := List.forall_mem_singleton.mpr (by decide)
      have hpair (r : List Char) (hr : IsApart r) :
          Starts ((['=', '~'] ++ [' '] ++ (Token.regex source flags).chars) ++ r)
            [.tilde, .regex source flags] r := by
        have := Starts.regex hblank hsource hflags (hr.ends (p := Char.isAlpha) (by decide))
        simpa [Token.chars] using this
      rw [intercalate_join]
      exact lexes_intercalate_cons hpair (ih hrest)

theorem exists_printed {ts : List Token} (h : ArePrintable ts) :
    ∃ texts, List.Forall₂ IsPrinted ts texts := by
  have hchars (t : Token) (ht : t.StandsAlone ∨ ∀ s, t ≠ .quoted s) : ∃ x, IsPrinted t x := by
    rcases ht with ht | ht
    · cases t with
      | quoted s =>
          obtain ⟨q, hq, hs⟩ := ht
          exact ⟨_, .quoted hq hs⟩
      | _ => exact ⟨_, .chars nofun⟩
    · exact ⟨_, .chars ht⟩
  induction h with
  | nil => exact ⟨[], .nil⟩
  | @alone t _ ht _ ih =>
      obtain ⟨x, hx⟩ := hchars t (.inl ht)
      obtain ⟨texts, htexts⟩ := ih
      exact ⟨x :: texts, .cons hx htexts⟩
  | matching _ _ _ ih =>
      obtain ⟨texts, htexts⟩ := ih
      exact ⟨_ :: _ :: texts, .cons (.chars nofun) (.cons (.chars nofun) htexts)⟩

theorem standsAlone_of_operator? {c : Char} {s : List Char} {t : Token} {k : Nat}
    (h : operator? c s = some (t, k)) : t.StandsAlone := by
  unfold operator? at h
  split at h <;> cases h <;> trivial

/-- What the lexer gives can be printed. -/
theorem arePrintable_of_lexes {s : List Char} {ts : List Token} (h : Lexes s ts) :
    ArePrintable ts := by
  induction h with
  | nil => exact .nil
  | blank _ _ ih => exact ih
  | step hs _ ih =>
      cases hs with
      | operator h => exact .alone (standsAlone_of_operator? h) ih
      | regex _ hsource hflags _ => exact .matching hsource hflags ih
      | quoted hq hs => exact .alone ⟨_, hq, hs⟩ ih
      | word hw _ => exact .alone hw ih

/-! ### Reading and printing -/

/-- Every text is read as tokens at ascending offsets, each that of the character which begins the
token, or refused for a character in it. Of the lists of tokens exactly those that can be printed
are read from some text, and each is read from all its printed forms. -/
theorem lex_inverts_printing (s : List Char) (ts : List Token) :
    (∀ us, lex s = .ok us → (us.map Prod.fst).Pairwise (· < ·) ∧
      ∀ u ∈ us, ∃ c, StandsAt s u.1 c ∧ u.2.OpensWith c) ∧
    (∀ e, lex s = .error e → ∀ n ∈ e.offset?, ∃ c, StandsAt s n c ∧ e.IsAbout c) ∧
    (ArePrintable ts → (∃ texts, List.Forall₂ IsPrinted ts texts) ∧
      ∀ texts, List.Forall₂ IsPrinted ts texts →
        ∃ us, lex ([' '].intercalate texts) = .ok us ∧ kinds us = ts) ∧
    (∀ us, lex s = .ok us → ArePrintable (kinds us)) := by
  have hlocated {n : Nat} {c : Char} (h : (n, c) ∈ locate 0 s) : StandsAt s n c := by
    obtain ⟨k, hk, rfl⟩ := standsAt_of_mem_locate h
    rwa [Nat.zero_add]
  refine ⟨fun us hus => ?_, fun e he n hn => ?_, fun h => ⟨exists_printed h, fun texts htexts => ?_⟩,
    fun us hus => ?_⟩
  · obtain ⟨heads, hheads, hsub⟩ := lexFrom_heads hus
    refine ⟨?_, fun u hu => ?_⟩
    · rw [hheads.offsets]
      exact List.pairwise_map.mpr ((locate_increases 0 s).sublist hsub)
    · obtain ⟨c, hc, hopens⟩ := hheads.exists_head hu
      exact ⟨c, hlocated (hsub.subset hc), hopens⟩
  · obtain ⟨c, hc, habout⟩ := lexFrom_isIn he n hn
    exact ⟨c, hlocated hc, habout⟩
  · exact lex_ok_iff.mpr (lexes_printed h htexts)
  · exact arePrintable_of_lexes (lex_ok_iff.mp ⟨us, hus, rfl⟩)

/-- A search in quotes that stand in the text, and a string that goes on to the end. -/
theorem lex_inverts_printing_search :
    let ts : List Token := [.word ['é'], .tilde, .regex ['\\', '/', '='] ['i'], .and, .not,
      .quoted ['i', 't', '\'', 's']]
    let texts : List (List Char) := [['é'], ['=', '~'], ['/', '\\', '/', '=', '/', 'i'], ['&', '&'],
      ['!'], ['"', 'i', 't', '\'', 's', '"']]
    ArePrintable ts ∧ List.Forall₂ IsPrinted ts texts ∧
      (∃ us, lex ([' '].intercalate texts) = .ok us ∧ kinds us = ts ∧
        (us.map Prod.fst).Pairwise (· < ·) ∧
        ∀ u ∈ us, ∃ c, StandsAt ([' '].intercalate texts) u.1 c ∧ u.2.OpensWith c) ∧
      lex ['é', ' ', '\'', 'b'] = .error (.unterminatedString 3) ∧
      ∃ c, StandsAt ['é', ' ', '\'', 'b'] 3 c ∧ IsQuote c := by
  intro ts texts
  have hsource : IsSource ['\\', '/', '='] := .escape '/' (.char (by decide) (by decide) .nil)
  have hflags : IsFlags ['i'] := List.forall_mem_singleton.mpr (by decide)
  have hprintable : ArePrintable ts :=
    .alone (isWord_of_all (by decide) (by decide)) (.matching hsource hflags
      (.alone trivial (.alone trivial (.alone ⟨'"', .double, by decide⟩ .nil))))
  have hprinted : List.Forall₂ IsPrinted ts texts :=
    .cons (.chars nofun) (.cons (.chars nofun) (.cons (.chars nofun) (.cons (.chars nofun)
      (.cons (.chars nofun) (.cons (.quoted .double (by decide)) .nil)))))
  obtain ⟨us, hus, hkinds⟩ := ((lex_inverts_printing [] ts).2.2.1 hprintable).2 texts hprinted
  obtain ⟨hascend, hheads⟩ := (lex_inverts_printing ([' '].intercalate texts) ts).1 us hus
  have herror : lex ['é', ' ', '\'', 'b'] = .error (.unterminatedString 3) := by cbv
  exact ⟨hprintable, hprinted, ⟨us, hus, hkinds, hascend, hheads⟩, herror,
    (lex_inverts_printing _ []).2.1 _ herror 3 rfl⟩

end Shortcuts.Clause
