import Shortcuts.Proofs.Clause.Derivation

/-!
How a text falls into tokens, without offsets: `Starts` says which tokens stand at the start of a
text and what is left behind them, and `Lexes` which tokens the whole text has. The lexer gives
the tokens of a text exactly if it has any.
-/

namespace Shortcuts.Clause

/-- The text between the slashes of a regular expression. -/
inductive IsSource : List Char → Prop
  | nil : IsSource []
  | escape {s : List Char} (c : Char) (h : IsSource s) : IsSource ('\\' :: c :: s)
  | char {c : Char} {s : List Char} (hslash : c ≠ '/') (hback : c ≠ '\\') (h : IsSource s) :
      IsSource (c :: s)

/-- A text that is read as one word. -/
structure IsWord (w : List Char) : Prop where
  ne_nil : w ≠ []
  all : ∀ c ∈ w, isWordChar c = true

def IsFlags (s : List Char) : Prop := ∀ c ∈ s, c.isAlpha = true

/-- The characters of a class end where a text starts. -/
def Ends (p : Char → Bool) (s : List Char) : Prop := ∀ c ∈ s.head?, p c = false

inductive IsQuote : Char → Prop
  | single : IsQuote '\''
  | double : IsQuote '"'

/-- `Starts s ts r`: the text `s` starts with the tokens `ts`, and `r` is left. -/
inductive Starts : List Char → List Token → List Char → Prop
  | operator {c : Char} {s : List Char} {t : Token} {k : Nat}
      (h : operator? c (s.take 2) = some (t, k)) : Starts (c :: s) [t] (s.drop k)
  | regex {blanks source flags r : List Char} (hblanks : ∀ c ∈ blanks, Text.isBlank c = true)
      (hsource : IsSource source) (hflags : IsFlags flags) (hr : Ends Char.isAlpha r) :
      Starts ('=' :: '~' :: (blanks ++ '/' :: (source ++ '/' :: (flags ++ r))))
        [.tilde, .regex source flags] r
  | quoted {q : Char} {s r : List Char} (hq : IsQuote q) (hs : q ∉ s) :
      Starts (q :: (s ++ q :: r)) [.quoted s] r
  | word {w r : List Char} (hw : IsWord w) (hr : Ends isWordChar r) : Starts (w ++ r) [.word w] r

inductive Lexes : List Char → List Token → Prop
  | nil : Lexes [] []
  | blank {c : Char} {s : List Char} {ts : List Token} (hc : Text.isBlank c = true)
      (h : Lexes s ts) : Lexes (c :: s) ts
  | step {s r : List Char} {ts us : List Token} (hs : Starts s ts r) (hr : Lexes r us) :
      Lexes s (ts ++ us)

/-! ### Characters -/

theorem isWord_of_all {w : List Char} (hne : w ≠ []) (h : w.all isWordChar = true) : IsWord w :=
  ⟨hne, List.all_eq_true.mp h⟩

theorem plain_locate (n : Nat) (s : List Char) : plain (locate n s) = s := by
  induction s generalizing n with
  | nil => rfl
  | cons c s ih => exact congrArg (c :: ·) (ih _)

theorem plain_eq_cons {l : Located} {c : Char} {s : List Char} (h : plain l = c :: s) :
    ∃ n r, l = (n, c) :: r ∧ plain r = s := by
  obtain ⟨⟨n, d⟩, r, rfl, rfl, hr⟩ := List.map_eq_cons_iff.mp h
  exact ⟨n, r, rfl, hr⟩

theorem plain_takeWhile (p : Char → Bool) (l : Located) :
    plain (l.takeWhile (p ·.2)) = (plain l).takeWhile p := List.takeWhile_map.symm

theorem plain_dropWhile (p : Char → Bool) (l : Located) :
    plain (l.dropWhile (p ·.2)) = (plain l).dropWhile p := List.dropWhile_map.symm

theorem takeWhile_eq {p : Char → Bool} {s r : List Char} (hs : ∀ c ∈ s, p c = true)
    (hr : Ends p r) : (s ++ r).takeWhile p = s ∧ (s ++ r).dropWhile p = r := by
  rw [List.takeWhile_append_of_pos hs, List.dropWhile_append_of_pos hs]
  cases r with
  | nil => simp
  | cons c r =>
      have hc : p c = false := hr c rfl
      simp [hc]

theorem of_mem_takeWhile {p : Char → Bool} {s : List Char} {c : Char} (h : c ∈ s.takeWhile p) :
    p c = true := List.all_eq_true.mp List.all_takeWhile c h

theorem ends_dropWhile (p : Char → Bool) (s : List Char) : Ends p (s.dropWhile p) := by
  intro c hc
  have := List.head?_dropWhile_not p s
  rw [Option.mem_def.mp hc] at this
  simpa using this

theorem isWordChar_iff {c : Char} :
    isWordChar c = true ↔ Text.isBlank c = false ∧ isStop c = false := by
  simp [isWordChar]

theorem isStop_iff {c : Char} : isStop c = true ↔
    c ∈ ['(', ')', '!', '&', '|', '=', '<', '>', '\'', '"'] := List.contains_iff_mem

theorem isStop_of_operator? {c : Char} {s : List Char} {p : Token × Nat}
    (h : operator? c s = some p) : isStop c = true := by
  unfold operator? at h
  split at h <;> first | rfl | cases h

theorem operator?_of_isWordChar {c : Char} (hc : isWordChar c = true) (s : List Char) :
    operator? c s = none := by
  cases h : operator? c s with
  | none => rfl
  | some p =>
      have hstop := isStop_of_operator? h
      rw [(isWordChar_iff.mp hc).2] at hstop
      cases hstop

theorem isBlank_of_isStop {c : Char} (h : isStop c = true) : Text.isBlank c = false := by
  rw [isStop_iff] at h
  simp only [List.mem_cons, List.not_mem_nil, or_false] at h
  rcases h with rfl | rfl | rfl | rfl | rfl | rfl | rfl | rfl | rfl | rfl <;> decide

theorem IsQuote.isStop {q : Char} (h : IsQuote q) : isStop q = true := by cases h <;> decide

theorem IsQuote.operator? {q : Char} (h : IsQuote q) (s : List Char) :
    Clause.operator? q s = none := by cases h <;> rfl

/-! ### One token -/

theorem takeQuoted_sound {q : Char} {l r : Located} {s : List Char}
    (h : takeQuoted q l = some (s, r)) : q ∉ s ∧ plain l = s ++ q :: plain r := by
  induction l generalizing s with
  | nil => cases h
  | cons p l ih =>
      obtain ⟨n, c⟩ := p
      rw [takeQuoted] at h
      split at h
      · next hc =>
          cases h
          exact ⟨by simp, congrArg (· :: _) hc⟩
      · next hc =>
          obtain ⟨⟨t, u⟩, ht, htu⟩ := Option.map_eq_some_iff.mp h
          cases htu
          obtain ⟨hq, hl⟩ := ih ht
          exact ⟨by simp [hq, Ne.symm hc], congrArg (c :: ·) hl⟩

theorem takeQuoted_complete {q : Char} {l : Located} {s u : List Char} (hq : q ∉ s)
    (hl : plain l = s ++ q :: u) : ∃ r, takeQuoted q l = some (s, r) ∧ plain r = u := by
  induction s generalizing l with
  | nil =>
      obtain ⟨n, r, rfl, hr⟩ := plain_eq_cons hl
      exact ⟨r, by rw [takeQuoted, if_pos rfl], hr⟩
  | cons c s ih =>
      obtain ⟨n, r, rfl, hr⟩ := plain_eq_cons hl
      obtain ⟨hc, hs⟩ := not_or.mp (mt List.mem_cons.mpr hq)
      obtain ⟨r', hr', hu⟩ := ih hs hr
      exact ⟨r', by rw [takeQuoted, if_neg (Ne.symm hc), hr']; rfl, hu⟩

theorem takeSource_sound {l r : Located} {s : List Char} (h : takeSource l = some (s, r)) :
    IsSource s ∧ plain l = s ++ '/' :: plain r := by
  fun_induction takeSource l generalizing s r with
  | case1 => cases h
  | case2 n => cases h; exact ⟨.nil, rfl⟩
  | case3 => cases h
  | case4 n m d l => cases h; exact ⟨.nil, rfl⟩
  | case5 n m d l hslash ih =>
      obtain ⟨⟨t, u⟩, ht, htu⟩ := Option.map_eq_some_iff.mp h
      cases htu
      obtain ⟨hs, hl⟩ := ih ht
      exact ⟨.escape d hs, congrArg ('\\' :: d :: ·) hl⟩
  | case6 n c m d l hslash hback ih =>
      obtain ⟨⟨t, u⟩, ht, htu⟩ := Option.map_eq_some_iff.mp h
      cases htu
      obtain ⟨hs, hl⟩ := ih ht
      exact ⟨.char hslash hback hs, congrArg (c :: ·) hl⟩

theorem takeSource_complete {s u : List Char} (hs : IsSource s) {l : Located}
    (hl : plain l = s ++ '/' :: u) : ∃ r, takeSource l = some (s, r) ∧ plain r = u := by
  induction hs generalizing l with
  | nil =>
      obtain ⟨n, r, rfl, hr⟩ := plain_eq_cons hl
      cases r with
      | nil => exact ⟨[], rfl, hr⟩
      | cons p r => exact ⟨p :: r, rfl, hr⟩
  | escape c hs ih =>
      obtain ⟨n, l₁, rfl, h₁⟩ := plain_eq_cons hl
      obtain ⟨m, l₂, rfl, h₂⟩ := plain_eq_cons h₁
      obtain ⟨r', hr', hu⟩ := ih h₂
      exact ⟨r', by rw [takeSource, if_neg (by decide), if_pos rfl, hr']; rfl, hu⟩
  | @char c s hslash hback hs ih =>
      obtain ⟨n, r, rfl, htail⟩ := plain_eq_cons hl
      obtain ⟨r', hr', hu⟩ := ih htail
      cases r with
      | nil => cases hs <;> cases htail
      | cons p r => exact ⟨r', by rw [takeSource, if_neg hslash, if_neg hback, hr']; rfl, hu⟩

theorem takeRegex_sound {l r : Located} {t : Nat × Token} (h : takeRegex l = .ok (t, r)) :
    ∃ blanks source flags, (∀ c ∈ blanks, Text.isBlank c = true) ∧ IsSource source ∧
      IsFlags flags ∧ Ends Char.isAlpha (plain r) ∧ t.2 = .regex source flags ∧
      plain l = blanks ++ '/' :: (source ++ '/' :: (flags ++ plain r)) := by
  rw [takeRegex] at h
  have hl : plain (l.takeWhile (Text.isBlank ·.2)) ++ plain (l.dropWhile (Text.isBlank ·.2)) =
      plain l := by
    rw [plain, plain, ← List.map_append, List.takeWhile_append_dropWhile]
    rfl
  split at h
  · cases h
  · next n c l' hdrop =>
      split at h
      · cases h
      · next hc =>
          split at h
          · cases h
          · next source r' hsource =>
              cases h
              obtain ⟨hs, hl'⟩ := takeSource_sound hsource
              refine ⟨plain (l.takeWhile (Text.isBlank ·.2)), source,
                plain (r'.takeWhile (Char.isAlpha ·.2)), ?_, hs, ?_, ?_, rfl, ?_⟩
              · rw [plain_takeWhile]
                exact fun c hc => of_mem_takeWhile hc
              · rw [plain_takeWhile]
                exact fun c hc => of_mem_takeWhile hc
              · rw [plain_dropWhile]
                exact ends_dropWhile _ _
              · rw [← hl, hdrop, plain_takeWhile Char.isAlpha, plain_dropWhile Char.isAlpha,
                  List.takeWhile_append_dropWhile, ← hl', ← Decidable.not_not.mp hc]
                rfl

theorem takeRegex_complete {l : Located} {blanks source flags u : List Char}
    (hblanks : ∀ c ∈ blanks, Text.isBlank c = true) (hsource : IsSource source)
    (hflags : IsFlags flags) (hu : Ends Char.isAlpha u)
    (hl : plain l = blanks ++ '/' :: (source ++ '/' :: (flags ++ u))) :
    ∃ n r, takeRegex l = .ok ((n, .regex source flags), r) ∧ plain r = u := by
  have hdrop : plain (l.dropWhile (Text.isBlank ·.2)) = '/' :: (source ++ '/' :: (flags ++ u)) := by
    rw [plain_dropWhile, hl]
    exact (takeWhile_eq hblanks (fun c hc => by cases hc; decide)).2
  obtain ⟨n, l', hl', hplain⟩ := plain_eq_cons hdrop
  obtain ⟨r, hr, hru⟩ := takeSource_complete hsource hplain
  obtain ⟨htake, hdrop'⟩ := takeWhile_eq hflags hu
  refine ⟨n, r.dropWhile (Char.isAlpha ·.2), ?_, by rw [plain_dropWhile, hru, hdrop']⟩
  rw [takeRegex, hl']
  simp only [ne_eq, not_true_eq_false, if_false, hr]
  rw [plain_takeWhile, hru, htake]

theorem lexOne_sound {n : Nat} {c : Char} {l r : Located} {ts : Tokens}
    (h : lexOne n c l = .ok (ts, r)) : Starts (c :: plain l) (kinds ts) (plain r) := by
  rw [lexOne] at h
  split at h
  · next t k hop =>
      cases h
      rw [plain, List.map_take] at hop
      have := Starts.operator hop
      rwa [← List.map_drop] at this
  · split at h
    · next hc =>
        obtain ⟨rfl, htilde⟩ := hc
        split at h
        · cases h
        · next t r' hr =>
            cases h
            obtain ⟨p, hp, hchar⟩ := Option.map_eq_some_iff.mp htilde
            obtain ⟨blanks, source, flags, hblanks, hsource, hflags, hends, ht, hl⟩ :=
              takeRegex_sound hr
            obtain ⟨l', rfl⟩ := List.head?_eq_some_iff.mp hp
            have := Starts.regex hblanks hsource hflags hends
            rw [← hl, ← ht, ← hchar] at this
            exact this
    · split at h
      · next hq =>
          split at h
          · cases h
          · next t r' hr =>
              cases h
              obtain ⟨ht, hl⟩ := takeQuoted_sound hr
              rw [hl]
              refine .quoted ?_ ht
              rcases hq with rfl | rfl
              · exact .single
              · exact .double
      · split at h
        · next hword =>
            cases h
            rw [plain_takeWhile, plain_dropWhile]
            have := Starts.word (w := c :: (plain l).takeWhile isWordChar)
              ⟨List.cons_ne_nil _ _, ?_⟩ (ends_dropWhile isWordChar (plain l))
            · rwa [List.cons_append, List.takeWhile_append_dropWhile] at this
            · intro d hd
              rcases List.mem_cons.mp hd with rfl | hd
              · exact hword
              · exact of_mem_takeWhile hd
        · cases h

theorem lexOne_complete {s u : List Char} {ts : List Token} (h : Starts s ts u) {n : Nat}
    {c : Char} {l : Located} (hl : c :: plain l = s) :
    ∃ us r, lexOne n c l = .ok (us, r) ∧ kinds us = ts ∧ plain r = u := by
  cases h with
  | @operator d s t k h =>
      cases hl
      refine ⟨[(n, t)], l.drop k, ?_, rfl, List.map_drop⟩
      rw [plain, ← List.map_take] at h
      rw [lexOne, plain, h]
  | @regex blanks source flags r hblanks hsource hflags hr =>
      obtain ⟨rfl, htail⟩ := List.cons.inj hl
      obtain ⟨m, l', rfl, hl'⟩ := plain_eq_cons htail
      obtain ⟨m', r', hr', hu⟩ := takeRegex_complete hblanks hsource hflags hr hl'
      refine ⟨[(n, .tilde), (m', .regex source flags)], r', ?_, rfl, hu⟩
      have hop : operator? '=' (plain (((m, '~') :: l').take 2)) = none := rfl
      rw [lexOne, hop]
      simp [hr']
  | @quoted q s r hq hs =>
      obtain ⟨rfl, htail⟩ := List.cons.inj hl
      obtain ⟨r', hr', hu⟩ := takeQuoted_complete hs htail
      refine ⟨[(n, .quoted s)], r', ?_, rfl, hu⟩
      rw [lexOne, hq.operator?]
      cases hq <;> simp [hr']
  | @word w r hw hr =>
      cases w with
      | nil => exact absurd rfl hw.ne_nil
      | cons d w =>
          obtain ⟨rfl, htail : plain l = w ++ u⟩ := List.cons.inj hl
          have hc : isWordChar c = true := hw.all c List.mem_cons_self
          have hstop : ¬ isStop c = true := by simp [(isWordChar_iff.mp hc).2]
          obtain ⟨htake, hdrop⟩ :=
            takeWhile_eq (fun d hd => hw.all d (List.mem_cons_of_mem _ hd)) hr
          refine ⟨[(n, .word (c :: w))], l.dropWhile (isWordChar ·.2), ?_, rfl, ?_⟩
          · rw [lexOne, operator?_of_isWordChar hc]
            dsimp only
            rw [if_neg (fun h => hstop (by rw [h.1]; decide)),
              if_neg (fun h => hstop (by rcases h with rfl | rfl <;> decide)), if_pos hc,
              plain_takeWhile, htail, htake]
          · rw [plain_dropWhile, htail, hdrop]

/-! ### Whole texts -/

theorem Starts.exists_cons {s r : List Char} {ts : List Token} (h : Starts s ts r) :
    ∃ c t, s = c :: t ∧ Text.isBlank c = false := by
  cases h with
  | @operator c s t k h => exact ⟨c, s, rfl, isBlank_of_isStop (isStop_of_operator? h)⟩
  | regex => exact ⟨_, _, rfl, by decide⟩
  | quoted hq => exact ⟨_, _, rfl, isBlank_of_isStop hq.isStop⟩
  | @word w r hw hr =>
      obtain ⟨c, w, rfl⟩ := List.exists_cons_of_ne_nil hw.ne_nil
      exact ⟨c, w ++ r, rfl, (isWordChar_iff.mp (hw.all c List.mem_cons_self)).1⟩

theorem lexFrom_sound {l : Located} {us : Tokens} (h : lexFrom l = .ok us) :
    Lexes (plain l) (kinds us) := by
  fun_induction lexFrom l generalizing us with
  | case1 => cases h; exact .nil
  | case2 n c l hc ih => exact .blank hc (ih h)
  | case3 => cases h
  | case4 => cases h
  | case5 n c l hc ts r hone hlen vs hrest ih =>
      cases h
      rw [kinds, List.map_append]
      exact .step (lexOne_sound hone) (ih hrest)

theorem lexFrom_complete {s : List Char} {ts : List Token} (h : Lexes s ts) {l : Located}
    (hl : plain l = s) : ∃ us, lexFrom l = .ok us ∧ kinds us = ts := by
  induction h generalizing l with
  | nil =>
      rw [List.map_eq_nil_iff.mp hl]
      exact ⟨[], by rw [lexFrom], rfl⟩
  | blank hc h ih =>
      obtain ⟨n, r, rfl, hr⟩ := plain_eq_cons hl
      obtain ⟨us, hus, hts⟩ := ih hr
      exact ⟨us, by rw [lexFrom, if_pos hc, hus], hts⟩
  | step hs hr ih =>
      obtain ⟨c, t, rfl, hc⟩ := hs.exists_cons
      obtain ⟨n, l', rfl, hl'⟩ := plain_eq_cons hl
      obtain ⟨vs, r', hone, hvs, hr'⟩ := lexOne_complete hs (n := n) (congrArg (c :: ·) hl')
      obtain ⟨us, hus, hts⟩ := ih hr'
      refine ⟨vs ++ us, ?_, by rw [kinds, List.map_append]; exact hvs ▸ hts ▸ rfl⟩
      rw [lexFrom, if_neg (by simp [hc])]
      split
      · next h => rw [hone] at h; cases h
      · next h =>
          rw [hone] at h
          cases h
          rw [hus]

theorem lex_ok_iff {s : List Char} {ts : List Token} :
    (∃ us, lex s = .ok us ∧ kinds us = ts) ↔ Lexes s ts := by
  constructor
  · rintro ⟨us, hus, rfl⟩
    have := lexFrom_sound hus
    rwa [plain_locate] at this
  · exact fun h => lexFrom_complete h (plain_locate 0 s)

theorem Starts.unique {s r r' : List Char} {ts ts' : List Token} (h : Starts s ts r)
    (h' : Starts s ts' r') : ts = ts' ∧ r = r' := by
  obtain ⟨c, t, rfl, -⟩ := h.exists_cons
  have hl : c :: plain (locate 0 t) = c :: t := congrArg (c :: ·) (plain_locate 0 t)
  obtain ⟨us, l, hone, rfl, rfl⟩ := lexOne_complete h (n := 0) hl
  obtain ⟨us', l', hone', rfl, rfl⟩ := lexOne_complete h' (n := 0) hl
  rw [hone] at hone'
  cases hone'
  exact ⟨rfl, rfl⟩

theorem lexes_blank_iff {c : Char} {s : List Char} {ts : List Token}
    (hc : Text.isBlank c = true) : Lexes (c :: s) ts ↔ Lexes s ts := by
  refine ⟨fun h => ?_, .blank hc⟩
  cases h with
  | blank _ h => exact h
  | step hs _ =>
      obtain ⟨d, t, hd, hblank⟩ := hs.exists_cons
      cases hd
      rw [hc] at hblank
      cases hblank

theorem Starts.lexes_iff {s r : List Char} {ts us : List Token} (hs : Starts s ts r) :
    Lexes s us ↔ ∃ vs, us = ts ++ vs ∧ Lexes r vs := by
  constructor
  · intro h
    cases h with
    | nil =>
        obtain ⟨_, _, h, _⟩ := hs.exists_cons
        cases h
    | blank hc _ =>
        obtain ⟨d, t, hd, hblank⟩ := hs.exists_cons
        cases hd
        rw [hc] at hblank
        cases hblank
    | step hs' hr =>
        obtain ⟨rfl, rfl⟩ := hs.unique hs'
        exact ⟨_, rfl, hr⟩
  · rintro ⟨vs, rfl, h⟩
    exact .step hs h

end Shortcuts.Clause
