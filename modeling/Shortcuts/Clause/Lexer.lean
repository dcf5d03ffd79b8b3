import Shortcuts.Clause.Token

/-!
Cutting a when-clause into tokens. Every character carries its offset, so a token's offset is
that of its first character.
-/

namespace Shortcuts.Clause

/-- Characters with their offsets in bytes. -/
abbrev Located := List (Nat × Char)

def locate (offset : Nat) : List Char → Located
  | [] => []
  | c :: s => (offset, c) :: locate (offset + c.utf8Size) s

def plain (s : Located) : List Char := s.map Prod.snd

/-- Takes what stands before the next quote of a kind and drops that quote. -/
def takeQuoted (quote : Char) : Located → Option (List Char × Located)
  | [] => none
  | (_, c) :: s =>
    if c = quote then some ([], s) else (takeQuoted quote s).map fun (t, r) => (c :: t, r)

/-- Takes the source of a regular expression and drops the slash behind it. A backslash keeps
the next character from being that slash. -/
def takeSource : Located → Option (List Char × Located)
  | [] => none
  | [(_, c)] => if c = '/' then some ([], []) else none
  | (_, c) :: (n, d) :: s =>
    if c = '/' then some ([], (n, d) :: s)
    else if c = '\\' then (takeSource s).map fun (t, r) => (c :: d :: t, r)
    else (takeSource ((n, d) :: s)).map fun (t, r) => (c :: t, r)

/-- Reads the regular expression that must stand behind `=~`. -/
def takeRegex (s : Located) : Except Error ((Nat × Token) × Located) :=
  match s.dropWhile (Text.isBlank ·.2) with
  | [] => .error .unexpectedEnd
  | (n, c) :: s =>
    if c ≠ '/' then .error (.unexpectedChar c n)
    else match takeSource s with
      | none => .error (.unterminatedRegex n)
      | some (source, r) =>
        let isFlag (p : Nat × Char) : Bool := p.2.isAlpha
        .ok ((n, .regex source (plain (r.takeWhile isFlag))), r.dropWhile isFlag)

/-- The token that a character starts together with the ones behind it, and how many of those
belong to it. Two equal signs in an equality count as one. -/
def operator? : Char → List Char → Option (Token × Nat)
  | '(', _ => some (.opening, 0)
  | ')', _ => some (.closing, 0)
  | '!', '=' :: '=' :: _ => some (.notEqual, 2)
  | '!', '=' :: _ => some (.notEqual, 1)
  | '!', _ => some (.not, 0)
  | '&', '&' :: _ => some (.and, 1)
  | '|', '|' :: _ => some (.or, 1)
  | '=', '=' :: '=' :: _ => some (.equal, 2)
  | '=', '=' :: _ => some (.equal, 1)
  | '<', '=' :: _ => some (.atMost, 1)
  | '<', _ => some (.less, 0)
  | '>', '=' :: _ => some (.atLeast, 1)
  | '>', _ => some (.greater, 0)
  | _, _ => none

/-- The tokens that start with the character `c` at offset `n`, and what stands behind them. A
match operator comes with its regular expression. -/
def lexOne (n : Nat) (c : Char) (s : Located) : Except Error (List (Nat × Token) × Located) :=
  match operator? c (plain (s.take 2)) with
  | some (t, k) => .ok ([(n, t)], s.drop k)
  | none =>
    if c = '=' ∧ s.head?.map Prod.snd = some '~' then
      match takeRegex s.tail with
      | .error e => .error e
      | .ok (t, r) => .ok ([(n, .tilde), t], r)
    else if c = '\'' ∨ c = '"' then
      match takeQuoted c s with
      | none => .error (.unterminatedString n)
      | some (t, r) => .ok ([(n, .quoted t)], r)
    else if isWordChar c then
      let inWord (p : Nat × Char) : Bool := isWordChar p.2
      .ok ([(n, .word (c :: plain (s.takeWhile inWord)))], s.dropWhile inWord)
    else .error (.unexpectedChar c n)

/-! What is left is part of what there was. -/

section

variable {s r : Located}

theorem takeQuoted_sublist {q : Char} {t : List Char} (h : takeQuoted q s = some (t, r)) :
    r.Sublist s := by
  induction s generalizing t with
  | nil => cases h
  | cons p s ih =>
    simp only [takeQuoted] at h
    split at h
    · cases h
      exact List.sublist_cons_self _ _
    · obtain ⟨⟨t', r'⟩, h', e⟩ := Option.map_eq_some_iff.1 h
      cases e
      exact (ih h').trans (List.sublist_cons_self p s)

theorem takeSource_sublist {t : List Char} (h : takeSource s = some (t, r)) : r.Sublist s := by
  fun_induction takeSource s generalizing t r with
  | case1 => cases h
  | case2 =>
    cases h
    exact List.nil_sublist _
  | case3 => cases h
  | case4 =>
    cases h
    exact List.sublist_cons_self _ _
  | case5 n d s m _ ih =>
    obtain ⟨⟨t', r'⟩, h', e⟩ := Option.map_eq_some_iff.1 h
    cases e
    exact (ih h').trans ((List.sublist_cons_self _ _).trans (List.sublist_cons_self _ _))
  | case6 n c m d s _ _ ih =>
    obtain ⟨⟨t', r'⟩, h', e⟩ := Option.map_eq_some_iff.1 h
    cases e
    exact (ih h').trans (List.sublist_cons_self _ _)

/-- A regular expression stands where its first slash does. -/
theorem takeRegex_sublist {t : Nat × Token} (h : takeRegex s = .ok (t, r)) :
    ((t.1, '/') :: r).Sublist s := by
  have hd := List.dropWhile_sublist (Text.isBlank ·.2) (l := s)
  simp only [takeRegex] at h
  split at h
  · cases h
  · next n c s' hs =>
    rw [hs] at hd
    split at h
    · cases h
    · next hc =>
      rw [Decidable.not_not] at hc
      split at h
      · cases h
      · next source r' hsrc =>
        cases h
        rw [hc] at hd
        exact (((List.dropWhile_sublist _).trans (takeSource_sublist hsrc)).cons_cons _).trans hd

theorem lexOne_sublist {n : Nat} {c : Char} {ts : List (Nat × Token)}
    (h : lexOne n c s = .ok (ts, r)) : r.Sublist s := by
  unfold lexOne at h
  split at h
  · cases h
    exact List.drop_sublist _ s
  · split at h
    · split at h
      · cases h
      · next t r' hr =>
        cases h
        exact ((List.sublist_cons_self _ r).trans (takeRegex_sublist hr)).trans
          (List.tail_sublist s)
    · split at h
      · split at h
        · cases h
        · next t r' hr =>
          cases h
          exact takeQuoted_sublist hr
      · split at h
        · cases h
          exact List.dropWhile_sublist _
        · cases h

end

theorem lexOne_length {n : Nat} {c : Char} {s r : Located} {ts : List (Nat × Token)}
    (h : lexOne n c s = .ok (ts, r)) : r.length ≤ s.length := (lexOne_sublist h).length_le

def lexFrom (s : Located) : Except Error (List (Nat × Token)) :=
  match s with
  | [] => .ok []
  | (n, c) :: s =>
    if Text.isBlank c then lexFrom s
    else match h : lexOne n c s with
      | .error e => .error e
      | .ok (ts, r) =>
        have := lexOne_length h
        match lexFrom r with
        | .error e => .error e
        | .ok us => .ok (ts ++ us)
termination_by s.length
decreasing_by all_goals (simp_wf; try omega)

/-- The tokens of a text with their offsets. -/
def lex (s : List Char) : Except Error (List (Nat × Token)) := lexFrom (locate 0 s)

end Shortcuts.Clause
