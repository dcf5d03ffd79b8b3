import Shortcuts.Proofs.Json.ReadBack

/-!
The grammar of texts with structured values:

    padded ::= spaces value spaces
    value  ::= null | true | false | number | " characters | [ spaces ] | [ items | object
    items  ::= padded ] | padded , items
    object ::= { spaces } | { members
    member ::= spaces " characters spaces : padded
    members ::= member } | member , members

Each form is a relation between a text and the rest of it, behind what has the form. What is read
has the form of a value, and of an object if it is read as one.
-/

namespace Shortcuts.Json

namespace Grammar

inductive Spaces : List Char → List Char → Prop
  | none {s : List Char} : Spaces s s
  | more {c : Char} {s r : List Char} (hc : isSpace c = true) (h : Spaces s r) : Spaces (c :: s) r

inductive Digits : List Char → List Char → Prop
  | last {c : Char} {s : List Char} (hc : c.isDigit = true) : Digits (c :: s) s
  | more {c : Char} {s r : List Char} (hc : c.isDigit = true) (h : Digits s r) : Digits (c :: s) r

/-- Of the digits before the point only a single one may be zero at the start. -/
inductive Whole : List Char → List Char → Prop
  | zero {s : List Char} : Whole ('0' :: s) s
  | digits {c : Char} {s r : List Char} (hc : c ≠ '0') (h : Digits (c :: s) r) : Whole (c :: s) r

inductive Fraction : List Char → List Char → Prop
  | none {s : List Char} : Fraction s s
  | some {s r : List Char} (h : Digits s r) : Fraction ('.' :: s) r

inductive Exponent : List Char → List Char → Prop
  | none {s : List Char} : Exponent s s
  | unsigned {e : Char} {s r : List Char} (he : e = 'e' ∨ e = 'E') (h : Digits s r) :
      Exponent (e :: s) r
  | signed {e c : Char} {s r : List Char} (he : e = 'e' ∨ e = 'E') (hc : c = '+' ∨ c = '-')
      (h : Digits s r) : Exponent (e :: c :: s) r

/-- A number without its sign. -/
inductive Magnitude : List Char → List Char → Prop
  | mk {s t u r : List Char} (hwhole : Whole s t) (hfraction : Fraction t u)
      (hexponent : Exponent u r) : Magnitude s r

def IsHexDigit (c : Char) : Prop := ('0' ≤ c ∧ c ≤ '9') ∨ ('a' ≤ c ∧ c ≤ 'f') ∨ 'A' ≤ c ∧ c ≤ 'F'

/-- What stands in a string, and its closing quote. -/
inductive Characters : List Char → List Char → Prop
  | close {s : List Char} : Characters ('"' :: s) s
  | plain {c : Char} {s r : List Char} (hquote : c ≠ '"') (hescape : c ≠ '\\')
      (hcontrol : 32 ≤ c.toNat) (h : Characters s r) : Characters (c :: s) r
  | escaped {c : Char} {s r : List Char} (hc : c ∈ ['"', '\\', '/', 'b', 'f', 'n', 'r', 't'])
      (h : Characters s r) : Characters ('\\' :: c :: s) r
  | unit {a b c d : Char} {s r : List Char} (hdigits : ∀ x ∈ [a, b, c, d], IsHexDigit x)
      (h : Characters s r) : Characters ('\\' :: 'u' :: a :: b :: c :: d :: s) r

mutual
inductive Value : List Char → List Char → Prop
  | word {w : String} {s : List Char} (hw : w ∈ ["null", "true", "false"]) :
      Value (w.toList ++ s) s
  | string {s r : List Char} (h : Characters s r) : Value ('"' :: s) r
  | magnitude {s r : List Char} (h : Magnitude s r) : Value s r
  | negative {s r : List Char} (h : Magnitude s r) : Value ('-' :: s) r
  | emptyList {s r : List Char} (h : Spaces s (']' :: r)) : Value ('[' :: s) r
  | list {s r : List Char} (h : Items s r) : Value ('[' :: s) r
  | object {s r : List Char} (h : Object s r) : Value s r

/-- A value with spaces around it. -/
inductive Padded : List Char → List Char → Prop
  | mk {s t u r : List Char} (hbefore : Spaces s t) (h : Value t u) (hbehind : Spaces u r) :
      Padded s r

inductive Items : List Char → List Char → Prop
  | last {s r : List Char} (h : Padded s (']' :: r)) : Items s r
  | more {s t r : List Char} (h : Padded s (',' :: t)) (hrest : Items t r) : Items s r

inductive Object : List Char → List Char → Prop
  | empty {s r : List Char} (h : Spaces s ('\x7D' :: r)) : Object ('\x7B' :: s) r
  | members {s r : List Char} (h : Members s r) : Object ('\x7B' :: s) r

inductive Member : List Char → List Char → Prop
  | mk {s t u v r : List Char} (hbefore : Spaces s ('"' :: t)) (hkey : Characters t u)
      (hcolon : Spaces u (':' :: v)) (h : Padded v r) : Member s r

inductive Members : List Char → List Char → Prop
  | last {s r : List Char} (h : Member s ('\x7D' :: r)) : Members s r
  | more {s t r : List Char} (h : Member s (',' :: t)) (hrest : Members t r) : Members s r
end

end Grammar

open Grammar

variable {s r : List Char}

theorem exists_of_map {α β : Type} {f : α → β} {o : Option (α × List Char)} {y : β}
    (h : (o.map fun (x, r) => (f x, r)) = some (y, r)) : ∃ x, o = some (x, r) ∧ f x = y := by
  obtain ⟨⟨x, _⟩, hx, heq⟩ := Option.map_eq_some_iff.mp h
  cases heq
  exact ⟨x, hx, rfl⟩

/-! ### Spaces, numbers and strings -/

theorem spaces_skipSpace (s : List Char) : Spaces s (skipSpace s) := by
  induction s with
  | nil => exact .none
  | cons c s ih =>
      rw [skipSpace]
      cases hc : isSpace c with
      | true =>
          rw [List.dropWhile_cons_of_pos hc]
          exact .more hc ih
      | false =>
          rw [List.dropWhile_cons_of_neg (by simp [hc])]
          exact .none

theorem dropWhile_of_takeWhile_eq_nil {p : Char → Bool} (h : s.takeWhile p = []) :
    s.dropWhile p = s := by
  have hs := List.takeWhile_append_dropWhile (p := p) (l := s)
  rwa [h, List.nil_append] at hs

theorem digits_dropWhile (h : s.takeWhile Char.isDigit ≠ []) :
    Digits s (s.dropWhile Char.isDigit) := by
  induction s with
  | nil => exact absurd rfl h
  | cons c s ih =>
      cases hc : c.isDigit with
      | false => simp [hc] at h
      | true =>
          rw [List.dropWhile_cons_of_pos hc]
          by_cases hs : s.takeWhile Char.isDigit = []
          · rw [dropWhile_of_takeWhile_eq_nil hs]
            exact .last hc
          · exact .more hc (ih hs)

theorem whole_dropWhile (hne : s.takeWhile Char.isDigit ≠ [])
    (hzero : (s.takeWhile Char.isDigit).head? = some '0' →
      (s.takeWhile Char.isDigit).length = 1) : Whole s (s.dropWhile Char.isDigit) := by
  have hdigits := digits_dropWhile hne
  cases s with
  | nil => exact absurd rfl hne
  | cons c s =>
      by_cases hc : c = '0'
      · subst hc
        have hone : s.takeWhile Char.isDigit = [] := List.length_eq_zero_iff.mp
          (Nat.succ.inj (hzero rfl))
        rw [List.dropWhile_cons_of_pos rfl, dropWhile_of_takeWhile_eq_nil hone]
        exact .zero
      · exact .digits hc hdigits

theorem exponent_of_readExponent {x : Int} {e : Char} (he : e = 'e' ∨ e = 'E')
    (h : readExponent s = some (x, r)) : Exponent (e :: s) r := by
  unfold readExponent at h
  split at h
  next negative t hsign =>
  dsimp only at h
  split at h
  · cases h
  · next hne =>
      cases h
      have hdigits := digits_dropWhile (s := t) (by simpa using hne)
      split at hsign
      · cases hsign
        exact .signed he (.inl rfl) hdigits
      · cases hsign
        exact .signed he (.inr rfl) hdigits
      · cases hsign
        exact .unsigned he hdigits

theorem magnitude_of_readNumber {negative : Bool} {n : Option Number}
    (h : readNumber negative s = some (n, r)) : Magnitude s r := by
  have hexponent {c : Char} {t : List Char} {v : Option Int → Option Number}
      (h : (if c = 'e' || c = 'E' then (readExponent t).map fun x => (v (some x.1), x.2)
        else some (v none, c :: t)) = some (n, r)) : Exponent (c :: t) r := by
    split at h
    · next he =>
        obtain ⟨_, hx, heq⟩ := Option.map_eq_some_iff.mp h
        cases heq
        exact exponent_of_readExponent (by simpa using he) hx
    · cases h
      exact .none
  unfold readNumber at h
  dsimp only at h
  split at h
  · cases h
  · next hwhole =>
      simp only [Bool.or_eq_true, List.isEmpty_iff, Bool.and_eq_true, decide_eq_true_eq, not_or,
        not_and, not_not] at hwhole
      have hwhole := whole_dropWhile hwhole.1 hwhole.2
      split at h
      · next t ht =>
          rw [ht] at hwhole
          split at h
          · cases h
          · next hne =>
              have hfraction := Fraction.some (digits_dropWhile (s := t) (by simpa using hne))
              split at h
              · next c u hu =>
                  rw [hu] at hfraction h
                  exact .mk hwhole hfraction (hexponent (v := numberOf negative _ _) h)
              · cases h
                exact .mk hwhole hfraction .none
      · next c t _ ht =>
          rw [ht] at hwhole h
          exact .mk hwhole .none (hexponent (v := numberOf negative _ _) h)
      · cases h
        exact .mk hwhole .none .none

theorem isHexDigit_of_hexValue {c : Char} {n : Nat} (h : hexValue c = some n) : IsHexDigit c := by
  rw [hexValue] at h
  split at h
  · next hc => exact .inl (by simpa using hc)
  · split at h
    · next hc => exact .inr (.inl (by simpa using hc))
    · split at h
      · next hc => exact .inr (.inr (by simpa using hc))
      · cases h

theorem hexDigits_of_readHex4 {n : Nat} (h : readHex4 s = some (n, r)) :
    ∃ a b c d, s = a :: b :: c :: d :: r ∧ ∀ x ∈ [a, b, c, d], IsHexDigit x := by
  unfold readHex4 at h
  split at h
  · next a b c d t =>
      simp only [Option.bind_eq_bind, Option.bind_eq_some_iff] at h
      obtain ⟨_, ha, _, hb, _, hc, _, hd, heq⟩ := h
      cases heq
      refine ⟨a, b, c, d, rfl, ?_⟩
      simp only [List.forall_mem_cons]
      exact ⟨isHexDigit_of_hexValue ha, isHexDigit_of_hexValue hb, isHexDigit_of_hexValue hc,
        isHexDigit_of_hexValue hd, nofun⟩
  · cases h

theorem characters_of_readPieces {fuel : Nat} {ps : List Piece}
    (h : readPieces fuel s = some (ps, r)) : Characters s r := by
  induction fuel generalizing s ps with
  | zero => cases h
  | succ fuel ih =>
      cases s with
      | nil => cases h
      | cons c s =>
          unfold readPieces at h
          split at h
          · next hc =>
              cases h
              exact hc ▸ .close
          · next hquote =>
              split at h
              · next hc =>
                  subst hc
                  split at h
                  · cases h
                  · next e t =>
                      dsimp only at h
                      split at h
                      · next he =>
                          have he : (e = '"' ∨ e = '\\') ∨ e = '/' := by simpa using he
                          obtain ⟨_, hrest, -⟩ := exists_of_map h
                          exact .escaped (by rcases he with (rfl | rfl) | rfl <;> decide) (ih hrest)
                      · iterate 5
                          split at h
                          · next he =>
                              obtain ⟨_, hrest, -⟩ := exists_of_map h
                              exact .escaped (by simp [he]) (ih hrest)
                        split at h
                        · next he =>
                            subst he
                            split at h
                            · next n u hu =>
                                obtain ⟨a, b, c, d, rfl, hdigits⟩ := hexDigits_of_readHex4 hu
                                obtain ⟨_, hrest, -⟩ := exists_of_map h
                                exact .unit hdigits (ih hrest)
                            · cases h
                        · cases h
              · next hescape =>
                  split at h
                  · cases h
                  · next hcontrol =>
                      obtain ⟨_, hrest, -⟩ := exists_of_map h
                      exact .plain hquote hescape (by omega) (ih hrest)

theorem characters_of_readString {t : Option String} (h : readString s = some (t, r)) :
    Characters s r := by
  obtain ⟨_, hps, -⟩ := exists_of_map (f := fun ps => (pairUp ps).map String.ofList) h
  exact characters_of_readPieces hps

theorem eq_of_keyword {w : String} {v v' : Written} (h : keyword w v s = some (v', r)) :
    v' = v ∧ s = w.toList ++ r := by
  rw [keyword] at h
  split at h
  · next hw =>
      cases h
      obtain ⟨r, rfl⟩ := List.isPrefixOf_iff_prefix.mp hw
      rw [← String.length_toList, List.drop_left]
      exact ⟨rfl, rfl⟩
  · cases h

/-! ### Values -/

/-- A value stands there, which has the form of an object if it is one. -/
structure Spells (w : Written) (s r : List Char) : Prop where
  value : Value s r
  object : ∀ fields, w = .obj fields → Object s r

theorem spells_object {w : Written} (h : Object s r) : Spells w s r := ⟨.object h, fun _ _ => h⟩

theorem spaces_of_skipSpace {t : List Char} (h : skipSpace s = t) : Spaces s t :=
  h ▸ spaces_skipSpace s

-- The three readers call each other with less fuel, whatever part of the text they leave over.
mutual
theorem spells_of_readValue {w : Written} : ∀ {fuel s r}, readValue fuel s = some (w, r) →
    ∃ t, Spaces s t ∧ Spells w t r := by
  intro fuel s r h
  match fuel with
  | 0 => cases h
  | fuel + 1 =>
      unfold readValue at h
      split at h
      · cases h
      · next c t hc =>
          refine ⟨c :: t, spaces_of_skipSpace hc, ?_⟩
          iterate 3
            split at h
            · obtain ⟨rfl, ht⟩ := eq_of_keyword h
              rw [ht]
              exact ⟨.word (by decide), nofun⟩
          split at h
          · next hquote =>
              obtain ⟨x, hx, rfl⟩ := exists_of_map h
              exact hquote ▸ ⟨.string (characters_of_readString hx), nofun⟩
          split at h
          · next hminus =>
              obtain ⟨x, hx, rfl⟩ := exists_of_map h
              exact hminus ▸ ⟨.negative (magnitude_of_readNumber hx), nofun⟩
          split at h
          · obtain ⟨x, hx, rfl⟩ := exists_of_map h
            exact ⟨.magnitude (magnitude_of_readNumber hx), nofun⟩
          split at h
          · next hbracket =>
              subst hbracket
              split at h
              · next u hu =>
                  cases h
                  exact ⟨.emptyList (spaces_of_skipSpace hu), nofun⟩
              · obtain ⟨vs, hvs, rfl⟩ := exists_of_map h
                exact ⟨.list (items_of_readItems hvs), nofun⟩
          split at h
          · next hbrace =>
              have hbrace : c = '\x7B' := Char.toNat_inj.mp hbrace
              subst hbrace
              split at h
              · next u hu =>
                  cases h
                  exact spells_object (.empty (spaces_of_skipSpace hu))
              · obtain ⟨ms, hms, rfl⟩ := exists_of_map h
                exact spells_object (.members (members_of_readFields hms))
          · cases h

theorem items_of_readItems {vs : List Written} : ∀ {fuel s r}, readItems fuel s = some (vs, r) →
    Items s r := by
  intro fuel s r h
  match fuel with
  | 0 => cases h
  | fuel + 1 =>
      unfold readItems at h
      split at h
      · cases h
      · next w t hw =>
          obtain ⟨s', hbefore, hvalue⟩ := spells_of_readValue hw
          split at h
          · next u hu =>
              obtain ⟨us, hus, rfl⟩ := exists_of_map h
              exact .more ⟨hbefore, hvalue.value, spaces_of_skipSpace hu⟩ (items_of_readItems hus)
          · next u hu =>
              cases h
              exact .last ⟨hbefore, hvalue.value, spaces_of_skipSpace hu⟩
          · cases h

theorem members_of_readFields {fields : List (Option String × Written)} : ∀ {fuel s r},
    readFields fuel s = some (fields, r) → Members s r := by
  intro fuel s r h
  match fuel with
  | 0 => cases h
  | fuel + 1 =>
      unfold readFields at h
      split at h
      · next t ht =>
          split at h
          · cases h
          · next k u hk =>
              split at h
              · next v hv =>
                  split at h
                  · cases h
                  · next w x hw =>
                      obtain ⟨s', hbefore, hvalue⟩ := spells_of_readValue hw
                      have hmember {z : List Char} (hz : skipSpace x = z) : Member s z :=
                        .mk (spaces_of_skipSpace ht) (characters_of_readString hk)
                          (spaces_of_skipSpace hv) ⟨hbefore, hvalue.value, spaces_of_skipSpace hz⟩
                      split at h
                      · next y hy =>
                          obtain ⟨ms, hms, rfl⟩ := exists_of_map h
                          exact .more (hmember hy) (members_of_readFields hms)
                      · next y hy =>
                          cases h
                          exact .last (hmember hy)
                      · cases h
              · cases h
      · cases h
end

/-! ### Whole texts -/

/-- A text that has the form of an object. -/
def IsObjectText (text : String) : Prop :=
  ∃ s r, Spaces text.toList s ∧ Object s r ∧ Spaces r []

theorem isObjectText_of_readWritten {text : String} {fields : List (Option String × Written)}
    (h : readWritten text = some (.obj fields)) : IsObjectText text := by
  rw [readWritten] at h
  split at h
  · next w r hw =>
      split at h
      · next hr =>
          cases h
          obtain ⟨s, hs, hspells⟩ := spells_of_readValue hw
          exact ⟨s, r, hs, hspells.object fields rfl,
            spaces_of_skipSpace (List.isEmpty_iff.mp hr)⟩
      · cases h
  · cases h

end Shortcuts.Json
