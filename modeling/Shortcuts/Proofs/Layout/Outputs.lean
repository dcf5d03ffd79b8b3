import Shortcuts.Proofs.Layout.Resolution
import Shortcuts.Proofs.Layout.Resumption

/-!
What the keys of the built-in layouts produce, beside what the US keys at their places do. With
Alt no key produces a character of its US key, and with Shift only the digits of the French layouts
are what the US key produces alone.
-/

namespace Shortcuts

namespace Key

variable {k : Key} {c : Char} {shifted : Bool}

theorem isSome_shifted : ∀ k ∈ all, k.plain.isSome = k.shifted.isSome := by
  decide

theorem not_isModifier_of_plain : ∀ k ∈ all, k.plain.isSome = true → k.isModifier = false := by
  decide

theorem ofCode?_code (hk : k ∈ all) : ofCode? k.code = some k := by
  have hfound : (ofCode? k.code).isSome = true :=
    List.find?_isSome.mpr ⟨k, hk, decide_eq_true rfl⟩
  obtain ⟨k', hk'⟩ := Option.isSome_iff_exists.mp hfound
  rw [hk', eq_of_code_eq (List.mem_of_find?_eq_some hk') hk (code_of_ofCode? hk')]

/-- A key that types a character types one alone and one with Shift. -/
theorem types_of_typing? (h : typing? c = some (k, shifted)) :
    ∃ p s, k.plain = some p ∧ k.shifted = some s ∧ c = if shifted then s else p := by
  have hboth := isSome_shifted k (mem_all_of_typing? h)
  obtain ⟨k', -, htypes⟩ := List.exists_of_findSome?_eq_some h
  split at htypes
  · next hplain =>
      cases htypes
      rw [hplain, Option.isSome_some] at hboth
      obtain ⟨s, hs⟩ := Option.isSome_iff_exists.mp hboth.symm
      exact ⟨c, s, hplain, hs, rfl⟩
  · split at htypes
    · next hshifted =>
        cases htypes
        rw [hshifted, Option.isSome_some] at hboth
        obtain ⟨p, hp⟩ := Option.isSome_iff_exists.mp hboth
        exact ⟨p, c, hp, hshifted, rfl⟩
    · cases htypes

end Key

def digits : List Char := "0123456789".toList

theorem Key.typing?_digit {c : Char} (hc : c ∈ digits) :
    ∃ k, Key.typing? c = some (k, false) ∧ k.code = "Digit" ++ c.toString := by
  -- over the list itself, since a statement about characters is decided for all there are
  have htyped : (digits.all fun c => (Key.typing? c).any fun types =>
      types.1.code = "Digit" ++ c.toString && !types.2) = true := by
    decide +kernel
  obtain ⟨⟨k, shifted⟩, htypes, hk⟩ := (Option.any_eq_true _ _).mp (List.all_eq_true.mp htyped c hc)
  rw [Bool.and_eq_true, decide_eq_true_iff, Bool.not_eq_true'] at hk
  obtain ⟨hcode, rfl⟩ := hk
  exact ⟨k, htypes, hcode⟩

namespace BuiltinLayout

theorem mem_all (b : BuiltinLayout) : b ∈ all := by
  cases b <;> decide

def isFrench : BuiltinLayout → Bool
  | frenchPc | frenchMac => true
  | _ => false

/-- The keys that type something else alone and with Shift than on a US layout. -/
def plainRows : BuiltinLayout → List Row
  | usPc => []
  | usMac => [("IntlBackslash", "§", "±")]
  | germanPc => germanLetters ++ german ++ [("Backquote", "^", "°"), ("IntlBackslash", "<", ">")]
  | germanMac => germanLetters ++ german ++ [("Backquote", "<", ">"), ("IntlBackslash", "^", "°")]
  | frenchPc => frenchLetters ++ frenchPcRows
  | frenchMac => frenchLetters ++ frenchMacRows

def altGrRows : BuiltinLayout → List Row
  | usPc => []
  | usMac => usMacOption
  | germanPc => germanPcAltGr
  | germanMac => germanMacOption
  | frenchPc => frenchPcAltGr
  | frenchMac => frenchMacOption

variable {f : KeyOutput → String → String → KeyOutput} {rows : List Row} {keys : Fields KeyOutput}
  {code : String} {out : KeyOutput}

theorem withPlain_append (rows more : List Row) (keys : Fields KeyOutput) :
    withPlain (rows ++ more) keys = withPlain more (withPlain rows keys) := by
  simp only [withPlain, change, List.foldl_append]

theorem keys_native (b : BuiltinLayout) :
    b.native.keys = withAltGr b.altGrRows (withPlain b.plainRows usKeys) := by
  cases b with
  | usPc | usMac => rfl
  | _ => simp only [native, plainRows, altGrRows, withPlain_append]

def changed (f : KeyOutput → String → String → KeyOutput) (rows : List Row) (code : String)
    (out : KeyOutput) : KeyOutput :=
  rows.foldl (fun out row => if row.1 = code then f out row.2.1 row.2.2 else out) out

/-- A later change of a key is made to what the earlier ones left. -/
theorem lookup_change (h : keys.lookup code = some out) :
    (change f rows keys).lookup code = some (changed f rows code out) := by
  induction rows generalizing keys out with
  | nil => exact h
  | cons row rows ih =>
      rw [change, List.foldl_cons, changed, List.foldl_cons]
      refine ih ?_
      by_cases hrow : row.1 = code
      · rw [if_pos hrow, ← hrow, Fields.lookup_insert_self, hrow, h]
        rfl
      · rw [if_neg hrow, Fields.lookup_insert_of_ne (Ne.symm hrow), h]

theorem not_numpad_of_plain : ∀ k ∈ Key.all, k.plain.isSome = true →
    numpad.toList.isPrefixOf k.code.toList = false := by
  decide +kernel

theorem lookup_usKeys {k : Key} (hk : k ∈ Key.all) {p s : Char} (hp : k.plain = some p)
    (hs : k.shifted = some s) :
    usKeys.lookup k.code = some { plain := p.toString, shifted := s.toString } := by
  refine Fields.lookup_ofList_of_mem ?_ (List.mem_filterMap.mpr ⟨k, hk, ?_⟩)
  · rw [List.Nodup, List.pairwise_map, List.pairwise_filterMap]
    refine (List.pairwise_map.mp Key.nodup_codes).imp fun {k k'} hne e he e' he' heq => hne ?_
    split at he
    · cases he
    · split at he'
      · cases he'
      · obtain ⟨_, -, rfl⟩ := Option.map_eq_some_iff.mp he
        obtain ⟨_, -, rfl⟩ := Option.map_eq_some_iff.mp he'
        exact heq
  · rw [not_numpad_of_plain k hk (by rw [hp]; rfl), hp, hs]
    rfl

/-- What a key of the layout types, by what the US key types. -/
def output (b : BuiltinLayout) (code : String) (us : KeyOutput) : KeyOutput :=
  changed (fun k a b => { k with altGr := a, shiftedAltGr := b }) b.altGrRows code
    (changed (fun k a b => { k with plain := a, shifted := b }) b.plainRows code us)

theorem lookup_native (b : BuiltinLayout) {k : Key} (hk : k ∈ Key.all) {p s : Char}
    (hp : k.plain = some p) (hs : k.shifted = some s) :
    b.native.keys.lookup k.code =
      some (b.output k.code { plain := p.toString, shifted := s.toString }) := by
  rw [keys_native]
  exact lookup_change (lookup_change (lookup_usKeys hk hp hs))

theorem native_layout (b : BuiltinLayout) : b.layout.native = b.native := by
  cases b <;> rfl

/-- Beside a US key that types two characters, alone and with Shift: with AltGr none of them is
typed, and what the US key types alone is typed with Shift only if it is the same there, or if it is
a digit and the layout is French. -/
def Resembles (b : BuiltinLayout) (out : KeyOutput) (p s : Char) : Prop :=
  out.altGr ≠ p.toString ∧ out.shiftedAltGr ≠ p.toString ∧ out.shiftedAltGr ≠ s.toString ∧
    (out.shifted = p.toString ↔ s = p ∨ p ∈ digits ∧ b.isFrench = true)

instance (b : BuiltinLayout) (out : KeyOutput) (p s : Char) : Decidable (b.Resembles out p s) :=
  inferInstanceAs (Decidable (_ ∧ _ ∧ _ ∧ _))

section Resembles

variable {b : BuiltinLayout} {out : KeyOutput} {p s : Char}

theorem Resembles.shifted_apart (h : b.Resembles out p s) (alt : Bool) :
    let us : KeyOutput := { plain := p.toString, shifted := s.toString }
    ¬ (out.text (.ofHeld true alt) = s.toString ∧ us.text (.ofHeld true alt) ≠ s.toString) := by
  cases alt with
  | true => exact fun hboth => h.2.2.1 hboth.1
  | false => exact fun hboth => hboth.2 rfl

/-- What the US key types alone is typed otherwise only with Shift, without Alt. -/
theorem Resembles.plain_apart_iff (h : b.Resembles out p s) (shift alt : Bool) :
    let us : KeyOutput := { plain := p.toString, shifted := s.toString }
    out.text (.ofHeld shift alt) = p.toString ∧ us.text (.ofHeld shift alt) ≠ p.toString ↔
      shift = true ∧ alt = false ∧ s ≠ p ∧ p ∈ digits ∧ b.isFrench = true := by
  obtain ⟨haltGr, haltGr', -, hshifted⟩ := h
  cases shift with
  | false =>
      refine iff_of_false (fun hboth => ?_) fun hheld => Bool.false_ne_true hheld.1
      cases alt with
      | true => exact haltGr hboth.1
      | false => exact hboth.2 rfl
  | true =>
      cases alt with
      | true => exact iff_of_false (fun hboth => haltGr' hboth.1) fun hheld => nomatch hheld.2.1
      | false =>
          change out.shifted = p.toString ∧ ¬ s.toString = p.toString ↔ _
          have hsame : s.toString = p.toString ↔ s = p := by simp
          rw [hshifted, hsame]
          constructor
          · rintro ⟨heq | hdigit, hne⟩
            · exact absurd heq hne
            · exact ⟨rfl, rfl, hne, hdigit⟩
          · rintro ⟨-, -, hne, hdigit⟩
            exact ⟨.inr hdigit, hne⟩

end Resembles

theorem resembles_output (b : BuiltinLayout) {k : Key} (hk : k ∈ Key.all) {p s : Char}
    (hp : k.plain = some p) (hs : k.shifted = some s) :
    b.Resembles (b.output k.code { plain := p.toString, shifted := s.toString }) p s := by
  -- decided by the rows of the changes, as the tables themselves are slow to evaluate
  have hall : ∀ b ∈ all, ∀ k ∈ Key.all, (k.plain.all fun p => k.shifted.all fun s =>
      b.Resembles (b.output k.code { plain := p.toString, shifted := s.toString }) p s) = true := by
    decide +kernel
  have hkey := hall b b.mem_all k hk
  rw [hp, hs] at hkey
  exact of_decide_eq_true hkey

theorem shifted_ne_of_digit {k : Key} (hk : k ∈ Key.all) {p : Char} (hp : k.plain = some p)
    (hdigit : p ∈ digits) : k.shifted ≠ some p := by
  have hall : ∀ k ∈ Key.all, (k.plain.all fun p => p ∈ digits → k.shifted ≠ some p) = true := by
    decide +kernel
  have hkey := hall k hk
  rw [hp] at hkey
  exact of_decide_eq_true hkey hdigit

end BuiltinLayout

theorem length_foldl_le {α β : Type} {step : List α → β → List α}
    (h : ∀ m b, (step m b).length ≤ m.length + 1) (m : List α) (bs : List β) :
    (bs.foldl step m).length ≤ m.length + bs.length := by
  induction bs generalizing m with
  | nil => exact Nat.le_refl _
  | cons b bs ih =>
      have hstep := h m b
      have hrest := ih (step m b)
      rw [List.foldl_cons, List.length_cons]
      omega

theorem BuiltinLayout.length_native_lt (b : BuiltinLayout) :
    b.native.keys.length < 2 ^ 30 := by
  have hchange (f : KeyOutput → String → String → KeyOutput) (rows : List Row)
      (keys : Fields KeyOutput) : (change f rows keys).length ≤ keys.length + rows.length :=
    length_foldl_le (fun _ _ => Fields.length_insert_le _ _ _) keys rows
  have hus : usKeys.length ≤ 0 + Key.all.length :=
    (length_foldl_le (fun _ _ => Fields.length_insert_le _ _ _) [] _).trans
      (Nat.add_le_add_left (List.length_filterMap_le _ _) 0)
  have hall : Key.all.length ≤ 200 := by decide
  have hplain : b.plainRows.length ≤ 50 := by cases b <;> decide
  have haltGr : b.altGrRows.length ≤ 50 := by cases b <;> decide
  have hfirst : (withPlain b.plainRows usKeys).length ≤ _ := hchange _ _ _
  have hsecond : (withAltGr b.altGrRows (withPlain b.plainRows usKeys)).length ≤ _ := hchange _ _ _
  rw [keys_native]
  omega

end Shortcuts
