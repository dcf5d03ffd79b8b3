import Shortcuts.Json.Reader
import Shortcuts.Json.Writer
import Shortcuts.Proofs.Decimal.ReadBack

/-!
Reading texts with indented lines that were written from a value. Of such a text every string is
read as it was; a float may come back as another number, or turn out to have no value, but it never
takes more of the text than was written for it.
-/

namespace Shortcuts.Json

open Double (AllDigits)

/-- What stands behind a value in a text with indented lines. -/
def EndsValue (s : List Char) : Prop := s = [] ∨ ∃ r, s = ',' :: r ∨ s = '\n' :: r

/-! ### Numbers -/

/-- Digits before the point. Only a single one may be zero at the start. -/
structure IsWhole (ds : List Char) : Prop where
  digits : AllDigits ds
  ne_nil : ds ≠ []
  head : ds.head? = some '0' → ds.length = 1

variable {ds fs xs rest : List Char}

theorem IsWhole.accepted (h : IsWhole ds) :
    ¬ (ds.isEmpty || ds.head? = some '0' && ds.length ≠ 1) = true := by
  simp only [Bool.or_eq_true, List.isEmpty_iff, Bool.and_eq_true, decide_eq_true_eq, not_or, not_and]
  exact ⟨h.ne_nil, fun hzero => not_not_intro (h.head hzero)⟩

theorem readNumber_whole (negative : Bool) (hds : IsWhole ds) (hrest : EndsValue rest) :
    readNumber negative (ds ++ rest) = some (numberOf negative ds [] none, rest) := by
  have hhead : rest.head?.all (!·.isDigit) := by
    rcases hrest with rfl | ⟨r, rfl | rfl⟩ <;> rfl
  obtain ⟨htake, hdrop⟩ := Double.takeWhile_digits hds.digits hhead
  rw [readNumber]
  dsimp only
  rw [htake, hdrop, if_neg hds.accepted]
  rcases hrest with rfl | ⟨r, rfl | rfl⟩ <;> rfl

theorem readNumber_point (negative : Bool) (hds : IsWhole ds) (hfs : AllDigits fs) (hne : fs ≠ [])
    (hrest : EndsValue rest) : readNumber negative (ds ++ '.' :: (fs ++ rest)) =
      some (numberOf negative ds fs none, rest) := by
  have hhead : rest.head?.all (!·.isDigit) := by
    rcases hrest with rfl | ⟨r, rfl | rfl⟩ <;> rfl
  obtain ⟨htake, hdrop⟩ := Double.takeWhile_digits (t := '.' :: (fs ++ rest)) hds.digits rfl
  obtain ⟨htake', hdrop'⟩ := Double.takeWhile_digits hfs hhead
  rw [readNumber]
  dsimp only
  rw [htake, hdrop, if_neg hds.accepted]
  simp only [htake', hdrop']
  rw [if_neg (by simpa using hne)]
  rcases hrest with rfl | ⟨r, rfl | rfl⟩ <;> rfl

/-- An exponent with its sign, as it is written. -/
def exponent (x : Int) : List Char :=
  (if x < 0 then '-' else '+') :: Double.decimalDigits x.natAbs

theorem readExponent_exponent (x : Int) (hrest : EndsValue rest) :
    readExponent (exponent x ++ rest) = some (x, rest) := by
  have hhead : rest.head?.all (!·.isDigit) := by
    rcases hrest with rfl | ⟨r, rfl | rfl⟩ <;> rfl
  obtain ⟨htake, hdrop⟩ := Double.takeWhile_digits (Double.allDigits_decimalDigits x.natAbs) hhead
  have hne : (Double.decimalDigits x.natAbs).isEmpty = false := by
    simpa using Double.decimalDigits_ne_nil x.natAbs
  by_cases hx : x < 0
  · rw [exponent, if_pos hx]
    simp only [List.cons_append, readExponent, htake, hdrop, hne, Bool.false_eq_true, if_false,
      if_true, Double.ofDigits_decimalDigits]
    exact congrArg (fun y => some (y, rest)) (by omega)
  · rw [exponent, if_neg hx]
    simp only [List.cons_append, readExponent, htake, hdrop, hne, Bool.false_eq_true, if_false,
      Double.ofDigits_decimalDigits]
    exact congrArg (fun y => some (y, rest)) (by omega)

theorem readNumber_exponent (negative : Bool) (hds : IsWhole ds) (x : Int)
    (hrest : EndsValue rest) : readNumber negative (ds ++ 'e' :: (exponent x ++ rest)) =
      some (numberOf negative ds [] (some x), rest) := by
  obtain ⟨htake, hdrop⟩ := Double.takeWhile_digits (t := 'e' :: (exponent x ++ rest)) hds.digits rfl
  rw [readNumber]
  dsimp only
  rw [htake, hdrop, if_neg hds.accepted]
  simp [readExponent_exponent x hrest]

theorem readNumber_point_exponent (negative : Bool) (hds : IsWhole ds) (hfs : AllDigits fs)
    (hne : fs ≠ []) (x : Int) (hrest : EndsValue rest) :
    readNumber negative (ds ++ '.' :: (fs ++ 'e' :: (exponent x ++ rest))) =
      some (numberOf negative ds fs (some x), rest) := by
  obtain ⟨htake, hdrop⟩ := Double.takeWhile_digits
    (t := '.' :: (fs ++ 'e' :: (exponent x ++ rest))) hds.digits rfl
  obtain ⟨htake', hdrop'⟩ := Double.takeWhile_digits (t := 'e' :: (exponent x ++ rest)) hfs rfl
  rw [readNumber]
  dsimp only
  rw [htake, hdrop, if_neg hds.accepted]
  simp only [htake', hdrop']
  rw [if_neg (by simpa using hne)]
  simp [readExponent_exponent x hrest]

theorem head?_decimalDigits {n : Nat} (hn : 0 < n) :
    (Double.decimalDigits n).head? ≠ some '0' := by
  rw [Double.decimalDigits]
  induction n using Nat.strongRecOn with
  | ind n ih =>
      rcases Nat.lt_or_ge n 10 with hlt | hge
      · have hdigit : ∀ n < 10, 0 < n → [Nat.digitChar n].head? ≠ some '0' := by decide
        rw [Nat.toDigits_of_lt_base hlt]
        exact hdigit n hlt hn
      · rw [Nat.toDigits_of_base_le (by decide) hge, List.head?_append_of_ne_nil _ Nat.toDigits_ne_nil]
        exact ih (n / 10) (by omega) (by omega)

theorem isWhole_decimalDigits (n : Nat) : IsWhole (Double.decimalDigits n) where
  digits := Double.allDigits_decimalDigits n
  ne_nil := Double.decimalDigits_ne_nil n
  head h := by
    cases Nat.eq_zero_or_pos n with
    | inl hn => rw [hn]; rfl
    | inr hn => exact absurd h (head?_decimalDigits hn)

theorem IsWhole.of_head (hds : AllDigits ds) (hne : ds ≠ []) (hhead : ds.head? ≠ some '0') :
    IsWhole ds := ⟨hds, hne, fun h => absurd h hhead⟩

/-- A number whose value, if it has one, is the same whatever stands behind it. -/
def ReadsAsNumber (text : List Char) : Prop :=
  ∀ negative, ∃ v, ∀ rest, EndsValue rest → readNumber negative (text ++ rest) = some (v, rest)

theorem readsAsNumber_point (hds : IsWhole ds) (hfs : AllDigits fs) (hne : fs ≠ []) :
    ReadsAsNumber (ds ++ '.' :: fs) := fun negative =>
  ⟨_, fun rest hrest => by
    rw [List.append_assoc, List.cons_append]
    exact readNumber_point negative hds hfs hne hrest⟩

theorem readsAsNumber_exponent (hds : IsWhole ds) (x : Int) :
    ReadsAsNumber (ds ++ 'e' :: exponent x) := fun negative =>
  ⟨_, fun rest hrest => by
    rw [List.append_assoc, List.cons_append]
    exact readNumber_exponent negative hds x hrest⟩

theorem readsAsNumber_point_exponent (hds : IsWhole ds) (hfs : AllDigits fs) (hne : fs ≠ [])
    (x : Int) : ReadsAsNumber (ds ++ '.' :: (fs ++ 'e' :: exponent x)) := fun negative =>
  ⟨_, fun rest hrest => by
    rw [List.append_assoc, List.cons_append, List.append_assoc, List.cons_append]
    exact readNumber_point_exponent negative hds hfs hne x hrest⟩

theorem readsAsNumber_positional {d : Nat} (hd : 0 < d) {k : Int} (hk : ¬ 0 ≤ k) :
    ReadsAsNumber (Double.positional (Double.decimalDigits d) k) := by
  have hds := Double.allDigits_decimalDigits d
  have hne := Double.decimalDigits_ne_nil d
  have hhead := head?_decimalDigits hd
  rw [Double.positional, if_neg hk]
  dsimp only
  generalize Double.decimalDigits d = ds at hds hne hhead
  split
  · next hafter =>
      refine readsAsNumber_point (.of_head (fun c hc => hds c (List.mem_of_mem_take hc)) ?_ ?_)
        (fun c hc => hds c (List.mem_of_mem_drop hc)) ?_
      · simp only [ne_eq, List.take_eq_nil_iff, hne, or_false]
        omega
      · rwa [List.head?_take, if_neg (by omega)]
      · simp only [ne_eq, List.drop_eq_nil_iff]
        omega
  · have hzero : IsWhole ['0'] := ⟨Double.allDigits_zeros 1, List.cons_ne_nil _ _, fun _ => rfl⟩
    exact readsAsNumber_point hzero ((Double.allDigits_zeros _).append hds) (by simp [hne])

theorem readsAsNumber_floatBody {d : Nat} (hd : 0 < d) (k : Int) :
    ReadsAsNumber (floatBody d k) := by
  have hds := Double.allDigits_decimalDigits d
  have hne := Double.decimalDigits_ne_nil d
  have hhead := head?_decimalDigits hd
  rw [floatBody]
  dsimp only
  split
  · next h =>
      rw [Double.positional, if_pos h.1]
      refine readsAsNumber_point (.of_head (hds.append (Double.allDigits_zeros _)) ?_ ?_)
        (Double.allDigits_zeros 1) (List.cons_ne_nil _ _)
      · simp [hne]
      · rwa [List.head?_append_of_ne_nil _ hne]
  · split
    · next h =>
        refine readsAsNumber_positional hd fun hk => ?_
        omega
    · have hexponent (point : Int) : ('e' :: (if point < 1 then '-' else '+') ::
          (toString (point - 1).natAbs).toList) = 'e' :: exponent (point - 1) := by
        rw [exponent, Nat.toString_eq_repr, Nat.toList_repr]
        simp only [show point - 1 < 0 ↔ point < 1 by omega]
        rfl
      rw [hexponent]
      split
      · next c c' r hcons =>
          rw [hcons] at hds hhead
          have hc : IsWhole [c] := ⟨fun x hx => hds x (List.mem_singleton.mp hx ▸ .head _),
            List.cons_ne_nil _ _, fun _ => rfl⟩
          exact readsAsNumber_point_exponent hc (fun x hx => hds x (.tail _ hx))
            (List.cons_ne_nil _ _) _
      · exact readsAsNumber_exponent (isWhole_decimalDigits d) _

theorem head?_of_readNumber {negative : Bool} {s : List Char} {r : Option Number × List Char}
    (h : readNumber negative s = some r) : s.head?.any Char.isDigit := by
  cases s with
  | nil => cases h
  | cons c s =>
      cases hc : c.isDigit with
      | true => simpa using hc
      | false => simp [readNumber, hc] at h

theorem readValue_of_digit {s : List Char} (h : s.head?.any Char.isDigit) (fuel : Nat) :
    readValue (fuel + 1) s = (readNumber false s).map fun (n, r) => (.num n, r) := by
  cases s with
  | nil => cases h
  | cons c s =>
      have hc : c.isDigit = true := by simpa using h
      have hne (x : Char) (hx : x.isDigit = false) : c ≠ x := by
        rintro rfl
        rw [hc] at hx
        cases hx
      have hspace : isSpace c = false := by
        simp [isSpace, hne ' ' rfl, hne '\n' rfl, hne '\t' rfl, hne '\r' rfl]
      rw [readValue, skipSpace, List.dropWhile_cons_of_neg (by simp [hspace])]
      simp [hne 'n' rfl, hne 't' rfl, hne 'f' rfl, hne '"' rfl, hne '-' rfl, hc]

/-- A text that is read as one and the same thing whatever stands behind it. -/
def ReadsAs (text : List Char) (w : Written) : Prop :=
  ∀ rest fuel, EndsValue rest → readValue (fuel + 1) (text ++ rest) = some (w, rest)

theorem ReadsAsNumber.readsAs {text : List Char} (h : ReadsAsNumber text) :
    ∃ w, ReadsAs text w := by
  obtain ⟨v, hv⟩ := h false
  refine ⟨.num v, fun rest fuel hrest => ?_⟩
  rw [readValue_of_digit (head?_of_readNumber (hv rest hrest)), hv rest hrest]
  rfl

theorem ReadsAsNumber.readsAs_neg {text : List Char} (h : ReadsAsNumber text) :
    ∃ w, ReadsAs ('-' :: text) w := by
  obtain ⟨v, hv⟩ := h true
  refine ⟨.num v, fun rest fuel hrest => ?_⟩
  have hspace : isSpace '-' = false := rfl
  rw [List.cons_append, readValue, skipSpace, List.dropWhile_cons_of_neg (by simp [hspace])]
  simp [hv rest hrest]

theorem readsAs_null : ReadsAs "null".toList .null := by
  intro rest fuel _
  rw [readValue]
  rfl

theorem readsAs_number (n : Number) : ∃ w, ReadsAs n.text.toList w := by
  cases n with
  | int i =>
      have hds (n : Nat) : ReadsAsNumber (Double.decimalDigits n) := fun negative =>
        ⟨_, fun rest hrest => readNumber_whole negative (isWhole_decimalDigits n) hrest⟩
      rw [Number.text, Int.toString_eq_repr, Int.repr_eq_if]
      split
      · rw [Nat.toList_repr]
        exact (hds _).readsAs
      · rw [String.toList_append, Nat.toList_repr]
        exact (hds _).readsAs_neg
  | float d =>
      rw [Number.text]
      match d with
      | .nan | .infinite s => exact ⟨_, readsAs_null⟩
      | .finite s m e =>
          have hbody : ReadsAsNumber (if m = 0 then ['0', '.', '0'] else
              floatBody (Double.shortest .toEven m e).1 (Double.shortest .toEven m e).2) := by
            split
            · exact readsAsNumber_point ⟨Double.allDigits_zeros 1, List.cons_ne_nil _ _, fun _ => rfl⟩
                (Double.allDigits_zeros 1) (List.cons_ne_nil _ _)
            · next hm =>
                obtain ⟨d, k, heq, hd, -⟩ :=
                  Double.shortest_spec .toEven e (Nat.pos_of_ne_zero hm)
                rw [heq]
                exact readsAsNumber_floatBody hd k
          rw [floatText, String.toList_ofList]
          cases s with
          | true => exact hbody.readsAs_neg
          | false => exact hbody.readsAs

/-! ### Strings -/

theorem readHex4_hexDigits {n : Nat} (hn : n < 32) (s : List Char) :
    readHex4 (hexDigits 4 n ++ s) = some (n, s) := by
  have hdigits : ∀ n < 32, hexDigits 4 n =
      ['0', '0', Nat.digitChar (n / 16), Nat.digitChar (n % 16)] := by decide
  have hvalue : ∀ d < 16, hexValue (Nat.digitChar d) = some d := by decide
  have hzero : hexValue '0' = some 0 := rfl
  rw [hdigits n hn]
  simp only [List.cons_append, List.nil_append, readHex4, hzero, hvalue (n / 16) (by omega),
    hvalue (n % 16) (by omega), Option.bind_eq_bind, Option.bind_some]
  exact congrArg (fun m => some (m, s)) (by omega)

theorem readPieces_escapeChar (fuel : Nat) (c : Char) (s : List Char) :
    readPieces (fuel + 1) (escapeChar c ++ s) =
      (readPieces fuel s).map fun (ps, r) => (.char c :: ps, r) := by
  have hofNat (n : Nat) (h : c.toNat = n) : c = Char.ofNat n := by rw [← h, Char.ofNat_toNat]
  unfold escapeChar
  split
  · next h => rw [h]; rfl
  split
  · next h => rw [h]; rfl
  split
  · next h => rw [h]; rfl
  split
  · next h => rw [h]; rfl
  split
  · next h => rw [h]; rfl
  split
  · next h => rw [hofNat 8 h]; rfl
  split
  · next h => rw [hofNat 12 h]; rfl
  split
  · next h =>
      have hpiece : pieceOf c.toNat = .char c := by
        simp [pieceOf, show ¬ 0xD800 ≤ c.toNat by omega, show ¬ 0xDC00 ≤ c.toNat by omega]
      have hread := readHex4_hexDigits h s
      simp only [List.cons_append, readPieces]
      simp [hread, hpiece]
  · next hquote hback _ _ _ _ _ hlow =>
      simp only [List.cons_append, List.nil_append, readPieces]
      rw [if_neg hquote, if_neg hback, if_neg hlow]

theorem readPieces_escaped (cs rest : List Char) {fuel : Nat} (h : cs.length < fuel) :
    readPieces fuel (cs.flatMap escapeChar ++ '"' :: rest) = some (cs.map .char, rest) := by
  induction cs generalizing fuel with
  | nil =>
      obtain ⟨fuel, rfl⟩ := Nat.exists_eq_succ_of_ne_zero (Nat.ne_zero_of_lt h)
      simp [readPieces]
  | cons c cs ih =>
      obtain ⟨fuel, rfl⟩ := Nat.exists_eq_succ_of_ne_zero (Nat.ne_zero_of_lt h)
      rw [List.flatMap_cons, List.append_assoc, readPieces_escapeChar,
        ih (Nat.lt_of_succ_lt_succ h)]
      rfl

theorem pairUp_chars (cs : List Char) : pairUp (cs.map .char) = some cs := by
  induction cs with
  | nil => rfl
  | cons c cs ih =>
      rw [List.map_cons, pairUp, ih]
      rfl

theorem length_escapeChar_pos (c : Char) : 0 < (escapeChar c).length := by
  unfold escapeChar
  repeat' split
  all_goals simp

theorem length_le_flatMap {α β : Type} {f : α → List β} (h : ∀ x, 0 < (f x).length)
    (xs : List α) : xs.length ≤ (xs.flatMap f).length := by
  induction xs with
  | nil => exact Nat.le_refl 0
  | cons x xs ih =>
      have hx := h x
      rw [List.flatMap_cons, List.length_append, List.length_cons]
      omega

/-- The escapes of a string stand for its characters. -/
theorem readString_escaped (s : String) (rest : List Char) :
    readString (s.toList.flatMap escapeChar ++ '"' :: rest) = some (some s, rest) := by
  have hlength : s.toList.length < (s.toList.flatMap escapeChar ++ '"' :: rest).length + 1 := by
    have hle := length_le_flatMap (fun c => length_escapeChar_pos c) s.toList
    rw [List.length_append]
    omega
  rw [readString, readPieces_escaped _ _ hlength]
  simp [pairUp_chars]

/-! ### Blanks and brackets -/

variable {blanks s : List Char} {fuel : Nat}

theorem skipSpace_append (hblanks : ∀ c ∈ blanks, isSpace c = true) (s : List Char) :
    skipSpace (blanks ++ s) = skipSpace s := List.dropWhile_append_of_pos hblanks

theorem readValue_blanks (hblanks : ∀ c ∈ blanks, isSpace c = true) (fuel : Nat) (s : List Char) :
    readValue fuel (blanks ++ s) = readValue fuel s := by
  cases fuel with
  | zero => rfl
  | succ fuel => rw [readValue, readValue, skipSpace_append hblanks]

theorem readItems_blanks (hblanks : ∀ c ∈ blanks, isSpace c = true) (fuel : Nat) (s : List Char) :
    readItems fuel (blanks ++ s) = readItems fuel s := by
  cases fuel with
  | zero => rfl
  | succ fuel => rw [readItems, readItems, readValue_blanks hblanks]

theorem readFields_blanks (hblanks : ∀ c ∈ blanks, isSpace c = true) (fuel : Nat) (s : List Char) :
    readFields fuel (blanks ++ s) = readFields fuel s := by
  cases fuel with
  | zero => rfl
  | succ fuel => rw [readFields, readFields, skipSpace_append hblanks]

variable {v : Written} {vs : List Written} {fields : List (Option String × Written)} {k : String}

theorem readItems_last (hblanks : ∀ c ∈ blanks, isSpace c = true)
    (h : readValue fuel s = some (v, blanks ++ ']' :: rest)) :
    readItems (fuel + 1) s = some ([v], rest) := by
  rw [readItems, h]
  dsimp only
  rw [skipSpace_append hblanks]
  rfl

theorem readItems_more {r : List Char} (h : readValue fuel s = some (v, ',' :: r))
    (hr : readItems fuel r = some (vs, rest)) : readItems (fuel + 1) s = some (v :: vs, rest) := by
  rw [readItems, h]
  change (readItems fuel r).map _ = _
  rw [hr]
  rfl

/-- A list that has items does not close at once. -/
theorem readValue_list (h : readItems fuel s = some (vs, rest)) :
    readValue (fuel + 1) ('[' :: s) = some (.arr vs, rest) := by
  have hopen : ∀ t, skipSpace s ≠ ']' :: t := by
    intro t ht
    match fuel with
    | 0 => cases h
    | 1 => cases h
    | fuel + 2 =>
        rw [readItems, readValue, ht] at h
        cases h
  have hskip : skipSpace ('[' :: s) = '[' :: s := rfl
  rw [readValue, hskip]
  -- the list is not empty, by `hopen`
  simp +decide only [if_false, if_true]
  rw [h]
  rfl

/-- A key is read up to its closing quote. -/
theorem readString_quote (k : String) (s : List Char) :
    ∃ r, skipSpace ((quote k).toList ++ s) = '"' :: r ∧ readString r = some (some k, s) := by
  refine ⟨k.toList.flatMap escapeChar ++ '"' :: s, ?_, readString_escaped k s⟩
  rw [quote, String.toList_ofList, List.cons_append, List.append_assoc]
  rfl

theorem skipSpace_colon (s : List Char) : skipSpace (':' :: s) = ':' :: s := rfl

theorem skipSpace_comma (s : List Char) : skipSpace (',' :: s) = ',' :: s := rfl

theorem skipSpace_brace (s : List Char) : skipSpace ('\x7D' :: s) = '\x7D' :: s := rfl

theorem readFields_last (hblanks : ∀ c ∈ blanks, isSpace c = true)
    (h : readValue fuel s = some (v, blanks ++ '\x7D' :: rest)) :
    readFields (fuel + 1) ((quote k).toList ++ ':' :: s) = some ([(some k, v)], rest) := by
  obtain ⟨r, hskip, hkey⟩ := readString_quote k (':' :: s)
  simp only [readFields, hskip, hkey, skipSpace_colon, h, skipSpace_append hblanks, skipSpace_brace]

theorem readFields_more {r : List Char} (h : readValue fuel s = some (v, ',' :: r))
    (hr : readFields fuel r = some (fields, rest)) :
    readFields (fuel + 1) ((quote k).toList ++ ':' :: s) =
      some ((some k, v) :: fields, rest) := by
  obtain ⟨r', hskip, hkey⟩ := readString_quote k (':' :: s)
  simp only [readFields, hskip, hkey, skipSpace_colon, h, skipSpace_comma, hr, Option.map_some]

/-- An object that has fields does not close at once. -/
theorem readValue_object (h : readFields fuel s = some (fields, rest)) :
    readValue (fuel + 1) ('\x7B' :: s) = some (.obj fields, rest) := by
  have hopen : ∀ t, skipSpace s ≠ '\x7D' :: t := by
    intro t ht
    cases fuel with
    | zero => cases h
    | succ fuel =>
        rw [readFields, ht] at h
        cases h
  have hskip : skipSpace ('\x7B' :: s) = '\x7B' :: s := rfl
  rw [readValue, hskip]
  -- the object is not empty, by `hopen`
  simp +decide only [if_false, if_true]
  rw [h]
  rfl

/-! ### Lines -/

/-- Lines with the same blanks in front, and a comma behind all but the last. -/
def linesText (inner : String) (lines : List String) : List Char :=
  (",\n".intercalate (lines.map (inner ++ ·))).toList

theorem linesText_single (inner l : String) : linesText inner [l] = inner.toList ++ l.toList := by
  rw [linesText, List.map_singleton, String.intercalate_singleton, String.toList_append]

theorem linesText_cons (inner l l' : String) (lines : List String) :
    linesText inner (l :: l' :: lines) =
      inner.toList ++ l.toList ++ ',' :: '\n' :: linesText inner (l' :: lines) := by
  rw [linesText, List.map_cons, List.map_cons, String.intercalate_cons_cons, String.toList_append,
    String.toList_append, String.toList_append, List.append_assoc]
  rfl

theorem toList_block (opening closing indent l : String) (lines : List String) :
    (block opening closing indent (l :: lines)).toList = opening.toList ++
      '\n' :: (linesText (indent ++ "  ") (l :: lines) ++ '\n' :: (indent.toList ++ closing.toList)) := by
  rw [block, if_neg (by simp)]
  simp [linesText]

/-! ### Values -/

/-- What the text of a number is read as. -/
def Number.reread (n : Number) : Written := ((readValue 1 n.text.toList).map Prod.fst).getD .null

theorem readsAs_reread (n : Number) : ReadsAs n.text.toList n.reread := by
  obtain ⟨w, hw⟩ := readsAs_number n
  have halone := hw [] 0 (.inl rfl)
  rw [List.append_nil] at halone
  rw [Number.reread, halone]
  exact hw

mutual
/-- What the text of a value is read as. -/
def reread : Json → Written
  | null => .null
  | bool b => .bool b
  | num n => n.reread
  | str s => .str (some s)
  | arr items => .arr (rereadItems items)
  | obj fields => .obj (rereadFields fields)

def rereadItems : List Json → List Written
  | [] => []
  | j :: rest => reread j :: rereadItems rest

def rereadFields : List (String × Json) → List (Option String × Written)
  | [] => []
  | (k, j) :: rest => (some k, reread j) :: rereadFields rest
end

theorem spaces_line : ∀ c ∈ ['\n'], isSpace c = true := List.forall_mem_singleton.mpr rfl

theorem spaces_blank : ∀ c ∈ [' '], isSpace c = true := List.forall_mem_singleton.mpr rfl

theorem spaces_newline (h : ∀ c ∈ blanks, isSpace c = true) :
    ∀ c ∈ '\n' :: blanks, isSpace c = true := List.forall_mem_cons.mpr ⟨rfl, h⟩

theorem readsAs_quote (s : String) : ReadsAs (quote s).toList (.str (some s)) := by
  intro rest fuel _
  rw [quote, String.toList_ofList, List.cons_append, List.append_assoc, readValue]
  change (readString (s.toList.flatMap escapeChar ++ '"' :: rest)).map _ = _
  rw [readString_escaped]
  rfl

/-- What is written on one line is read at once. -/
theorem readsAs_atom {j : Json} {indent : String} (harr : ∀ items, items ≠ [] → j ≠ arr items)
    (hobj : ∀ fields, fields ≠ [] → j ≠ obj fields) :
    ReadsAs (pretty indent j).toList j.reread := by
  intro rest fuel hrest
  match j with
  | null =>
    simp only [pretty, compact, reread]
    exact readsAs_null rest fuel hrest
  | bool true =>
    simp only [pretty, compact, reread, if_true]
    rw [readValue]
    rfl
  | bool false =>
    simp only [pretty, compact, reread, Bool.false_eq_true, if_false]
    rw [readValue]
    rfl
  | num n =>
    simp only [pretty, compact, reread]
    exact readsAs_reread n rest fuel hrest
  | str s =>
    simp only [pretty, compact, reread]
    exact readsAs_quote s rest fuel hrest
  | arr [] =>
    simp only [pretty, prettyItems, reread, rereadItems, block, List.isEmpty_nil, if_true]
    rw [readValue]
    rfl
  | obj [] =>
    simp only [pretty, prettyFields, reread, rereadFields, block, List.isEmpty_nil, if_true]
    rw [readValue]
    rfl
  | arr (x :: xs) => exact absurd rfl (harr _ (List.cons_ne_nil _ _))
  | obj (x :: xs) => exact absurd rfl (hobj _ (List.cons_ne_nil _ _))

theorem spaces_indent {indent : String} (h : ∀ c ∈ indent.toList, isSpace c = true) :
    ∀ c ∈ (indent ++ "  ").toList, isSpace c = true := by
  rw [String.toList_append]
  refine fun c hc => (List.mem_append.mp hc).elim (h c) fun hc => ?_
  have hspace : "  ".toList.all isSpace = true := by decide
  exact List.all_eq_true.mp hspace c hc

theorem length_indent_pos (indent : String) : 0 < (indent ++ "  ").toList.length := by
  rw [String.toList_append, List.length_append]
  exact Nat.add_pos_right _ (by decide)

mutual
/-- There is fuel for each bracket and each item, as both are written. -/
theorem readValue_pretty (j : Json) {indent : String}
    (hindent : ∀ c ∈ indent.toList, isSpace c = true) : ∀ fuel rest, EndsValue rest →
      2 * (pretty indent j).toList.length < fuel →
        readValue fuel ((pretty indent j).toList ++ rest) = some (j.reread, rest) := by
  match j with
  | null | bool _ | num _ | str _ | arr [] | obj [] =>
      intro fuel rest hrest hfuel
      obtain ⟨fuel, rfl⟩ := Nat.exists_eq_succ_of_ne_zero (Nat.ne_zero_of_lt hfuel)
      exact readsAs_atom (by simp) (by simp) rest fuel hrest
  | arr (x :: xs) =>
      intro fuel rest hrest hfuel
      obtain ⟨fuel, rfl⟩ := Nat.exists_eq_succ_of_ne_zero (Nat.ne_zero_of_lt hfuel)
      have hitems := readItems_pretty (x :: xs) (List.cons_ne_nil _ _) (spaces_indent hindent)
        (length_indent_pos indent) hindent fuel rest
      simp only [pretty, prettyItems, reread, toList_block] at hitems hfuel ⊢
      have hread := readValue_list ((readItems_blanks spaces_line fuel _).trans (hitems ?_))
      · simpa using hread
      · simp only [List.length_append, List.length_cons] at hfuel
        omega
  | obj (x :: xs) =>
      intro fuel rest hrest hfuel
      obtain ⟨fuel, rfl⟩ := Nat.exists_eq_succ_of_ne_zero (Nat.ne_zero_of_lt hfuel)
      have hfields := readFields_pretty (x :: xs) (List.cons_ne_nil _ _) (spaces_indent hindent)
        (length_indent_pos indent) hindent fuel rest
      obtain ⟨k, v⟩ := x
      simp only [pretty, prettyFields, reread, toList_block] at hfields hfuel ⊢
      have hread := readValue_object ((readFields_blanks spaces_line fuel _).trans (hfields ?_))
      · simpa using hread
      · simp only [List.length_append, List.length_cons] at hfuel
        omega

theorem readItems_pretty (js : List Json) (hne : js ≠ []) {inner : String}
    (hinner : ∀ c ∈ inner.toList, isSpace c = true) (hpos : 0 < inner.toList.length)
    {blanks : List Char} (hblanks : ∀ c ∈ blanks, isSpace c = true) (fuel : Nat) (rest : List Char)
    (hfuel : 2 * (linesText inner (prettyItems inner js)).length ≤ fuel) :
    readItems fuel (linesText inner (prettyItems inner js) ++ '\n' :: (blanks ++ ']' :: rest)) =
      some (rereadItems js, rest) := by
  match js, hne with
  | [j], _ =>
      simp only [prettyItems, linesText_single, List.length_append, rereadItems] at hfuel ⊢
      obtain ⟨fuel, rfl⟩ := Nat.exists_eq_succ_of_ne_zero (n := fuel) (by omega)
      have hj := readValue_pretty j hinner fuel ('\n' :: (blanks ++ ']' :: rest))
        (.inr ⟨_, .inr rfl⟩) (by omega)
      rw [List.append_assoc]
      exact readItems_last (spaces_newline hblanks) ((readValue_blanks hinner fuel _).trans hj)
  | j :: j' :: js, _ =>
      simp only [prettyItems, linesText_cons, List.length_append, List.length_cons,
        rereadItems] at hfuel ⊢
      obtain ⟨fuel, rfl⟩ := Nat.exists_eq_succ_of_ne_zero (n := fuel) (by omega)
      have hjs := readItems_pretty (j' :: js) (List.cons_ne_nil _ _) hinner hpos hblanks
        fuel rest
      simp only [prettyItems, rereadItems] at hjs
      have hj := fun r => readValue_pretty j hinner fuel (',' :: r)
        (.inr ⟨_, .inl rfl⟩) (by omega)
      have hnext := (readItems_blanks spaces_line fuel _).trans
        (hjs (by omega))
      have hread := readItems_more ((readValue_blanks hinner fuel _).trans (hj _)) hnext
      simpa using hread

theorem readFields_pretty (fs : List (String × Json)) (hne : fs ≠ []) {inner : String}
    (hinner : ∀ c ∈ inner.toList, isSpace c = true) (hpos : 0 < inner.toList.length)
    {blanks : List Char} (hblanks : ∀ c ∈ blanks, isSpace c = true) (fuel : Nat) (rest : List Char)
    (hfuel : 2 * (linesText inner (prettyFields inner fs)).length ≤ fuel) :
    readFields fuel (linesText inner (prettyFields inner fs) ++
      '\n' :: (blanks ++ '\x7D' :: rest)) = some (rereadFields fs, rest) := by
  match fs, hne with
  | [(k, j)], _ =>
      simp only [prettyFields, linesText_single, String.toList_append, List.length_append,
        rereadFields] at hfuel ⊢
      obtain ⟨fuel, rfl⟩ := Nat.exists_eq_succ_of_ne_zero (n := fuel) (by omega)
      have hj := readValue_pretty j hinner fuel ('\n' :: (blanks ++ '\x7D' :: rest))
        (.inr ⟨_, .inr rfl⟩) (by omega)
      have hread := readFields_last (k := k) (spaces_newline hblanks)
        ((readValue_blanks spaces_blank fuel _).trans hj)
      simpa [readFields_blanks hinner] using hread
  | (k, j) :: (k', j') :: fs, _ =>
      simp only [prettyFields, linesText_cons, String.toList_append, List.length_append,
        List.length_cons, rereadFields] at hfuel ⊢
      obtain ⟨fuel, rfl⟩ := Nat.exists_eq_succ_of_ne_zero (n := fuel) (by omega)
      have hfs := readFields_pretty ((k', j') :: fs) (List.cons_ne_nil _ _) hinner hpos hblanks
        fuel rest
      simp only [prettyFields, rereadFields] at hfs
      have hj := fun r => readValue_pretty j hinner fuel (',' :: r)
        (.inr ⟨_, .inl rfl⟩) (by omega)
      have hnext := (readFields_blanks spaces_line fuel _).trans
        (hfs (by omega))
      have hread := readFields_more (k := k)
        ((readValue_blanks spaces_blank fuel _).trans (hj _)) hnext
      simpa [readFields_blanks hinner] using hread

end

end Shortcuts.Json
