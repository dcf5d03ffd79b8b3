import Mathlib.Data.List.Nodup
import Shortcuts.Layout.Active
import Shortcuts.Proofs.Fields

/-!
Which chord takes the place of a chord on a layout. The places where a layout types the character
of a US key come in an order, by the codes of the keys and then by levels. Of those that type what
the key types alone the first counts, and of those that type what it types with Shift; the
modifiers of the chord decide between these two.
-/

namespace Shortcuts

/-! ### Keys -/

namespace Key

variable {k k' : Key} {code : String} {c : Char} {shift : Bool}

theorem nodup_codes : (all.map Key.code).Nodup := by
  decide +kernel

theorem eq_of_code_eq (hk : k ∈ all) (hk' : k' ∈ all) (h : k.code = k'.code) : k = k' :=
  List.inj_on_of_nodup_map nodup_codes hk hk' h

theorem code_of_ofCode? (h : ofCode? code = some k) : k.code = code := by
  simpa using List.find?_some h

theorem mem_all_of_typing? (h : typing? c = some (k, shift)) : k ∈ all := by
  obtain ⟨k', hk', htypes⟩ := List.exists_of_findSome?_eq_some h
  split at htypes
  · cases htypes
    exact hk'
  · split at htypes
    · cases htypes
      exact hk'
    · cases htypes

end Key

/-! ### Places -/

/-- A key of a layout and what is held with it. -/
structure Place where
  code : String
  level : Level
deriving DecidableEq

namespace Level

def rank : Level → Nat
  | plain => 0
  | shifted => 1
  | altGr => 2
  | shiftedAltGr => 3

theorem pairwise_all : all.Pairwise fun v w => v.rank < w.rank := by
  decide

end Level

def Place.IsBefore (a b : Place) : Prop :=
  a.code < b.code ∨ a.code = b.code ∧ a.level.rank < b.level.rank

theorem Place.IsBefore.asymm {a b : Place} (h : a.IsBefore b) (h' : b.IsBefore a) : False := by
  rcases h with h | ⟨hcode, hrank⟩
  · rcases h' with h' | ⟨hcode', -⟩
    · exact Std.lt_irrefl (Std.lt_trans h h')
    · exact Std.ne_of_lt h hcode'.symm
  · rcases h' with h' | ⟨-, hrank'⟩
    · exact Std.ne_of_lt h' hcode.symm
    · omega

/-- One character is typed at the place, and it is what a US key types without or with Shift. Keys
that are not known and those of the number pad do not count. -/
def NativeLayout.Types (n : NativeLayout) (place : Place) (k : Key) (shift : Bool) : Prop :=
  ∃ out c, (place.code, out) ∈ n.keys ∧ (out.text place.level).toList = [c] ∧
    Key.typing? c = some (k, shift) ∧ (Key.ofCode? place.code).isSome = true ∧
    ¬ BuiltinLayout.numpad.toList <+: place.code.toList

/-- The first place that types what a US key types without or with Shift. -/
structure NativeLayout.IsEntry (n : NativeLayout) (k : Key) (shift : Bool) (place : Place) :
    Prop where
  types : n.Types place k shift
  first : ∀ other, n.Types other k shift → other = place ∨ place.IsBefore other

theorem NativeLayout.IsEntry.unique {n : NativeLayout} {k : Key} {shift : Bool} {a b : Place}
    (ha : n.IsEntry k shift a) (hb : n.IsEntry k shift b) : a = b := by
  rcases ha.first b hb.types with heq | hab
  · exact heq.symm
  · rcases hb.first a ha.types with heq | hba
    · exact heq
    · exact (hab.asymm hba).elim

/-! ### Tables -/

/-- In a table whose rows are in order, what is looked up is the first of a key. -/
theorem exists_first_of_lookup {ι κ α : Type} [BEq κ] [LawfulBEq κ] {before : ι → ι → Prop}
    {rows : List (ι × (κ × α))} (h : rows.Pairwise fun row row' => before row.1 row'.1) {k : κ}
    {v : α} (hv : (rows.map Prod.snd).lookup k = some v) :
    ∃ i, (i, (k, v)) ∈ rows ∧
      ∀ row ∈ rows, row.2.1 = k → row.1 = i ∨ before i row.1 := by
  induction rows with
  | nil => cases hv
  | cons row rows ih =>
      obtain ⟨i, l, w⟩ := row
      obtain ⟨hrow, hrows⟩ := List.pairwise_cons.mp h
      rw [List.map_cons, List.lookup_cons] at hv
      by_cases hk : k = l
      · subst hk
        rw [beq_self_eq_true] at hv
        cases hv
        refine ⟨i, List.mem_cons_self, fun row' hrow' _ => ?_⟩
        rcases List.mem_cons.mp hrow' with rfl | hrow'
        · exact .inl rfl
        · exact .inr (hrow row' hrow')
      · rw [beq_eq_false_iff_ne.mpr hk] at hv
        obtain ⟨j, hj, hfirst⟩ := ih hrows hv
        refine ⟨j, List.mem_cons_of_mem _ hj, fun row' hrow' hkey => ?_⟩
        rcases List.mem_cons.mp hrow' with rfl | hrow'
        · exact absurd hkey.symm hk
        · exact hfirst row' hrow' hkey

namespace Typing

variable {n : NativeLayout} {k : Key} {shift : Bool} {place : Place}

/-- The rows of the table of chords with the places that they are of. -/
def rows (n : NativeLayout) : List (Place × ((String × Bool) × Chord)) :=
  (knownKeys n).flatMap fun (k, out) =>
    Level.all.filterMap fun v => (row? k out v).map (Prod.mk ⟨k.code, v⟩)

theorem map_rows (n : NativeLayout) : (rows n).map Prod.snd = (ofNative n).chords := by
  simp only [rows, ofNative, List.map_flatMap, List.map_filterMap, Option.map_map]
  refine List.flatMap_congr fun e _ => List.filterMap_congr fun v _ => ?_
  exact Option.map_id' 

theorem mem_knownKeys {out : KeyOutput} :
    (k, out) ∈ knownKeys n ↔ Key.ofCode? k.code = some k ∧ (k.code, out) ∈ n.keys ∧
      ¬ BuiltinLayout.numpad.toList <+: k.code.toList := by
  simp only [knownKeys, List.mem_filterMap]
  constructor
  · rintro ⟨⟨code, out'⟩, hmem, h⟩
    dsimp only at h
    split at h
    · cases h
    · next hpad =>
        obtain ⟨k', hcode, hpair⟩ := Option.map_eq_some_iff.mp h
        cases hpair
        obtain rfl := Key.code_of_ofCode? hcode
        exact ⟨hcode, hmem, by simpa using hpad⟩
  · rintro ⟨hcode, hmem, hpad⟩
    refine ⟨(k.code, out), hmem, ?_⟩
    rw [if_neg (by simpa using hpad), hcode, Option.map_some]

theorem mem_rows {r : (String × Bool) × Chord} :
    (place, r) ∈ rows n ↔ ∃ own out, (own, out) ∈ knownKeys n ∧ place.code = own.code ∧
      row? own out place.level = some r := by
  simp only [rows, List.mem_flatMap, List.mem_filterMap, Option.map_eq_some_iff]
  constructor
  · rintro ⟨⟨own, out⟩, hown, v, -, r, hrow, heq⟩
    cases heq
    exact ⟨own, out, hown, rfl, hrow⟩
  · rintro ⟨own, out, hown, hcode, hrow⟩
    obtain ⟨code, v⟩ := place
    obtain rfl := hcode
    exact ⟨(own, out), hown, v, by cases v <;> decide, r, hrow, rfl⟩

theorem row?_eq_some {out : KeyOutput} {v : Level} {r : (String × Bool) × Chord} :
    row? k out v = some r ↔ ∃ c us shift, (out.text v).toList = [c] ∧
      Key.typing? c = some (us, shift) ∧ r = ((us.code, shift),
        { key := some k, shift := v.needsShift, alt := v.needsAlt,
          character := some (out.text v) }) := by
  rw [row?]
  constructor
  · intro h
    split at h
    · next c htext =>
        obtain ⟨⟨us, shift⟩, htyping, rfl⟩ := Option.map_eq_some_iff.mp h
        exact ⟨c, us, shift, htext, htyping, rfl⟩
    · cases h
  · rintro ⟨c, us, shift, htext, htyping, rfl⟩
    simp [htext, htyping]

/-- The rows of a key are those of the places that type what the key types. -/
theorem types_iff_mem_rows (hk : k ∈ Key.all) :
    n.Types place k shift ↔ ∃ typed, (place, ((k.code, shift), typed)) ∈ rows n := by
  simp only [mem_rows, row?_eq_some]
  constructor
  · rintro ⟨out, c, hmem, htext, htyping, hknown, hpad⟩
    obtain ⟨own, hown⟩ := Option.isSome_iff_exists.mp hknown
    have hcode := Key.code_of_ofCode? hown
    refine ⟨_, own, out, mem_knownKeys.mpr ⟨?_, ?_, ?_⟩, hcode.symm, c, k, shift, htext,
      htyping, rfl⟩
    · rw [hcode, hown]
    · rw [hcode]
      exact hmem
    · rw [hcode]
      exact hpad
  · rintro ⟨typed, own, out, hown, hcode, c, us, shift', htext, htyping, hrow⟩
    obtain ⟨hof, hmem, hpad⟩ := mem_knownKeys.mp hown
    obtain ⟨hus, rfl⟩ := Prod.mk.inj (Prod.mk.inj hrow).1
    obtain rfl := Key.eq_of_code_eq hk (Key.mem_all_of_typing? htyping) hus
    rw [← hcode] at hof hmem hpad
    exact ⟨out, c, hmem, htext, htyping, Option.isSome_iff_exists.mpr ⟨own, hof⟩, hpad⟩

theorem pairwise_knownKeys (h : n.keys.IsSorted) :
    (knownKeys n).Pairwise fun e e' => e.1.code < e'.1.code := by
  refine List.pairwise_filterMap.mpr (h.imp fun {e e'} hlt b hb b' hb' => ?_)
  have hcode (e : String × KeyOutput) (b : Key × KeyOutput) (hb : (if
      BuiltinLayout.numpad.toList.isPrefixOf e.1.toList then none
      else (Key.ofCode? e.1).map fun k => (k, e.2)) = some b) : b.1.code = e.1 := by
    split at hb
    · cases hb
    · obtain ⟨k, hk, rfl⟩ := Option.map_eq_some_iff.mp hb
      exact Key.code_of_ofCode? hk
  rw [hcode e b hb, hcode e' b' hb']
  exact hlt

theorem pairwise_rows (h : n.keys.IsSorted) :
    (rows n).Pairwise fun row row' => row.1.IsBefore row'.1 := by
  have hplace {k : Key} {out : KeyOutput} {v : Level} {row : Place × ((String × Bool) × Chord)}
      (hrow : (row? k out v).map (Prod.mk (⟨k.code, v⟩ : Place)) = some row) :
      row.1 = ⟨k.code, v⟩ := by
    obtain ⟨r, -, rfl⟩ := Option.map_eq_some_iff.mp hrow
    rfl
  refine List.pairwise_flatMap.mpr ⟨fun e _ => ?_, (pairwise_knownKeys h).imp fun hlt => ?_⟩
  · refine List.pairwise_filterMap.mpr (Level.pairwise_all.imp fun hlt row hrow row' hrow' => ?_)
    rw [hplace hrow, hplace hrow']
    exact .inr ⟨rfl, hlt⟩
  · intro row hrow row' hrow'
    obtain ⟨v, -, hv⟩ := List.mem_filterMap.mp hrow
    obtain ⟨v', -, hv'⟩ := List.mem_filterMap.mp hrow'
    rw [hplace hv, hplace hv']
    exact .inl hlt

/-- The chord that is the key of a place and nothing but its level. -/
structure IsTypedAt (place : Place) (typed : Chord) : Prop where
  key : typed.key = Key.ofCode? place.code
  shift : typed.shift = place.level.needsShift
  alt : typed.alt = place.level.needsAlt

theorem isTypedAt_of_mem_rows {key : String × Bool} {typed : Chord}
    (h : (place, (key, typed)) ∈ rows n) : IsTypedAt place typed := by
  obtain ⟨own, out, hown, hcode, hrow⟩ := mem_rows.mp h
  obtain ⟨c, us, shift, -, -, heq⟩ := row?_eq_some.mp hrow
  obtain ⟨-, rfl⟩ := Prod.mk.inj heq
  refine ⟨?_, rfl, rfl⟩
  rw [hcode, (mem_knownKeys.mp hown).1]

/-- What is looked up is the row of an entry. -/
theorem exists_row_of_chord? (hn : n.keys.IsSorted) (hk : k ∈ Key.all) {typed : Chord}
    (h : (ofNative n).chord? k shift = some typed) :
    ∃ place, n.IsEntry k shift place ∧ (place, ((k.code, shift), typed)) ∈ rows n := by
  rw [chord?, ← map_rows] at h
  obtain ⟨place, hmem, hfirst⟩ := exists_first_of_lookup (pairwise_rows hn) h
  refine ⟨place, ⟨(types_iff_mem_rows hk).mpr ⟨typed, hmem⟩, fun other hother => ?_⟩, hmem⟩
  obtain ⟨typed', hmem'⟩ := (types_iff_mem_rows hk).mp hother
  exact hfirst _ hmem' rfl

theorem exists_isEntry_of_chord? (hn : n.keys.IsSorted) (hk : k ∈ Key.all) {typed : Chord}
    (h : (ofNative n).chord? k shift = some typed) :
    ∃ place, n.IsEntry k shift place ∧ IsTypedAt place typed := by
  obtain ⟨place, hentry, hmem⟩ := exists_row_of_chord? hn hk h
  exact ⟨place, hentry, isTypedAt_of_mem_rows hmem⟩

theorem chord?_ne_none_of_types (hk : k ∈ Key.all) (h : n.Types place k shift) :
    (ofNative n).chord? k shift ≠ none := by
  obtain ⟨typed, hmem⟩ := (types_iff_mem_rows hk).mp h
  rw [chord?, ← map_rows]
  intro hnone
  have hother := List.lookup_eq_none_iff.mp hnone _ (List.mem_map_of_mem hmem)
  simp at hother

end Typing

/-! ### Modifiers -/

/-- The modifiers of a chord leave room for a level: one with AltGr takes no others but the Shift
that the character needs. -/
def Chord.Admits (c : Chord) (needed : Bool) (v : Level) : Prop :=
  (needed = true → c.shift = true) ∧
    (v.needsAlt = true → c.alt = false ∧ c.ctrl = false ∧ ¬ (c.shift = true ∧ needed = false))

/-- The key of a place with the modifiers of a chord. The Shift that the character needs on the US
layout gives way to that of the level. -/
structure Chord.IsMovedTo (p : Platform) (c : Chord) (needed : Bool) (place : Place) (r : Chord) :
    Prop where
  key : r.key = Key.ofCode? place.code
  metaKey : r.metaKey = c.metaKey
  ctrl : r.ctrl = (c.ctrl || place.level.needsAlt && p = .pc)
  alt : r.alt = (c.alt || place.level.needsAlt)
  shift : r.shift = (c.shift && !needed || place.level.needsShift)

theorem carry?_of_admits {p : Platform} {c typed : Chord} {needed : Bool} {place : Place}
    (htyped : Typing.IsTypedAt place typed) (h : c.Admits needed place.level) :
    ∃ r, Typing.carry? p c typed needed = some r ∧ c.IsMovedTo p needed place r := by
  have hshift : (!c.shift && needed) = false := by
    cases needed <;> simp [h.1]
  have halt : (typed.alt && (c.alt || c.ctrl || (c.shift && !needed))) = false := by
    rw [htyped.alt]
    cases hv : place.level.needsAlt with
    | false => rfl
    | true =>
        obtain ⟨halt, hctrl, hmore⟩ := h.2 hv
        simpa [halt, hctrl] using hmore
  refine ⟨_, by rw [Typing.carry?, if_neg (by simp [hshift]), if_neg (by simp [halt])], ?_⟩
  exact ⟨htyped.key, rfl, by rw [htyped.alt], by rw [htyped.alt], by rw [htyped.shift]⟩

theorem carry?_of_not_admits {p : Platform} {c typed : Chord} {needed : Bool} {place : Place}
    (htyped : Typing.IsTypedAt place typed) (h : ¬ c.Admits needed place.level) :
    Typing.carry? p c typed needed = none := by
  rw [Typing.carry?, htyped.alt]
  split
  · rfl
  · next hshift =>
      split
      · rfl
      · next halt =>
          refine absurd ⟨fun hneeded => ?_, fun hv => ?_⟩ h
          · simpa [hneeded] using hshift
          · simpa [hv, and_assoc] using halt

theorem Chord.IsMovedTo.holds {p : Platform} {c r : Chord} {needed : Bool} {place : Place}
    (h : c.IsMovedTo p needed place r) : (c.ctrl = true → r.ctrl = true) ∧
      (c.alt = true → r.alt = true) ∧ (c.metaKey = true → r.metaKey = true) := by
  rw [h.ctrl, h.alt, h.metaKey]
  simp +contextual

/-! ### Resolving -/

namespace Typing

variable {n : NativeLayout} {k : Key} {c : Chord} {p : Platform}

/-- What becomes of a chord by the row of its key without or with Shift. -/
def moved? (p : Platform) (t : Typing) (c : Chord) (k : Key) (needed : Bool) : Option Chord :=
  (t.chord? k needed).bind fun typed => carry? p c typed needed

theorem resolve_eq (t : Typing) (h : c.key = some k) :
    t.resolve p c = ((t.moved? p c k false).or (t.moved? p c k true)).getD c := by
  simp only [resolve, h, moved?, Option.orElse_eq_orElse, Option.orElse_eq_or]

theorem moved?_cases (hn : n.keys.IsSorted) (hk : k ∈ Key.all) (p : Platform) (c : Chord)
    (needed : Bool) :
    (∃ place r, n.IsEntry k needed place ∧ c.Admits needed place.level ∧
      (ofNative n).moved? p c k needed = some r ∧ c.IsMovedTo p needed place r) ∨
    (∀ place, n.IsEntry k needed place → ¬ c.Admits needed place.level) ∧
      (ofNative n).moved? p c k needed = none := by
  cases hchord : (ofNative n).chord? k needed with
  | none =>
      refine .inr ⟨fun place hentry => ?_, by rw [moved?, hchord, Option.bind_none]⟩
      exact absurd hchord (chord?_ne_none_of_types hk hentry.types)
  | some typed =>
      obtain ⟨place, hentry, htyped⟩ := exists_isEntry_of_chord? hn hk hchord
      by_cases hadmits : c.Admits needed place.level
      · obtain ⟨r, hcarry, hmoved⟩ := carry?_of_admits (p := p) htyped hadmits
        exact .inl ⟨place, r, hentry, hadmits, by rw [moved?, hchord, Option.bind_some, hcarry],
          hmoved⟩
      · refine .inr ⟨fun place' hentry' => hentry.unique hentry' ▸ hadmits, ?_⟩
        rw [moved?, hchord, Option.bind_some, carry?_of_not_admits htyped hadmits]

end Typing

namespace ActiveLayout

/-- On the keys of a layout, a chord with a key becomes the first place that types what the key
types alone, if its modifiers leave room for that, else the first that types what the key types with
Shift, else it stays as it is. Ctrl, Alt and Meta are never lost. -/
theorem resolve_by_entries (s : ActiveLayout) {n : NativeLayout} (hn : n.keys.IsSorted) {c : Chord}
    {k : Key} (hkey : c.key = some k) (hk : k ∈ Key.all) :
    let p := s.detection.platform
    let r := (s.adopt n).resolve c
    (∀ place, n.IsEntry k false place → c.Admits false place.level → c.IsMovedTo p false place r) ∧
    ((∀ place, n.IsEntry k false place → ¬ c.Admits false place.level) →
      (∀ place, n.IsEntry k true place → c.Admits true place.level → c.IsMovedTo p true place r) ∧
      ((∀ place, n.IsEntry k true place → ¬ c.Admits true place.level) → r = c)) ∧
    (c.ctrl = true → r.ctrl = true) ∧ (c.alt = true → r.alt = true) ∧
    (c.metaKey = true → r.metaKey = true) := by
  intro p r
  have hr : r = (((Typing.ofNative n).moved? p c k false).or
      ((Typing.ofNative n).moved? p c k true)).getD c := Typing.resolve_eq _ hkey
  rcases Typing.moved?_cases hn hk p c false with
    ⟨place, moved, hentry, hadmits, hsome, hmoved⟩ | ⟨hclosed, hnone⟩
  · rw [hsome, Option.some_or, Option.getD_some] at hr
    rw [← hr] at hmoved
    refine ⟨fun place' hentry' _ => hentry.unique hentry' ▸ hmoved, fun hclosed => ?_,
      hmoved.holds⟩
    exact absurd hadmits (hclosed place hentry)
  · rw [hnone, Option.none_or] at hr
    refine ⟨fun place hentry hadmits => absurd hadmits (hclosed place hentry), ?_⟩
    rcases Typing.moved?_cases hn hk p c true with
      ⟨place, moved, hentry, hadmits, hsome, hmoved⟩ | ⟨hclosed', hnone'⟩
    · rw [hsome, Option.getD_some] at hr
      rw [← hr] at hmoved
      refine ⟨fun _ => ⟨fun place' hentry' _ => hentry.unique hentry' ▸ hmoved, fun hclosed' => ?_⟩,
        hmoved.holds⟩
      exact absurd hadmits (hclosed' place hentry)
    · rw [hnone', Option.getD_none] at hr
      refine ⟨fun _ => ⟨fun place hentry hadmits => absurd hadmits (hclosed' place hentry),
        fun _ => hr⟩, ?_⟩
      rw [hr]
      exact ⟨id, id, id⟩

/-- A layout that types `@` with AltGr. -/
def atOnQ : NativeLayout :=
  { keys := [("KeyQ", { plain := "q", altGr := "@" }), ("KeyY", { plain := "z" })] }

def digit2 : Key := ⟨"Digit2", 50, "2", some '2', some '@'⟩

/-- The Shift of `@` on the US layout gives way to AltGr, which is Ctrl and Alt. -/
theorem resolve_by_entries_altGr :
    let s : ActiveLayout := { detection := .start .pc none none none }
    let c : Chord := { key := some digit2, shift := true }
    let place : Place := ⟨"KeyQ", .altGr⟩
    atOnQ.keys.IsSorted ∧ c.key = some digit2 ∧ digit2 ∈ Key.all ∧
      (∀ place, atOnQ.IsEntry digit2 false place → ¬ c.Admits false place.level) ∧
      atOnQ.IsEntry digit2 true place ∧ c.Admits true place.level ∧
      c.IsMovedTo .pc true place ((s.adopt atOnQ).resolve c) := by
  intro s c place
  have hsorted : atOnQ.keys.IsSorted := by
    simp only [Fields.IsSorted, atOnQ]
    decide
  have hmem : digit2 ∈ Key.all := by decide +kernel
  have hrows : (Typing.rows atOnQ).map (fun row => (row.1, row.2.1)) =
      [(⟨"KeyQ", .plain⟩, "KeyQ", false), (place, "Digit2", true),
        (⟨"KeyY", .plain⟩, "KeyZ", false)] := by decide +kernel
  have htypes (other : Place) (shift : Bool) :
      atOnQ.Types other digit2 shift ↔ other = place ∧ shift = true := by
    have hrow : (∃ typed, (other, ((digit2.code, shift), typed)) ∈ Typing.rows atOnQ) ↔
        (other, digit2.code, shift) ∈ (Typing.rows atOnQ).map fun row => (row.1, row.2.1) := by
      simp
    rw [Typing.types_iff_mem_rows hmem, hrow, hrows]
    simp [digit2]
  have hplain : ∀ place, atOnQ.IsEntry digit2 false place → ¬ c.Admits false place.level := by
    intro other hentry
    exact absurd ((htypes other false).mp hentry.types).2 Bool.false_ne_true
  have hentry : atOnQ.IsEntry digit2 true place :=
    ⟨(htypes place true).mpr ⟨rfl, rfl⟩, fun other hother => .inl ((htypes other true).mp hother).1⟩
  have hadmits : c.Admits true place.level := by
    simp [Chord.Admits, c]
  refine ⟨hsorted, rfl, hmem, hplain, hentry, hadmits, ?_⟩
  exact ((resolve_by_entries s hsorted rfl hmem).2.1 hplain).1 place hentry hadmits

end ActiveLayout

end Shortcuts
