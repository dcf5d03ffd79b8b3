import Mathlib
import Shortcuts.Proofs.Chord.RoundTrip
import Shortcuts.Proofs.Layout.Lead

/-!
Whether the character that a resolved chord carries is what its key types. It is the character of
the place that the chord was moved to. Shift and Alt that the chord has beside those of that place
stay with it, and with them the key may type something else. When the chord is pressed for the user,
detection takes the character as seen with all that is held.
-/

namespace Shortcuts

/-- What a layout types at a place, if anything. -/
def NativeLayout.output? (n : NativeLayout) (place : Place) : Option String :=
  (n.keys.lookup place.code).bind (·.get? place.level)

namespace Chord

variable {c r : Chord} {p : Platform} {needed : Bool} {place : Place}

/-- The chord has Shift or Alt beside what is held for a level. -/
def Adds (c : Chord) (needed : Bool) (v : Level) : Prop :=
  c.shift = true ∧ needed = false ∧ v.needsShift = false ∨ c.alt = true ∧ v.needsAlt = false

/-- What is held for a level and with the chord. -/
def levelOn (c : Chord) (needed : Bool) (v : Level) : Level :=
  .ofHeld (c.shift && !needed || v.needsShift) (c.alt || v.needsAlt)

theorem levelOn_of_not_adds {v : Level} (h : ¬ c.Adds needed v) : c.levelOn needed v = v := by
  obtain ⟨hshift, halt⟩ := not_or.mp h
  have hshift : (c.shift && !needed || v.needsShift) = v.needsShift := by
    cases hv : v.needsShift <;> simp_all
  have halt : (c.alt || v.needsAlt) = v.needsAlt := by
    cases hv : v.needsAlt <;> simp_all
  rw [levelOn, hshift, halt]
  cases v <;> rfl

theorem IsMovedTo.level (h : c.IsMovedTo p needed place r) :
    Level.ofHeld r.shift r.alt = c.levelOn needed place.level := by
  rw [h.shift, h.alt, levelOn]

end Chord

/-- What a chord adds changes nothing in what the key of a place types. -/
def NativeLayout.Tolerates (n : NativeLayout) (c : Chord) (needed : Bool) (place : Place) : Prop :=
  c.Adds needed place.level →
    n.output? ⟨place.code, c.levelOn needed place.level⟩ = n.output? place

/-! ### The carried character -/

namespace Typing

variable {n : NativeLayout} {k : Key} {c r : Chord} {p : Platform} {needed : Bool} {place : Place}

theorem character_of_carry? {typed : Chord} (h : carry? p c typed needed = some r) :
    r.character = typed.character := by
  rw [carry?] at h
  split at h
  · cases h
  · split at h
    · cases h
    · cases h
      rfl

theorem output?_of_mem_rows (hn : n.keys.IsSorted) {key : String × Bool} {typed : Chord}
    (h : (place, (key, typed)) ∈ rows n) :
    ∃ t, typed.character = some t ∧ n.output? place = some t ∧ t.length = 1 := by
  obtain ⟨own, out, hown, hcode, hrow⟩ := mem_rows.mp h
  obtain ⟨-, hmem, -⟩ := mem_knownKeys.mp hown
  obtain ⟨ch, us, shift, htext, -, heq⟩ := row?_eq_some.mp hrow
  obtain ⟨-, rfl⟩ := Prod.mk.inj heq
  have hsome : out.text place.level ≠ "" := fun hnothing => by
    rw [hnothing] at htext
    cases htext
  refine ⟨out.text place.level, rfl, ?_, ?_⟩
  · rw [NativeLayout.output?, hcode, Fields.lookup_of_mem hn.nodup_keys hmem, Option.bind_some,
      KeyOutput.get?, if_neg hsome]
  · rw [← String.length_toList, htext, List.length_singleton]

/-- A chord that was moved to an entry, with the character that is typed there. -/
structure Moves (p : Platform) (n : NativeLayout) (c : Chord) (k : Key) (needed : Bool)
    (place : Place) (t : String) (r : Chord) : Prop where
  entry : n.IsEntry k needed place
  admits : c.Admits needed place.level
  moved : c.IsMovedTo p needed place r
  character : r.character = some t
  output : n.output? place = some t
  single : t.length = 1

theorem moves_of_moved? (hn : n.keys.IsSorted) (hk : k ∈ Key.all)
    (h : (ofNative n).moved? p c k needed = some r) :
    ∃ place t, Moves p n c k needed place t r := by
  obtain ⟨typed, hchord, hcarry⟩ := Option.bind_eq_some_iff.mp h
  obtain ⟨place, hentry, hmem⟩ := exists_row_of_chord? hn hk hchord
  obtain ⟨t, ht, houtput, hsingle⟩ := output?_of_mem_rows hn hmem
  have htyped := isTypedAt_of_mem_rows hmem
  by_cases hadmits : c.Admits needed place.level
  · obtain ⟨r', hcarry', hmoved⟩ := carry?_of_admits (p := p) htyped hadmits
    cases hcarry.symm.trans hcarry'
    exact ⟨place, t, hentry, hadmits, hmoved, (character_of_carry? hcarry).trans ht, houtput,
      hsingle⟩
  · rw [carry?_of_not_admits htyped hadmits] at hcarry
    cases hcarry

/-- A chord that was read stays as it is, and carries nothing, or is moved to an entry. -/
theorem moves_of_resolve (hn : n.keys.IsSorted) {q : Platform} {text : String}
    (hc : Chord.ofText q text = .ok c) {t : String}
    (ht : ((ofNative n).resolve p c).character = some t) :
    ∃ k needed place, c.key = some k ∧
      Moves p n c k needed place t ((ofNative n).resolve p c) := by
  obtain ⟨hspelled, k, hkey⟩ := Chord.isSpelled_of_read hc
  have hk : k ∈ Key.all := Key.mem_of_ofToken? (hspelled.key k hkey).ofToken?
  -- either row may have been taken, and it gives the same in both cases
  have hmoved (needed : Bool) (h : (ofNative n).moved? p c k needed =
      some ((ofNative n).resolve p c)) :
      ∃ k needed place, c.key = some k ∧
        Moves p n c k needed place t ((ofNative n).resolve p c) := by
    obtain ⟨place, t', hmoves⟩ := moves_of_moved? hn hk h
    cases ht.symm.trans hmoves.character
    exact ⟨k, needed, place, hkey, hmoves⟩
  have hr := resolve_eq (p := p) (ofNative n) hkey
  cases hplain : (ofNative n).moved? p c k false with
  | some r =>
      rw [hplain, Option.some_or, Option.getD_some] at hr
      exact hmoved false (hr ▸ hplain)
  | none =>
      rw [hplain, Option.none_or] at hr
      cases hshifted : (ofNative n).moved? p c k true with
      | some r =>
          rw [hshifted, Option.getD_some] at hr
          exact hmoved true (hr ▸ hshifted)
      | none =>
          rw [hshifted, Option.getD_none] at hr
          rw [hr, hspelled.character] at ht
          cases ht

namespace Moves

variable {t : String}

theorem output?_eq_iff (h : Moves p n c k needed place t r) :
    n.output? ⟨place.code, .ofHeld r.shift r.alt⟩ = some t ↔ n.Tolerates c needed place := by
  rw [h.moved.level, NativeLayout.Tolerates, h.output]
  refine ⟨fun htypes _ => htypes, fun htypes => ?_⟩
  by_cases hadds : c.Adds needed place.level
  · exact htypes hadds
  · rw [Chord.levelOn_of_not_adds hadds]
    exact h.output

end Moves

end Typing

/-! ### Pressing chords for the user -/

/-- What detection learns from a chord that is pressed for the user. -/
def Chord.replayed? (c : Chord) : Option Observation :=
  ActiveLayout.observationOf? (KeyEvent.ofChord c).chord

namespace Typing.Moves

variable {n : NativeLayout} {k : Key} {c r : Chord} {p : Platform} {needed : Bool} {place : Place}
  {t : String}

/-- The carried character is seen with all that is held, unless the key is a modifier. -/
theorem replayed?_eq (h : Moves p n c k needed place t r) :
    ∃ own, r.key = some own ∧ r.replayed? = if own.isModifier then none
      else some { code := place.code, character := t, shift := r.shift, alt := r.alt } := by
  obtain ⟨out, ch, -, -, -, hknown, -⟩ := h.entry.types
  obtain ⟨own, hown⟩ := Option.isSome_iff_exists.mp hknown
  have hcode := Key.code_of_ofCode? hown
  refine ⟨own, h.moved.key.trans hown, ?_⟩
  cases hreal : own.isModifier <;>
    simp [Chord.replayed?, KeyEvent.ofChord, h.moved.key, hown, h.character, KeyEvent.chord,
      Chord.ofPress, hcode, ActiveLayout.observationOf?, Option.filter, h.single, hreal]

theorem isExplainedBy_iff (h : Moves p n c k needed place t r) {l : Layout}
    (hl : l.native.keys = n.keys) :
    (∀ o ∈ r.replayed?, o.isExplainedBy l = true) ↔
      (∃ own ∈ r.key, own.isModifier = true) ∨ n.Tolerates c needed place := by
  obtain ⟨own, hown, hreplayed⟩ := h.replayed?_eq
  have hcharacter (code : String) (v : Level) : l.character? code v = n.output? ⟨code, v⟩ := by
    rw [Layout.character?, hl, NativeLayout.output?]
  cases hreal : own.isModifier with
  | true =>
      have hnone : ∀ o ∈ (none : Option Observation), o.isExplainedBy l = true := by simp
      rw [hreplayed, if_pos hreal]
      exact iff_of_true hnone (.inl ⟨own, hown, hreal⟩)
  | false =>
      have hnot : ¬ ∃ own ∈ r.key, own.isModifier = true := by
        rintro ⟨own', hown', hreal'⟩
        cases hown.symm.trans hown'
        exact Bool.false_ne_true (hreal.symm.trans hreal')
      rw [hreplayed, hreal, or_iff_right hnot, ← h.output?_eq_iff]
      simp [Observation.isExplainedBy, Observation.level, hcharacter]

end Typing.Moves

/-- Pressing a chord for the user does nothing to detection but giving it what is learnt. -/
theorem Workbench.detection_pressChord (w : Workbench) (r : Chord) (target : Option ElementId) :
    (w.pressChord r target).1.layout.detection =
      w.layout.detection.run (r.replayed?.map .observe).toList := by
  have hfresh :
      (KeyEvent.ofChord r).prevented = false ∧ (KeyEvent.ofChord r).composing = false := by
    rw [KeyEvent.ofChord]
    split <;> exact ⟨rfl, rfl⟩
  rw [pressChord, layout_press w (e := w.focusedEvent { KeyEvent.ofChord r with target })
    hfresh.1 hfresh.2]
  exact ActiveLayout.detection_apply w.layout (.press _)

namespace ActiveLayout

/-- A chord that was read, and that resolving gives a character, is moved to a place that types the
character. Its key types it with the Shift and the Alt of the moved chord, exactly if what the chord
adds to those of the place changes nothing. Pressing it for the user then tells detection nothing
that the layout does not explain, and otherwise it does, unless the key is a modifier. -/
theorem carried_true_iff (s : ActiveLayout) {n : NativeLayout} (hn : n.keys.IsSorted)
    {q : Platform} {text : String} {c : Chord} (hc : Chord.ofText q text = .ok c) {t : String}
    (ht : ((s.adopt n).resolve c).character = some t) :
    let r := (s.adopt n).resolve c
    ∃ k needed place, c.key = some k ∧ Typing.Moves s.detection.platform n c k needed place t r ∧
      (n.output? ⟨place.code, .ofHeld r.shift r.alt⟩ = some t ↔ n.Tolerates c needed place) ∧
      (∀ l : Layout, l.native.keys = n.keys → ((∀ o ∈ r.replayed?, o.isExplainedBy l = true) ↔
        (∃ own ∈ r.key, own.isModifier = true) ∨ n.Tolerates c needed place)) ∧
      ∀ (w : Workbench) (target : Option ElementId),
        (w.pressChord r target).1.layout.detection =
          w.layout.detection.run (r.replayed?.map .observe).toList := by
  intro r
  obtain ⟨k, needed, place, hkey, hmoves⟩ := Typing.moves_of_resolve hn hc ht
  exact ⟨k, needed, place, hkey, hmoves, hmoves.output?_eq_iff,
    fun l hl => hmoves.isExplainedBy_iff hl, fun w target => w.detection_pressChord r target⟩

/-- The Shift of `@` on the US layout is used up, and the chord takes nothing else to `KeyQ`. -/
theorem carried_true_iff_altGr :
    let s : ActiveLayout := { detection := .start .pc none none none }
    let r := (s.adopt atOnQ).resolve { key := some digit2, shift := true }
    atOnQ.keys.IsSorted ∧ Chord.ofText .pc "shift+2" = .ok { key := some digit2, shift := true } ∧
      r.character = some "@" ∧ ∃ place : Place, r.key = Key.ofCode? place.code ∧
        atOnQ.output? ⟨place.code, .ofHeld r.shift r.alt⟩ = some "@" := by
  intro s r
  have hsorted : atOnQ.keys.IsSorted := by
    simp only [Fields.IsSorted, atOnQ]
    decide
  have hread : Chord.ofText .pc "shift+2" = .ok { key := some digit2, shift := true } := by cbv
  have hcharacter : r.character = some "@" := by decide +kernel
  have halt : r.alt = true := by decide +kernel
  refine ⟨hsorted, hread, hcharacter, ?_⟩
  obtain ⟨k, needed, place, -, hmoves, htrue, -⟩ := carried_true_iff s hsorted hread hcharacter
  refine ⟨place, hmoves.moved.key, htrue.mpr fun hadds => ?_⟩
  have hlevel : place.level.needsAlt = true := hmoves.moved.alt.symm.trans halt
  rcases hadds with ⟨hshift, hneeded, -⟩ | ⟨⟨⟩, -⟩
  exact absurd ⟨hshift, hneeded⟩ (hmoves.admits.2 hlevel).2.2

def letterA : NativeLayout := { keys := [("KeyA", { plain := "a", shifted := "A" })] }

def keyA : Key := ⟨"KeyA", 65, "a", some 'a', some 'A'⟩

/-- Pressing `shift+a` for the user gives detection an `a` where the key types `A`. If that was seen
before, everything starts over, and the layout loses its point. -/
theorem shifted_letter_untrue :
    let s : ActiveLayout := { detection := .start .pc none none none }
    let r := (s.adopt letterA).resolve { key := some keyA, shift := true }
    let l : Layout := { name := "A", hardware := .pc, language := "en", native := letterA }
    let seen : Observation := { code := "KeyA", character := "A", shift := true }
    let replayed : Observation := { code := "KeyA", character := "a", shift := true }
    Chord.ofText .pc "shift+a" = .ok { key := some keyA, shift := true } ∧
      r.character = some "a" ∧ r.key = some keyA ∧
      letterA.output? ⟨"KeyA", .ofHeld r.shift r.alt⟩ = some "A" ∧
      r.replayed? = some replayed ∧ replayed.isExplainedBy l = false ∧
      ((Scores.ofLayouts [l]).run [.observe seen]).entries.map Prod.snd = [1] ∧
      ((Scores.ofLayouts [l]).run [.observe seen, .observe replayed]).entries.map Prod.snd =
        [0] := by
  refine ⟨by cbv, ?_, ?_, ?_, ?_, ?_, ?_, ?_⟩ <;> decide +kernel

end ActiveLayout

end Shortcuts
