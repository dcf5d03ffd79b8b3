import Shortcuts.Layout.Active
import Shortcuts.Proofs.Layout.Outputs
import Shortcuts.Terminal

/-!
What detection learns from the keys that a terminal reports. A terminal reports characters, which
are taken for those of US keys, so that the US layout explains them. The held keys that it reports
with a character are taken as they are, and a digit with Shift is what a French layout types.
-/

namespace Shortcuts

namespace Terminal.Report

variable {r : Report} {o : Observation}

/-- What detection learns from a report. -/
def observation? (r : Report) : Option Observation :=
  r.event?.bind fun e => ActiveLayout.observationOf? e.chord

theorem length_namedCodes : ∀ e ∈ namedCodes, ∀ code ∈ e.2, code.length ≠ 1 := by
  decide

theorem length_modifierCodes : ∀ e ∈ modifierCodes, ∀ code ∈ e.2, code.length ≠ 1 := by
  decide

/-- A key that produced no single character tells nothing. -/
theorem observationOf?_of_long {e : KeyEvent} (h : ∀ text ∈ e.key, text.length ≠ 1) :
    ActiveLayout.observationOf? e.chord = none := by
  have hnone : e.key.filter (·.length = 1) = none := by
    rw [Option.filter_eq_none_iff]
    exact fun text htext => by simpa using h text htext
  rw [KeyEvent.chord, hnone, ActiveLayout.observationOf?]
  split
  · next hcharacter => cases hcharacter
  · rfl

theorem observation?_of_typing {c : Char} {k : Key} {shifted : Bool} (hphase : r.phase = .press)
    (hkey : r.key = .character c) (htypes : Key.typing? c = some (k, shifted)) :
    r.observation? = some { code := k.code, character := c.toString
                            shift := .shift ∈ r.flags || shifted, alt := .alt ∈ r.flags } := by
  have hcode := Key.ofCode?_code (Key.mem_all_of_typing? htypes)
  obtain ⟨p, s, hp, -, -⟩ := Key.types_of_typing? htypes
  have hreal := Key.not_isModifier_of_plain k (Key.mem_all_of_typing? htypes) (by rw [hp]; rfl)
  simp [observation?, event?, hphase, hkey, htypes, KeyEvent.chord, Chord.ofPress, hcode, hreal,
    ActiveLayout.observationOf?, Option.filter]

/-- The event of a report is a new one, and only characters of US keys tell anything. -/
structure Gives (r : Report) (e : KeyEvent) : Prop where
  phase : r.phase = .press
  prevented : e.prevented = false
  composing : e.composing = false
  typed : ActiveLayout.observationOf? e.chord = none ∨
    ∃ c k shifted, r.key = .character c ∧ Key.typing? c = some (k, shifted)

theorem gives_event {r : Report} {e : KeyEvent} (h : r.event? = some e) : r.Gives e := by
  rw [event?] at h
  split at h
  · cases h
  · next hphase =>
      have hphase := not_not.mp hphase
      have hnamed {code : String} (hcode : code.length ≠ 1) (hkey : e.key = some code) :
          ActiveLayout.observationOf? e.chord = none := by
        refine observationOf?_of_long ?_
        rw [hkey]
        rintro text ⟨⟩
        exact hcode
      cases hkey : r.key with
      | character c =>
          cases htypes : Key.typing? c with
          | some types =>
              simp only [hkey, htypes, Option.some.injEq] at h
              subst h
              exact ⟨hphase, rfl, rfl, .inr ⟨c, types.1, types.2, hkey, htypes⟩⟩
          | none =>
              simp only [hkey, htypes, Option.some.injEq] at h
              subst h
              exact ⟨hphase, rfl, rfl, .inl rfl⟩
      | function n =>
          simp only [hkey, Option.some.injEq] at h
          subst h
          exact ⟨hphase, rfl, rfl, .inl (observationOf?_of_long nofun)⟩
      | modifier name =>
          simp only [hkey] at h
          obtain ⟨code, hcode, rfl⟩ := Option.map_eq_some_iff.mp h
          have hrow := Fields.mem_of_lookup (Option.join_eq_some_iff.mp hcode)
          exact ⟨hphase, rfl, rfl, .inl (hnamed (length_modifierCodes _ hrow code rfl) rfl)⟩
      | media name => simp [hkey] at h
      | named name =>
          simp only [hkey] at h
          obtain ⟨code, hcode, rfl⟩ := Option.map_eq_some_iff.mp h
          have hrow := Fields.mem_of_lookup (Option.join_eq_some_iff.mp hcode)
          exact ⟨hphase, rfl, rfl, .inl (hnamed (length_namedCodes _ hrow code rfl) rfl)⟩

structure ShiftsDigit (r : Report) (c : Char) : Prop where
  phase : r.phase = .press
  key : r.key = .character c
  digit : c ∈ digits
  shift : .shift ∈ r.flags
  alt : .alt ∉ r.flags

def shiftedPlace (c : Char) : String := "Digit" ++ c.toString ++ ".withShift"

theorem isExplainedBy_iff (b : BuiltinLayout) {k : Key} {p s c : Char} (hk : k ∈ Key.all)
    (hp : k.plain = some p) (hs : k.shifted = some s) (shift alt : Bool) :
    ({ code := k.code, character := c.toString, shift, alt } : Observation).isExplainedBy b.layout =
        true ↔
      (b.output k.code { plain := p.toString, shifted := s.toString }).text (.ofHeld shift alt) =
        c.toString := by
  rw [Observation.isExplainedBy, Layout.character?, b.native_layout, b.lookup_native hk hp hs,
    Option.bind_some, beq_iff_eq, KeyOutput.get?]
  split
  · next hnothing =>
      refine iff_of_false (Option.some_ne_none _).symm fun h => ?_
      simpa using congrArg String.toList (hnothing.symm.trans h)
  · exact Option.some_inj

theorem exists_shiftsDigit_iff {c : Char} (hphase : r.phase = .press)
    (hkey : r.key = .character c) :
    (∃ c, r.ShiftsDigit c) ↔ c ∈ digits ∧ .shift ∈ r.flags ∧ .alt ∉ r.flags := by
  constructor
  · rintro ⟨c', hc'⟩
    cases hkey.symm.trans hc'.key
    exact ⟨hc'.digit, hc'.shift, hc'.alt⟩
  · rintro ⟨hc, hshift, halt⟩
    exact ⟨c, hphase, hkey, hc, hshift, halt⟩

/-- What a built-in layout explains and the US layout does not are digits with Shift, and the
layout is a French one. -/
theorem sets_apart_iff (h : r.observation? = some o) (b : BuiltinLayout) :
    o.isExplainedBy b.layout = true ∧ o.isExplainedBy BuiltinLayout.usPc.layout = false ↔
      b.isFrench = true ∧ ∃ c, r.ShiftsDigit c := by
  obtain ⟨e, he, ho⟩ := Option.bind_eq_some_iff.mp h
  obtain ⟨hphase, -, -, htyped⟩ := gives_event he
  obtain ⟨c, k, shifted, hkey, htypes⟩ := htyped.resolve_left fun hnone => by cases ho.symm.trans hnone
  have hk := Key.mem_all_of_typing? htypes
  obtain ⟨p, s, hp, hs, hc⟩ := Key.types_of_typing? htypes
  have hout := b.resembles_output hk hp hs
  rw [observation?_of_typing hphase hkey htypes] at h
  rw [← Option.some.inj h, ← Bool.not_eq_true, isExplainedBy_iff b hk hp hs,
    isExplainedBy_iff .usPc hk hp hs, exists_shiftsDigit_iff hphase hkey]
  -- the Shift that the character needs is held beside the one that is reported
  cases shifted with
  | true =>
      obtain rfl : c = s := hc
      rw [Bool.or_true]
      refine iff_of_false (hout.shifted_apart _) fun hdigit => ?_
      obtain ⟨_, hplain, -⟩ := Key.typing?_digit hdigit.2.1
      rw [htypes] at hplain
      cases hplain
  | false =>
      obtain rfl : c = p := hc
      rw [Bool.or_false]
      refine (hout.plain_apart_iff _ _).trans ?_
      rw [decide_eq_true_iff, decide_eq_false_iff_not]
      constructor
      · rintro ⟨hshift, halt, -, hdigit, hfrench⟩
        exact ⟨hfrench, hdigit, hshift, halt⟩
      · rintro ⟨hfrench, hdigit, hshift, halt⟩
        refine ⟨hshift, halt, fun heq => ?_, hdigit, hfrench⟩
        exact BuiltinLayout.shifted_ne_of_digit hk hp hdigit (heq ▸ hs)

theorem observation?_of_shiftsDigit {c : Char} (h : r.ShiftsDigit c) :
    ∃ o, r.observation? = some o ∧ o.place = shiftedPlace c ∧ o.character = c.toString := by
  obtain ⟨k, htypes, hcode⟩ := Key.typing?_digit h.digit
  refine ⟨_, observation?_of_typing h.phase h.key htypes, ?_, rfl⟩
  rw [Observation.place, Observation.level, hcode, decide_eq_true h.shift, decide_eq_false h.alt,
    String.append_assoc]
  rfl

end Terminal.Report

end Shortcuts
