import Shortcuts.Proofs.Dispatch.Filing
import Shortcuts.Proofs.Dispatch.Unbinding

/-!
What a new binding changes. It stands somewhere among the others and silences none of them, so the
answer to typed chords is as before or the new binding; without a collision it cannot take the place
of another one.
-/

namespace Shortcuts

namespace Match

variable {enabled active : Binding → Bool}

theorem silences?_of_not_marker {x : Match} (h : x.binding.toBinding.isMarker = false) :
    silences? enabled x = none := by
  have htarget : x.binding.toBinding.target? = none := by
    rwa [Binding.isMarker, Option.isSome_eq_false_iff, Option.isNone_iff_eq_none] at h
  rw [silences?, htarget, ite_self]

/-- One more match that is no marker is the answer or makes no difference. -/
theorem first?_insert {x : Match} (h : x.binding.toBinding.isMarker = false)
    (off : List Binding.Signature) (left right : List Match) :
    (first? enabled active off (left ++ x :: right)).map Prod.fst =
        (first? enabled active off (left ++ right)).map Prod.fst ∨
      (first? enabled active off (left ++ x :: right)).map Prod.fst = some x := by
  induction left generalizing off with
  | nil =>
      rw [List.nil_append, List.nil_append, first?_cons]
      split
      · exact .inr rfl
      · rw [silences?_of_not_marker h]
        exact .inl rfl
  | cons m left ih =>
      rw [List.cons_append, List.cons_append, first?_cons, first?_cons]
      split
      · exact .inl rfl
      · exact ih _

end Match

namespace Workbench

variable {w : Workbench} {typed q : List Chord}

/-- With one more binding the answer to typed chords is as before or that binding, which they begin
then. -/
theorem findAt_insert_cases (w : Workbench) (t : Scope) {b : Binding} {q : List Chord}
    (hb : b.isMarker = false) (hq : w.resolve? b = some q) (typed : List Chord)
    (target : Option ElementId) :
    ((w.insert t b).1.findAt typed target).2 = (w.findAt typed target).2 ∨
      Chord.strokes typed <+: Chord.strokes q ∧
        (((w.insert t b).1.findAt typed target).2 = some (.begun ⟨b, t⟩) ∨
          ((w.insert t b).1.findAt typed target).2 = some (.full ⟨b, t⟩) ∧
            Chord.strokes typed = Chord.strokes q) := by
  let e : Keymap.Entry := ⟨w.dispatcher.keymap.next, b, some q⟩
  have hinsert : (w.insert t b).1 = w.withKeymap (w.dispatcher.keymap.insert t b (some q)).1 := by
    rw [insert, hq]
    rfl
  obtain ⟨before, behind, hadds⟩ := Keymap.adds_insert w.dispatcher.keymap t b (some q)
  obtain ⟨left, right, hold, hnew⟩ := hadds.scan
  have hfound : ((w.insert t b).1.findAt typed target).2 =
      (Match.first? (w.isEnabled · target) w.isActive []
        ((left ++ (t, e) :: right).filterMap (w.means typed))).map Prod.fst := by
    rw [findAt_eq, hinsert, ← hnew]
    rfl
  rw [hfound, findAt_eq, hold, List.filterMap_append, List.filterMap_append]
  cases hmeans : w.means typed (t, e) with
  | none =>
      rw [List.filterMap_cons_none hmeans]
      exact .inl rfl
  | some x =>
      obtain ⟨⟨chords, hchords, htyped⟩, hanswers⟩ := (means_eq_some_iff w typed t e x).mp hmeans
      obtain rfl : q = chords := Option.some.inj hchords
      have hx : x.binding.toBinding.isMarker = false := by
        rw [hanswers.binding_eq]
        exact hb
      rw [List.filterMap_cons_some hmeans]
      rcases Match.first?_insert hx [] (left.filterMap (w.means typed))
        (right.filterMap (w.means typed)) with hsame | hnew
      · exact .inl hsame
      · refine .inr ⟨htyped, ?_⟩
        rw [hnew]
        rcases hanswers with ⟨rfl, chords, hchords, hsame⟩ | ⟨rfl, -⟩
        · obtain rfl : q = chords := Option.some.inj hchords
          exact .inr ⟨rfl, hsame⟩
        · exact .inl rfl

/-- The collision detector misses nothing. If no tier has a collision with the chords of a binding
that is no marker, then wherever it is inserted, chords that were answered in full still are, with
the same binding, chords that began one still do, and chords that meant nothing still mean nothing
unless they begin those of the new binding. -/
theorem findAt_insert_of_isEmpty (w : Workbench) (t : Scope) (b : Binding) (q : List Chord)
    (hb : b.isMarker = false) (hq : w.resolve? b = some q)
    (hclear : ∀ s, (w.collisions s q).2.isEmpty = true) (typed : List Chord)
    (target : Option ElementId) :
    let new := ((w.insert t b).1.findAt typed target).2
    (∀ a, (w.findAt typed target).2 = some (.full a) → new = some (.full a)) ∧
      (∀ a, (w.findAt typed target).2 = some (.begun a) → ∃ a', new = some (.begun a')) ∧
        ((w.findAt typed target).2 = none →
          ¬ Chord.strokes typed <+: Chord.strokes q → new = none) := by
  have hparts {i : Nat} {s : Scope} {e : Keymap.Entry} {chords : List Chord}
      (hd : w.Decides typed target i s e) (hchords : w.chordsOf e = some chords) :=
    (Chord.compare_eq_apart_iff q chords).mp <| (collisions_isEmpty_iff w s q).mp (hclear s) e
      (Keymap.mem_tier_of_scan hd.place) hd.not_marker chords hchords
  intro new
  rcases findAt_insert_cases w t hb hq typed target with hsame | ⟨htyped, hnew⟩
  · exact ⟨fun a hold => hsame.trans hold, fun a hold => ⟨a, hsame.trans hold⟩,
      fun hold _ => hsame.trans hold⟩
  · refine ⟨fun a hold => ?_, fun a hold => ?_, fun _ hapart => absurd htyped hapart⟩
    · obtain ⟨i, s, e, hd, ⟨-, chords, hchords, hall⟩ | ⟨hother, -⟩⟩ :=
        (findAt_eq_some_iff w typed target _).mp hold
      · exact absurd (hall ▸ htyped) (hparts hd hchords).2
      · cases hother
    · rcases hnew with hnew | ⟨-, hall⟩
      · exact ⟨_, hnew⟩
      · obtain ⟨i, s, e, hd, -⟩ := (findAt_eq_some_iff w typed target _).mp hold
        obtain ⟨chords, hchords, hbegins⟩ := hd.begins
        exact absurd (hall ▸ hbegins) (hparts hd hchords).1

def saving : Workbench :=
  unstarted.run [.bind saveKey, .serve unstarted.contexts
    (unstarted.commands.addHandler "save" { action := .routine { name := "save" } }).1]

def saveChord : Chord := { ctrl := true, key := Key.ofCode? "KeyS" }

def openKey : Binding := { command := "open", keys := "ctrl+o" }

def openChord : Chord := { ctrl := true, key := Key.ofCode? "KeyO" }

/-- Wherever another key is bound, the only key of a command still runs it. -/
theorem findAt_insert_of_isEmpty_open : openKey.isMarker = false ∧
    saving.resolve? openKey = some [openChord] ∧
      (∀ s, (saving.collisions s [openChord]).2.isEmpty = true) ∧
        (saving.findAt [saveChord] none).2 = some (.full ⟨saveKey, .base⟩) ∧
          ∀ t, ((saving.insert t openKey).1.findAt [saveChord] none).2 =
            some (.full ⟨saveKey, .base⟩) := by
  have hmarker : openKey.isMarker = false := by decide
  have hresolve : saving.resolve? openKey = some [openChord] := rfl
  have hclear : ∀ s, (saving.collisions s [openChord]).2.isEmpty = true := by
    intro s
    cases s <;> rfl
  have hold : (saving.findAt [saveChord] none).2 = some (.full ⟨saveKey, .base⟩) := rfl
  exact ⟨hmarker, hresolve, hclear, hold, fun t =>
    (findAt_insert_of_isEmpty saving t openKey [openChord] hmarker hresolve hclear [saveChord]
      none).1 _ hold⟩

end Workbench

end Shortcuts
