import Shortcuts.Proofs.Dispatch.Press

/-!
Typing cuts the chords that are heard into segments. A segment stays open as long as its chords
begin a binding, and closes with the binding that they mean or with none.
-/

namespace Shortcuts

/-- A chord, and what sequences mean at the time when it is heard. -/
structure Heard where
  chord : Chord
  means : List Chord → Option Match

/-- The segments that are closed, each with what it meant, and the one that is open. -/
structure Segments where
  closed : List (List Chord × Option ScopedBinding) := []
  current : List Chord := []

namespace Segments

/-- One step of the automaton: the open segment takes the chord and asks what it means now. -/
def take (s : Segments) : Option Heard → Segments × Option Match
  | none => (s, none)
  | some h =>
    let typed := s.current ++ [h.chord]
    match h.means typed with
    | some (.begun b) => ({ s with current := typed }, some (.begun b))
    | some (.full b) => (⟨s.closed ++ [(typed, some b)], []⟩, some (.full b))
    | none => (⟨s.closed ++ [(typed, none)], []⟩, none)

def takeAll (s : Segments) : List (Option Heard) → Segments × List (Option Match)
  | [] => (s, [])
  | h :: hs => (((s.take h).1.takeAll hs).1, (s.take h).2 :: ((s.take h).1.takeAll hs).2)

def chords (s : Segments) : List Chord := s.closed.flatMap Prod.fst ++ s.current

theorem take_some (s : Segments) (h : Heard) :
    (s.take (some h)).2 = h.means (s.current ++ [h.chord]) ∧
      (s.take (some h)).1.current = match h.means (s.current ++ [h.chord]) with
        | some (.begun _) => s.current ++ [h.chord]
        | _ => [] := by
  rcases hm : h.means (s.current ++ [h.chord]) with _ | (b | b) <;> simp [take, hm]

theorem chords_take (s : Segments) (h : Option Heard) :
    (s.take h).1.chords = s.chords ++ (h.map Heard.chord).toList := by
  cases h with
  | none => simp [take]
  | some h =>
      simp only [take]
      split <;> simp [chords]

theorem chords_takeAll (s : Segments) (hs : List (Option Heard)) :
    (s.takeAll hs).1.chords = s.chords ++ hs.flatMap fun h => (h.map Heard.chord).toList := by
  induction hs generalizing s with
  | nil => simp [takeAll]
  | cons h hs ih => rw [takeAll, ih, chords_take, List.flatMap_cons, List.append_assoc]

end Segments

namespace Workbench

/-- What the automaton is told of an event. -/
def hears (w : Workbench) (e : KeyEvent) : Option Heard :=
  if e.isIgnored then none
  else some ⟨e.chord.normalized, fun typed => ((w.heard e).findAt typed e.target).2⟩

def pressAll (w : Workbench) : List KeyEvent → Workbench × List (Option Match)
  | [] => (w, [])
  | e :: es => (((w.press e).1.pressAll es).1, (w.press e).2.2 :: ((w.press e).1.pressAll es).2)

def hearsAll (w : Workbench) : List KeyEvent → List (Option Heard)
  | [] => []
  | e :: es => w.hears e :: (w.press e).1.hearsAll es

theorem chords_hearsAll (w : Workbench) (es : List KeyEvent) :
    ((w.hearsAll es).flatMap fun h => (h.map Heard.chord).toList) =
      (es.filter (!·.isIgnored)).map (·.chord.normalized) := by
  induction es generalizing w with
  | nil => rfl
  | cons e es ih =>
      rw [hearsAll, List.flatMap_cons, ih, hears]
      cases h : e.isIgnored <;> simp [h]

/-- A press is a step of the automaton whose open segment is what was typed so far. -/
theorem press_take (w : Workbench) (e : KeyEvent) (s : Segments)
    (hs : s.current = w.dispatcher.pending) :
    (s.take (w.hears e)).2 = (w.press e).2.2 ∧
      (s.take (w.hears e)).1.current = (w.press e).1.dispatcher.pending := by
  cases h : e.isIgnored with
  | true =>
      rw [press_of_isIgnored w h, hears, if_pos h]
      exact ⟨rfl, hs⟩
  | false =>
      have hp := handles_press w h
      rw [hears, h, if_neg Bool.false_ne_true, hp.pending, hp.found, typedWith, ← hs]
      exact Segments.take_some s _

theorem pressAll_takeAll (w : Workbench) (es : List KeyEvent) (s : Segments)
    (hs : s.current = w.dispatcher.pending) :
    (s.takeAll (w.hearsAll es)).2 = (w.pressAll es).2 ∧
      (s.takeAll (w.hearsAll es)).1.current = (w.pressAll es).1.dispatcher.pending := by
  induction es generalizing w s with
  | nil => exact ⟨rfl, hs⟩
  | cons e es ih =>
      obtain ⟨hfound, hcurrent⟩ := press_take w e s hs
      obtain ⟨hlater, hlast⟩ := ih (w.press e).1 (s.take (w.hears e)).1 hcurrent
      exact ⟨by rw [hearsAll, Segments.takeAll, hfound, hlater, pressAll], hlast⟩

/-- Taking keys refines the segmenting automaton. An ignored event changes nothing; any other one
is handled as `Handles` says; and over every list of events the answers are those of the automaton,
which cuts the chords that are heard after every answer but one that begins a binding. -/
theorem press_refines_segments (w : Workbench) :
    (∀ e : KeyEvent, if e.isIgnored then w.press e = (w, e, none) else w.Handles e (w.press e)) ∧
      ∀ es : List KeyEvent,
        let cut := Segments.takeAll ⟨[], w.dispatcher.pending⟩ (w.hearsAll es)
        cut.2 = (w.pressAll es).2 ∧
          cut.1.current = (w.pressAll es).1.dispatcher.pending ∧
          cut.1.chords =
            w.dispatcher.pending ++ (es.filter (!·.isIgnored)).map (·.chord.normalized) := by
  constructor
  · intro e
    split
    · next h => exact press_of_isIgnored w h
    · next h => exact handles_press w (Bool.eq_false_iff.mpr h)
  · intro es
    obtain ⟨hfound, hcurrent⟩ := pressAll_takeAll w es ⟨[], w.dispatcher.pending⟩ rfl
    refine ⟨hfound, hcurrent, ?_⟩
    rw [Segments.chords_takeAll, chords_hearsAll]
    rfl

end Workbench

end Shortcuts
