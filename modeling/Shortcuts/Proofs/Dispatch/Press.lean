import Shortcuts.Proofs.Workbench.Beside

/-!
What comes of one key: it is heard, the chords typed so far are answered, and the answer is settled.
-/

namespace Shortcuts

/-- An event was dealt with, or composes a character, or has no key. -/
def KeyEvent.isIgnored (e : KeyEvent) : Bool :=
  e.prevented || e.composing || e.chord.isModifierOnly

/-- What is reported of typed chords that were found to mean something or nothing. -/
def MatchReport.of (typed : List Chord) : Option Match → MatchReport
  | some (.begun b) => .begun b typed
  | some (.full b) => .full b
  | none => .nothing typed

namespace Workbench

/-- The workbench when the key of an event was fed to detection. -/
def heard (w : Workbench) (e : KeyEvent) : Workbench := w.withLayout (w.layout.observe e.chord)

theorem upkeep_heard (w : Workbench) (e : KeyEvent) : w.Upkeep (w.heard e) :=
  upkeep_withLayout w _

/-- The chords typed so far with the one of an event. -/
def typedWith (w : Workbench) (e : KeyEvent) : List Chord :=
  w.dispatcher.pending ++ [e.chord.normalized]

/-- The binding whose flags an event takes on: one that is begun, or one that runs a known
command. -/
def flagging? (w : Workbench) : Option Match → Option Binding
  | none => none
  | some (.begun b) => some b.toBinding
  | some (.full b) =>
    if b.isPassthrough || !w.commands.isKnown b.command then none else some b.toBinding

/-- What comes of an event that is not ignored: the answer for all chords typed so far, the chords
that are kept, one report, and the flags of the event. -/
structure Handles (w : Workbench) (e : KeyEvent) (r : Workbench × KeyEvent × Option Match) :
    Prop where
  found : r.2.2 = ((w.heard e).findAt (w.typedWith e) e.target).2
  pending : r.1.dispatcher.pending = match r.2.2 with
    | some (.begun _) => w.typedWith e
    | _ => []
  reported : ∃ more, r.1.log = w.log ++ more ∧
    more.filterMap Event.report? = [.of (w.typedWith e) r.2.2]
  event : r.2.1 = { e with
    prevented := e.prevented ||
      (w.flagging? r.2.2).any fun b => b.preventDefault.getD w.dispatcher.preventDefault
    stopped := e.stopped ||
      (w.flagging? r.2.2).any fun b => b.stopPropagation.getD w.dispatcher.stopPropagation }

theorem press_of_isIgnored (w : Workbench) {e : KeyEvent} (h : e.isIgnored = true) :
    w.press e = (w, e, none) := by
  simp only [KeyEvent.isIgnored] at h
  simp only [press, h, if_true]

/-- What is left to do when the answer for typed chords was found. -/
def settle (w : Workbench) (typed : List Chord) (e : KeyEvent) :
    Option Match → Workbench × KeyEvent × Option Match
  | some (.begun b) =>
    ((w.withPending typed).note (.matched (.begun b typed)), w.dispatcher.mark b.toBinding e,
      some (.begun b))
  | some (.full b) =>
    ((((w.withPending []).perform b.toBinding e).1.note (.matched (.full b))),
      ((w.withPending []).perform b.toBinding e).2, some (.full b))
  | none => ((w.withPending []).note (.matched (.nothing typed)), e, none)

theorem press_of_not_isIgnored (w : Workbench) {e : KeyEvent} (h : e.isIgnored = false) :
    w.press e = ((w.heard e).findAt (w.typedWith e) e.target).1.settle (w.typedWith e) e
      ((w.heard e).findAt (w.typedWith e) e.target).2 := by
  have hpending : (w.heard e).dispatcher.pending = w.dispatcher.pending := by
    rw [(upkeep_heard w e).dispatcher]
  simp only [KeyEvent.isIgnored] at h
  simp only [press, h, Bool.false_eq_true, if_false, typedWith, ← hpending]
  rcases hr : (w.heard e).findAt ((w.heard e).dispatcher.pending ++ [e.chord.normalized]) e.target
    with ⟨v, found⟩
  rw [heard] at hr
  rw [hr]
  rcases found with _ | (b | b) <;> rfl

theorem Upkeep.mark_eq {w v : Workbench} (h : w.Upkeep v) (b : Binding) (e : KeyEvent) :
    v.dispatcher.mark b e = w.dispatcher.mark b e := by
  rw [h.dispatcher]
  rfl

theorem Upkeep.flagging?_eq {w v : Workbench} (h : w.Upkeep v) (found : Option Match) :
    v.flagging? found = w.flagging? found := by
  rcases found with _ | (b | b) <;> simp only [flagging?, h.commands]

theorem perform_spec (w : Workbench) (b : ScopedBinding) (e : KeyEvent) :
    w.Beside (w.perform b.toBinding e).1 ∧ (w.perform b.toBinding e).2 =
      ((w.flagging? (some (.full b))).map fun b => w.dispatcher.mark b e).getD e := by
  simp only [perform, flagging?]
  split
  · exact ⟨.refl w, rfl⟩
  · have hrun : w.Beside (if w.commands.isEnabled b.command b.args then
        (w.execute b.command b.args).1 else w) := by
      split
      · exact beside_execute w _ _
      · exact .refl w
    exact ⟨hrun, hrun.mark_eq b.toBinding e⟩

theorem settle_spec (w : Workbench) (typed : List Chord) (e : KeyEvent) (found : Option Match) :
    (w.settle typed e found).2.2 = found ∧
      ((w.settle typed e found).1.dispatcher.pending = match found with
        | some (.begun _) => typed
        | _ => []) ∧
      (∃ more, (w.settle typed e found).1.log = w.log ++ more ∧
        more.filterMap Event.report? = [.of typed found]) ∧
      (w.settle typed e found).2.1 =
        ((w.flagging? found).map fun b => w.dispatcher.mark b e).getD e := by
  rcases found with _ | (b | b)
  · exact ⟨rfl, rfl, ⟨[_], rfl, rfl⟩, rfl⟩
  · obtain ⟨hbeside, hevent⟩ := perform_spec (w.withPending []) b e
    obtain ⟨more, hlog, hmore⟩ := hbeside.log
    refine ⟨rfl, ?_, ⟨more ++ [.matched (.full b)], ?_, ?_⟩, hevent⟩
    · simp only [settle, note]
      rw [hbeside.dispatcher]
      rfl
    · simp only [settle, note, hlog, List.append_assoc]
      rfl
    · rw [List.filterMap_append, hmore]
      rfl
  · exact ⟨rfl, rfl, ⟨[_], rfl, rfl⟩, rfl⟩

theorem mark_getD_eq (d : Dispatcher) (b : Option Binding) (e : KeyEvent) :
    (b.map fun b => d.mark b e).getD e = { e with
      prevented := e.prevented || b.any fun b => b.preventDefault.getD d.preventDefault
      stopped := e.stopped || b.any fun b => b.stopPropagation.getD d.stopPropagation } := by
  cases b <;> simp [Dispatcher.mark]

theorem handles_press (w : Workbench) {e : KeyEvent} (h : e.isIgnored = false) :
    w.Handles e (w.press e) := by
  have hup : w.Upkeep ((w.heard e).findAt (w.typedWith e) e.target).1 :=
    (upkeep_heard w e).trans (upkeep_findAt _ _ _)
  rw [press_of_not_isIgnored w h]
  generalize hv : ((w.heard e).findAt (w.typedWith e) e.target).1 = v at hup ⊢
  generalize hf : ((w.heard e).findAt (w.typedWith e) e.target).2 = found
  obtain ⟨hfound, hpending, ⟨more, hlog, hmore⟩, hevent⟩ := settle_spec v (w.typedWith e) e found
  obtain ⟨before, hbefore, hquiet⟩ := hup.log
  refine ⟨?_, ?_, ⟨before ++ more, ?_, ?_⟩, ?_⟩
  · rw [hfound, hf]
  · rw [hpending, hfound]
  · rw [hlog, hbefore, List.append_assoc]
  · rw [List.filterMap_append, hquiet, hmore, hfound, List.nil_append]
  · rw [hevent, hfound, hup.flagging?_eq]
    simp only [hup.mark_eq]
    exact mark_getD_eq w.dispatcher _ e

/-- What holds of a workbench whatever taking keys does to it. -/
structure Lasting (P : Workbench → Prop) : Prop where
  beside : ∀ {w w' : Workbench}, w.Beside w' → P w → P w'
  note : ∀ {w : Workbench} (x : Event), P w → P (w.note x)
  withPending : ∀ {w : Workbench} (typed : List Chord), P w → P (w.withPending typed)
  resolved : ∀ {w : Workbench}, P w → P w.resolved
  heard : ∀ {w : Workbench} (e : KeyEvent), P w → P (w.heard e)

section Lasting

variable {P : Workbench → Prop} (hP : Lasting P) {w : Workbench}

include hP

theorem Lasting.settle (typed : List Chord) (e : KeyEvent) (found : Option Match) (h : P w) :
    P (w.settle typed e found).1 := by
  rcases found with _ | (b | b)
  · exact hP.note _ (hP.withPending [] h)
  · exact hP.note _ (hP.beside (perform_spec _ b e).1 (hP.withPending [] h))
  · exact hP.note _ (hP.withPending typed h)

theorem Lasting.press (e : KeyEvent) (h : P w) : P (w.press e).1 := by
  cases hi : e.isIgnored with
  | true => rwa [press_of_isIgnored w hi]
  | false =>
      rw [press_of_not_isIgnored w hi]
      have hresolved : P (w.heard e).resolved := hP.resolved (hP.heard e h)
      exact hP.settle _ _ _ (hP.beside (beside_findAt _ _ _) hresolved)

theorem Lasting.typeCommand (command : String) (target : Option ElementId) (h : P w) :
    P (w.typeCommand command target).1 := by
  rw [Workbench.typeCommand]
  split
  · exact h
  · exact List.foldlRecOn (motive := P) _ _ h fun _ hv _ _ => hP.press _ hv

end Lasting

end Workbench

end Shortcuts
