import Shortcuts.Proofs.Dispatch.Press
import Shortcuts.Proofs.Layout.Choice
import Shortcuts.Proofs.Layout.Reports
import Shortcuts.Proofs.Layout.Selecting
import Shortcuts.Proofs.Workbench.Operation

/-!
Whether the US layout keeps the lead while a terminal reports keys. It does as long as no digit is
reported with Shift that gives a French candidate one more point, or that contradicts what was seen
before.
-/

namespace Shortcuts

/-! ### A layout in the lead -/

namespace Scores

variable {s : Scores} {o : Observation} {l : Layout}

/-- No candidate has more points than the layout. -/
def Leads (s : Scores) (l : Layout) : Prop := ∃ n, (l, n) ∈ s.entries ∧ ∀ e ∈ s.entries, e.2 ≤ n

/-- Only the first layout explains the observation. It is a point that puts it ahead of the second,
or contradicts what was seen before and is the first point from then on. -/
def Overtakes (s : Scores) (l' l : Layout) (o : Observation) : Prop :=
  o.isExplainedBy l' = true ∧ o.isExplainedBy l = false ∧
    ((s.seen.lookup o.place = none ∧ s.evidence l ≤ s.evidence l') ∨
      ∃ c, s.seen.lookup o.place = some c ∧ c ≠ o.character)

theorem IsTally.mem_entries_iff (hs : s.IsTally) (hroom : s.HasRoom) {n : Nat} :
    (l, n) ∈ s.entries ↔ l ∈ s.candidates ∧ n = s.evidence l := by
  constructor
  · exact fun h => ⟨List.mem_map_of_mem h, hs.score_eq hroom h⟩
  · rintro ⟨hl, rfl⟩
    obtain ⟨e, he, rfl⟩ := List.mem_map.mp hl
    rw [← hs.score_eq hroom he]
    exact he

theorem IsTally.leads_iff (hs : s.IsTally) (hroom : s.HasRoom) (hl : l ∈ s.candidates) :
    s.Leads l ↔ ∀ l' ∈ s.candidates, s.evidence l' ≤ s.evidence l := by
  constructor
  · rintro ⟨n, hn, hle⟩ l' hl'
    obtain ⟨-, rfl⟩ := (hs.mem_entries_iff hroom).mp hn
    exact hle _ ((hs.mem_entries_iff hroom).mpr ⟨hl', rfl⟩)
  · refine fun hle => ⟨_, (hs.mem_entries_iff hroom).mpr ⟨hl, rfl⟩, fun e he => ?_⟩
    obtain ⟨he, hcount⟩ := (hs.mem_entries_iff (l := e.1) (n := e.2) hroom).mp he
    rw [hcount]
    exact hle e.1 he

theorem evidence_observe_le_iff {l' : Layout} (hle : s.evidence l' ≤ s.evidence l) :
    (s.observe o).1.evidence l' ≤ (s.observe o).1.evidence l ↔ ¬ s.Overtakes l' l o := by
  rw [Overtakes]
  cases hseen : s.seen.lookup o.place with
  | none =>
      rw [observe_of_not_noted hseen, evidence_record hseen, evidence_record hseen]
      cases o.isExplainedBy l' <;> cases o.isExplainedBy l <;> simp <;> omega
  | some c =>
      by_cases hc : c = o.character
      · rw [observe_of_noted (hc ▸ hseen)]
        simpa [hc] using hle
      · -- everything starts over, so the new point is all there is
        rw [observe_of_contradicted hseen hc, observe_of_not_noted rfl, evidence_record rfl,
          evidence_record rfl]
        have hzero (l : Layout) : (ofLayouts s.candidates).evidence l = 0 := rfl
        rw [hzero, hzero]
        cases o.isExplainedBy l' <;> cases o.isExplainedBy l <;> simp [hc]

/-- A layout that leads goes on leading exactly if no candidate overtakes it. -/
theorem IsTally.leads_observe_iff (hs : s.IsTally) (hroom : s.HasRoom)
    (hroom' : (s.observe o).1.HasRoom) (hl : l ∈ s.candidates) (hleads : s.Leads l) :
    (s.observe o).1.Leads l ↔ ∀ l' ∈ s.candidates, ¬ s.Overtakes l' l o := by
  have hl' : l ∈ (s.observe o).1.candidates := by rwa [candidates_observe]
  rw [(hs.observe o).leads_iff hroom' hl', candidates_observe]
  rw [hs.leads_iff hroom hl] at hleads
  exact forall₂_congr fun l' hl' => evidence_observe_le_iff (hleads l' hl')

end Scores

/-! ### Built-in layouts told by pressed keys -/

namespace Detection

variable {d d' : Detection}

/-- Pressed keys tell which of built-in layouts it is, the US layout among them. -/
structure TellsBuiltin (d : Detection) : Prop where
  source : d.source = .pressedKeys
  tally : d.scores.IsTally
  builtin : d.OffersBuiltin
  us : BuiltinLayout.usPc.layout ∈ d.candidates

namespace TellsBuiltin

theorem hasRoom (h : d.TellsBuiltin) : d.scores.HasRoom := by
  refine h.tally.hasRoom fun l hl => ?_
  obtain ⟨b, rfl⟩ := h.builtin l hl
  rw [b.native_layout]
  exact b.length_native_lt

theorem observe (h : d.TellsBuiltin) (o : Observation) : (d.observe o).1.TellsBuiltin := by
  obtain ⟨hscores, hsource⟩ := observe_scores h.source o
  refine ⟨hsource, hscores ▸ h.tally.observe o, fun l hl => ?_, ?_⟩
  · rw [candidates_observe] at hl
    exact h.builtin l hl
  · rw [candidates_observe]
    exact h.us

end TellsBuiltin

end Detection

/-! ### Reports taken by a workbench -/

namespace Workbench

variable {w : Workbench} {r : Terminal.Report}

/-- Takes a report of the terminal, at the element with the focus. -/
def takeReport (w : Workbench) (r : Terminal.Report) : Workbench :=
  match r.event? with
  | some e => (w.press (w.focusedEvent e)).1
  | none => w

theorem layout_heard (w : Workbench) (e : KeyEvent) :
    (w.heard e).layout = (w.layout.observe e.chord).1 := by
  rw [heard, withLayout]
  split <;> rfl

theorem layout_settle (w : Workbench) (typed : List Chord) (e : KeyEvent) (found : Option Match) :
    (w.settle typed e found).1.layout = w.layout := by
  rcases found with _ | (b | b)
  · rfl
  · exact (perform_spec (w.withPending []) b e).1.layout
  · rfl

/-- Taking a key does nothing to the layout but feeding the key to detection. -/
theorem layout_press (w : Workbench) {e : KeyEvent} (hprevented : e.prevented = false)
    (hcomposing : e.composing = false) :
    (w.press e).1.layout = (w.layout.observe e.chord).1 := by
  cases hi : e.isIgnored with
  | true =>
      have hkey : e.chord.key = none := by
        simpa [KeyEvent.isIgnored, hprevented, hcomposing, Chord.isModifierOnly] using hi
      have hnothing : ActiveLayout.observationOf? e.chord = none := by
        rw [ActiveLayout.observationOf?, hkey]
      rw [press_of_isIgnored w hi, ActiveLayout.observe, hnothing]
  | false =>
      rw [press_of_not_isIgnored w hi, layout_settle, (beside_findAt _ _ _).layout]
      exact layout_heard w e

theorem detection_takeReport (w : Workbench) (r : Terminal.Report) :
    (w.takeReport r).layout.detection =
      w.layout.detection.run (r.observation?.map .observe).toList := by
  rw [takeReport, Terminal.Report.observation?]
  cases he : r.event? with
  | none => rfl
  | some e =>
      have hgives := Terminal.Report.gives_event he
      dsimp only
      rw [layout_press w (e := w.focusedEvent e) hgives.prevented hgives.composing]
      exact ActiveLayout.detection_apply w.layout (.press e.chord)

theorem tellsBuiltin_takeReport (h : w.layout.detection.TellsBuiltin) (r : Terminal.Report) :
    (w.takeReport r).layout.detection.TellsBuiltin := by
  rw [detection_takeReport]
  cases r.observation? with
  | none => exact h
  | some o => exact h.observe o

def UsLeads (w : Workbench) : Prop :=
  w.layout.detection.scores.Leads BuiltinLayout.usPc.layout

/-- The report of a digit with Shift puts a French candidate ahead of the US layout: it had as many
points and the key was not seen with Shift before, or it was seen to type something else, and the
scores start over. -/
def Overturns (w : Workbench) (r : Terminal.Report) : Prop :=
  let s := w.layout.detection.scores
  ∃ c, r.ShiftsDigit c ∧ ∃ b : BuiltinLayout, b.isFrench = true ∧
    ∃ n m, (b.layout, n) ∈ s.entries ∧ (BuiltinLayout.usPc.layout, m) ∈ s.entries ∧
      (s.seen.lookup (Terminal.Report.shiftedPlace c) = none ∧ m ≤ n ∨
        ∃ c', s.seen.lookup (Terminal.Report.shiftedPlace c) = some c' ∧ c' ≠ c.toString)

theorem overturns_iff (h : w.layout.detection.TellsBuiltin) :
    w.Overturns r ↔ ∃ o, r.observation? = some o ∧ ∃ l ∈ w.layout.detection.candidates,
      w.layout.detection.scores.Overtakes l BuiltinLayout.usPc.layout o := by
  have hentry {l : Layout} {n : Nat} := h.tally.mem_entries_iff (l := l) (n := n) h.hasRoom
  constructor
  · rintro ⟨c, hc, b, hfrench, n, m, hn, hm, hcase⟩
    obtain ⟨o, ho, hplace, hcharacter⟩ := r.observation?_of_shiftsDigit hc
    obtain ⟨hl, rfl⟩ := hentry.mp hn
    obtain ⟨-, rfl⟩ := hentry.mp hm
    obtain ⟨hexplained, hnot⟩ := (r.sets_apart_iff ho b).mpr ⟨hfrench, c, hc⟩
    rw [← hplace, ← hcharacter] at hcase
    exact ⟨o, ho, b.layout, hl, hexplained, hnot, hcase⟩
  · rintro ⟨o, ho, l, hl, hexplained, hnot, hcase⟩
    obtain ⟨b, rfl⟩ := h.builtin l hl
    obtain ⟨hfrench, c, hc⟩ := (r.sets_apart_iff ho b).mp ⟨hexplained, hnot⟩
    obtain ⟨o', ho', hplace, hcharacter⟩ := r.observation?_of_shiftsDigit hc
    cases ho.symm.trans ho'
    rw [hplace, hcharacter] at hcase
    exact ⟨c, hc, b, hfrench, _, _, hentry.mpr ⟨hl, rfl⟩, hentry.mpr ⟨h.us, rfl⟩, hcase⟩

theorem usLeads_takeReport_iff (h : w.layout.detection.TellsBuiltin) (hleads : w.UsLeads) :
    (w.takeReport r).UsLeads ↔ ¬ w.Overturns r := by
  rw [UsLeads, detection_takeReport, overturns_iff h]
  cases r.observation? with
  | none => exact iff_of_true hleads (by simp)
  | some o =>
      obtain ⟨hscores, -⟩ := Detection.observe_scores h.source o
      have hroom := (h.observe o).hasRoom
      change (w.layout.detection.observe o).1.scores.Leads _ ↔ _
      rw [hscores] at hroom ⊢
      rw [h.tally.leads_observe_iff h.hasRoom hroom h.us hleads]
      simp [Detection.candidates]

end Workbench

/-! ### The start -/

namespace Detection

variable {d d' : Detection}

/-- Layouts were made candidates, and nothing else was done. -/
structure IsBlank (d : Detection) : Prop where
  native : d.native = none
  source : d.source = .pressedKeys
  scores : d.scores = .ofLayouts d.candidates
  builtin : d.OffersBuiltin
  us : BuiltinLayout.usPc.layout ∈ d.candidates

namespace IsBlank

theorem addBuiltin (h : d.IsBlank) {id : String} (hadd : d.addBuiltin id = .ok d') :
    d'.IsBlank := by
  have hstep := d.step_addBuiltin id
  rw [apply, hadd] at hstep
  dsimp only at hstep
  cases hstep with
  | idle => exact h
  | entered op l hadded =>
      obtain ⟨b, -, rfl⟩ := Option.map_eq_some_iff.mp hadded
      refine ⟨h.native, h.source, by rw [candidates_entering]; rfl, fun l hl => ?_, ?_⟩
      · rw [candidates_entering] at hl
        rcases List.mem_append.mp hl with hl | hl
        · exact h.builtin l hl
        · exact ⟨b, List.mem_singleton.mp hl⟩
      · rw [candidates_entering]
        exact List.mem_append_left _ h.us
  | selected op ops source hsearches => exact hsearches.elim

theorem addCandidates (h : d.IsBlank) {ids : List String}
    (hadd : Workbench.addCandidates d ids = .ok d') : d'.IsBlank := by
  induction ids generalizing d with
  | nil =>
      cases hadd
      exact h
  | cons id ids ih =>
      obtain ⟨e, he, hadd⟩ := of_bind_eq_ok hadd
      exact ih (h.addBuiltin he) hadd

theorem refresh_eq (h : d.IsBlank) : d.refresh = d.use d.select .pressedKeys := by
  rw [refresh, if_neg (by rw [h.source]; decide), autodetect, h.native]

theorem tellsBuiltin_refresh (h : d.IsBlank) : d.refresh.TellsBuiltin := by
  rw [h.refresh_eq, use_eq]
  refine ⟨rfl, ?_, h.builtin, h.us⟩
  rw [h.scores]
  exact Scores.isTally_ofLayouts _

theorem leads_refresh (h : d.IsBlank) : d.refresh.scores.Leads BuiltinLayout.usPc.layout := by
  have htells := h.tellsBuiltin_refresh
  rw [htells.tally.leads_iff htells.hasRoom htells.us]
  intro l _
  have hseen : d.refresh.scores.seen = [] := by
    rw [h.refresh_eq, use_eq, h.scores]
    rfl
  rw [Scores.evidence, Scores.evidence, hseen]
  exact Nat.le_refl 0

end IsBlank

theorem isBlank_fresh (platform : Platform) (locale : Option String) (storage : Option Storage) :
    (fresh platform locale none storage).IsBlank := by
  refine ⟨rfl, rfl, ?_, offersBuiltin_fresh _ _ _ _, ?_⟩
  · rw [candidates, fresh, Scores.candidates_ofLayouts]
  · rw [candidates, fresh, Scores.candidates_ofLayouts]
    exact List.mem_cons_self

end Detection

namespace Workbench

variable {w : Workbench} {r : Terminal.Report}

theorem exists_blank_of_ofPreferences {p : Preferences} {env : Locale.Environment}
    {storage : Option Storage} (h : ofPreferences p env storage = .ok w)
    (hchoice : p.layout.choice = none)
    (hstored : (Detection.fresh p.effectivePlatform (p.effectiveLocale env) none storage).stored? =
      none) : ∃ d : Detection, d.IsBlank ∧ w.layout.detection = d.refresh := by
  obtain ⟨d, d', hd, hd', hw⟩ := ofPreferences_eq h
  rw [Detection.start_eq, hstored] at hd
  rw [hchoice] at hd'
  cases hd'
  refine ⟨d, (Detection.isBlank_fresh _ _ _).addCandidates hd, ?_⟩
  rw [hw]
  rfl

/-- However a workbench was set up without a stored record and a chosen layout, and whatever is
bound: while a terminal reports keys no candidate has more points than the US layout, exactly if no
digit is reported with Shift at a time when that overturns the lead. -/
theorem usLeads_throughout_iff {p : Preferences} {env : Locale.Environment}
    {storage : Option Storage} {w₀ : Workbench} (h : ofPreferences p env storage = .ok w₀)
    (hchoice : p.layout.choice = none)
    (hstored : (Detection.fresh p.effectivePlatform (p.effectiveLocale env) none storage).stored? =
      none) (hw : w.layout = w₀.layout) (rs : List Terminal.Report) :
    (∀ before, before <+: rs → (before.foldl takeReport w).UsLeads) ↔
      ∀ before r, before ++ [r] <+: rs → ¬ (before.foldl takeReport w).Overturns r := by
  obtain ⟨d, hd, hdetection⟩ := exists_blank_of_ofPreferences h hchoice hstored
  rw [← hw] at hdetection
  refine good_throughout_iff takeReport (fun w => w.layout.detection.TellsBuiltin) UsLeads
    Overturns (fun _ r h => tellsBuiltin_takeReport h r)
    (fun _ r h hleads => usLeads_takeReport_iff h hleads) ?_ ?_ rs
  · rw [hdetection]
    exact hd.tellsBuiltin_refresh
  · rw [UsLeads, hdetection]
    exact hd.leads_refresh

/-- A US keyboard with the French layout among the candidates. -/
def bilingual : Preferences :=
  { platform := some .pc, locale := some "en-US", layout := { candidates := ["fr-French-pc"] } }

def bilingualBench : Workbench :=
  match ofPreferences bilingual {} none with
  | .ok w => w
  | .error _ => default

theorem ofPreferences_bilingual : ofPreferences bilingual {} none = .ok bilingualBench := by
  rfl

def two : Terminal.Report := { key := .character '2' }

def shiftedTwo : Terminal.Report := { two with flags := [.shift] }

theorem usLeads_throughout_two :
    ofPreferences bilingual {} none = .ok bilingualBench ∧ bilingual.layout.choice = none ∧
      (Detection.fresh .pc (some "en-US") none none).stored? = none ∧
      ∀ before, before <+: [two] → (before.foldl takeReport bilingualBench).UsLeads := by
  refine ⟨ofPreferences_bilingual, rfl, rfl, ?_⟩
  refine (usLeads_throughout_iff ofPreferences_bilingual rfl rfl rfl [two]).mpr ?_
  rintro before r hpart ⟨c, hc, -⟩
  have hr : r = two := List.mem_singleton.mp
    (hpart.subset (List.mem_append_right before (List.mem_singleton_self r)))
  rw [hr] at hc
  cases hc.shift

/-- Reported with Shift the digit is a point for the French layout alone. -/
theorem french_ahead_of_us :
    ofPreferences bilingual {} none = .ok bilingualBench ∧ bilingual.layout.choice = none ∧
      (Detection.fresh .pc (some "en-US") none none).stored? = none ∧
      ¬ (bilingualBench.takeReport shiftedTwo).UsLeads := by
  obtain ⟨d, hd, hdetection⟩ := exists_blank_of_ofPreferences ofPreferences_bilingual rfl rfl
  have htells := hd.tellsBuiltin_refresh
  have hleads := hd.leads_refresh
  rw [← hdetection] at htells hleads
  have hscores : bilingualBench.layout.detection.scores = .ofLayouts
      [BuiltinLayout.usPc.layout, BuiltinLayout.usMac.layout, BuiltinLayout.frenchPc.layout] := rfl
  refine ⟨ofPreferences_bilingual, rfl, rfl, fun hstill => ?_⟩
  refine (usLeads_takeReport_iff htells hleads).mp hstill ?_
  refine ⟨'2', ⟨rfl, rfl, by decide, by decide, by decide⟩, .frenchPc, rfl, 0, 0, ?_⟩
  rw [hscores]
  exact ⟨by simp [Scores.ofLayouts], by simp [Scores.ofLayouts], .inl ⟨rfl, Nat.le_refl 0⟩⟩

end Workbench

end Shortcuts
