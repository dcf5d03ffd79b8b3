import Shortcuts.Proofs.Layout.Choice

/-!
Whether a layout that the user chooses is the one in use from then on. It is, unless the user chose
one before that is the same but for its keys: then the call is taken for a repetition.
-/

namespace Shortcuts

namespace Detection

/-- The layout is the user's choice, and its keys are what detection answers. -/
structure Pins (d : Detection) (l : Layout) : Prop where
  source : d.source = .choice
  id : d.current.id = l.id
  native : d.current.native = l.native
  answer : d.refresh.current.native = l.native

/-- The user chose such a layout before, with other keys. -/
structure MistakesFor (d : Detection) (l : Layout) : Prop where
  source : d.source = .choice
  same : (d.current == l) = true
  native : d.current.native ≠ l.native

variable {d : Detection} {l : Layout}

theorem choose_of_same (hsource : d.source = .choice) (hsame : (d.current == l) = true) :
    d.choose l = (d, none) := by
  rw [choose, if_pos]
  rw [hsource, hsame]
  rfl

theorem choose_of_other (h : ¬ (d.source = .choice ∧ (d.current == l) = true)) :
    d.choose l = (d.use l .choice, some l.native) := by
  rw [choose, if_neg]
  rwa [Bool.and_eq_true, decide_eq_true_iff]

theorem pins_use (d : Detection) (l : Layout) : (d.use l .choice).Pins l := by
  have hsource : (d.use l .choice).source = .choice := by rw [use_eq]
  have hcurrent := d.current_use l .choice
  refine ⟨hsource, by rw [hcurrent], by rw [hcurrent], ?_⟩
  rw [refresh_of_choice hsource, hcurrent]

theorem pins_choose_iff (d : Detection) (l : Layout) :
    (d.choose l).1.Pins l ↔ ¬ d.MistakesFor l := by
  by_cases hsame : d.source = .choice ∧ (d.current == l) = true
  · obtain ⟨hsource, hsame⟩ := hsame
    rw [choose_of_same hsource hsame]
    constructor
    · exact fun hpins hmistaken => hmistaken.native hpins.native
    · intro hright
      have hnative : d.current.native = l.native :=
        not_not.mp fun hne => hright ⟨hsource, hsame, hne⟩
      refine ⟨hsource, Layout.id_eq_of_beq hsame, hnative, ?_⟩
      rw [refresh_of_choice hsource, hnative]
  · rw [choose_of_other hsame]
    exact iff_of_true (d.pins_use l) fun hmistaken => hsame ⟨hmistaken.source, hmistaken.same⟩

theorem source_choose (d : Detection) (l : Layout) : (d.choose l).1.source = .choice := by
  rw [choose]
  split
  · next h =>
      rw [Bool.and_eq_true, decide_eq_true_iff] at h
      exact h.1
  · rw [use_eq]

/-- Nothing but choosing a layout makes it the user's choice. -/
theorem source_of_apply {op : Operation} (hop : ∀ l, op ≠ .choose l)
    (h : (d.apply op).1.source = .choice) : d.source = .choice := by
  have hstep := d.step_apply op
  generalize (d.apply op).1 = d' at hstep h
  cases hstep with
  | idle | entered | counted | native | time => exact h
  | chosen l => exact absurd rfl (hop l)
  | selected op ops source hsearches hsource =>
      rw [use_eq] at h
      exact absurd h hsource

end Detection

namespace ActiveLayout

variable {s : ActiveLayout} {l : Layout}

/-- The layout is pinned, and chords are resolved on its keys. -/
structure Pinned (s : ActiveLayout) (l : Layout) : Prop where
  detection : s.detection.Pins l
  typing : s.typing = .ofNative l.native

/-- The layout is followed, and one that the user chose has been taken over. -/
structure IsSteady (s : ActiveLayout) : Prop where
  following : s.following = true
  inStep : s.detection.source = .choice → s.InStep

theorem isSteady_start (s : ActiveLayout) : s.start.IsSteady := ⟨rfl, fun _ => inStep_start s⟩

theorem apply_choose_of_same (hsource : s.detection.source = .choice)
    (hsame : (s.detection.current == l) = true) : s.apply (.detect (.choose l)) = s := by
  rw [apply, Detection.apply, Detection.choose_of_same hsource hsame]
  rfl

theorem apply_choose_of_other (hf : s.following = true)
    (h : ¬ (s.detection.source = .choice ∧ (s.detection.current == l) = true)) :
    s.apply (.detect (.choose l)) =
      { s with detection := s.detection.use l .choice, typing := .ofNative l.native } := by
  rw [apply, Detection.apply, Detection.choose_of_other h]
  simp [follow, adopt, hf]

theorem source_of_apply {op : Operation} (hop : ∀ l, op ≠ .detect (.choose l))
    (h : (s.apply op).detection.source = .choice) : s.detection.source = .choice := by
  rw [detection_apply] at h
  cases hdetection : op.detection? with
  | none =>
      rw [hdetection] at h
      exact h
  | some o =>
      rw [hdetection] at h
      refine Detection.source_of_apply (fun l hl => ?_) h
      subst hl
      cases op with
      | start => cases hdetection
      | press c =>
          obtain ⟨_, -, hnone⟩ := Option.map_eq_some_iff.mp hdetection
          cases hnone
      | detect op =>
          cases hdetection
          exact hop l rfl

theorem not_moves_of_choice (h : s.detection.source = .choice) (op : Operation) : ¬ s.Moves op := by
  cases op with
  | start | press => exact not_false
  | detect op =>
      cases op with
      | refresh => exact fun hmoves => hmoves (by rw [Detection.refresh_of_choice h])
      | _ => exact not_false

namespace IsSteady

theorem choose (h : s.IsSteady) (l : Layout) : (s.apply (.detect (.choose l))).IsSteady := by
  by_cases hsame : s.detection.source = .choice ∧ (s.detection.current == l) = true
  · rw [apply_choose_of_same hsame.1 hsame.2]
    exact h
  · rw [apply_choose_of_other h.following hsame]
    refine ⟨h.following, fun _ => ?_⟩
    rw [InStep, Detection.current_use]

theorem apply (h : s.IsSteady) (op : Operation) : (s.apply op).IsSteady := by
  by_cases hop : ∃ l, op = .detect (.choose l)
  · obtain ⟨l, rfl⟩ := hop
    exact h.choose l
  · refine ⟨following_apply h.following op, fun hsource => ?_⟩
    -- the choice is an older one, so the layout has been taken over before
    have hchosen := source_of_apply (not_exists.mp hop) hsource
    exact (inStep_apply h.following (h.inStep hchosen) op).mpr (not_moves_of_choice hchosen op)

end IsSteady

theorem isSteady_run_start (s : ActiveLayout) (ops : List Operation) : (s.start.run ops).IsSteady :=
  kept_foldl IsSteady (fun _ op h => h.apply op) (isSteady_start s) ops

theorem IsSteady.pinned_iff_pins (h : s.IsSteady) : s.Pinned l ↔ s.detection.Pins l := by
  refine ⟨Pinned.detection, fun hpins => ⟨hpins, ?_⟩⟩
  rw [h.inStep hpins.source, hpins.native]

theorem detection_choose (s : ActiveLayout) (l : Layout) :
    (s.apply (.detect (.choose l))).detection = (s.detection.choose l).1 :=
  detection_follow s _ _

/-- Whatever was done before, the layout that the user chooses is the one in use, also for chords,
exactly if it is not taken for one that the user chose before. It makes no difference whether
detection is followed before that or only afterwards. -/
theorem pinned_choose_iff (s : ActiveLayout) (ops : List Operation) (l : Layout) :
    ((s.apply (.detect (.choose l))).start.Pinned l ↔ ¬ s.detection.MistakesFor l) ∧
    (((s.start.run ops).apply (.detect (.choose l))).Pinned l ↔
      ¬ (s.start.run ops).detection.MistakesFor l) := by
  constructor
  · rw [(isSteady_start _).pinned_iff_pins]
    change (s.apply (.detect (.choose l))).detection.refresh.Pins l ↔ _
    rw [detection_choose, Detection.refresh_of_choice (s.detection.source_choose l)]
    exact s.detection.pins_choose_iff l
  · have hsteady := (isSteady_run_start s ops).choose l
    rw [hsteady.pinned_iff_pins, detection_choose]
    exact Detection.pins_choose_iff _ l

def custom (character : String) : Layout :=
  { name := "Custom", hardware := .pc, language := "xx"
    native := { keys := [("KeyA", { plain := character })] } }

/-- Of two layouts with one identifier the second is not taken over. Its key goes on producing the
character of the first. -/
theorem second_of_name_not_pinned :
    let s := unknownGerman.start.run
      [.detect (.choose (custom "b")), .detect (.choose (custom "c"))]
    (∀ c, Layout.ofId "xx-Custom-pc" (custom c).native = .ok (custom c)) ∧
      ¬ s.Pinned (custom "c") ∧ s.typing.character? "KeyA" = some "b" := by
  intro s
  have hkeys : s.detection.current.native ≠ (custom "c").native := by decide +kernel
  have htyping : s.typing.character? "KeyA" = some "b" := by decide +kernel
  exact ⟨fun c => rfl, fun h => hkeys h.detection.native, htyping⟩

end ActiveLayout

end Shortcuts
