import Shortcuts.Layout.Active
import Shortcuts.Proofs.Layout.Operation
import Shortcuts.Proofs.Run

/-!
Whether the keys that chords are resolved on are those of the layout that detection has selected.
What detection announces is taken over at once. A layout that it finds when it is only asked for
one is not announced.
-/

namespace Shortcuts.ActiveLayout

inductive Operation where
  /-- The layout is taken from detection and followed from now on. -/
  | start
  /-- A pressed chord is fed to detection. -/
  | press (c : Chord)
  /-- Something is done to detection. -/
  | detect (op : Detection.Operation)

def apply (s : ActiveLayout) : Operation → ActiveLayout
  | .start => s.start
  | .press c => (s.observe c).1
  | .detect op => (s.follow (s.detection.apply op).1 (s.detection.apply op).2).1

def run (s : ActiveLayout) (ops : List Operation) : ActiveLayout := ops.foldl apply s

/-- The keys in use are those of the layout that detection has selected. -/
def InStep (s : ActiveLayout) : Prop := s.typing = .ofNative s.detection.current.native

/-- Asking detection for the layout selects other keys. -/
def Moves (s : ActiveLayout) : Operation → Prop
  | .detect .refresh =>
    Typing.ofNative s.detection.refresh.current.native ≠ .ofNative s.detection.current.native
  | _ => False

variable {s : ActiveLayout}

theorem following_follow (s : ActiveLayout) (d : Detection) (announced : Option NativeLayout) :
    (s.follow d announced).1.following = s.following := by
  cases announced with
  | none => rfl
  | some n => cases hs : s.following <;> simp [follow, adopt, hs]

theorem following_apply (h : s.following = true) (op : Operation) :
    (s.apply op).following = true := by
  cases op with
  | start => rfl
  | press c =>
      rw [apply, observe]
      split
      · exact (following_follow s _ _).trans h
      · exact h
  | detect op => exact (following_follow s _ _).trans h

theorem inStep_start (s : ActiveLayout) : s.start.InStep := rfl

theorem inStep_follow (hf : s.following = true) (h : s.InStep) {r : Detection × Option NativeLayout}
    (hr : s.detection.Announces r) : (s.follow r.1 r.2).1.InStep := by
  obtain ⟨d, announced⟩ := r
  rcases hr with hr | ⟨hr, hcurrent⟩
  · dsimp only at hr
    subst hr
    simp only [follow, hf]
    rfl
  · dsimp only at hr hcurrent
    subst hr
    rw [InStep, show (s.follow d none).1.detection = d from rfl, hcurrent]
    exact h

theorem inStep_refresh (h : s.InStep) :
    (s.apply (.detect .refresh)).InStep ↔ ¬ s.Moves (.detect .refresh) := by
  have hrefresh : s.apply (.detect .refresh) = { s with detection := s.detection.refresh } := rfl
  rw [hrefresh, InStep, Moves, Classical.not_not, h]
  exact eq_comm

theorem inStep_apply (hf : s.following = true) (h : s.InStep) (op : Operation) :
    (s.apply op).InStep ↔ ¬ s.Moves op := by
  cases op with
  | start => exact iff_of_true (inStep_start s) not_false
  | press c =>
      refine iff_of_true ?_ not_false
      rw [apply, observe]
      split
      · exact inStep_follow hf h (Detection.announces_observe _ _)
      · exact h
  | detect op =>
      by_cases hop : op = .refresh
      · subst hop
        exact inStep_refresh h
      · refine iff_of_true (inStep_follow hf h (Detection.announces_apply hop _)) ?_
        cases op <;> first | exact not_false | exact absurd rfl hop

/-- From the start on the keys in use are those of the layout that detection has selected in all
states of a run, exactly if no operation in it asks detection for the layout at a time when that
selects other keys. -/
theorem inStep_throughout_iff (s : ActiveLayout) (ops : List Operation) :
    (∀ before, before <+: ops → (s.start.run before).InStep) ↔
      ∀ before op, before ++ [op] <+: ops → ¬ (s.start.run before).Moves op :=
  good_throughout_iff apply (fun s => s.following = true) InStep Moves
    (fun _ op h => following_apply h op) (fun _ op hf h => inStep_apply hf h op) rfl
    (inStep_start s) ops

/-- On a German locale, with a layout that nothing is known about. -/
def unknownGerman : ActiveLayout := { detection := .start .pc (some "de") none none }

/-- Asked for the layout, detection selects the German one, which became a candidate meanwhile. The
key of `z` is still looked up on the US layout. -/
theorem left_behind_german :
    ¬ (unknownGerman.start.run [.detect (.addBuiltin "de-German-pc"), .detect .refresh]).InStep := by
  intro h
  generalize hs : unknownGerman.start.run [.detect (.addBuiltin "de-German-pc"), .detect .refresh] = s
    at h
  have hz : s.typing.character? "KeyZ" ≠
      (Typing.ofNative s.detection.current.native).character? "KeyZ" := by
    rw [← hs]
    decide +kernel
  exact hz (by rw [h])

end Shortcuts.ActiveLayout
