import Shortcuts.Proofs.Layout.Evidence
import Shortcuts.Proofs.Layout.Resumption

/-!
Scores that are taken over. What one tally exports another one of the same candidates can take up,
whatever it counted before and in whichever order it keeps them. From then on the two agree, and go
on to agree over all that is observed.
-/

namespace Shortcuts.Scores

variable {s u : Scores}

/-- The same candidates have the same scores, in any order, and the rest is the same. -/
structure Agrees (s u : Scores) : Prop where
  entries : s.entries.Perm u.entries
  top : s.top = u.top
  seen : s.seen = u.seen

/-- Whether each of the observations is a new one. -/
def answers (s : Scores) : List Operation → List Bool
  | [] => []
  | .observe o :: ops => (s.observe o).2 :: answers (s.observe o).1 ops
  | .reset :: ops => answers s.reset ops

theorem foldl_max_perm {l l' : List (Layout × Nat)} (h : l.Perm l') (top : Nat) :
    l.foldl (fun top e => max top e.2) top = l'.foldl (fun top e => max top e.2) top :=
  haveI : RightCommutative fun (top : Nat) (e : Layout × Nat) => max top e.2 :=
    ⟨fun top e e' => Nat.max_right_comm top e.2 e'.2⟩
  h.foldl_eq top

theorem agrees_ofLayouts {ls ls' : List Layout} (h : ls.Perm ls') :
    (ofLayouts ls).Agrees (ofLayouts ls') := ⟨h.map _, rfl, rfl⟩

namespace Agrees

variable (h : s.Agrees u)

include h

theorem reset : s.reset.Agrees u.reset := agrees_ofLayouts (h.entries.map _)

theorem record (o : Observation) : (s.record o).Agrees (u.record o) := by
  have hentries := h.entries.map (credit o)
  refine ⟨hentries, ?_, congrArg (Fields.insert o.place o.character) h.seen⟩
  rw [Scores.record, Scores.record, foldl_max_perm hentries, h.top]

theorem observe (o : Observation) :
    (s.observe o).2 = (u.observe o).2 ∧ (s.observe o).1.Agrees (u.observe o).1 := by
  rw [Scores.observe, Scores.observe, ← h.seen]
  split
  · split
    · exact ⟨rfl, h⟩
    · exact ⟨rfl, h.reset.record o⟩
  · exact ⟨rfl, h.record o⟩

theorem run (ops : List Operation) :
    s.answers ops = u.answers ops ∧ (s.run ops).Agrees (u.run ops) := by
  induction ops generalizing s u with
  | nil => exact ⟨rfl, h⟩
  | cons op ops ih =>
      cases op with
      | observe o =>
          obtain ⟨hnew, hnext⟩ := h.observe o
          obtain ⟨hanswers, hrun⟩ := ih hnext
          exact ⟨congrArg₂ List.cons hnew hanswers, hrun⟩
      | reset => exact ih h.reset

theorem ids_perm : (s.entries.map fun e => e.1.id).Perm (u.entries.map fun e => e.1.id) :=
  h.entries.map _

theorem find?_eq (hids : (u.entries.map fun e => e.1.id).Nodup) (id : String) :
    s.find? id = u.find? id := by
  refine Option.ext fun e => ?_
  rw [find?_eq_some_iff (h.ids_perm.nodup_iff.mpr hids), find?_eq_some_iff hids,
    h.entries.mem_iff]

end Agrees

/-- Scores are exported under identifiers, and come back to the layouts that have these. -/
theorem agrees_restore (hids : (s.entries.map fun e => e.1.id).Nodup)
    (hsame : u.candidates.Perm s.candidates) : (u.restore s.toRecord).Agrees s where
  entries := by
    refine (hsame.map _).trans (.of_eq ?_)
    rw [candidates, List.map_map]
    refine (List.map_congr_left fun e he => ?_).trans (List.map_id s.entries)
    rw [Function.comp_apply, lookup_toRecord hids he]
    rfl
  top := rfl
  seen := rfl

/-- A tally whose candidates have names of their own is taken over as it is by every tally of the
same candidates. Whatever is observed from then on, both find the same observations new and the same
scores for every name. -/
theorem snapshots_are_faithful (t u : Scores) (hids : (t.candidates.map Layout.id).Nodup)
    (hsame : u.candidates.Perm t.candidates) :
    let v := u.restore t.toRecord
    v.candidates = u.candidates ∧ (∀ l n, (l, n) ∈ v.entries ↔ (l, n) ∈ t.entries) ∧
    v.top = t.top ∧ v.seen = t.seen ∧
    ∀ ops, v.answers ops = t.answers ops ∧ (v.run ops).top = (t.run ops).top ∧
      (v.run ops).seen = (t.run ops).seen ∧
      ∀ id, (v.run ops).find? id = (t.run ops).find? id := by
  intro v
  have hagree : v.Agrees t := agrees_restore (t.ids_eq ▸ hids) hsame
  refine ⟨candidates_restore u t.toRecord, fun l n => hagree.entries.mem_iff, rfl, rfl,
    fun ops => ?_⟩
  obtain ⟨hanswers, hrun⟩ := hagree.run ops
  refine ⟨hanswers, hrun.top, hrun.seen, fun id => hrun.find?_eq ?_ id⟩
  rw [ids_eq, candidates_run]
  exact hids

/-- Keys that are where they are on a US keyboard. -/
def straight : Layout where
  name := "Straight"
  hardware := .pc
  language := "en"
  native := { keys := [("KeyY", { plain := "y" }), ("KeyZ", { plain := "z" })] }

/-- Another tally of the two layouts, the other way round and with scores that mean nothing. -/
def stale : Scores where
  entries := [(straight, 7), (swapped, 9)]
  top := 12
  seen := [("KeyZ.value", "x")]

theorem snapshots_are_faithful_stale :
    let t := (ofLayouts [swapped, straight]).run [.observe plainZ, .observe seenZ]
    let v := stale.restore t.toRecord
    (t.candidates.map Layout.id).Nodup ∧ stale.candidates.Perm t.candidates ∧
      (swapped, 1) ∈ v.entries ∧ v.answers [.observe seenZ, .observe seenY] = [false, true] ∧
      ((v.run [.observe seenZ, .observe seenY]).find? swapped.id).map Prod.snd = some 2 := by
  intro t v
  have hids : (t.candidates.map Layout.id).Nodup := by decide
  have hsame : stale.candidates.Perm t.candidates := .swap swapped straight []
  obtain ⟨-, hentries, -, -, hafter⟩ := snapshots_are_faithful t stale hids hsame
  obtain ⟨hanswers, -, -, hfind⟩ := hafter [.observe seenZ, .observe seenY]
  refine ⟨hids, hsame, (hentries swapped 1).mpr (.head _), hanswers.trans (by decide), ?_⟩
  rw [hfind]
  decide

end Shortcuts.Scores
