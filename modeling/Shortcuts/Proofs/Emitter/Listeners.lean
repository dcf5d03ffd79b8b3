import Mathlib.Data.List.Nodup
import Shortcuts.Emitter

/-!
Listeners under the numbers of their subscriptions, and what offers and resumes do to an emitter
that holds events back.
-/

namespace Shortcuts

namespace Emitter

variable {L : Type} {e : Emitter L} {n : Nat} {l k : L}

/-- No number was given twice, and none is still to be given. -/
structure IsNumbered (e : Emitter L) : Prop where
  nodup : (e.listeners.map Prod.fst).Nodup
  lt : ∀ {n l}, (n, l) ∈ e.listeners → n < e.next

theorem mem_subscribe : (n, k) ∈ (e.subscribe l).1.listeners ↔
    (n, k) ∈ e.listeners ∨ n = e.next ∧ k = l := by
  rw [subscribe, List.mem_append, List.mem_singleton, Prod.mk.injEq]

theorem mem_unsubscribe (token : Nat) :
    (n, k) ∈ (e.unsubscribe token).listeners ↔ (n, k) ∈ e.listeners ∧ n ≠ token := by
  rw [unsubscribe, List.mem_filter, decide_eq_true_eq]

namespace IsNumbered

theorem new : ({} : Emitter L).IsNumbered := ⟨.nil, nofun⟩

theorem unique (h : e.IsNumbered) (hl : (n, l) ∈ e.listeners) (hk : (n, k) ∈ e.listeners) :
    l = k :=
  congrArg Prod.snd (List.inj_on_of_nodup_map h.nodup hl hk rfl)

theorem subscribe (h : e.IsNumbered) (l : L) : (e.subscribe l).1.IsNumbered where
  nodup := by
    have hnew : e.next ∉ e.listeners.map Prod.fst := by
      intro hmem
      obtain ⟨⟨n, k⟩, hk, rfl⟩ := List.mem_map.mp hmem
      exact Nat.lt_irrefl _ (h.lt hk)
    rw [Emitter.subscribe, List.map_append]
    refine List.nodup_append.mpr ⟨h.nodup, List.nodup_singleton _, fun n hn m hm heq => hnew ?_⟩
    rw [heq, List.mem_singleton.mp hm] at hn
    exact hn
  lt hmem := by
    rcases mem_subscribe.mp hmem with hmem | ⟨rfl, -⟩
    · exact Nat.lt_succ_of_lt (h.lt hmem)
    · exact Nat.lt_succ_self _

theorem unsubscribe (h : e.IsNumbered) (token : Nat) : (e.unsubscribe token).IsNumbered where
  nodup := h.nodup.sublist (List.filter_sublist.map _)
  lt hmem := h.lt ((mem_unsubscribe token).mp hmem).1

theorem filter_eq (h : e.IsNumbered) {l : Nat × L} (hl : l ∈ e.listeners) :
    e.listeners.filter (·.1 = l.1) = [l] := by
  have hnodup := h.nodup
  generalize e.listeners = listeners at hl hnodup
  induction listeners with
  | nil => cases hl
  | cons k listeners ih =>
      obtain ⟨hk, hnodup⟩ := List.nodup_cons.mp hnodup
      rcases List.mem_cons.mp hl with rfl | hl
      · have hrest : listeners.filter (·.1 = l.1) = [] := by
          apply List.filter_eq_nil_iff.mpr
          intro j hj heq
          exact hk (List.mem_map.mpr ⟨j, hj, of_decide_eq_true heq⟩)
        simp [hrest]
      · have hne : k.1 ≠ l.1 := fun heq => hk (List.mem_map.mpr ⟨l, hl, heq.symm⟩)
        simp [hne, ih hl hnodup]

end IsNumbered

end Emitter

namespace Pausing

variable {L E : Type} {p : Pausing L E}

theorem offer_of_paused (h : p.isPaused = true) (event : E) :
    p.offer event = ({ p with queue := p.queue ++ [event] }, []) := if_pos h

theorem offer_of_not_paused (h : p.isPaused = false) (event : E) : p.offer event = (p, [event]) :=
  if_neg (Bool.eq_false_iff.mp h)

theorem emitter_offer (p : Pausing L E) (event : E) : (p.offer event).1.emitter = p.emitter := by
  rw [offer]
  split <;> rfl

theorem emitter_resume (p : Pausing L E) (merge : Option (List E → E)) :
    (p.resume merge).1.emitter = p.emitter := by
  by_cases h : 0 < p.depth - 1
  · simp [resume, h]
  · simp [resume, h]

end Pausing

end Shortcuts
