import Shortcuts.Proofs.Workbench.Edits

/-!
Bindings that are registered, and released at any later time. The number that a registration keeps
stands for its own entry as long as that is there, and for nothing afterwards.
-/

namespace Shortcuts.Workbench

variable {m : Keymap} {w : Workbench} {b : Binding} {n : Nat}

/-- The keymap of a workbench is what a run of operations made of another. -/
def Follows (m : Keymap) (w : Workbench) : Prop := ∃ ops, m.run ops = w.dispatcher.keymap

theorem Follows.edit (h : Follows m w) (op : Keymap.Operation) : Follows m (w.edit op) := by
  obtain ⟨ops, hops⟩ := h
  refine ⟨ops ++ [op], ?_⟩
  rw [Keymap.run_append, hops]
  rfl

theorem Follows.withDetection (h : Follows m w) (r : Detection × Option NativeLayout) :
    Follows m (w.withDetection r) := by
  rw [Workbench.withDetection, withLayout]
  split
  · exact h.edit .clearResolved
  · exact h

theorem robust_follows (m : Keymap) : Robust (Follows m) where
  edit op _ h := h.edit op
  other h hsame := by rwa [Follows, hsame.keymap]
  detection _ h := h.withDetection _
  quiet _ h := h

theorem Follows.apply (h : Follows m w) (op : Operation) : Follows m (w.apply op) := by
  cases hs : op.isSilent with
  | true => rwa [Follows, dispatcher_apply_of_isSilent hs]
  | false => exact (robust_follows m).apply hs h

theorem follows_run (w : Workbench) (ops : List Operation) :
    Follows w.dispatcher.keymap (w.run ops) :=
  kept_foldl (Follows _) (fun _ op h => h.apply op) ⟨[], rfl⟩ ops

theorem Follows.ordered (h : Follows {} w) : w.dispatcher.keymap.Ordered := by
  obtain ⟨ops, hops⟩ := h
  exact hops ▸ Keymap.ordered_empty.run ops

/-- Releasing takes one entry out of the base tier, that of a binding under a number, or there is
no entry of that number any more and nothing changes. -/
def Releases (w : Workbench) (d : Disposable Registration) (n : Nat) (b : Binding) : Prop :=
  (∃ before e behind, w.dispatcher.keymap.tier .base = before ++ e :: behind ∧ e.id = n ∧
    e.binding = b ∧
      w.release d = w.withKeymap (w.dispatcher.keymap.withTier .base (before ++ behind))) ∨
  n ∉ w.dispatcher.keymap.ids ∧ w.release d = w

theorem releases_of_names (hm : w.dispatcher.keymap.Ordered)
    (hn : w.dispatcher.keymap.Names n .base b) : w.Releases (.one (.binding .base n)) n b := by
  have hrelease : w.release (.one (.binding .base n)) =
      w.withKeymap (w.dispatcher.keymap.remove .base n).1 := rfl
  rcases hm.takesOut_remove .base n with ⟨before, e, behind, htier, hid, hremove⟩ | ⟨hnone, hremove⟩
  · have he : (e.id, e.binding) ∈ w.dispatcher.keymap.roster .base :=
      Keymap.mem_roster.mpr ⟨e, htier ▸ List.mem_append_right before (List.mem_cons_self), rfl⟩
    refine .inl ⟨before, e, behind, htier, hid, (hn.only .base _ he hid).2, ?_⟩
    rw [hrelease, hremove]
  · refine .inr ⟨fun hmem => ?_, ?_⟩
    · obtain ⟨s, r, hr, hrn⟩ := Keymap.mem_ids.mp hmem
      obtain ⟨rfl, -⟩ := hn.only s r hr hrn
      obtain ⟨e, he, rfl⟩ := Keymap.mem_roster.mp hr
      exact hnone e he hrn
    · rw [hrelease, hremove]
      rfl

theorem bind_cases (w : Workbench) (b : Binding) :
    (w.resolve? b = none ∧ w.bind b = (w, .nothing)) ∨
      ∃ chords, w.bind b = (w.edit (.insert .base b (some chords)),
        .one (.binding .base w.dispatcher.keymap.next)) := by
  cases h : w.resolve? b with
  | none => exact .inl ⟨rfl, by rw [bind, insert, h]⟩
  | some chords => exact .inr ⟨chords, by rw [bind, insert, h]; rfl⟩

/-- From a keymap without bindings on, numbers are never given twice, bindings of equally many
chords stand next to each other in the order of their insertions, operations leave the order of
what they leave and the other tiers alone, and removing takes out one entry or none. Whatever is
done to a workbench before and after a binding is registered, its release takes out its own entry
or nothing. -/
theorem ordered_throughout :
    (∀ ops, let m := Keymap.run {} ops
      m.Ordered ∧ (Keymap.numbers {} ops).Pairwise (· < ·) ∧
        (∀ id ∈ m.ids, id ∈ Keymap.numbers {} ops) ∧ (∀ op, m.Keeps op) ∧
          ∀ s id, m.TakesOut s id (m.remove s id)) ∧
    ∀ (w : Workbench) before b, let v := (w.withKeymap {}).run before
      (v.resolve? b = none ∧ v.bind b = (v, .nothing)) ∨
        ∃ n, (v.bind b).2 = .one (.binding .base n) ∧
          (∃ e ∈ (v.bind b).1.dispatcher.keymap.tier .base, e.id = n ∧ e.binding = b) ∧
            ∀ after, ((v.bind b).1.run after).Releases (v.bind b).2 n b := by
  constructor
  · intro ops m
    have hm : m.Ordered := Keymap.ordered_empty.run ops
    refine ⟨hm, Keymap.numbers_increase {} ops, fun id hid => ?_, Keymap.keeps m,
      hm.takesOut_remove⟩
    rcases Keymap.mem_ids_run hid with h | h
    · cases h
    · exact h
  · intro w before b v
    have hv : v.dispatcher.keymap.Ordered := (follows_run (w.withKeymap {}) before).ordered
    rcases bind_cases v b with hnone | ⟨chords, hbind⟩
    · exact .inl hnone
    · refine .inr ⟨v.dispatcher.keymap.next, by rw [hbind], ?_, fun after => ?_⟩
      · rw [hbind]
        exact ⟨_, Keymap.mem_tier_insert.mpr (.inl ⟨rfl, rfl⟩), rfl, rfl⟩
      · have hnames := hv.names_insert .base b (some chords)
        have hinserted := hv.apply (.insert .base b (some chords))
        obtain ⟨ops, hops⟩ := follows_run (v.bind b).1 after
        rw [hbind] at hops ⊢
        refine releases_of_names ?_ ?_
        · exact hops ▸ hinserted.run ops
        · exact hops ▸ Keymap.Names.run hnames ops

end Shortcuts.Workbench
