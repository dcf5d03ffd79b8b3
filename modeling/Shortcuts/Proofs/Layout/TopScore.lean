import Shortcuts.Proofs.Layout.Orderly

/-!
Whether the highest score that is kept with the scores is one that a candidate has. Scores that are
taken over from another session are those of its candidates, and the highest score comes along with
them also where the layouts that had it are no candidates here. Then no layout leads, and the one
that stands in is selected.
-/

namespace Shortcuts

namespace Scores

variable {s t : Scores} {o : Observation}

/-- The scores that a session comes to, from the start or from what another one left behind. -/
inductive Reached : Scores → Prop
  | ofLayouts (layouts : List Layout) : Reached (ofLayouts layouts)
  | apply {s : Scores} (h : Reached s) (op : Operation) : Reached (s.apply op)
  | restore {s t : Scores} (h : Reached s) (ht : Reached t) : Reached (s.restore t.toRecord)

/-- What is done in a session. -/
inductive Step where
  | take (op : Operation)
  /-- The session goes on from scores that were kept. -/
  | resume (saved : {t : Scores // t.Reached})

def advance (s : Scores) : Step → Scores
  | .take op => s.apply op
  | .resume saved => s.restore saved.val.toRecord

def session (s : Scores) (steps : List Step) : Scores := steps.foldl advance s

def HasRealTop (s : Scores) : Prop := (s.entries.map Prod.snd).max? = some s.top

/-- The one more point is one too many for 32 bits: it sets all that lead back to zero, and nobody
comes up to them. -/
def RunsOver (s : Scores) (o : Observation) : Prop :=
  s.seen.lookup o.place = none ∧ s.top + 1 = 2 ^ 32 ∧ ∀ e ∈ s.entries, (credit o e).2 ≠ s.top

/-- The highest score is of layouts that are no candidates. -/
def Step.LosesTop (s : Scores) : Step → Prop
  | .take (.observe o) => s.RunsOver o
  | .take .reset => False
  | .resume saved => saved.val.top ≠ 0 ∧
      ∀ l ∈ s.candidates, saved.val.toRecord.scores.lookup l.id ≠ some saved.val.top

/-! ### Bounds -/

structure IsBounded (s : Scores) : Prop where
  le_top : ∀ e ∈ s.entries, e.2 ≤ s.top
  top_le_seen : s.top ≤ s.seen.length
  top_lt : s.top < 2 ^ 32

theorem max?_record (s : Scores) (o : Observation) :
    (s.top :: (s.record o).entries.map Prod.snd).max? = some (s.record o).top := by
  rw [List.max?_cons', List.foldl_map]
  rfl

theorem le_top_record (s : Scores) (o : Observation) :
    ∀ e ∈ (s.record o).entries, e.2 ≤ (s.record o).top := by
  intro e he
  refine (List.max?_eq_some_iff.mp (s.max?_record o)).2 e.2 (List.mem_cons_of_mem _ ?_)
  exact List.mem_map_of_mem he

theorem top_le_record (s : Scores) (o : Observation) : s.top ≤ (s.record o).top :=
  (List.max?_eq_some_iff.mp (s.max?_record o)).2 s.top List.mem_cons_self

theorem length_insert {k v : String} {m : Fields String} (h : m.lookup k = none) :
    (m.insert k v).length = m.length + 1 := by
  simpa using countP_insert h (v := v) fun _ => true

theorem credit_le (o : Observation) (e : Layout × Nat) : (credit o e).2 ≤ e.2 + 1 := by
  rw [credit]
  split
  · exact Nat.mod_le _ _
  · exact Nat.le_succ _

namespace IsBounded

theorem ofLayouts (layouts : List Layout) : (Scores.ofLayouts layouts).IsBounded where
  le_top := List.forall_mem_map.mpr fun _ _ => Nat.le_refl 0
  top_le_seen := Nat.le_refl 0
  top_lt := Nat.two_pow_pos 32

theorem count_lt (hs : s.IsBounded) : ∀ e ∈ s.entries, e.2 < 2 ^ 32 :=
  fun e he => Nat.lt_of_le_of_lt (hs.le_top e he) hs.top_lt

theorem record (hs : s.IsBounded) (h : s.seen.lookup o.place = none) :
    (s.record o).IsBounded where
  le_top := s.le_top_record o
  top_le_seen := by
    change _ ≤ (s.seen.insert o.place o.character).length
    rw [length_insert h]
    have hseen := hs.top_le_seen
    refine Nat.le_of_lt_succ (foldl_max_lt (by omega) (List.forall_mem_map.mpr fun e he => ?_))
    have hcount := hs.le_top e he
    have hcredit := credit_le o e
    omega
  top_lt := foldl_max_lt hs.top_lt (List.forall_mem_map.mpr fun e he =>
    credit_lt o (hs.count_lt e he))

theorem apply (hs : s.IsBounded) (op : Operation) : (s.apply op).IsBounded := by
  cases op with
  | reset => exact ofLayouts s.candidates
  | observe o => exact kept_observe (ofLayouts s.candidates) record hs

/-- What is kept of a layout is a score that one of that name had. -/
theorem le_of_lookup (ht : t.IsBounded) {id : String} {n : Nat}
    (h : t.toRecord.scores.lookup id = some n) : n ≤ t.top := by
  obtain ⟨e, he, heq⟩ := List.mem_map.mp (Fields.mem_of_mem_ofList (Fields.mem_of_lookup h))
  cases heq
  exact ht.le_top e he

theorem restore (ht : t.IsBounded) (s : Scores) : (s.restore t.toRecord).IsBounded where
  le_top := by
    refine List.forall_mem_map.mpr fun l _ => ?_
    change (t.toRecord.scores.lookup l.id).getD 0 ≤ t.top
    cases hl : t.toRecord.scores.lookup l.id with
    | none => exact Nat.zero_le _
    | some n => exact ht.le_of_lookup hl
  top_le_seen := ht.top_le_seen
  top_lt := ht.top_lt

end IsBounded

theorem Reached.isBounded (h : s.Reached) : s.IsBounded := by
  induction h with
  | ofLayouts layouts => exact .ofLayouts layouts
  | apply _ op ih => exact ih.apply op
  | @restore s _ _ _ _ iht => exact iht.restore s

theorem Reached.advance (h : s.Reached) (step : Step) : (s.advance step).Reached := by
  cases step with
  | take op => exact h.apply op
  | resume saved => exact h.restore saved.property

theorem candidates_advance (s : Scores) (step : Step) :
    (s.advance step).candidates = s.candidates := by
  cases step with
  | take op =>
      cases op with
      | observe o => exact s.candidates_observe o
      | reset => exact s.candidates_reset
  | resume saved => exact s.candidates_restore saved.val.toRecord

/-! ### One step -/

theorem hasRealTop_iff (h : ∀ e ∈ s.entries, e.2 ≤ s.top) :
    s.HasRealTop ↔ ∃ e ∈ s.entries, e.2 = s.top := by
  rw [HasRealTop, List.max?_eq_some_iff, List.mem_map]
  exact and_iff_left (List.forall_mem_map.mpr h)

theorem hasRealTop_ofLayouts {layouts : List Layout} (h : layouts ≠ []) :
    (ofLayouts layouts).HasRealTop := by
  refine (hasRealTop_iff (IsBounded.ofLayouts layouts).le_top).mpr ?_
  obtain ⟨l, hl⟩ := List.exists_mem_of_ne_nil layouts h
  exact ⟨(l, 0), List.mem_map_of_mem hl, rfl⟩

/-- A point more keeps the highest score real, unless it is too many. -/
theorem hasRealTop_record_iff (hs : s.IsBounded) (h : s.HasRealTop)
    (hseen : s.seen.lookup o.place = none) : (s.record o).HasRealTop ↔ ¬ s.RunsOver o := by
  have hmem : ∀ e ∈ s.entries, credit o e ∈ (s.record o).entries :=
    fun e he => List.mem_map_of_mem he
  rw [hasRealTop_iff (s.le_top_record o)]
  constructor
  · rintro ⟨e', he', htop'⟩ ⟨-, htop, hne⟩
    obtain ⟨e, he, rfl⟩ := List.mem_map.mp he'
    have hlt := credit_lt o (hs.count_lt e he)
    have hle := s.top_le_record o
    exact hne e he (by omega)
  · intro hfits
    rcases List.mem_cons.mp (List.max?_eq_some_iff.mp (s.max?_record o)).1 with hold | hnew
    · -- the highest score is the old one, so whoever had it keeps it, or somebody comes up to it
      obtain ⟨e, he, htop⟩ := (hasRealTop_iff hs.le_top).mp h
      by_contra hnobody
      have hne : ∀ e ∈ s.entries, (credit o e).2 ≠ s.top :=
        fun e he heq => hnobody ⟨_, hmem e he, heq.trans hold.symm⟩
      refine hfits ⟨hseen, ?_, hne⟩
      have hle := s.le_top_record o _ (hmem e he)
      have hmoved := hne e he
      have hlt := hs.top_lt
      rw [hold] at hle
      rw [credit] at hle hmoved
      split at hmoved
      · next hexplained =>
          rw [if_pos hexplained, htop] at hle
          by_contra hsmall
          rw [Nat.pow_eq, Nat.mod_eq_of_lt (by omega)] at hle
          omega
      · exact absurd htop hmoved
    · obtain ⟨e', he', htop'⟩ := List.mem_map.mp hnew
      exact ⟨e', he', htop'⟩

theorem hasRealTop_observe_iff (hs : s.IsBounded) (h : s.HasRealTop) (o : Observation) :
    (s.observe o).1.HasRealTop ↔ ¬ s.RunsOver o := by
  have hknown (c : String) (hseen : s.seen.lookup o.place = some c) : ¬ s.RunsOver o := by
    rintro ⟨hnone, -⟩
    rw [hseen] at hnone
    cases hnone
  cases hseen : s.seen.lookup o.place with
  | none =>
      rw [observe_of_not_noted hseen]
      exact hasRealTop_record_iff hs h hseen
  | some c =>
      refine iff_of_true ?_ (hknown c hseen)
      by_cases hc : c = o.character
      · rw [observe_of_noted (hc ▸ hseen)]
        exact h
      · rw [observe_of_contradicted hseen hc, observe_of_not_noted rfl]
        have hne : s.candidates ≠ [] := by
          obtain ⟨e, he, -⟩ := (hasRealTop_iff hs.le_top).mp h
          exact List.ne_nil_of_mem (List.mem_map_of_mem he)
        refine (hasRealTop_record_iff (.ofLayouts _) (hasRealTop_ofLayouts hne) rfl).mpr ?_
        rintro ⟨-, hover, -⟩
        exact absurd (show 0 + 1 = 2 ^ 32 from hover) (by decide)

/-- Kept scores are taken over with a real highest one if a candidate is known to have it. -/
theorem hasRealTop_restore_iff (hne : s.candidates ≠ []) (ht : t.IsBounded) :
    (s.restore t.toRecord).HasRealTop ↔
      ¬ (t.top ≠ 0 ∧ ∀ l ∈ s.candidates, t.toRecord.scores.lookup l.id ≠ some t.top) := by
  rw [hasRealTop_iff (ht.restore s).le_top]
  constructor
  · rintro ⟨e, he, htop⟩ ⟨hsome, hunknown⟩
    obtain ⟨l, hl, rfl⟩ := List.mem_map.mp he
    change (t.toRecord.scores.lookup l.id).getD 0 = t.top at htop
    cases hscore : t.toRecord.scores.lookup l.id with
    | none =>
        rw [hscore] at htop
        exact hsome htop.symm
    | some n =>
        rw [hscore] at htop
        exact hunknown l hl (hscore.trans (congrArg some htop))
  · intro hknown
    have hmem : ∀ l ∈ s.candidates,
        (l, (t.toRecord.scores.lookup l.id).getD 0) ∈ (s.restore t.toRecord).entries :=
      fun l hl => List.mem_map_of_mem hl
    by_cases hzero : t.top = 0
    · obtain ⟨l, hl⟩ := List.exists_mem_of_ne_nil _ hne
      have hle := (ht.restore s).le_top _ (hmem l hl)
      refine ⟨_, hmem l hl, Nat.le_antisymm hle ?_⟩
      change t.top ≤ _
      rw [hzero]
      exact Nat.zero_le _
    · obtain ⟨l, hl, hscore⟩ : ∃ l ∈ s.candidates, t.toRecord.scores.lookup l.id = some t.top := by
        by_contra hnone
        exact hknown ⟨hzero, fun l hl hscore => hnone ⟨l, hl, hscore⟩⟩
      refine ⟨_, hmem l hl, ?_⟩
      rw [hscore]
      rfl

theorem hasRealTop_advance_iff (hs : s.Reached) (hne : s.candidates ≠ []) (h : s.HasRealTop)
    (step : Step) : (s.advance step).HasRealTop ↔ ¬ step.LosesTop s := by
  cases step with
  | take op =>
      cases op with
      | observe o => exact hasRealTop_observe_iff hs.isBounded h o
      | reset => exact iff_of_true (hasRealTop_ofLayouts hne) not_false
  | resume saved => exact hasRealTop_restore_iff hne saved.property.isBounded

/-! ### Sessions -/

theorem leaders_eq_nil_iff (h : ∀ e ∈ s.entries, e.2 ≤ s.top) :
    s.leaders = [] ↔ ¬ s.HasRealTop := by
  rw [hasRealTop_iff h, leaders, List.map_eq_nil_iff, List.filter_eq_nil_iff]
  simp only [decide_eq_true_eq, not_exists, not_and]

/-- Where the highest score is real a candidate that has it is selected, else what stands in. -/
theorem Reached.select (h : s.Reached) {d : Detection} (hd : d.scores = s) :
    (s.HasRealTop → d.select ∈ d.scores.leaders) ∧
      (¬ s.HasRealTop → d.select = .fallback d.platform) := by
  subst hd
  have hnone := leaders_eq_nil_iff h.isBounded.le_top
  rcases d.select_mem_leaders_or with hmem | ⟨hnil, hselect⟩
  · exact ⟨fun _ => hmem, fun hunreal => absurd (hnone.mpr hunreal) (List.ne_nil_of_mem hmem)⟩
  · exact ⟨fun hreal => absurd hreal (hnone.mp hnil), fun _ => hselect⟩

theorem Reached.session (h : s.Reached) (steps : List Step) : (s.session steps).Reached :=
  kept_foldl Reached (fun _ step hs => hs.advance step) h steps

/-- All through a session over some candidates the highest score is one that a candidate has,
exactly if nothing is taken over whose highest score only other layouts have, and no counter runs
over, for which as many keys have to be seen as it can count. As long as it is real, one of the
candidates that have it is selected, and otherwise the layout that stands in. -/
theorem real_throughout_iff (l : Layout) (layouts : List Layout) (steps : List Step) :
    let s := ofLayouts (l :: layouts)
    ((∀ before, before <+: steps → (s.session before).HasRealTop) ↔
      ∀ before step, before ++ [step] <+: steps → ¬ step.LosesTop (s.session before)) ∧
    (∀ o, (s.session steps).RunsOver o → 2 ^ 32 ≤ (s.session steps).seen.length + 1) ∧
    ∀ d : Detection, d.scores = s.session steps →
      ((s.session steps).HasRealTop → d.select ∈ d.scores.leaders) ∧
      (¬ (s.session steps).HasRealTop → d.select = .fallback d.platform) := by
  intro s
  have hs : s.Reached := .ofLayouts _
  have hreached := hs.session steps
  refine ⟨?_, ?_, fun d hd => hreached.select hd⟩
  · refine good_throughout_iff advance (fun s => s.Reached ∧ s.candidates ≠ []) HasRealTop
      (fun s step => step.LosesTop s) (fun s step h => ⟨h.1.advance step, ?_⟩)
      (fun s step h hreal => hasRealTop_advance_iff h.1 h.2 hreal step) ⟨hs, ?_⟩
      (hasRealTop_ofLayouts (List.cons_ne_nil l layouts)) steps
    · rw [candidates_advance]
      exact h.2
    · rw [candidates_ofLayouts]
      exact List.cons_ne_nil l layouts
  · rintro o ⟨-, hover, -⟩
    rw [← hover]
    exact Nat.succ_le_succ hreached.isBounded.top_le_seen

/-- A German keyboard was seen where the German layout is a candidate. -/
def seenGerman : Scores :=
  (ofLayouts [BuiltinLayout.usPc.layout, BuiltinLayout.germanPc.layout]).apply (.observe seenZ)

/-- Where it is none the point is gone, but not the highest score. -/
theorem top_of_unknown_layout :
    let s := (ofLayouts [BuiltinLayout.usPc.layout]).restore seenGerman.toRecord
    s.Reached ∧ s.candidates ≠ [] ∧ s.entries.map Prod.snd = [0] ∧ s.top = 1 ∧
      ¬ s.HasRealTop ∧ ∀ d : Detection, d.scores = s → d.select = .fallback d.platform := by
  intro s
  have hreached : s.Reached := .restore (.ofLayouts _) (.apply (.ofLayouts _) _)
  have hscores : s.entries.map Prod.snd = [0] ∧ s.top = 1 := by decide +kernel
  have hunreal : ¬ s.HasRealTop := by
    rw [HasRealTop, hscores.1, hscores.2]
    decide
  exact ⟨hreached, List.cons_ne_nil _ _, hscores.1, hscores.2, hunreal,
    fun d hd => (hreached.select hd).2 hunreal⟩

end Scores

end Shortcuts
