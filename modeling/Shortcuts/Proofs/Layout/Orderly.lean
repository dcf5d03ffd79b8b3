import Shortcuts.Proofs.Layout.Record
import Shortcuts.Proofs.Layout.Step

/-!
What holds of detection all the time, and makes its record one that can be read again. Candidates
have names of their own, counts have 32 bits, and only the layout that stands in is a fallback.
-/

namespace Shortcuts

/-! ### Scores -/

namespace Scores

structure IsOrderly (s : Scores) : Prop where
  nodup_ids : (s.entries.map fun e => e.1.id).Nodup
  count_lt : ∀ e ∈ s.entries, e.2 < 2 ^ 32
  top_lt : s.top < 2 ^ 32
  seen : s.seen.IsSorted

variable {s : Scores}

theorem candidates_restore (s : Scores) (r : ScoreRecord) :
    (s.restore r).candidates = s.candidates := by
  rw [candidates, restore, List.map_map]
  exact List.map_id s.candidates

theorem mem_candidates_of_mem_leaders {l : Layout} (h : l ∈ s.leaders) : l ∈ s.candidates := by
  obtain ⟨e, he, rfl⟩ := List.mem_map.mp h
  exact List.mem_map.mpr ⟨e, (List.mem_filter.mp he).1, rfl⟩

theorem ids_eq (s : Scores) : (s.entries.map fun e => e.1.id) = s.candidates.map Layout.id := by
  rw [candidates, List.map_map]
  rfl

theorem credit_lt (o : Observation) {e : Layout × Nat} (h : e.2 < 2 ^ 32) :
    (credit o e).2 < 2 ^ 32 := by
  rw [credit]
  split
  · exact Nat.mod_lt _ (by decide)
  · exact h

theorem foldl_max_lt {entries : List (Layout × Nat)} {top bound : Nat} (htop : top < bound)
    (h : ∀ e ∈ entries, e.2 < bound) :
    entries.foldl (fun top e => max top e.2) top < bound := by
  induction entries generalizing top with
  | nil => exact htop
  | cons e entries ih =>
      obtain ⟨he, hentries⟩ := List.forall_mem_cons.mp h
      exact ih (Nat.max_lt.mpr ⟨htop, he⟩) hentries

theorem isOrderly_ofLayouts {layouts : List Layout} (h : (layouts.map Layout.id).Nodup) :
    (ofLayouts layouts).IsOrderly where
  nodup_ids := by rwa [ids_eq, candidates_ofLayouts]
  count_lt e he := by
    obtain ⟨l, -, rfl⟩ := List.mem_map.mp he
    exact Nat.two_pow_pos 32
  top_lt := Nat.two_pow_pos 32
  seen := .nil

namespace IsOrderly

theorem reset (h : s.IsOrderly) : s.reset.IsOrderly :=
  isOrderly_ofLayouts (ids_eq s ▸ h.nodup_ids)

theorem record (h : s.IsOrderly) (o : Observation) : (s.record o).IsOrderly := by
  have hcount : ∀ e ∈ s.entries.map (credit o), e.2 < 2 ^ 32 :=
    List.forall_mem_map.mpr fun e he => credit_lt o (h.count_lt e he)
  refine ⟨?_, hcount, foldl_max_lt h.top_lt hcount, h.seen.insert _ _⟩
  rw [ids_eq, candidates_record, ← ids_eq]
  exact h.nodup_ids

theorem observe (h : s.IsOrderly) (o : Observation) : (s.observe o).1.IsOrderly := by
  rw [Scores.observe]
  split
  · split
    · exact h
    · exact h.reset.record o
  · exact h.record o

theorem run (h : s.IsOrderly) (ops : List Operation) : (s.run ops).IsOrderly := by
  refine kept_foldl IsOrderly (fun s op hs => ?_) h ops
  cases op with
  | observe o => exact hs.observe o
  | reset => exact hs.reset

theorem restore (h : s.IsOrderly) {r : ScoreRecord} (hr : r.IsStorable) :
    (s.restore r).IsOrderly := by
  refine ⟨?_, List.forall_mem_map.mpr fun l _ => ?_, hr.top_lt, hr.seen⟩
  · rw [ids_eq, candidates_restore, ← ids_eq]
    exact h.nodup_ids
  · cases hl : r.scores.lookup l.id with
    | none => exact Nat.two_pow_pos 32
    | some n => exact hr.count_lt _ (Fields.mem_of_lookup hl)

theorem toRecord (h : s.IsOrderly) : s.toRecord.IsStorable where
  sorted := Fields.isSorted_ofList _
  count_lt e he := by
    obtain ⟨entry, hentry, rfl⟩ := List.mem_map.mp (Fields.mem_of_mem_ofList he)
    exact h.count_lt entry hentry
  top_lt := h.top_lt
  seen := h.seen

end IsOrderly

end Scores

/-! ### Layouts -/

theorem Layout.beq_iff {l l' : Layout} : (l == l') = true ↔
    l.isFallback = l'.isFallback ∧ l.name = l'.name ∧ l.hardware = l'.hardware ∧
      l.language = l'.language := by
  change l.same l' = true ↔ _
  simp [same, and_assoc]

theorem Layout.id_eq_of_beq {l l' : Layout} (h : (l == l') = true) : l.id = l'.id := by
  obtain ⟨-, hname, hhardware, hlanguage⟩ := beq_iff.mp h
  rw [Layout.id, Layout.id, hname, hhardware, hlanguage]

/-- A layout that is entered beside others has a name of its own. -/
theorem Layout.nodup_ids_concat {ls : List Layout} (h : (ls.map id).Nodup) {l : Layout}
    (hnew : ¬ ls.any (·.id = l.id)) : ((ls ++ [l]).map id).Nodup := by
  rw [List.map_append, List.map_singleton]
  refine List.nodup_append_comm.mp (List.nodup_cons.mpr ⟨fun hmem => hnew ?_, h⟩)
  obtain ⟨l', hl', heq⟩ := List.mem_map.mp hmem
  exact List.any_eq_true.mpr ⟨l', hl', decide_eq_true heq⟩

theorem Layout.isFallback_ofId {id : String} {n : NativeLayout} {l : Layout}
    (h : ofId id n = .ok l) : l.isFallback = false := by
  rw [ofId] at h
  split at h
  · split at h <;> cases h
    rfl
  · cases h

theorem BuiltinLayout.isFallback_layout (b : BuiltinLayout) : b.layout.isFallback = false := by
  cases b <;> rfl

/-! ### Detection -/

namespace Detection

structure IsOrderly (d : Detection) : Prop where
  scores : d.scores.IsOrderly
  isFallback : ∀ l ∈ d.candidates, l.isFallback = false
  current : d.current.isFallback = true → d.current = .fallback d.platform
  now : Timestamp.isValid d.now = true

/-- What is given from outside: layouts come from identifiers, and a clock shows points in time. -/
def Operation.IsGiven : Operation → Prop
  | .choose l | .addLayout l => ∃ id native, Layout.ofId id native = .ok l
  | .setTime now => Timestamp.isValid now = true
  | _ => True

variable {d d' : Detection} {op : Operation}

theorem Operation.IsGiven.isFallback (hop : op.IsGiven) {l : Layout} (h : op.added? = some l) :
    l.isFallback = false := by
  cases op with
  | addLayout =>
      obtain ⟨id, native, hl⟩ := hop
      exact Layout.isFallback_ofId (Option.some.inj h ▸ hl)
  | addBuiltin =>
      obtain ⟨b, -, rfl⟩ := Option.map_eq_some_iff.mp h
      exact b.isFallback_layout
  | choose | unchoose | observe | refresh | nativeChanged | setNative | setTime => cases h

/-- Where a layout leads, one that leads is selected. -/
theorem select_mem_leaders_or (d : Detection) :
    d.select ∈ d.scores.leaders ∨ d.scores.leaders = [] ∧ d.select = .fallback d.platform := by
  rw [select]
  cases hbest : (d.scores.leaders.find? _ <|> d.scores.leaders.find? _ <|>
      d.scores.leaders.head?) with
  | none =>
      simp only [Option.orElse_eq_orElse, Option.orElse_eq_or, Option.or_eq_none_iff] at hbest
      exact .inr ⟨List.head?_eq_none_iff.mp hbest.2.2, rfl⟩
  | some l =>
      refine .inl ?_
      simp only [Option.orElse_eq_orElse, Option.orElse_eq_or, Option.or_eq_some_iff] at hbest
      rcases hbest with h | ⟨-, h | ⟨-, h⟩⟩
      · exact List.mem_of_find?_eq_some h
      · exact List.mem_of_find?_eq_some h
      · exact List.mem_of_mem_head? h

theorem select_mem_or_eq_fallback (d : Detection) :
    d.select ∈ d.candidates ∨ d.select = .fallback d.platform :=
  d.select_mem_leaders_or.imp Scores.mem_candidates_of_mem_leaders And.right

namespace IsOrderly

theorem with_scores (h : d.IsOrderly) {s : Scores} (hs : s.IsOrderly)
    (hcandidates : s.candidates = d.candidates) : { d with scores := s }.IsOrderly where
  scores := hs
  isFallback l hl := h.isFallback l (hcandidates ▸ hl)
  current := h.current
  now := h.now

theorem counting (h : d.IsOrderly) (ops : List Scores.Operation) : (d.counting ops).IsOrderly :=
  h.with_scores (h.scores.run ops) (d.candidates_counting ops)

theorem use (h : d.IsOrderly) {l : Layout} (hl : l.isFallback = true → l = .fallback d.platform)
    (source : LayoutSource) : (d.use l source).IsOrderly := by
  rw [use_eq]
  exact ⟨h.scores, h.isFallback, hl, h.now⟩

theorem use_select (h : d.IsOrderly) (source : LayoutSource) :
    (d.use d.select source).IsOrderly := by
  refine h.use (fun hfallback => ?_) source
  rcases d.select_mem_or_eq_fallback with hmem | hselect
  · rw [h.isFallback _ hmem] at hfallback
    cases hfallback
  · exact hselect

theorem entering (h : d.IsOrderly) {l : Layout} (hl : l.isFallback = false)
    (hnew : ¬ d.hasLayout l.id = true) : (d.entering l).IsOrderly := by
  have hids := Layout.nodup_ids_concat (d.scores.ids_eq ▸ h.scores.nodup_ids) hnew
  refine ⟨Scores.isOrderly_ofLayouts hids, fun l' hl' => ?_, h.current, h.now⟩
  rw [candidates_entering] at hl'
  rcases List.mem_append.mp hl' with hl' | hl'
  · exact h.isFallback l' hl'
  · exact List.mem_singleton.mp hl' ▸ hl

theorem step (h : d.IsOrderly) (hstep : d.Step op d') (hop : op.IsGiven) : d'.IsOrderly := by
  cases hstep with
  | idle => exact h
  | entered op l hadded hnew => exact h.entering (hop.isFallback hadded) hnew
  | chosen l =>
      obtain ⟨id, n, hl⟩ := hop
      refine h.use (fun hfallback => ?_) .choice
      rw [Layout.isFallback_ofId hl] at hfallback
      cases hfallback
  | counted o => exact h.counting [.observe o]
  | selected op ops source => exact (h.counting ops).use_select source
  | native => exact ⟨h.scores, h.isFallback, h.current, h.now⟩
  | time => exact ⟨h.scores, h.isFallback, h.current, hop⟩

theorem apply (h : d.IsOrderly) (hop : op.IsGiven) : (d.apply op).1.IsOrderly :=
  h.step (d.step_apply op) hop

theorem run (h : d.IsOrderly) {ops : List Operation} (hops : ∀ op ∈ ops, op.IsGiven) :
    (d.run ops).IsOrderly := by
  induction ops generalizing d with
  | nil => exact h
  | cons op ops ih =>
      obtain ⟨hop, hops⟩ := List.forall_mem_cons.mp hops
      exact ih (h.apply hop) hops

end IsOrderly

/-! ### The start -/

/-- The built-in layouts that a record names become candidates. -/
def naming (r : DetectionRecord) : List Operation :=
  ((r.scores.getD {}).scores.keys ++ r.current.toList).map .addBuiltin

theorem restore_eq (d : Detection) (r : DetectionRecord) :
    d.restore r = { d.run (naming r) with
      scores := (d.run (naming r)).scores.restore (r.scores.getD {})
      source := r.source.getD .pressedKeys
      current := (r.current.bind fun id =>
        (d.run (naming r)).candidates.find? (·.id = id)).getD
          (.fallback (d.run (naming r)).platform) } := by
  have hfold (step : Detection → String → Detection)
      (hstep : ∀ d id, step d id = (d.apply (.addBuiltin id)).1) :
      ((r.scores.getD {}).scores.keys ++ r.current.toList).foldl step d = d.run (naming r) := by
    rw [naming, run, List.foldl_map, funext₂ hstep]
  rw [restore, hfold _ fun d id => by rw [apply]; cases d.addBuiltin id <;> rfl]

theorem IsOrderly.restore (h : d.IsOrderly) {r : DetectionRecord} (hr : r.IsStorable) :
    (d.restore r).IsOrderly := by
  have hrun : (d.run (naming r)).IsOrderly := h.run (List.forall_mem_map.mpr fun id _ => trivial)
  have hscores : (r.scores.getD {}).IsStorable := by
    cases hs : r.scores with
    | none => exact ⟨.nil, nofun, Nat.two_pow_pos 32, .nil⟩
    | some s => exact hr.scores s hs
  rw [restore_eq]
  generalize d.run (naming r) = d' at hrun
  have hd := hrun.with_scores (hrun.scores.restore hscores) (d'.scores.candidates_restore _)
  refine ⟨hd.scores, hd.isFallback, fun hfallback => ?_, hd.now⟩
  dsimp only at hfallback ⊢
  cases hcurrent : r.current.bind fun id => d'.candidates.find? (·.id = id) with
  | none => rfl
  | some l =>
      rw [hcurrent, Option.getD_some] at hfallback
      obtain ⟨id, -, hl⟩ := Option.bind_eq_some_iff.mp hcurrent
      rw [hrun.isFallback l (List.mem_of_find?_eq_some hl)] at hfallback
      cases hfallback

/-- Detection before anything is read. -/
def fresh (platform : Platform) (locale : Option String)
    (native : Option (Except LayoutError NativeLayout)) (storage : Option Storage) : Detection :=
  { platform, locale, native, storage
    scores := .ofLayouts (BuiltinLayout.startup.map BuiltinLayout.layout)
    source := .pressedKeys, current := .fallback platform }

variable (platform : Platform) (locale : Option String)
    (native : Option (Except LayoutError NativeLayout)) (storage : Option Storage)

theorem start_eq : start platform locale native storage =
    match (fresh platform locale native storage).stored? with
    | some r => (fresh platform locale native storage).restore r
    | none => fresh platform locale native storage := rfl

theorem isStorable_of_stored? {r : DetectionRecord} (h : d.stored? = some r) : r.IsStorable := by
  rw [stored?] at h
  split at h
  · cases h
  · split at h
    · exact DetectionRecord.isStorable_of_ofWritten? h
    · cases h

theorem isOrderly_fresh : (fresh platform locale native storage).IsOrderly where
  scores := Scores.isOrderly_ofLayouts (by decide +kernel)
  isFallback l hl := by
    rw [fresh, candidates, Scores.candidates_ofLayouts] at hl
    revert l
    decide +kernel
  current _ := rfl
  now := by
    dsimp only [fresh]
    decide +kernel

theorem isOrderly_start : (start platform locale native storage).IsOrderly := by
  rw [start_eq]
  split
  · next hr => exact (isOrderly_fresh ..).restore (isStorable_of_stored? hr)
  · exact isOrderly_fresh ..

end Detection

end Shortcuts
