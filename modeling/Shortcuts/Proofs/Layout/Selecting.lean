import Mathlib.Data.List.Perm.Subperm
import Shortcuts.Proofs.Layout.TopScore

/-!
Which layout pressed keys select. Among the candidates with most points the hardware and the
language decide, and then the order in which they became candidates. The highest score that is kept
with the scores is one that a candidate has, as long as counts have room for their points, so there
is always a layout to select.
-/

namespace Shortcuts

/-! ### Scores with room -/

namespace Scores

variable {s : Scores} {o : Observation}

/-- No layout explains more notes than are counted in 32 bits. -/
def HasRoom (s : Scores) : Prop := ∀ l ∈ s.candidates, s.evidence l < 2 ^ 32

/-- The candidates that no other has more points than. -/
def highest (s : Scores) : List Layout :=
  (s.entries.filter fun e => s.entries.all fun e' => e'.2 ≤ e.2).map Prod.fst

/-- A layout explains no more notes than its keys have levels. -/
theorem IsTally.evidence_le_keys (hs : s.IsTally) (l : Layout) :
    s.evidence l ≤ 4 * l.native.keys.length := by
  have hsubset : (s.seen.filter l.explains).map Prod.fst ⊆
      l.native.keys.flatMap fun k => Level.all.map fun v => k.1 ++ "." ++ v.name := by
    intro place hplace
    obtain ⟨note, hnote, rfl⟩ := List.mem_map.mp hplace
    obtain ⟨code, v, hcode, hcharacter⟩ := (l.explains_iff note).mp (List.mem_filter.mp hnote).2
    obtain ⟨k, hk, -⟩ := Option.bind_eq_some_iff.mp hcharacter
    rw [← hcode]
    exact List.mem_flatMap.mpr ⟨(code, k), Fields.mem_of_lookup hk, List.mem_map_of_mem v.mem_all⟩
  have hnodup : ((s.seen.filter l.explains).map Prod.fst).Nodup :=
    hs.seen.nodup_keys.sublist (List.filter_sublist.map Prod.fst)
  have hle := (List.subperm_of_subset hnodup hsubset).length_le
  rw [List.length_map, ← List.countP_eq_length_filter, List.length_flatMap] at hle
  rw [evidence]
  refine hle.trans_eq ?_
  simp [Level.all, Nat.mul_comm]

theorem IsTally.hasRoom (hs : s.IsTally) (h : ∀ l ∈ s.candidates, l.native.keys.length < 2 ^ 30) :
    s.HasRoom := by
  intro l hl
  have hkeys := h l hl
  have hle := hs.evidence_le_keys l
  omega

structure IsSound (s : Scores) : Prop where
  nonempty : s.candidates ≠ []
  tally : s.IsTally
  bounded : s.IsBounded
  top : s.HasRoom → s.HasRealTop

theorem isSound_ofLayouts {layouts : List Layout} (h : layouts ≠ []) :
    (ofLayouts layouts).IsSound where
  nonempty := by rwa [candidates_ofLayouts]
  tally := isTally_ofLayouts layouts
  bounded := .ofLayouts layouts
  top _ := hasRealTop_ofLayouts h

theorem IsTally.score_eq (hs : s.IsTally) (hroom : s.HasRoom) {e : Layout × Nat}
    (he : e ∈ s.entries) : e.2 = s.evidence e.1 := by
  have hl : e.1 ∈ s.candidates := List.mem_map_of_mem he
  rw [hs.entries] at he
  obtain ⟨l, -, rfl⟩ := List.mem_map.mp he
  exact Nat.mod_eq_of_lt (hroom l hl)

theorem HasRoom.of_record (hseen : s.seen.lookup o.place = none) (h : (s.record o).HasRoom) :
    s.HasRoom := by
  intro l hl
  have hmore := h l (by rwa [candidates_record])
  rw [evidence_record hseen] at hmore
  omega

/-- With room for the points, none is one too many. -/
theorem IsTally.not_runsOver (hs : s.IsTally) (hreal : ∃ e ∈ s.entries, e.2 = s.top)
    (hseen : s.seen.lookup o.place = none) (hroom : (s.record o).HasRoom) : ¬ s.RunsOver o := by
  rintro ⟨-, htop, hne⟩
  obtain ⟨e, he, heq⟩ := hreal
  have hmoved := hne e he
  rw [credit] at hmoved
  split at hmoved
  · next hexplained =>
      have hmore := hroom e.1 (by rw [candidates_record]; exact List.mem_map_of_mem he)
      have hscore := hs.score_eq (.of_record hseen hroom) he
      rw [evidence_record hseen, if_pos hexplained] at hmore
      omega
  · exact hmoved heq

namespace IsSound

theorem record (hs : s.IsSound) (hseen : s.seen.lookup o.place = none) :
    (s.record o).IsSound where
  nonempty := by
    rw [candidates_record]
    exact hs.nonempty
  tally := hs.tally.record hseen
  bounded := hs.bounded.record hseen
  top hroom := by
    have htop := hs.top (.of_record hseen hroom)
    have hreal := (hasRealTop_iff hs.bounded.le_top).mp htop
    exact (hasRealTop_record_iff hs.bounded htop hseen).mpr
      (hs.tally.not_runsOver hreal hseen hroom)

theorem apply (hs : s.IsSound) (op : Operation) : (s.apply op).IsSound := by
  have hfresh := isSound_ofLayouts hs.nonempty
  cases op with
  | reset => exact hfresh
  | observe o => exact kept_observe hfresh record hs

theorem run (hs : s.IsSound) (ops : List Operation) : (s.run ops).IsSound :=
  kept_foldl IsSound (fun _ op hs => hs.apply op) hs ops

theorem leaders_eq (hs : s.IsSound) (hroom : s.HasRoom) : s.leaders = s.highest := by
  obtain ⟨e, he, htop⟩ := (hasRealTop_iff hs.bounded.le_top).mp (hs.top hroom)
  rw [leaders, highest]
  refine congrArg (List.map Prod.fst) (List.filter_congr fun e' he' => ?_)
  have hle := hs.bounded.le_top e' he'
  rw [Bool.eq_iff_iff, decide_eq_true_iff, List.all_eq_true]
  constructor
  · intro h other hother
    rw [h]
    exact decide_eq_true (hs.bounded.le_top other hother)
  · intro h
    have hge := of_decide_eq_true (h e he)
    omega

theorem leaders_ne_nil (hs : s.IsSound) (hroom : s.HasRoom) : s.leaders ≠ [] := by
  obtain ⟨e, he, htop⟩ := (hasRealTop_iff hs.bounded.le_top).mp (hs.top hroom)
  have hmem : e.1 ∈ s.leaders :=
    List.mem_map_of_mem (List.mem_filter.mpr ⟨he, decide_eq_true htop⟩)
  exact List.ne_nil_of_mem hmem

end IsSound

end Scores

/-! ### What holds of detection -/

/-- Only the two layouts that stand in are marked so. -/
def Layout.IsGenuine (l : Layout) : Prop := l.isFallback = true → ∃ p, l = .fallback p

namespace Detection

/-- What becomes a candidate is a layout from an identifier, or one that stands in. -/
def Operation.AddsGenuine : Operation → Prop
  | .addLayout l => l.IsGenuine
  | _ => True

structure IsSound (d : Detection) : Prop where
  scores : d.scores.IsSound
  nodup_ids : (d.candidates.map Layout.id).Nodup
  us : ∀ p, d.hasLayout (Layout.fallback p).id = true
  isFallback : ∀ l ∈ d.candidates, l.isFallback = false
  current : d.source = .pressedKeys → d.current ∈ d.candidates ∨ d.current = .fallback d.platform

variable {d d' : Detection} {op : Operation}

theorem Operation.AddsGenuine.isGenuine (hop : op.AddsGenuine) {l : Layout}
    (h : op.added? = some l) : l.IsGenuine := by
  cases op with
  | addLayout => exact Option.some.inj h ▸ hop
  | addBuiltin =>
      obtain ⟨b, -, rfl⟩ := Option.map_eq_some_iff.mp h
      exact fun hfallback => absurd hfallback (by rw [b.isFallback_layout]; decide)
  | choose | unchoose | observe | refresh | nativeChanged | setNative | setTime => cases h

namespace IsSound

theorem counting (h : d.IsSound) (ops : List Scores.Operation) : (d.counting ops).IsSound where
  scores := h.scores.run ops
  nodup_ids := d.candidates_counting ops ▸ h.nodup_ids
  us := by
    simp only [hasLayout, candidates_counting]
    exact h.us
  isFallback := d.candidates_counting ops ▸ h.isFallback
  current := d.candidates_counting ops ▸ h.current

theorem use_select (h : d.IsSound) (source : LayoutSource) : (d.use d.select source).IsSound := by
  rw [use_eq]
  exact ⟨h.scores, h.nodup_ids, h.us, h.isFallback, fun _ => d.select_mem_or_eq_fallback⟩

theorem entering (h : d.IsSound) {l : Layout} (hl : l.IsGenuine)
    (hnew : ¬ d.hasLayout l.id = true) : (d.entering l).IsSound := by
  refine ⟨Scores.isSound_ofLayouts (by simp), ?_, fun p => ?_, ?_, fun hsource => ?_⟩
  · rw [candidates_entering]
    exact Layout.nodup_ids_concat h.nodup_ids hnew
  · rw [hasLayout, candidates_entering, List.any_append, Bool.or_eq_true]
    exact .inl (h.us p)
  · intro l' hl'
    rw [candidates_entering] at hl'
    rcases List.mem_append.mp hl' with hl' | hl'
    · exact h.isFallback l' hl'
    · rw [List.mem_singleton.mp hl', Bool.eq_false_iff]
      intro hfallback
      obtain ⟨p, rfl⟩ := hl hfallback
      exact hnew (h.us p)
  · rw [candidates_entering]
    exact (h.current hsource).imp_left (List.mem_append_left _)

theorem step (h : d.IsSound) (hstep : d.Step op d') (hop : op.AddsGenuine) : d'.IsSound := by
  cases hstep with
  | idle => exact h
  | entered op l hadded hnew => exact h.entering (hop.isGenuine hadded) hnew
  | chosen l =>
      rw [use_eq]
      exact ⟨h.scores, h.nodup_ids, h.us, h.isFallback, LayoutSource.noConfusion⟩
  | counted o => exact h.counting [.observe o]
  | selected op ops source => exact (h.counting ops).use_select source
  | native | time => exact ⟨h.scores, h.nodup_ids, h.us, h.isFallback, h.current⟩

theorem apply (h : d.IsSound) (hop : op.AddsGenuine) : (d.apply op).1.IsSound :=
  h.step (d.step_apply op) hop

end IsSound

theorem observe_scores (h : d.source = .pressedKeys) (o : Observation) :
    (d.observe o).1.scores = (d.scores.observe o).1 ∧ (d.observe o).1.source = .pressedKeys := by
  by_cases hseen : d.scores.seen.lookup o.place = some o.character
  · rw [observe_of_idle (.inr hseen), Scores.observe_of_noted hseen]
    exact ⟨rfl, h⟩
  · rw [observe_eq h hseen]
    dsimp only
    split
    · exact ⟨rfl, h⟩
    · rw [use_eq]
      exact ⟨rfl, rfl⟩

theorem IsSound.run (h : d.IsSound) {ops : List Operation} (hops : ∀ op ∈ ops, op.AddsGenuine) :
    (d.run ops).IsSound := by
  induction ops generalizing d with
  | nil => exact h
  | cons op ops ih =>
      obtain ⟨hop, hops⟩ := List.forall_mem_cons.mp hops
      exact ih (h.apply hop) hops

theorem isSound_fresh (platform : Platform) (locale : Option String)
    (native : Option (Except LayoutError NativeLayout)) (storage : Option Storage) :
    (fresh platform locale native storage).IsSound where
  scores := Scores.isSound_ofLayouts (by decide)
  nodup_ids := by
    have horderly := (isOrderly_fresh platform locale native storage).scores.nodup_ids
    rwa [Scores.ids_eq] at horderly
  us p := by
    rw [hasLayout, candidates, fresh, Scores.candidates_ofLayouts]
    cases p <;> decide +kernel
  isFallback := (isOrderly_fresh platform locale native storage).isFallback
  current _ := .inr rfl

/-! ### The favourite -/

def Speaks (d : Detection) (l : Layout) : Prop :=
  ∃ locale, d.locale = some locale ∧ l.language.toList <+: locale.toList

theorem speaks_iff (d : Detection) (l : Layout) : d.speaks l = true ↔ d.Speaks l := by
  rw [speaks, Speaks]
  cases d.locale <;> simp

def IsFirst (p : Layout → Prop) (ls : List Layout) (l : Layout) : Prop :=
  ∃ before after, ls = before ++ l :: after ∧ p l ∧ ∀ l' ∈ before, ¬ p l'

/-- Of the candidates with most points the first of this hardware and language, else the first of
this hardware, else the first. -/
inductive Favours (d : Detection) (l : Layout) : Prop
  | spoken (h : IsFirst (fun l => l.hardware = d.platform ∧ d.Speaks l) d.scores.highest l)
  | fitting (hspoken : ∀ l' ∈ d.scores.highest, ¬ (l'.hardware = d.platform ∧ d.Speaks l'))
      (h : IsFirst (fun l => l.hardware = d.platform) d.scores.highest l)
  | any (hfitting : ∀ l' ∈ d.scores.highest, l'.hardware ≠ d.platform)
      (h : IsFirst (fun _ => True) d.scores.highest l)

theorem Favours.use {l : Layout} (h : d.Favours l) (l' : Layout) (source : LayoutSource) :
    (d.use l' source).Favours l := by
  rw [use_eq]
  cases h with
  | spoken h => exact .spoken h
  | fitting hspoken h => exact .fitting hspoken h
  | any hfitting h => exact .any hfitting h

theorem isFirst_of_find? {p : Layout → Bool} {q : Layout → Prop} (hpq : ∀ l, p l = true ↔ q l)
    {ls : List Layout} {l : Layout} (h : ls.find? p = some l) : IsFirst q ls l := by
  obtain ⟨hl, before, after, hsplit, hbefore⟩ := List.find?_eq_some_iff_append.mp h
  refine ⟨before, after, hsplit, (hpq l).mp hl, fun l' hl' hq => ?_⟩
  have hno := hbefore l' hl'
  rw [(hpq l').mpr hq] at hno
  cases hno

theorem favours_select_of_scores (h : d.scores.IsSound) (hroom : d.scores.HasRoom) :
    d.Favours d.select := by
  have hspoken (l : Layout) : (decide (l.hardware = d.platform) && d.speaks l) = true ↔
      l.hardware = d.platform ∧ d.Speaks l := by
    rw [Bool.and_eq_true, decide_eq_true_iff, speaks_iff]
  have hfitting (l : Layout) : decide (l.hardware = d.platform) = true ↔
      l.hardware = d.platform := decide_eq_true_iff
  have hnonempty := h.leaders_ne_nil hroom
  rw [select, h.leaders_eq hroom]
  rw [h.leaders_eq hroom] at hnonempty
  cases hfirst : d.scores.highest.find? fun l => decide (l.hardware = d.platform) && d.speaks l with
  | some l => exact .spoken (isFirst_of_find? hspoken hfirst)
  | none =>
      have hno : ∀ l ∈ d.scores.highest, ¬ (l.hardware = d.platform ∧ d.Speaks l) :=
        fun l hl hboth => List.find?_eq_none.mp hfirst l hl ((hspoken l).mpr hboth)
      cases hsecond : d.scores.highest.find? fun l => decide (l.hardware = d.platform) with
      | some l => exact .fitting hno (isFirst_of_find? hfitting hsecond)
      | none =>
          obtain ⟨l, ls, hls⟩ := List.exists_cons_of_ne_nil hnonempty
          have hhead : d.scores.highest.head? = some l := by rw [hls, List.head?_cons]
          rw [hhead]
          refine .any (fun l' hl' hfits => ?_) ⟨[], ls, hls, trivial, by simp⟩
          exact List.find?_eq_none.mp hsecond l' hl' ((hfitting l').mpr hfits)

theorem favours_select (h : d.IsSound) (hroom : d.scores.HasRoom) : d.Favours d.select :=
  favours_select_of_scores h.scores hroom

theorem IsSound.select_mem (h : d.IsSound) (hroom : d.scores.HasRoom) :
    d.select ∈ d.candidates :=
  Scores.mem_candidates_of_mem_leaders
    (d.select_mem_leaders_or.resolve_right fun hnone => h.scores.leaders_ne_nil hroom hnone.1)

/-! ### Pressed keys -/

/-- A candidate that is the same as the current layout but for its keys is that layout. -/
theorem IsSound.eq_current (h : d.IsSound) (hsource : d.source = .pressedKeys) {l : Layout}
    (hl : l ∈ d.candidates) (hsame : (l == d.current) = true) : l = d.current := by
  rcases h.current hsource with hcurrent | hfallback
  · exact List.inj_on_of_nodup_map h.nodup_ids hl hcurrent (Layout.id_eq_of_beq hsame)
  · have hflag := (Layout.beq_iff.mp hsame).1
    rw [h.isFallback l hl, hfallback] at hflag
    cases hflag

/-- A key that was seen before to produce what it does changes nothing, and none does unless layouts
are told by pressed keys. Any other is counted, and then the current layout is the favourite, never
one that stands in. Its keys are announced exactly when it was not the current layout before. There
is a favourite as long as counts have room, and so whenever no layout has a billion keys. -/
theorem observe_selects (platform : Platform) (locale : Option String)
    (native : Option (Except LayoutError NativeLayout)) (storage : Option Storage)
    (hfresh : (fresh platform locale native storage).stored? = none) {ops : List Operation}
    (hops : ∀ op ∈ ops, op.AddsGenuine) (o : Observation) :
    let d := (start platform locale native storage).run ops
    let d' := (d.observe o).1
    (d.source ≠ .pressedKeys ∨ d.scores.seen.lookup o.place = some o.character →
      d.observe o = (d, none)) ∧
    (d.source = .pressedKeys → d.scores.seen.lookup o.place ≠ some o.character →
      d'.scores = (d.scores.observe o).1 ∧ d'.source = .pressedKeys ∧
      (d'.scores.HasRoom → d'.Favours d'.current ∧ d'.current.isFallback = false ∧
        ∀ n, (d.observe o).2 = some n ↔ d'.current ≠ d.current ∧ n = d'.current.native)) ∧
    ((∀ l ∈ d'.candidates, l.native.keys.length < 2 ^ 30) → d'.scores.HasRoom) := by
  intro d d'
  have hsound : d.IsSound := by
    have hstart : start platform locale native storage = fresh platform locale native storage := by
      rw [start_eq, hfresh]
    rw [show d = (fresh platform locale native storage).run ops from hstart ▸ rfl]
    exact (isSound_fresh platform locale native storage).run hops
  refine ⟨observe_of_idle, fun hsource hnew => ?_, (hsound.step (d.step_observe o) trivial).scores.tally.hasRoom⟩
  obtain ⟨hscores, hstays⟩ := observe_scores hsource o
  refine ⟨hscores, hstays, fun hroom => ?_⟩
  have hobserve := observe_eq hsource hnew
  generalize hv : d.counting [.observe o] = v at hobserve
  have hvsound : v.IsSound := hv ▸ hsound.counting [.observe o]
  have hcurrent : v.current = d.current := hv ▸ rfl
  have hvsource : v.source = .pressedKeys := hv ▸ hsource
  dsimp only at hobserve
  split at hobserve
  · next hsame =>
      have hd' : d' = v := congrArg Prod.fst hobserve
      rw [hd'] at hroom
      rw [hd', hobserve]
      have hselect := hvsound.select_mem hroom
      rw [hvsound.isFallback _ hselect, Bool.or_false, ← hcurrent] at hsame
      have hsame := hvsound.eq_current hvsource hselect hsame
      refine ⟨hsame ▸ favours_select hvsound hroom,
        hsame ▸ hvsound.isFallback _ hselect, fun n => ?_⟩
      exact iff_of_false nofun fun h => h.1 hcurrent
  · next hother =>
      have hd' : d' = v.use v.select .pressedKeys := congrArg Prod.fst hobserve
      have hselected : d'.current = v.select := by rw [hd', current_use]
      rw [hd', use_eq] at hroom
      rw [hobserve, hselected, hd']
      refine ⟨(favours_select hvsound hroom).use _ _,
        hvsound.isFallback _ (hvsound.select_mem hroom), fun n => ?_⟩
      have hne : v.select ≠ d.current := by
        intro heq
        refine hother ?_
        rw [Bool.or_eq_true]
        exact .inl (Layout.beq_iff.mpr (heq ▸ ⟨rfl, rfl, rfl, rfl⟩))
      rw [Option.some_inj, eq_comm]
      exact (and_iff_right hne).symm

def englishWithGerman : Detection :=
  (start .pc (some "en-US") none none).run [.addBuiltin "de-German-pc", .refresh]

def germanY : Observation := { code := "KeyZ", character := "y" }

/-- Its `y` decides for the German layout, against the language and the order. -/
theorem observe_selects_german :
    let d' := (englishWithGerman.observe germanY).1
    (fresh .pc (some "en-US") none none).stored? = none ∧
      englishWithGerman.source = .pressedKeys ∧
      englishWithGerman.scores.seen.lookup germanY.place ≠ some germanY.character ∧
      d'.current.id = "de-German-pc" ∧ d'.Favours d'.current ∧
      ∀ n, (englishWithGerman.observe germanY).2 = some n ↔
        d'.current ≠ englishWithGerman.current ∧ n = d'.current.native := by
  have hfresh : (fresh .pc (some "en-US") none none).stored? = none := rfl
  have hops : ∀ op ∈ [.addBuiltin "de-German-pc", .refresh], Operation.AddsGenuine op := by
    simp [Operation.AddsGenuine]
  have hinputs : englishWithGerman.source = .pressedKeys ∧
      englishWithGerman.scores.seen.lookup germanY.place ≠ some germanY.character ∧
      (englishWithGerman.observe germanY).1.current.id = "de-German-pc" ∧
      ∀ l ∈ (englishWithGerman.observe germanY).1.candidates, l.native.keys.length < 2 ^ 30 := by
    decide +kernel
  unfold englishWithGerman at *
  obtain ⟨hsource, hnew, hid, hlength⟩ := hinputs
  obtain ⟨-, hselects, hkeys⟩ := observe_selects .pc (some "en-US") none none hfresh hops germanY
  obtain ⟨-, -, hfavours⟩ := hselects hsource hnew
  obtain ⟨hfavourite, -, hannounced⟩ := hfavours (hkeys hlength)
  exact ⟨hfresh, hsource, hnew, hid, hfavourite, hannounced⟩

end Detection

end Shortcuts
