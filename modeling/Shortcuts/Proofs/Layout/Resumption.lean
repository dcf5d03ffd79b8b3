import Shortcuts.Proofs.Layout.Orderly

/-!
What a later start takes up from the state that was stored last. Layouts are stored by their
identifiers, so that built-in ones come back with their keys. A layout that is not built in gives
way to the fallback.
-/

namespace Shortcuts

namespace BuiltinLayout

theorem eq_of_id_eq {b c : BuiltinLayout} (h : b.id = c.id) : b = c := by
  have hc := ofId?_id c
  rw [← h, ofId?_id b] at hc
  exact Option.some.inj hc

end BuiltinLayout

namespace Scores

/-- A candidate by its identifier, with its score. -/
def find? (s : Scores) (id : String) : Option (Layout × Nat) := s.entries.find? (·.1.id = id)

section

variable {s : Scores} (h : (s.entries.map fun e => e.1.id).Nodup)

include h

theorem find?_eq_some_iff {id : String} {e : Layout × Nat} :
    s.find? id = some e ↔ e ∈ s.entries ∧ e.1.id = id := by
  constructor
  · exact fun he => ⟨List.mem_of_find?_eq_some he, by simpa using List.find?_some he⟩
  · rintro ⟨he, rfl⟩
    obtain ⟨e', he'⟩ := Option.isSome_iff_exists.mp
      (List.find?_isSome (p := fun e' => e'.1.id = e.1.id).mpr ⟨e, he, by simp⟩)
    have hid : e'.1.id = e.1.id := by simpa using List.find?_some he'
    obtain rfl := List.inj_on_of_nodup_map h (List.mem_of_find?_eq_some he') he hid
    exact he'

theorem lookup_toRecord {l : Layout} {n : Nat} (hl : (l, n) ∈ s.entries) :
    s.toRecord.scores.lookup l.id = some n := by
  refine Fields.lookup_ofList_of_mem ?_ (List.mem_map.mpr ⟨(l, n), hl, rfl⟩)
  rw [List.map_map]
  exact h

end

theorem find?_restore (s : Scores) (r : ScoreRecord) (id : String) :
    (s.restore r).find? id =
      (s.candidates.find? (·.id = id)).map fun l => (l, (r.scores.lookup l.id).getD 0) := by
  rw [find?, restore, List.find?_map]
  rfl

end Scores

namespace Detection

variable {d v e : Detection} {op : Operation} {ops : List Operation}

/-! ### What is stored -/

/-- Whether the state is stored with an operation. -/
def saves (d : Detection) : Operation → Bool
  | .choose l => !(d.source = .choice && d.current == l)
  | .unchoose => d.source = .choice
  | .observe o => (d.observe o).2.isSome
  | .refresh | .nativeChanged => d.source ≠ .choice
  | _ => false

/-- The state that is stored last in a run. -/
def lastSaved (d : Detection) : List Operation → Option Detection
  | [] => none
  | op :: ops =>
    (lastSaved (d.apply op).1 ops).or (if d.saves op then some (d.apply op).1 else none)

/-- What was stored can be read, and more can be stored. -/
def Works (d : Detection) : Prop := (d.storage.any fun st => st.contents.isOk) = true

theorem storage_autodetect (d : Detection) : d.autodetect.1.storage = d.storage := by
  rw [autodetect]
  split <;> rfl

/-- The next state is stored exactly if it should be. -/
def Stores (d d' : Detection) (saved : Bool) : Prop :=
  saved = true ∧ (∃ d₀ : Detection, d₀.storage = d.storage ∧ d' = d₀.save) ∨
    saved = false ∧ d'.storage = d.storage

theorem stores_use {d₀ : Detection} (h : d₀.storage = d.storage) (l : Layout)
    (source : LayoutSource) : d.Stores (d₀.use l source) true :=
  .inl ⟨rfl, { d₀ with current := l, source }, h, rfl⟩

theorem stores_of_storage_eq {d' : Detection} (h : d'.storage = d.storage) : d.Stores d' false :=
  .inr ⟨rfl, h⟩

theorem stores_use_autodetect (d : Detection) :
    d.Stores (d.autodetect.1.use d.autodetect.2.1 d.autodetect.2.2) true :=
  stores_use d.storage_autodetect _ _

theorem stores_refresh (d : Detection) : d.Stores d.refresh (d.source ≠ .choice) := by
  rw [refresh]
  by_cases h : d.source = .choice
  · rw [if_pos h, decide_eq_false (not_not_intro h)]
    exact stores_of_storage_eq rfl
  · rw [if_neg h, decide_eq_true h]
    exact d.stores_use_autodetect

theorem stores_choose (d : Detection) (l : Layout) :
    d.Stores (d.choose l).1 (!(d.source = .choice && d.current == l)) := by
  rw [choose]
  cases (d.source = .choice && d.current == l) with
  | true => exact stores_of_storage_eq rfl
  | false => exact stores_use rfl l .choice

theorem stores_unchoose (d : Detection) : d.Stores d.unchoose.1 (d.source = .choice) := by
  rw [unchoose]
  by_cases h : d.source = .choice
  · rw [if_pos h, decide_eq_true h]
    exact d.stores_use_autodetect
  · rw [if_neg h, decide_eq_false h]
    exact stores_of_storage_eq rfl

theorem stores_observe (d : Detection) (o : Observation) :
    d.Stores (d.observe o).1 (d.observe o).2.isSome := by
  rw [observe]
  split
  · exact stores_of_storage_eq rfl
  · split
    · exact stores_of_storage_eq rfl
    · next scores _ =>
        have hscores : ({ d with scores } : Detection).storage = d.storage := rfl
        dsimp only
        split
        · exact stores_of_storage_eq rfl
        · exact stores_use hscores _ _

theorem stores_apply (d : Detection) (op : Operation) : d.Stores (d.apply op).1 (d.saves op) := by
  cases op with
  | choose l => exact d.stores_choose l
  | unchoose => exact d.stores_unchoose
  | observe o => exact d.stores_observe o
  | refresh | nativeChanged => exact d.stores_refresh
  | addLayout l => exact stores_of_storage_eq (by rw [apply, addLayout_eq])
  | addBuiltin id =>
      refine stores_of_storage_eq ?_
      rw [apply]
      split
      · next h => rw [addBuiltin_eq h]
      · rfl
  | setNative _ | setTime _ => exact stores_of_storage_eq rfl

/-! ### Reading what was stored -/

theorem stored?_congr (h : e.storage = d.storage) : e.stored? = d.stored? := by
  rw [stored?, h, stored?]

theorem toRecord_save (d : Detection) : d.save.toRecord = d.toRecord := by
  rw [save_eq]
  rfl

theorem IsOrderly.isStorable_toRecord (h : d.IsOrderly) : d.toRecord.IsStorable where
  scores := by
    rintro s ⟨⟩
    exact h.scores.toRecord
  time := by
    rintro t ⟨⟩
    exact h.now

theorem stored?_save (h : d.Works) (hsave : d.save.Works) (hr : d.toRecord.IsStorable) :
    d.save.stored? = some d.save.toRecord := by
  rw [toRecord_save]
  cases hst : d.storage with
  | none => rw [Works, hst] at h; cases h
  | some st =>
      cases hdata : st.contents with
      | error e => rw [Works, hst, Option.any_some, hdata] at h; cases h
      | ok data =>
          obtain ⟨st', hput⟩ : ∃ st', st.put storageKey d.toRecord.toJson = .ok st' := by
            rw [Storage.put, hdata]
            exact ⟨_, rfl⟩
          have hst' : d.save.storage = some st' := by
            rw [save, hst]
            dsimp only
            rw [hput]
          cases hdata' : st'.contents with
          | error e => rw [Works, hst', Option.any_some, hdata'] at hsave; cases hsave
          | ok data' =>
              have hkeeps := DetectionRecord.keeps_toJson hr 123
              have hget := Storage.get_put hput hdata' hkeeps
              rw [stored?, hst']
              dsimp only
              rw [hget]
              exact DetectionRecord.ofWritten?_toJson hr

theorem lastSaved_eq_some (h : d.lastSaved ops = some v) :
    ∃ before op after, ops = before ++ [op] ++ after ∧ (d.run before).saves op = true ∧
      v = d.run (before ++ [op]) ∧ v.lastSaved after = none := by
  induction ops generalizing d with
  | nil => cases h
  | cons op ops ih =>
      rw [lastSaved] at h
      cases hrest : (d.apply op).1.lastSaved ops with
      | some v' =>
          rw [hrest] at h
          cases h
          obtain ⟨before, op', after, rfl, hsaves, hv, hafter⟩ := ih hrest
          exact ⟨op :: before, op', after, rfl, hsaves, hv, hafter⟩
      | none =>
          rw [hrest, Option.none_or] at h
          split at h
          · next hsaves =>
              cases h
              exact ⟨[], op, ops, rfl, hsaves, rfl, hrest⟩
          · cases h

theorem storage_of_lastSaved (h : d.lastSaved ops = none) : (d.run ops).storage = d.storage := by
  induction ops generalizing d with
  | nil => rfl
  | cons op ops ih =>
      rw [lastSaved, Option.or_eq_none_iff] at h
      obtain ⟨hrest, hop⟩ := h
      have hsaves : ¬ d.saves op = true := fun hsaves => by simp [hsaves] at hop
      rcases d.stores_apply op with ⟨htrue, -⟩ | ⟨-, hstorage⟩
      · exact absurd htrue hsaves
      · exact (ih hrest).trans hstorage

theorem platform_run (d : Detection) (ops : List Operation) :
    (d.run ops).platform = d.platform :=
  kept_foldl (fun d' : Detection => d'.platform = d.platform)
    (fun d' op h => (d'.platform_apply op).trans h) rfl ops

/-- What is read after a run is what was stored last in it. -/
theorem stored?_run (h : d.IsOrderly) (hgiven : ∀ op ∈ ops, op.IsGiven)
    (hworks : ∀ part, part <+: ops → (d.run part).Works) (hv : d.lastSaved ops = some v) :
    v.IsOrderly ∧ v.platform = d.platform ∧ (d.run ops).stored? = some v.toRecord := by
  obtain ⟨before, op, after, rfl, hsaves, rfl, hafter⟩ := lastSaved_eq_some hv
  have hparts : ∀ op' ∈ before ++ [op], op'.IsGiven := fun op' hop' =>
    hgiven op' (List.mem_append_left after hop')
  have horderly := h.run hparts
  refine ⟨horderly, d.platform_run _, ?_⟩
  have hbefore := hworks before (by rw [List.append_assoc]; exact List.prefix_append _ _)
  have hthen := hworks (before ++ [op]) (List.prefix_append _ _)
  rw [run_append, stored?_congr (storage_of_lastSaved hafter)]
  have hstep : d.run (before ++ [op]) = ((d.run before).apply op).1 := d.run_append before [op]
  rw [hstep] at horderly hthen ⊢
  rcases (d.run before).stores_apply op with ⟨-, d', hstorage, heq⟩ | ⟨hfalse, -⟩
  · rw [heq] at horderly hthen ⊢
    have hd' : d'.Works := by rwa [Works, hstorage]
    exact stored?_save hd' hthen (d'.toRecord_save ▸ horderly.isStorable_toRecord)
  · rw [hsaves] at hfalse
    cases hfalse

def InMemory (d : Detection) : Prop := ∃ data, d.storage = some (.memory data)

theorem InMemory.save (h : d.InMemory) : d.save.InMemory := by
  obtain ⟨data, hdata⟩ := h
  have hput : (Storage.memory data).put storageKey d.toRecord.toJson =
      .ok (.memory (data.insert storageKey d.toRecord.toJson)) := rfl
  rw [Detection.save, hdata]
  dsimp only
  rw [hput]
  exact ⟨_, rfl⟩

/-- Storage in memory works all the time. -/
theorem InMemory.works_run (h : d.InMemory) (ops : List Operation) : (d.run ops).Works := by
  have hrun : (d.run ops).InMemory := by
    refine kept_foldl InMemory (fun d op h => ?_) h ops
    rcases d.stores_apply op with ⟨-, d', hstorage, heq⟩ | ⟨-, hstorage⟩
    · rw [heq]
      have hd' : d'.InMemory := by rwa [InMemory, hstorage]
      exact hd'.save
    · rwa [InMemory, hstorage]
  obtain ⟨data, hdata⟩ := hrun
  rw [Works, hdata]
  rfl

/-! ### Taking it up -/

/-- All candidates are built in. -/
def OffersBuiltin (d : Detection) : Prop := ∀ l ∈ d.candidates, ∃ b : BuiltinLayout, l = b.layout

theorem hasLayout_addBuiltin (b : BuiltinLayout) (d : Detection) :
    (d.apply (.addBuiltin b.id)).1.hasLayout b.id = true := by
  have hadded : (Operation.addBuiltin b.id).added? = some b.layout := by
    rw [Operation.added?, b.ofId?_id, Option.map_some]
  rcases (d.step_apply (.addBuiltin b.id)).candidates with ⟨hknown, hsame⟩ | ⟨l, hl, -, hmore⟩
  · rw [hasLayout, hsame, ← b.id_layout]
    exact hknown b.layout hadded
  · cases hadded.symm.trans hl
    rw [hasLayout, hmore, List.any_append, List.any_cons, b.id_layout]
    simp only [decide_true, Bool.true_or, Bool.or_true]

theorem OffersBuiltin.addBuiltin (h : d.OffersBuiltin) (id : String) :
    (d.apply (.addBuiltin id)).1.OffersBuiltin := by
  intro l hl
  rcases (d.step_apply (.addBuiltin id)).candidates with ⟨-, hsame⟩ | ⟨l', hl', -, hmore⟩
  · rw [hsame] at hl
    exact h l hl
  · obtain ⟨b, -, rfl⟩ := Option.map_eq_some_iff.mp hl'
    rw [hmore] at hl
    rcases List.mem_append.mp hl with hl | hl
    · exact h l hl
    · exact ⟨b, List.mem_singleton.mp hl⟩

theorem OffersBuiltin.naming (h : d.OffersBuiltin) (r : DetectionRecord) :
    (d.run (naming r)).OffersBuiltin := by
  rw [Detection.naming, run, List.foldl_map]
  exact kept_foldl OffersBuiltin (fun _ id h => h.addBuiltin id) h _

theorem hasLayout_naming (d : Detection) {r : DetectionRecord} {b : BuiltinLayout}
    (hb : b.id ∈ (r.scores.getD {}).scores.keys ++ r.current.toList) :
    (d.run (naming r)).hasLayout b.id = true := by
  rw [naming, run, List.foldl_map]
  exact foldl_turned (P := fun _ => True) (Q := fun d : Detection => d.hasLayout b.id = true)
    (fun _ _ _ => trivial) (fun d _ => hasLayout_addBuiltin b d)
    (fun d id h => (d.step_apply (.addBuiltin id)).hasLayout h) trivial hb

theorem OffersBuiltin.find?_eq_some (h : d.OffersBuiltin) {b : BuiltinLayout}
    (hb : d.hasLayout b.id = true) : d.candidates.find? (·.id = b.id) = some b.layout := by
  obtain ⟨l, hl⟩ := Option.isSome_iff_exists.mp
    (List.find?_isSome.mpr (List.any_eq_true.mp hb))
  obtain ⟨c, rfl⟩ := h l (List.mem_of_find?_eq_some hl)
  have hid : c.layout.id = b.id := by simpa using List.find?_some hl
  rw [hl, BuiltinLayout.eq_of_id_eq (c.id_layout.symm.trans hid)]

theorem OffersBuiltin.find?_eq_none (h : d.OffersBuiltin) {id : String}
    (hid : ∀ b : BuiltinLayout, b.id ≠ id) : d.candidates.find? (·.id = id) = none := by
  refine List.find?_eq_none.mpr fun l hl => ?_
  obtain ⟨b, rfl⟩ := h l hl
  rw [b.id_layout]
  simpa using hid b

/-- A later start takes up what is stored of a state. Built-in layouts are looked up by their
identifiers. A current layout that is not built in gives way to the fallback, and scores of such
layouts are forgotten. -/
structure ResumedBy (v e : Detection) : Prop where
  source : e.source = v.source
  top : e.scores.top = v.scores.top
  seen : e.scores.seen = v.scores.seen
  score : ∀ (b : BuiltinLayout) l n, v.scores.find? b.id = some (l, n) →
    e.scores.find? b.id = some (b.layout, n)
  forgotten : ∀ id, (∀ b : BuiltinLayout, b.id ≠ id) → e.scores.find? id = none
  builtin : ∀ b : BuiltinLayout, v.current.isFallback = false → v.current.id = b.id →
    e.current = b.layout
  custom : v.current.isFallback = false → (∀ b : BuiltinLayout, b.id ≠ v.current.id) →
    e.current = .fallback v.platform
  fallback : v.current.isFallback = true → e.current = v.current

theorem resumedBy_restore (hd : d.OffersBuiltin) (hv : v.IsOrderly)
    (hplatform : v.platform = d.platform) : v.ResumedBy (d.restore v.toRecord) := by
  have hoffers := hd.naming v.toRecord
  have hrun : (d.run (naming v.toRecord)).platform = v.platform :=
    (d.platform_run _).trans hplatform.symm
  have hscores : v.toRecord.scores.getD {} = v.scores.toRecord := rfl
  have hcurrent : v.current.isFallback = false → v.toRecord.current = some v.current.id := by
    intro hfallback
    rw [toRecord, hfallback]
    rfl
  rw [restore_eq, hscores]
  refine ⟨rfl, rfl, rfl, fun b l n hfind => ?_, fun id hid => ?_, fun b hfallback hid => ?_,
    fun hfallback hid => ?_, fun hfallback => ?_⟩
  · have hids := hv.scores.nodup_ids
    obtain ⟨hl, hid : l.id = b.id⟩ := (Scores.find?_eq_some_iff hids).mp hfind
    have hlookup := Scores.lookup_toRecord hids hl
    rw [hid] at hlookup
    have hkey : b.id ∈ (v.toRecord.scores.getD {}).scores.keys :=
      List.mem_map.mpr ⟨_, Fields.mem_of_lookup hlookup, rfl⟩
    have hhas := d.hasLayout_naming (List.mem_append_left v.toRecord.current.toList hkey)
    dsimp only
    rw [Scores.find?_restore, ← candidates, hoffers.find?_eq_some hhas, Option.map_some,
      b.id_layout, hlookup]
    rfl
  · dsimp only
    rw [Scores.find?_restore, ← candidates, hoffers.find?_eq_none hid]
    rfl
  · have hname : b.id ∈ v.toRecord.current.toList := by simp [hcurrent hfallback, hid]
    have hhas := d.hasLayout_naming (List.mem_append_right _ hname)
    dsimp only
    rw [hcurrent hfallback, Option.bind_some, hid, hoffers.find?_eq_some hhas]
    rfl
  · dsimp only
    rw [hcurrent hfallback, Option.bind_some, hoffers.find?_eq_none hid, hrun]
    rfl
  · have hnone : v.toRecord.current = none := by
      rw [toRecord, hfallback]
      rfl
    dsimp only
    rw [hnone, hrun, hv.current hfallback]
    rfl

section

variable (platform : Platform) (locale : Option String)
    (native later : Option (Except LayoutError NativeLayout)) (storage : Option Storage)

theorem offersBuiltin_fresh : (fresh platform locale native storage).OffersBuiltin := by
  intro l hl
  rw [fresh, candidates, Scores.candidates_ofLayouts] at hl
  obtain ⟨b, -, rfl⟩ := List.mem_map.mp hl
  exact ⟨b, rfl⟩

theorem platform_start : (start platform locale native storage).platform = platform := by
  rw [start_eq]
  split
  · rw [restore_eq]
    exact platform_run _ _
  · rfl

theorem storage_start : (start platform locale native storage).storage = storage := by
  rw [start_eq]
  split
  · next r _ =>
      rw [restore_eq]
      dsimp only
      rw [naming, run, List.foldl_map]
      refine kept_foldl (fun d : Detection => d.storage = storage) (fun d id h => ?_) rfl _
      rcases d.stores_apply (.addBuiltin id) with ⟨hsaves, -⟩ | ⟨-, hstorage⟩
      · cases hsaves
      · exact hstorage.trans h
  · rfl

/-- A start after a run, over the same storage and on the same platform, takes up the state that was
stored last in it. Where none was, it starts as the run did. -/
theorem start_resumes (ops : List Operation) (hgiven : ∀ op ∈ ops, op.IsGiven)
    (hworks : ∀ part, part <+: ops → ((start platform locale native storage).run part).Works) :
    (∀ v, (start platform locale native storage).lastSaved ops = some v → v.ResumedBy
      (start platform locale later ((start platform locale native storage).run ops).storage)) ∧
    ((start platform locale native storage).lastSaved ops = none →
      start platform locale native ((start platform locale native storage).run ops).storage =
        start platform locale native storage) := by
  constructor
  · intro v hv
    obtain ⟨horderly, hplatform, hstored⟩ :=
      stored?_run (isOrderly_start platform locale native storage) hgiven hworks hv
    rw [platform_start] at hplatform
    generalize (start platform locale native storage).run ops = d at hstored ⊢
    have hread : (fresh platform locale later d.storage).stored? = some v.toRecord :=
      (stored?_congr rfl).trans hstored
    rw [start_eq, hread]
    exact resumedBy_restore (offersBuiltin_fresh _ _ _ _) horderly hplatform
  · intro hnone
    rw [storage_of_lastSaved hnone, storage_start]

end

/-- A start over an empty memory. -/
def overMemory : Detection := start .pc none none (some (.memory []))

theorem inMemory_overMemory : overMemory.InMemory := ⟨[], storage_start _ _ _ _⟩

/-- A German layout tells itself. -/
def germanTyping : List Operation :=
  [.addBuiltin "de-German-pc", .observe { code := "KeyZ", character := "y" }]

theorem german_resumed : ∃ v, overMemory.lastSaved germanTyping = some v ∧
    v.ResumedBy (start .pc none none (overMemory.run germanTyping).storage) := by
  have hsaved : (overMemory.lastSaved germanTyping).isSome = true := by decide +kernel
  have hgiven : ∀ op ∈ germanTyping, op.IsGiven :=
    List.forall_mem_cons.mpr ⟨trivial, List.forall_mem_singleton.mpr trivial⟩
  obtain ⟨v, hv⟩ := Option.isSome_iff_exists.mp hsaved
  refine ⟨v, hv, (start_resumes .pc none none none (some (.memory [])) germanTyping hgiven ?_).1 v hv⟩
  exact fun part _ => inMemory_overMemory.works_run part

/-- A layout that is not built in. -/
def unknownLayout : Layout := { name := "Custom", hardware := .pc, language := "xx", native := {} }

/-- What the user chose is stored, and a later start finds another layout. -/
theorem unknown_not_resumed :
    Layout.ofId "xx-Custom-pc" {} = .ok unknownLayout ∧
      (∀ part, (overMemory.run part).Works) ∧
      overMemory.lastSaved [.choose unknownLayout] =
        some (overMemory.run [.choose unknownLayout]) ∧
      (start .pc none none (overMemory.run [.choose unknownLayout]).storage).current.id ≠
        (overMemory.run [.choose unknownLayout]).current.id := by
  refine ⟨rfl, inMemory_overMemory.works_run, rfl, ?_⟩
  decide +kernel

end Detection

end Shortcuts
