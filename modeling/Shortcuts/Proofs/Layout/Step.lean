import Shortcuts.Proofs.Layout.Evidence
import Shortcuts.Proofs.Layout.Operation

/-!
What an operation makes of detection. A layout becomes a candidate, the user chooses one, or scores
are counted on and the best candidate is selected. What holds of detection all the time is shown for
these few cases, and not for every operation anew.
-/

namespace Shortcuts

namespace BuiltinLayout

theorem ofId?_id (b : BuiltinLayout) : ofId? b.id = some b := by
  cases b <;> decide

theorem id_of_ofId? {id : String} {b : BuiltinLayout} (h : ofId? id = some b) : b.id = id := by
  simpa using List.find?_some h

theorem id_layout (b : BuiltinLayout) : b.layout.id = b.id := by
  cases b <;> decide +kernel

theorem load_id (b : BuiltinLayout) : load b.id = .ok b.layout := by
  cases b <;> rfl

end BuiltinLayout

namespace Detection

variable {d d' : Detection} {op : Operation}

/-- The layout that an operation offers as a candidate. -/
def Operation.added? : Operation → Option Layout
  | .addLayout l => some l
  | .addBuiltin id => (BuiltinLayout.ofId? id).map BuiltinLayout.layout
  | _ => none

/-- Whether an operation may select a layout, by how the current one was found. -/
def Operation.Searches : Operation → LayoutSource → Prop
  | .unchoose, source => source = .choice
  | .observe _, source => source = .pressedKeys
  | .refresh, source | .nativeChanged, source => source ≠ .choice
  | _, _ => False

theorem Operation.Searches.added?_eq {source : LayoutSource} (h : op.Searches source) :
    op.added? = none := by
  cases op with
  | addLayout | addBuiltin => exact h.elim
  | choose | unchoose | observe | refresh | nativeChanged | setNative | setTime => rfl

/-- Scores are counted on, for the same candidates. -/
def counting (d : Detection) (ops : List Scores.Operation) : Detection :=
  { d with scores := d.scores.run ops }

theorem candidates_counting (d : Detection) (ops : List Scores.Operation) :
    (d.counting ops).candidates = d.candidates := d.scores.candidates_run ops

/-- A layout comes behind the candidates, and scores start over. -/
def entering (d : Detection) (l : Layout) : Detection :=
  { d with scores := .ofLayouts (d.candidates ++ [l]) }

theorem candidates_entering (d : Detection) (l : Layout) :
    (d.entering l).candidates = d.candidates ++ [l] := Scores.candidates_ofLayouts _

theorem candidates_use (d : Detection) (l : Layout) (source : LayoutSource) :
    (d.use l source).candidates = d.candidates := by
  rw [use_eq]
  rfl

theorem platform_use (d : Detection) (l : Layout) (source : LayoutSource) :
    (d.use l source).platform = d.platform := by
  rw [use_eq]

theorem locale_use (d : Detection) (l : Layout) (source : LayoutSource) :
    (d.use l source).locale = d.locale := by
  rw [use_eq]

/-- What an operation can make of detection. Only a layout with a name of its own is entered beside
the candidates, and a choice of the user outlasts everything but its end. -/
inductive Step (d : Detection) : Operation → Detection → Prop
  | idle (op : Operation) (hknown : ∀ l ∈ op.added?, d.hasLayout l.id = true) : Step d op d
  | entered (op : Operation) (l : Layout) (hadded : op.added? = some l)
      (hnew : ¬ d.hasLayout l.id = true) : Step d op (d.entering l)
  | chosen (l : Layout) : Step d (.choose l) (d.use l .choice)
  | counted (o : Observation) (hsource : d.source = .pressedKeys) :
      Step d (.observe o) (d.counting [.observe o])
  | selected (op : Operation) (ops : List Scores.Operation) (source : LayoutSource)
      (hop : op.Searches d.source) (hsource : source ≠ .choice) :
      Step d op ((d.counting ops).use (d.counting ops).select source)
  | native (native : Option (Except LayoutError NativeLayout)) :
      Step d (.setNative native) { d with native }
  | time (now : String) : Step d (.setTime now) { d with now }

/-! ### Every operation -/

theorem step_idle (hnone : op.added? = none) : d.Step op d := .idle op (by simp [hnone])

theorem step_addLayout {l : Layout} (hadded : op.added? = some l) : d.Step op (d.addLayout l) := by
  rw [addLayout]
  split
  · next hknown => exact .idle op fun l' hl' => Option.some.inj (hadded.symm.trans hl') ▸ hknown
  · next hnew => exact .entered op l hadded hnew

theorem addBuiltin_of_ofId? {id : String} {b : BuiltinLayout} (h : BuiltinLayout.ofId? id = some b)
    (d : Detection) : d.addBuiltin id = .ok (d.addLayout b.layout) := by
  cases BuiltinLayout.id_of_ofId? h
  rw [addBuiltin, b.load_id]
  split
  · next hknown => rw [addLayout, b.id_layout, if_pos hknown]
  · rfl

theorem step_addBuiltin (d : Detection) (id : String) :
    d.Step (.addBuiltin id) (d.apply (.addBuiltin id)).1 := by
  rw [apply]
  cases hb : BuiltinLayout.ofId? id with
  | some b =>
      rw [addBuiltin_of_ofId? hb]
      exact step_addLayout (by rw [Operation.added?, hb, Option.map_some])
  | none =>
      have hload : BuiltinLayout.load id = .error (.unknown id) := by rw [BuiltinLayout.load, hb]
      have hidle : d.Step (.addBuiltin id) d :=
        step_idle (by rw [Operation.added?, hb, Option.map_none])
      rw [addBuiltin, hload]
      cases d.hasLayout id <;> exact hidle

theorem scoreNative_eq_run (s : Scores) (n : NativeLayout) :
    ∃ ops, scoreNative s n = s.run (.reset :: ops) := by
  refine ⟨n.keys.filterMap fun e =>
    (e.2.get? .plain).map fun c => .observe { code := e.1, character := c }, ?_⟩
  rw [scoreNative, Scores.run, List.foldl_cons, List.foldl_filterMap]
  refine congrArg (fun step => n.keys.foldl step s.reset) (funext₂ fun s e => ?_)
  obtain ⟨code, k⟩ := e
  dsimp only
  cases k.get? .plain <;> rfl

theorem autodetect_eq (d : Detection) : ∃ ops source, source ≠ .choice ∧
    d.autodetect = (d.counting ops, (d.counting ops).select, source) := by
  rw [autodetect]
  split
  · next n _ =>
      obtain ⟨ops, hrun⟩ := scoreNative_eq_run d.scores n
      rw [hrun]
      exact ⟨_, .native, LayoutSource.noConfusion, rfl⟩
  · exact ⟨[], .pressedKeys, LayoutSource.noConfusion, rfl⟩

theorem step_autodetect (hop : op.Searches d.source) :
    d.Step op (d.autodetect.1.use d.autodetect.2.1 d.autodetect.2.2) := by
  obtain ⟨ops, source, hsource, heq⟩ := d.autodetect_eq
  rw [heq]
  exact .selected op ops source hop hsource

theorem step_refresh (hop : d.source ≠ .choice → op.Searches d.source)
    (hnone : op.added? = none) : d.Step op d.refresh := by
  rw [refresh]
  split
  · exact step_idle hnone
  · next hsource => exact step_autodetect (hop hsource)

theorem observe_of_idle {o : Observation}
    (h : d.source ≠ .pressedKeys ∨ d.scores.seen.lookup o.place = some o.character) :
    d.observe o = (d, none) := by
  rw [observe]
  split
  · rfl
  · next hsource =>
      rw [Scores.observe_of_noted (h.resolve_left hsource)]

theorem observe_eq (h : d.source = .pressedKeys) {o : Observation}
    (hnew : d.scores.seen.lookup o.place ≠ some o.character) :
    d.observe o =
      let v := d.counting [.observe o]
      if v.select == d.current || v.select.isFallback then (v, none)
      else (v.use v.select .pressedKeys, some v.select.native) := by
  have hflag : (d.scores.observe o).2 = true :=
    Bool.not_eq_false _ ▸ fun hf => hnew ((d.scores.observe_eq_false_iff o).mp hf)
  rw [observe, if_neg (by simp [h])]
  rw [← Prod.eta (d.scores.observe o), hflag]
  rfl

theorem step_observe (d : Detection) (o : Observation) : d.Step (.observe o) (d.observe o).1 := by
  by_cases hidle : d.source ≠ .pressedKeys ∨ d.scores.seen.lookup o.place = some o.character
  · rw [observe_of_idle hidle]
    exact step_idle rfl
  · obtain ⟨hsource, hnew⟩ := not_or.mp hidle
    have hpressed := not_not.mp hsource
    rw [observe_eq hpressed hnew]
    dsimp only
    split
    · exact .counted o hpressed
    · exact .selected _ [.observe o] .pressedKeys hpressed LayoutSource.noConfusion

theorem step_apply (d : Detection) (op : Operation) : d.Step op (d.apply op).1 := by
  cases op with
  | choose l =>
      rw [apply, choose]
      split
      · exact step_idle rfl
      · exact .chosen l
  | unchoose =>
      rw [apply, unchoose]
      split
      · next hsource => exact step_autodetect hsource
      · exact step_idle rfl
  | addLayout l => exact step_addLayout rfl
  | addBuiltin id => exact d.step_addBuiltin id
  | observe o => exact d.step_observe o
  | refresh | nativeChanged => exact step_refresh id rfl
  | setNative native => exact .native native
  | setTime now => exact .time now

/-! ### What every operation keeps -/

namespace Step

theorem platform (h : d.Step op d') : d'.platform = d.platform := by
  cases h with
  | idle | entered | counted | native | time => rfl
  | chosen | selected => exact platform_use ..

theorem locale (h : d.Step op d') : d'.locale = d.locale := by
  cases h with
  | idle | entered | counted | native | time => rfl
  | chosen | selected => exact locale_use ..

/-- Candidates stay what they are, or one that is offered comes behind them. -/
theorem candidates (h : d.Step op d') :
    (∀ l ∈ op.added?, d.hasLayout l.id = true) ∧ d'.candidates = d.candidates ∨
      ∃ l, op.added? = some l ∧ ¬ d.hasLayout l.id = true ∧
        d'.candidates = d.candidates ++ [l] := by
  cases h with
  | idle op hknown => exact .inl ⟨hknown, rfl⟩
  | entered op l hadded hnew => exact .inr ⟨l, hadded, hnew, candidates_entering ..⟩
  | chosen l => exact .inl ⟨nofun, candidates_use ..⟩
  | counted o => exact .inl ⟨nofun, candidates_counting ..⟩
  | selected op ops source hop =>
      refine .inl ⟨by simp [hop.added?_eq], ?_⟩
      rw [candidates_use, candidates_counting]
  | native | time => exact .inl ⟨nofun, rfl⟩

theorem hasLayout (h : d.Step op d') {id : String} (hid : d.hasLayout id = true) :
    d'.hasLayout id = true := by
  rcases h.candidates with ⟨-, hsame⟩ | ⟨l, -, -, hmore⟩
  · rwa [Detection.hasLayout, hsame]
  · rw [Detection.hasLayout, hmore, List.any_append,
      show d.candidates.any (·.id = id) = true from hid, Bool.true_or]

end Step

theorem candidates_observe (d : Detection) (o : Observation) :
    (d.observe o).1.candidates = d.candidates := by
  rcases (d.step_observe o).candidates with ⟨-, hsame⟩ | ⟨l, hl, -⟩
  · exact hsame
  · cases hl

theorem platform_apply (d : Detection) (op : Operation) :
    (d.apply op).1.platform = d.platform := (d.step_apply op).platform

end Detection

end Shortcuts
