import Shortcuts.Proofs.Layout.Following
import Shortcuts.Proofs.Layout.Orderly

/-!
A layout that the user chose. Nothing but the user takes it back: pressed keys are not counted, the
system is not asked, new candidates are entered beside it, and all that is announced are its keys.
-/

namespace Shortcuts

namespace Detection

/-- Whether the user chooses a layout, or leaves the choice to detection. -/
def Operation.isChoice : Operation → Bool
  | .choose _ => true
  | .unchoose => true
  | _ => false

/-- The keys that are announced in a run, in order. -/
def announced (d : Detection) : List Operation → List NativeLayout
  | [] => []
  | op :: ops => (d.apply op).2.toList ++ announced (d.apply op).1 ops

/-- The choice stands, and no layout has got a point: the scores are those from before, or they all
start over because layouts became candidates. -/
structure Holds (d d' : Detection) : Prop where
  source : d'.source = .choice
  current : d'.current = d.current
  scores : d'.scores = d.scores ∨ ∃ more, d'.scores = .ofLayouts (d.candidates ++ more)

variable {d d' e : Detection} {op : Operation} {ops : List Operation}

namespace Holds

theorem refl (h : d.source = .choice) : d.Holds d := ⟨h, rfl, .inl rfl⟩

theorem trans (h : d.Holds d') (h' : d'.Holds e) : d.Holds e where
  source := h'.source
  current := h'.current.trans h.current
  scores := by
    rcases h'.scores with hsame | ⟨more', hmore'⟩
    · rw [hsame]
      exact h.scores
    · right
      rcases h.scores with hsame | ⟨more, hmore⟩
      · exact ⟨more', by rw [hmore', candidates, hsame, candidates]⟩
      · refine ⟨more ++ more', ?_⟩
        rw [hmore', candidates, hmore, Scores.candidates_ofLayouts, List.append_assoc]

theorem of_step (h : d.source = .choice) (hop : op.isChoice = false) (hstep : d.Step op d') :
    d.Holds d' := by
  cases hstep with
  | idle | native | time => exact ⟨h, rfl, .inl rfl⟩
  | entered op l => exact ⟨h, rfl, .inr ⟨[l], rfl⟩⟩
  | chosen => cases hop
  | counted o hsource => cases h.symm.trans hsource
  | selected op ops source hsearches =>
      -- while the choice stands, only its end looks for another layout
      cases op with
      | unchoose => cases hop
      | observe => cases h.symm.trans hsearches
      | refresh | nativeChanged => exact absurd h hsearches
      | choose | addLayout | addBuiltin | setNative | setTime => exact hsearches.elim

end Holds

/-! ### One operation -/

theorem refresh_of_choice (h : d.source = .choice) : d.refresh = d := if_pos h

theorem holds_apply (h : d.source = .choice) (hop : op.isChoice = false) :
    d.Holds (d.apply op).1 := .of_step h hop (d.step_apply op)

/-- Whatever is announced then are the keys of the chosen layout. -/
theorem eq_of_announced (h : d.source = .choice) (hop : op.isChoice = false) {n : NativeLayout}
    (hn : (d.apply op).2 = some n) : n = d.current.native := by
  have hheld := (holds_apply h hop).current
  by_cases hrefresh : op = .refresh
  · subst hrefresh
    cases hn
  · rcases announces_apply hrefresh d with hkeys | ⟨hnone, -⟩
    · rw [hn, hheld] at hkeys
      exact Option.some.inj hkeys
    · rw [hn] at hnone
      cases hnone

/-! ### Runs -/

theorem holds_run (h : d.source = .choice) (hops : ∀ op ∈ ops, op.isChoice = false) :
    d.Holds (d.run ops) := by
  induction ops generalizing d with
  | nil => exact .refl h
  | cons op ops ih =>
      obtain ⟨hop, hops⟩ := List.forall_mem_cons.mp hops
      have hstep := holds_apply h hop
      exact hstep.trans (ih hstep.source hops)

theorem eq_of_mem_announced (h : d.source = .choice) (hops : ∀ op ∈ ops, op.isChoice = false) :
    ∀ n ∈ d.announced ops, n = d.current.native := by
  induction ops generalizing d with
  | nil => exact nofun
  | cons op ops ih =>
      obtain ⟨hop, hops⟩ := List.forall_mem_cons.mp hops
      have hstep := holds_apply h hop
      intro n hn
      rcases List.mem_append.mp hn with hn | hn
      · exact eq_of_announced h hop (Option.mem_toList.mp hn)
      · rw [ih hstep.source hops n hn, hstep.current]

/-! ### The end of a choice -/

theorem source_unchoose_ne (d : Detection) : d.unchoose.1.source ≠ .choice := by
  rw [unchoose]
  split
  · obtain ⟨ops, source, hsource, heq⟩ := d.autodetect_eq
    rw [heq]
    change ((d.counting ops).use (d.counting ops).select source).source ≠ .choice
    rwa [use_eq]
  · assumption

theorem current_choose (d : Detection) {l : Layout} (h : (d.current == l) = false) :
    (d.choose l).1.current = l := by
  rw [choose, h, Bool.and_false, if_neg Bool.false_ne_true]
  exact current_use d l .choice

end Detection

namespace ActiveLayout

variable {s : ActiveLayout} {op : Operation} {ops : List Operation}

/-- Whether the user chooses a layout, or leaves the choice to detection. -/
def Operation.isChoice : Operation → Bool
  | .detect op => op.isChoice
  | _ => false

/-- What an operation comes to for detection. -/
def Operation.detection? : Operation → Option Detection.Operation
  | .start => some .refresh
  | .press c => (observationOf? c).map .observe
  | .detect op => some op

/-- Whether keys that detection announced are taken over, and announced again. -/
def hears (s : ActiveLayout) : Operation → Bool
  | .start => false
  | .press c => (s.observe c).2
  | .detect op => (s.follow (s.detection.apply op).1 (s.detection.apply op).2).2

theorem detection_follow (s : ActiveLayout) (d : Detection) (announced : Option NativeLayout) :
    (s.follow d announced).1.detection = d := by
  cases announced with
  | none => rfl
  | some n => cases hs : s.following <;> simp [follow, adopt, hs]

theorem detection_apply (s : ActiveLayout) (op : Operation) :
    (s.apply op).detection = s.detection.run op.detection?.toList := by
  cases op with
  | start => rfl
  | press c =>
      rw [apply, observe, Operation.detection?]
      cases observationOf? c with
      | none => rfl
      | some o => exact detection_follow s _ _
  | detect op => exact detection_follow s _ _

theorem detection_run (s : ActiveLayout) (ops : List Operation) :
    (s.run ops).detection = s.detection.run (ops.filterMap Operation.detection?) := by
  induction ops generalizing s with
  | nil => rfl
  | cons op ops ih =>
      have hsplit : (op :: ops).filterMap Operation.detection? =
          op.detection?.toList ++ ops.filterMap Operation.detection? := by
        rw [List.filterMap_cons]
        cases op.detection? <;> rfl
      rw [hsplit, Detection.run_append, ← detection_apply]
      exact ih (s.apply op)

theorem isChoice_detection? (h : op.isChoice = false) :
    ∀ o ∈ op.detection?, o.isChoice = false := by
  cases op with
  | start =>
      rintro o ⟨⟩
      rfl
  | press c =>
      intro o ho
      obtain ⟨_, -, rfl⟩ := Option.map_eq_some_iff.mp ho
      rfl
  | detect op =>
      rintro o ⟨⟩
      exact h

/-- What is taken over is what detection announces. -/
theorem exists_announced_of_hears (h : s.hears op = true) :
    ∃ o n, op.detection? = some o ∧ (s.detection.apply o).2 = some n ∧
      (s.apply op).typing = .ofNative n := by
  have hfollow (d : Detection) (announced : Option NativeLayout)
      (h : (s.follow d announced).2 = true) :
      ∃ n, announced = some n ∧ (s.follow d announced).1.typing = .ofNative n := by
    cases announced with
    | none => cases h
    | some n =>
        cases hs : s.following with
        | false => simp [follow, hs] at h
        | true => exact ⟨n, rfl, by simp [follow, adopt, hs]⟩
  cases op with
  | start => cases h
  | press c =>
      rw [hears, observe] at h
      rw [apply, observe, Operation.detection?]
      cases ho : observationOf? c with
      | none =>
          rw [ho] at h
          cases h
      | some o =>
          rw [ho] at h
          obtain ⟨n, hn, htyping⟩ := hfollow _ _ h
          exact ⟨.observe o, n, rfl, hn, htyping⟩
  | detect op =>
      obtain ⟨n, hn, htyping⟩ := hfollow _ _ h
      exact ⟨op, n, rfl, hn, htyping⟩

/-- Once the user chose a layout it stays the current one, by the user's choice, through all that is
done but choosing anew. No layout gets a point meanwhile, and what detection announces, and whoever
follows it announces again, are the keys of the chosen layout. Choosing another layout ends this,
and so does leaving the choice to detection. -/
theorem choice_sticks (h : s.detection.source = .choice)
    (hops : ∀ op ∈ ops, op.isChoice = false) :
    s.detection.Holds (s.run ops).detection ∧
    (∀ n ∈ s.detection.announced (ops.filterMap Operation.detection?),
      n = s.detection.current.native) ∧
    (∀ before op, before ++ [op] <+: ops → (s.run before).hears op = true →
      (s.run (before ++ [op])).typing = .ofNative s.detection.current.native) ∧
    (∀ l, (s.detection.current == l) = false →
      ((s.run ops).apply (.detect (.choose l))).detection.current = l) ∧
    ((s.run ops).apply (.detect .unchoose)).detection.source ≠ .choice := by
  have hheld : ∀ part, part <+: ops → s.detection.Holds (s.run part).detection := by
    intro part hpart
    rw [detection_run]
    refine Detection.holds_run h fun o ho => ?_
    obtain ⟨op, hop, ho⟩ := List.mem_filterMap.mp ho
    exact isChoice_detection? (hops op (hpart.subset hop)) o ho
  refine ⟨hheld ops List.prefix_rfl, ?_, fun before op hpart hhears => ?_, fun l hl => ?_, ?_⟩
  · refine Detection.eq_of_mem_announced h fun o ho => ?_
    obtain ⟨op, hop, ho⟩ := List.mem_filterMap.mp ho
    exact isChoice_detection? (hops op hop) o ho
  · have hbefore := hheld before ((List.prefix_append before [op]).trans hpart)
    have hop : op.isChoice = false :=
      hops op (hpart.subset (List.mem_append_right _ (List.mem_singleton_self op)))
    obtain ⟨o, n, ho, hn, htyping⟩ := exists_announced_of_hears hhears
    rw [run, List.foldl_append]
    refine htyping.trans ?_
    rw [Detection.eq_of_announced hbefore.source (isChoice_detection? hop o ho) hn,
      hbefore.current]
  · rw [← (hheld ops List.prefix_rfl).current] at hl
    exact (congrArg Detection.current (detection_follow _ _ _)).trans
      (Detection.current_choose _ hl)
  · intro hsource
    refine Detection.source_unchoose_ne (s.run ops).detection ?_
    exact (congrArg Detection.source (detection_follow _ _ _)).symm.trans hsource

/-- The German layout, chosen on an English locale and followed. -/
def chosenGerman : ActiveLayout :=
  (unknownGerman.start.run [.detect (.choose BuiltinLayout.germanPc.layout)])

theorem choice_sticks_german :
    let ops : List Operation := [.detect (.addBuiltin "fr-French-pc"), .start,
      .detect (.observe { code := "KeyZ", character := "z" }), .detect .nativeChanged]
    chosenGerman.detection.source = .choice ∧ (∀ op ∈ ops, op.isChoice = false) ∧
      chosenGerman.detection.Holds (chosenGerman.run ops).detection := by
  intro ops
  have hsource : chosenGerman.detection.source = .choice := rfl
  have hops : ∀ op ∈ ops, op.isChoice = false := by decide
  exact ⟨hsource, hops, (choice_sticks hsource hops).1⟩

end ActiveLayout

end Shortcuts
