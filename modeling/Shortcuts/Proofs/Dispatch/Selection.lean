import Shortcuts.Proofs.Chord.Prefix
import Shortcuts.Proofs.Keymap.Tiers
import Shortcuts.Workbench.Dispatch

/-!
Which binding typed chords mean, without the scan that finds it: the entries stand in places, some
places are usable, and the first usable one decides.
-/

namespace Shortcuts

namespace Match

variable {α : Type} (enabled active : Binding → Bool)

/-- The signature that a match takes away from those behind it. -/
def silences? (m : Match) : Option Binding.Signature :=
  if enabled m.binding.toBinding then m.binding.toBinding.target? else none

/-- A match may be the answer when the signatures in `off` were taken away before it. -/
def passes (off : List Binding.Signature) (m : Match) : Bool :=
  enabled m.binding.toBinding && !m.binding.toBinding.isMarker &&
    !off.contains m.binding.toBinding.signature && active m.binding.toBinding

theorem first?_cons (off : List Binding.Signature) (m : Match) (ms : List Match) :
    first? enabled active off (m :: ms) =
      if passes enabled active off m then some (m, ms)
      else first? enabled active ((silences? enabled m).toList ++ off) ms := by
  by_cases he : enabled m.binding.toBinding = true
  · cases ht : m.binding.toBinding.target? with
    | some target => simp [first?, passes, silences?, Binding.isMarker, he, ht]
    | none =>
        by_cases ho : m.binding.toBinding.signature ∈ off
        · simp [first?, passes, silences?, Binding.isMarker, he, ht, ho]
        · by_cases ha : active m.binding.toBinding = true <;>
            simp [first?, passes, silences?, Binding.isMarker, he, ht, ho, ha]
  · simp [first?, passes, silences?, he]

/-- What the items of a list before a place take away. -/
def silencedBefore (means : α → Option Match) (items : List α) (i : Nat) :
    List Binding.Signature :=
  (items.take i).filterMap fun p => (means p).bind (silences? enabled)

/-- The item at a place means a match that may be the answer. -/
def PassesAt (means : α → Option Match) (off : List Binding.Signature) (items : List α) (i : Nat)
    (m : Match) : Prop :=
  ∃ p, items[i]? = some p ∧ means p = some m ∧
    passes enabled active (silencedBefore enabled means items i ++ off) m = true

variable {enabled active}

theorem passesAt_zero {means : α → Option Match} {off : List Binding.Signature} {p : α}
    {items : List α} {m : Match} :
    PassesAt enabled active means off (p :: items) 0 m ↔
      means p = some m ∧ passes enabled active off m = true := by
  simp [PassesAt, silencedBefore]

theorem passes_congr {off off' : List Binding.Signature} (h : ∀ x, x ∈ off ↔ x ∈ off') (m : Match) :
    passes enabled active off m = passes enabled active off' m := by
  simp only [passes]
  congr 3
  rw [Bool.eq_iff_iff]
  simpa using h _

theorem passesAt_succ {means : α → Option Match} {off : List Binding.Signature} {p : α}
    {items : List α} {i : Nat} {m : Match} :
    PassesAt enabled active means off (p :: items) (i + 1) m ↔
      PassesAt enabled active means (((means p).bind (silences? enabled)).toList ++ off) items i m := by
  have hoff : ∀ x, x ∈ silencedBefore enabled means (p :: items) (i + 1) ++ off ↔
      x ∈ silencedBefore enabled means items i ++
        (((means p).bind (silences? enabled)).toList ++ off) := by
    intro x
    simp only [silencedBefore, List.take_succ_cons]
    cases hs : (means p).bind (silences? enabled) with
    | none => simp [hs]
    | some t => simp [hs, or_left_comm]
  simp only [PassesAt, List.getElem?_cons_succ, passes_congr hoff]

/-- The scan finds the first place that passes, and finds nothing when no place does. -/
theorem first?_filterMap (enabled active : Binding → Bool) (means : α → Option Match)
    (off : List Binding.Signature) (items : List α) :
    match first? enabled active off (items.filterMap means) with
    | some (m, _) => ∃ i, PassesAt enabled active means off items i m ∧
        ∀ j < i, ∀ n, ¬ PassesAt enabled active means off items j n
    | none => ∀ i m, ¬ PassesAt enabled active means off items i m := by
  induction items generalizing off with
  | nil => simp [first?, PassesAt]
  | cons p items ih =>
      have hlater := ih (((means p).bind (silences? enabled)).toList ++ off)
      by_cases h : ∃ m, means p = some m ∧ passes enabled active off m = true
      · obtain ⟨m, hm, hp⟩ := h
        rw [List.filterMap_cons_some hm, first?_cons, if_pos hp]
        exact ⟨0, passesAt_zero.mpr ⟨hm, hp⟩, fun j hj => absurd hj (Nat.not_lt_zero j)⟩
      · have hhead : ∀ n, ¬ PassesAt enabled active means off (p :: items) 0 n :=
          fun n hn => h ⟨n, passesAt_zero.mp hn⟩
        have hskip : first? enabled active off ((p :: items).filterMap means) =
            first? enabled active (((means p).bind (silences? enabled)).toList ++ off)
              (items.filterMap means) := by
          cases hm : means p with
          | none => rw [List.filterMap_cons_none hm]; rfl
          | some m =>
              have hp : ¬ passes enabled active off m = true := fun hp => h ⟨m, hm, hp⟩
              rw [List.filterMap_cons_some hm, first?_cons, if_neg hp]
              rfl
        rw [hskip]
        split at hlater
        · obtain ⟨i, hi, hfirst⟩ := hlater
          refine ⟨i + 1, passesAt_succ.mpr hi, fun j hj n => ?_⟩
          cases j with
          | zero => exact hhead n
          | succ j => exact fun hn => hfirst j (Nat.lt_of_succ_lt_succ hj) n (passesAt_succ.mp hn)
        · intro i m
          cases i with
          | zero => exact hhead m
          | succ i => exact fun hn => hlater i m (passesAt_succ.mp hn)

end Match

namespace Workbench

/-- The chords of an entry: those that are known, else those that its text has on the layout. -/
def chordsOf (w : Workbench) (e : Keymap.Entry) : Option (List Chord) :=
  (e.resolved w.resolve?).chords

/-- The typed chords begin those of an entry, or are all of them. -/
def Begins (w : Workbench) (typed : List Chord) (e : Keymap.Entry) : Prop :=
  ∃ chords, w.chordsOf e = some chords ∧ Chord.strokes typed <+: Chord.strokes chords

def Completes (w : Workbench) (typed : List Chord) (e : Keymap.Entry) : Prop :=
  ∃ chords, w.chordsOf e = some chords ∧ Chord.strokes typed = Chord.strokes chords

/-- The keybinding context of a binding, where it is known, enables it, and its when-clause can be
read and holds. -/
structure Allows (w : Workbench) (target : Option ElementId) (b : Binding) : Prop where
  context : ∀ id enables, b.context = some id → w.dispatcher.contexts.lookup id = some enables →
    enables b = true
  condition : ∀ text, b.condition = some text →
    w.contexts.matchText w.root text target = .ok true

/-- An allowed marker for what was typed stands before a place and names a signature. -/
def Silenced (w : Workbench) (typed : List Chord) (target : Option ElementId) (i : Nat)
    (signature : Binding.Signature) : Prop :=
  ∃ j < i, ∃ s m, w.dispatcher.keymap.scan[j]? = some (s, m) ∧ w.Begins typed m ∧
    w.Allows target m.binding ∧ m.binding.target? = some signature

/-- The entry at a place may be the answer to what was typed. -/
structure Usable (w : Workbench) (typed : List Chord) (target : Option ElementId) (i : Nat)
    (s : Scope) (e : Keymap.Entry) : Prop where
  place : w.dispatcher.keymap.scan[i]? = some (s, e)
  begins : w.Begins typed e
  allowed : w.Allows target e.binding
  not_marker : e.binding.isMarker = false
  not_silenced : ¬ w.Silenced typed target i e.binding.signature
  active : w.isActive e.binding = true

/-- The entry at the first usable place. -/
structure Decides (w : Workbench) (typed : List Chord) (target : Option ElementId) (i : Nat)
    (s : Scope) (e : Keymap.Entry) : Prop extends w.Usable typed target i s e where
  first : ∀ j < i, ∀ t d, ¬ w.Usable typed target j t d

theorem permits_iff (d : Dispatcher) (b : Binding) :
    d.permits b = true ↔ ∀ id enables, b.context = some id →
      d.contexts.lookup id = some enables → enables b = true := by
  constructor
  · intro h id enables hc hl
    simpa [Dispatcher.permits, hc, hl] using h
  · intro h
    simp only [Dispatcher.permits]
    split
    · next enables hb =>
        obtain ⟨id, hc, hl⟩ := Option.bind_eq_some_iff.mp hb
        exact h id enables hc hl
    · rfl

theorem isEnabled_iff_allows (w : Workbench) (b : Binding) (target : Option ElementId) :
    w.isEnabled b target = true ↔ w.Allows target b := by
  rw [isEnabled, Bool.and_eq_true, permits_iff]
  constructor
  · rintro ⟨hcontext, hcondition⟩
    refine ⟨hcontext, fun text ht => ?_⟩
    cases hm : w.contexts.matchText w.root text target with
    | error e => simp [ht, hm] at hcondition
    | ok holds =>
        have hholds : holds = true := by simpa [ht, hm] using hcondition
        rw [hholds]
  · intro h
    refine ⟨h.context, ?_⟩
    cases ht : b.condition with
    | none => rfl
    | some text => simp only [h.condition text ht]

def means (w : Workbench) (typed : List Chord) (p : Scope × Keymap.Entry) : Option Match :=
  Match.standing? typed p.1 (p.2.resolved w.resolve?)

/-- The match that an entry is to the chords that were typed, once it is known to be one. -/
def Answers (w : Workbench) (typed : List Chord) (s : Scope) (e : Keymap.Entry) (m : Match) : Prop :=
  m = .full ⟨e.binding, s⟩ ∧ w.Completes typed e ∨
    m = .begun ⟨e.binding, s⟩ ∧ ¬ w.Completes typed e

theorem Answers.binding_eq {w : Workbench} {typed : List Chord} {s : Scope} {e : Keymap.Entry}
    {m : Match} (h : w.Answers typed s e m) : m.binding = ⟨e.binding, s⟩ := by
  rcases h with ⟨rfl, _⟩ | ⟨rfl, _⟩ <;> rfl

theorem means_eq_some_iff (w : Workbench) (typed : List Chord) (s : Scope) (e : Keymap.Entry)
    (m : Match) : w.means typed (s, e) = some m ↔ w.Begins typed e ∧ w.Answers typed s e m := by
  simp only [means, Match.standing?, Begins, Answers, Completes, chordsOf,
    Keymap.binding_resolved]
  cases hc : (e.resolved w.resolve?).chords with
  | none => simp
  | some chords =>
      simp only [Option.map_some, Option.some.injEq, exists_eq_left']
      rw [Chord.prefix_iff_compare, ← Chord.compare_eq_full_iff]
      cases Chord.compare typed chords <;> simp [eq_comm]

theorem all_resolved (w : Workbench) (typed : List Chord) :
    Match.all typed w.resolved.dispatcher.keymap =
      w.dispatcher.keymap.scan.filterMap (w.means typed) := by
  have htier (s : Scope) : (w.resolved.dispatcher.keymap.tier s).filterMap (Match.standing? typed s) =
      ((w.dispatcher.keymap.tier s).map fun e => (s, e)).filterMap (w.means typed) := by
    rw [resolved, Keymap.tier_resolveAll, List.filterMap_map, List.filterMap_map]
    rfl
  simp only [Match.all, Keymap.scan, Scope.strongestFirst, List.flatMap_cons, List.flatMap_nil,
    List.append_nil, List.filterMap_append, htier]

theorem exists_answers (w : Workbench) (typed : List Chord) (s : Scope) (e : Keymap.Entry) :
    ∃ m, w.Answers typed s e m := by
  by_cases h : w.Completes typed e
  · exact ⟨_, .inl ⟨rfl, h⟩⟩
  · exact ⟨_, .inr ⟨rfl, h⟩⟩

theorem silences_iff (w : Workbench) (typed : List Chord) (target : Option ElementId) (s : Scope)
    (e : Keymap.Entry) (signature : Binding.Signature) :
    (w.means typed (s, e)).bind (Match.silences? (w.isEnabled · target)) = some signature ↔
      w.Begins typed e ∧ w.Allows target e.binding ∧ e.binding.target? = some signature := by
  rw [Option.bind_eq_some_iff]
  constructor
  · rintro ⟨m, hm, hs⟩
    obtain ⟨hb, ha⟩ := (means_eq_some_iff w typed s e m).mp hm
    rw [Match.silences?, ha.binding_eq] at hs
    split at hs
    · next he => exact ⟨hb, (isEnabled_iff_allows w _ _).mp he, hs⟩
    · cases hs
  · rintro ⟨hb, ha, ht⟩
    obtain ⟨m, hm⟩ := exists_answers w typed s e
    refine ⟨m, (means_eq_some_iff w typed s e m).mpr ⟨hb, hm⟩, ?_⟩
    rw [Match.silences?, hm.binding_eq, if_pos ((isEnabled_iff_allows w _ _).mpr ha), ht]

theorem mem_silencedBefore_iff (w : Workbench) (typed : List Chord) (target : Option ElementId)
    (i : Nat) (signature : Binding.Signature) :
    signature ∈ Match.silencedBefore (w.isEnabled · target) (w.means typed)
        w.dispatcher.keymap.scan i ↔ w.Silenced typed target i signature := by
  rw [Match.silencedBefore, List.mem_filterMap]
  constructor
  · rintro ⟨⟨s, m⟩, hmem, hs⟩
    obtain ⟨j, hj⟩ := List.mem_iff_getElem?.mp hmem
    rw [List.getElem?_take] at hj
    split at hj
    · next hji => exact ⟨j, hji, s, m, hj, (silences_iff w typed target s m signature).mp hs⟩
    · cases hj
  · rintro ⟨j, hji, s, m, hj, hs⟩
    have hmem : (w.dispatcher.keymap.scan.take i)[j]? = some (s, m) := by
      rw [List.getElem?_take, if_pos hji, hj]
    exact ⟨(s, m), List.mem_of_getElem? hmem, (silences_iff w typed target s m signature).mpr hs⟩

theorem passesAt_iff_usable (w : Workbench) (typed : List Chord) (target : Option ElementId)
    (i : Nat) (m : Match) :
    Match.PassesAt (w.isEnabled · target) w.isActive (w.means typed) []
        w.dispatcher.keymap.scan i m ↔
      ∃ s e, w.Usable typed target i s e ∧ w.Answers typed s e m := by
  have hpasses {s : Scope} {e : Keymap.Entry} (h : w.Answers typed s e m) :
      Match.passes (w.isEnabled · target) w.isActive
          (Match.silencedBefore (w.isEnabled · target) (w.means typed)
            w.dispatcher.keymap.scan i ++ []) m = true ↔
        w.Allows target e.binding ∧ e.binding.isMarker = false ∧
          ¬ w.Silenced typed target i e.binding.signature ∧ w.isActive e.binding = true := by
    simp only [Match.passes, h.binding_eq, List.append_nil, Bool.and_eq_true, Bool.not_eq_true',
      isEnabled_iff_allows, List.contains_eq_mem, decide_eq_false_iff_not, mem_silencedBefore_iff,
      and_assoc]
  constructor
  · rintro ⟨⟨s, e⟩, hi, hm, hp⟩
    obtain ⟨hb, ha⟩ := (means_eq_some_iff w typed s e m).mp hm
    obtain ⟨hallowed, hmarker, hsilenced, hactive⟩ := (hpasses ha).mp hp
    exact ⟨s, e, ⟨hi, hb, hallowed, hmarker, hsilenced, hactive⟩, ha⟩
  · rintro ⟨s, e, hu, ha⟩
    exact ⟨(s, e), hu.place, (means_eq_some_iff w typed s e m).mpr ⟨hu.begins, ha⟩,
      (hpasses ha).mpr ⟨hu.allowed, hu.not_marker, hu.not_silenced, hu.active⟩⟩

theorem findAt_eq (w : Workbench) (typed : List Chord) (target : Option ElementId) :
    (w.findAt typed target).2 =
      (Match.first? (w.isEnabled · target) w.isActive []
        (w.dispatcher.keymap.scan.filterMap (w.means typed))).map Prod.fst := by
  rw [← all_resolved]
  rfl

theorem Answers.unique {w : Workbench} {typed : List Chord} {s : Scope} {e : Keymap.Entry}
    {m n : Match} (hm : w.Answers typed s e m) (hn : w.Answers typed s e n) : m = n := by
  rcases hm with ⟨rfl, hm⟩ | ⟨rfl, hm⟩ <;> rcases hn with ⟨rfl, hn⟩ | ⟨rfl, hn⟩
  · rfl
  · exact absurd hm hn
  · exact absurd hn hm
  · rfl

theorem Decides.unique {w : Workbench} {typed : List Chord} {target : Option ElementId}
    {i j : Nat} {s t : Scope} {e d : Keymap.Entry} (h : w.Decides typed target i s e)
    (h' : w.Decides typed target j t d) : i = j ∧ s = t ∧ e = d := by
  have hij : i = j := by
    rcases Nat.lt_trichotomy i j with hlt | heq | hgt
    · exact absurd h.toUsable (h'.first i hlt s e)
    · exact heq
    · exact absurd h'.toUsable (h.first j hgt t d)
  subst j
  have hse : (s, e) = (t, d) := Option.some.inj (h.place.symm.trans h'.place)
  exact ⟨rfl, congrArg Prod.fst hse, congrArg Prod.snd hse⟩

/-- The scan stops at the place that decides, or finds no usable place. -/
theorem findAt_spec (w : Workbench) (typed : List Chord) (target : Option ElementId) :
    match (w.findAt typed target).2 with
    | some m => ∃ i s e, w.Decides typed target i s e ∧ w.Answers typed s e m
    | none => ∀ i s e, ¬ w.Usable typed target i s e := by
  have h := Match.first?_filterMap (w.isEnabled · target) w.isActive (w.means typed) []
    w.dispatcher.keymap.scan
  have hpasses {i : Nat} {s : Scope} {e : Keymap.Entry} (hu : w.Usable typed target i s e) :
      ∃ m, Match.PassesAt (w.isEnabled · target) w.isActive (w.means typed) []
        w.dispatcher.keymap.scan i m := by
    obtain ⟨m, hm⟩ := exists_answers w typed s e
    exact ⟨m, (passesAt_iff_usable w typed target i m).mpr ⟨s, e, hu, hm⟩⟩
  rw [findAt_eq]
  split at h
  · next m rest hf =>
      obtain ⟨i, hi, hfirst⟩ := h
      obtain ⟨s, e, hu, hm⟩ := (passesAt_iff_usable w typed target i m).mp hi
      rw [hf]
      refine ⟨i, s, e, ⟨hu, fun j hj t d hd => ?_⟩, hm⟩
      obtain ⟨n, hn⟩ := hpasses hd
      exact hfirst j hj n hn
  · next hf =>
      rw [hf]
      intro i s e hu
      obtain ⟨m, hm⟩ := hpasses hu
      exact h i m hm

theorem findAt_eq_some_iff (w : Workbench) (typed : List Chord) (target : Option ElementId)
    (m : Match) : (w.findAt typed target).2 = some m ↔
      ∃ i s e, w.Decides typed target i s e ∧ w.Answers typed s e m := by
  have h := findAt_spec w typed target
  constructor
  · intro hm
    rwa [hm] at h
  · rintro ⟨i, s, e, hd, ha⟩
    split at h
    · next n hn =>
        obtain ⟨j, t, d, hd', ha'⟩ := h
        obtain ⟨rfl, rfl, rfl⟩ := hd.unique hd'
        rw [hn, ha.unique ha']
    · exact absurd hd.toUsable (h i s e)

theorem findAt_eq_none_iff (w : Workbench) (typed : List Chord) (target : Option ElementId) :
    (w.findAt typed target).2 = none ↔ ∀ i s e, ¬ w.Usable typed target i s e := by
  have h := findAt_spec w typed target
  constructor
  · intro hn
    rwa [hn] at h
  · intro hnone
    split at h
    · obtain ⟨i, s, e, hd, _⟩ := h
      exact absurd hd.toUsable (hnone i s e)
    · next hn => exact hn

/-- Of all entries, tier by tier from the strongest, the first usable one is the answer to typed
chords: in full when they are all of its chords, begun when they are fewer. Without a usable entry
there is no answer. -/
theorem findAt_first_usable (w : Workbench) (typed : List Chord) (target : Option ElementId) :
    (∀ m, (w.findAt typed target).2 = some m ↔
      ∃ i s e, w.Decides typed target i s e ∧
        (m = .full ⟨e.binding, s⟩ ∧ w.Completes typed e ∨
          m = .begun ⟨e.binding, s⟩ ∧ ¬ w.Completes typed e)) ∧
      ((w.findAt typed target).2 = none ↔ ¬ ∃ i s e, w.Usable typed target i s e) := by
  refine ⟨findAt_eq_some_iff w typed target, ?_⟩
  rw [findAt_eq_none_iff]
  simp only [not_exists]

end Workbench

end Shortcuts
