import Mathlib.Algebra.Group.Nat.Defs
import Mathlib.Data.List.Induction
import Shortcuts.Layout.Scores
import Shortcuts.Proofs.Fields
import Shortcuts.Proofs.Run

/-!
Scores as evidence. What is noted of the observations is one character for each key and level, and
the score of a layout is the number of notes that it explains. So neither the order of observations
nor their repetition counts, as long as none contradicts another.
-/

namespace Shortcuts

/-! ### Notes -/

/-- Whether a layout types the character that is noted for the place of a key and a level. -/
def Layout.explains (l : Layout) (note : String × String) : Bool :=
  l.native.keys.any fun k => Level.all.any fun v =>
    k.1 ++ "." ++ v.name == note.1 && l.character? k.1 v == some note.2

/-- What stands behind the last separator tells the two parts. -/
theorem parts_inj_of_not_mem {α : Type} {p : α} {a b x y : List α} (hx : p ∉ x) (hy : p ∉ y)
    (h : a ++ p :: x = b ++ p :: y) : a = b ∧ x = y := by
  rcases List.append_eq_append_iff.mp h with ⟨m, rfl, hm⟩ | ⟨m, rfl, hm⟩
  · cases m with
    | nil => exact ⟨(List.append_nil a).symm, (List.cons.inj hm).2⟩
    | cons c m => exact absurd ((List.cons.inj hm).2 ▸ List.mem_append_right m (.head _)) hx
  · cases m with
    | nil => exact ⟨List.append_nil b, (List.cons.inj hm).2.symm⟩
    | cons c m => exact absurd ((List.cons.inj hm).2 ▸ List.mem_append_right m (.head _)) hy

namespace Level

theorem mem_all (v : Level) : v ∈ all := by
  cases v <;> decide

theorem name_inj {v w : Level} (h : v.name = w.name) : v = w := by
  revert h
  cases v <;> cases w <;> decide

theorem not_mem_name (v : Level) : '.' ∉ v.name.toList := by
  cases v <;> decide

/-- The place tells the key and the level, whatever the code of the key looks like. -/
theorem place_inj {code code' : String} {v w : Level}
    (h : code ++ "." ++ v.name = code' ++ "." ++ w.name) : code = code' ∧ v = w := by
  have hchars : code.toList ++ '.' :: v.name.toList = code'.toList ++ '.' :: w.name.toList := by
    simpa using congrArg String.toList h
  obtain ⟨hcode, hname⟩ := parts_inj_of_not_mem v.not_mem_name w.not_mem_name hchars
  exact ⟨String.toList_inj.mp hcode, name_inj (String.toList_inj.mp hname)⟩

end Level

theorem Layout.explains_iff (l : Layout) (note : String × String) :
    l.explains note = true ↔
      ∃ code level, code ++ "." ++ level.name = note.1 ∧ l.character? code level = some note.2 := by
  simp only [Layout.explains, List.any_eq_true, Bool.and_eq_true, beq_iff_eq]
  constructor
  · rintro ⟨k, -, v, -, hplace, hcharacter⟩
    exact ⟨k.1, v, hplace, hcharacter⟩
  · rintro ⟨code, v, hplace, hcharacter⟩
    obtain ⟨k, hk, -⟩ := Option.bind_eq_some_iff.mp hcharacter
    exact ⟨(code, k), Fields.mem_of_lookup hk, v, v.mem_all, hplace, hcharacter⟩

namespace Observation

def note (o : Observation) : String × String := (o.place, o.character)

theorem explains_note (o : Observation) (l : Layout) : l.explains o.note = o.isExplainedBy l := by
  refine Bool.eq_iff_iff.mpr ((l.explains_iff o.note).trans ?_)
  rw [isExplainedBy, beq_iff_eq]
  constructor
  · rintro ⟨code, v, hplace, hcharacter⟩
    obtain ⟨rfl, rfl⟩ := Level.place_inj hplace
    exact hcharacter
  · exact fun h => ⟨o.code, o.level, rfl, h⟩

end Observation

namespace Scores

variable {s : Scores} {o : Observation} {os os' : List Observation}

/-- The number of notes that a layout explains. -/
def evidence (s : Scores) (l : Layout) : Nat := s.seen.countP l.explains

theorem evidence_le (s : Scores) (l : Layout) : s.evidence l ≤ s.seen.length :=
  List.countP_le_length

/-! ### Candidates -/

theorem candidates_ofLayouts (layouts : List Layout) : (ofLayouts layouts).candidates = layouts := by
  rw [candidates, ofLayouts, List.map_map]
  exact List.map_id layouts

theorem candidates_reset (s : Scores) : s.reset.candidates = s.candidates :=
  candidates_ofLayouts s.candidates

theorem fst_credit (o : Observation) (e : Layout × Nat) : (credit o e).1 = e.1 := by
  rw [credit]
  split <;> rfl

theorem candidates_record (s : Scores) (o : Observation) :
    (s.record o).candidates = s.candidates := by
  rw [candidates, record, List.map_map]
  exact List.map_congr_left fun e _ => fst_credit o e

theorem candidates_observe (s : Scores) (o : Observation) :
    (s.observe o).1.candidates = s.candidates := by
  rw [observe]
  split
  · split
    · rfl
    · rw [candidates_record, candidates_reset]
  · exact candidates_record s o

/-! ### Operations -/

inductive Operation where
  | observe (o : Observation)
  | reset

def apply (s : Scores) : Operation → Scores
  | .observe o => (s.observe o).1
  | .reset => s.reset

def run (s : Scores) (ops : List Operation) : Scores := ops.foldl apply s

/-- Every score is the number of notes that the layout explains, in 32 bits. -/
structure IsTally (s : Scores) : Prop where
  entries : s.entries = s.candidates.map fun l => (l, s.evidence l % 2 ^ 32)
  seen : s.seen.IsSorted

theorem isTally_ofLayouts (layouts : List Layout) : (ofLayouts layouts).IsTally where
  entries := by
    rw [candidates_ofLayouts]
    rfl
  seen := .nil

theorem countP_insert {k v : String} {m : Fields String} (h : m.lookup k = none)
    (p : String × String → Bool) :
    (m.insert k v).countP p = m.countP p + if p (k, v) then 1 else 0 := by
  induction m with
  | nil => exact List.countP_cons
  | cons e m ih =>
      obtain ⟨l, w⟩ := e
      rw [List.lookup_cons] at h
      split at h
      · cases h
      · next hne =>
          rw [Fields.insert, if_neg (by simpa using hne)]
          split
          · rw [List.countP_cons]
          · rw [List.countP_cons, ih h, List.countP_cons]
            omega

theorem evidence_record (h : s.seen.lookup o.place = none) (l : Layout) :
    (s.record o).evidence l = s.evidence l + if o.isExplainedBy l then 1 else 0 := by
  rw [← o.explains_note]
  exact countP_insert h l.explains

/-- What is noted for the first time is counted for the layouts that explain it. -/
theorem IsTally.record (hs : s.IsTally) (h : s.seen.lookup o.place = none) :
    (s.record o).IsTally where
  entries := by
    rw [candidates_record]
    refine (congrArg (List.map (credit o)) hs.entries).trans ?_
    rw [List.map_map]
    refine List.map_congr_left fun l _ => ?_
    rw [Function.comp_apply, credit, evidence_record h]
    split
    · rw [Nat.pow_eq, Nat.mod_add_mod]
    · rfl
  seen := hs.seen.insert _ _

theorem observe_of_noted (h : s.seen.lookup o.place = some o.character) :
    s.observe o = (s, false) := by
  simp only [observe, h, if_true]

theorem observe_of_not_noted (h : s.seen.lookup o.place = none) :
    s.observe o = (s.record o, true) := by
  simp only [observe, h]

/-- Where another character is noted, everything starts over with the new one. -/
theorem observe_of_contradicted {c : String} (h : s.seen.lookup o.place = some c)
    (hne : c ≠ o.character) : s.observe o = (ofLayouts s.candidates).observe o := by
  rw [observe_of_not_noted (s := ofLayouts s.candidates) rfl]
  simp only [observe, h, if_neg hne]
  rfl

theorem observe_eq_false_iff (s : Scores) (o : Observation) :
    (s.observe o).2 = false ↔ s.seen.lookup o.place = some o.character := by
  constructor
  · intro h
    cases hseen : s.seen.lookup o.place with
    | none =>
        rw [observe_of_not_noted hseen] at h
        cases h
    | some c =>
        by_cases hc : c = o.character
        · rw [hc]
        · rw [observe_of_contradicted hseen hc, observe_of_not_noted rfl] at h
          cases h
  · intro h
    rw [observe_of_noted h]

/-- What holds of fresh scores, and goes on to hold when something new is noted, is kept by every
observation. -/
theorem kept_observe {P : Scores → Prop} (hfresh : P (ofLayouts s.candidates))
    (hrecord : ∀ {s : Scores}, P s → s.seen.lookup o.place = none → P (s.record o)) (hs : P s) :
    P (s.observe o).1 := by
  cases hseen : s.seen.lookup o.place with
  | none =>
      rw [observe_of_not_noted hseen]
      exact hrecord hs hseen
  | some c =>
      by_cases hc : c = o.character
      · rw [observe_of_noted (hc ▸ hseen)]
        exact hs
      · rw [observe_of_contradicted hseen hc, observe_of_not_noted rfl]
        exact hrecord hfresh rfl

theorem IsTally.observe (hs : s.IsTally) (o : Observation) : (s.observe o).1.IsTally :=
  kept_observe (isTally_ofLayouts s.candidates) IsTally.record hs

theorem IsTally.run (hs : s.IsTally) (ops : List Operation) : (s.run ops).IsTally := by
  refine kept_foldl IsTally (fun s op hs => ?_) hs ops
  cases op with
  | observe o => exact hs.observe o
  | reset => exact isTally_ofLayouts s.candidates

theorem candidates_run (s : Scores) (ops : List Operation) :
    (s.run ops).candidates = s.candidates := by
  refine kept_foldl (fun s' : Scores => s'.candidates = s.candidates) (fun s' op h => ?_) rfl ops
  cases op with
  | observe o => exact (candidates_observe s' o).trans h
  | reset => exact (candidates_reset s').trans h

/-- Notes and candidates tell the scores. -/
theorem IsTally.entries_congr {s' : Scores} (hs : s.IsTally) (hs' : s'.IsTally)
    (hcandidates : s.candidates = s'.candidates) (hseen : s.seen = s'.seen) :
    s.entries = s'.entries := by
  rw [hs.entries, hs'.entries, hcandidates]
  simp only [evidence, hseen]

/-! ### Observations that agree -/

/-- No two of the observations are of the same key and level with different characters. -/
def AreConsistent (os : List Observation) : Prop :=
  ∀ o ∈ os, ∀ o' ∈ os, o.code = o'.code → o.level = o'.level → o.character = o'.character

instance (os : List Observation) : Decidable (AreConsistent os) :=
  inferInstanceAs (Decidable (∀ o ∈ os, ∀ o' ∈ os,
    o.code = o'.code → o.level = o'.level → o.character = o'.character))

theorem AreConsistent.of_place (h : AreConsistent os) {o o' : Observation} (ho : o ∈ os)
    (ho' : o' ∈ os) (hplace : o.place = o'.place) : o.character = o'.character := by
  obtain ⟨hcode, hlevel⟩ := Level.place_inj hplace
  exact h o ho o' ho' hcode hlevel

/-- What is noted is what was observed. -/
def Notes (s : Scores) (os : List Observation) : Prop :=
  ∀ k c, s.seen.lookup k = some c ↔ ∃ o ∈ os, o.note = (k, c)

theorem notes_observe (hs : s.Notes os) (h : AreConsistent (os ++ [o])) :
    (s.observe o).1.Notes (os ++ [o]) := by
  have hsplit : ∀ k c, (∃ o' ∈ os ++ [o], o'.note = (k, c)) ↔
      s.seen.lookup k = some c ∨ o.note = (k, c) := by
    intro k c
    rw [hs k c]
    simp only [List.mem_append, List.mem_singleton, or_and_right, exists_or, exists_eq_left]
  intro k c
  rw [hsplit]
  cases hseen : s.seen.lookup o.place with
  | none =>
      rw [observe_of_not_noted hseen, record]
      by_cases hk : k = o.place
      · subst hk
        rw [Fields.lookup_insert_self, hseen, Observation.note, Prod.mk.injEq, Option.some.injEq]
        simp
      · rw [Fields.lookup_insert_of_ne hk, Observation.note, Prod.mk.injEq]
        exact (or_iff_left fun h => hk h.1.symm).symm
  | some d =>
      -- it was observed before, with the character that it has now
      obtain ⟨o', ho', hnote⟩ := (hs _ _).mp hseen
      obtain ⟨hplace, rfl⟩ := Prod.mk.inj hnote
      have hsame := h.of_place (List.mem_append_left _ ho')
        (List.mem_append_right _ (List.mem_singleton_self o)) hplace
      rw [hsame] at hseen
      rw [observe_of_noted hseen]
      refine (or_iff_left_of_imp fun hkc => ?_).symm
      obtain ⟨rfl, rfl⟩ := Prod.mk.inj hkc
      exact hseen

theorem notes_run (layouts : List Layout) (h : AreConsistent os) :
    ((ofLayouts layouts).run (os.map .observe)).Notes os := by
  induction os using List.reverseRecOn with
  | nil =>
      intro k c
      simp [run, ofLayouts]
  | append_singleton os o ih =>
      have hbefore : AreConsistent os := fun o ho o' ho' =>
        h o (List.mem_append_left _ ho) o' (List.mem_append_left _ ho')
      rw [List.map_append, run, List.foldl_append]
      exact notes_observe (ih hbefore) h

theorem seen_eq_of_mem_iff {s' : Scores} (hs : s.IsTally) (hs' : s'.IsTally) (hnotes : s.Notes os)
    (hnotes' : s'.Notes os') (h : ∀ o, o ∈ os ↔ o ∈ os') : s.seen = s'.seen := by
  refine hs.seen.ext hs'.seen fun k => Option.ext fun c => ?_
  rw [hnotes, hnotes']
  simp only [h]

/-! ### Scores are evidence -/

/-- However a fresh tally was fed and reset, scores count the notes that layouts explain, exactly
as long as there are fewer notes than 32 bits can count. What is noted already changes nothing, and
what contradicts a note starts everything over. So the observations decide the scores, as far as
they agree with each other, and not their order or number. -/
theorem scores_are_evidence (layouts : List Layout) (ops : List Operation) :
    let s := (ofLayouts layouts).run ops
    s.entries = layouts.map (fun l => (l, s.evidence l % 2 ^ 32)) ∧
    (s.seen.length < 2 ^ 32 → s.entries = layouts.map fun l => (l, s.evidence l)) ∧
    (∀ o, ((s.observe o).2 = false ↔ s.seen.lookup o.place = some o.character) ∧
      (s.seen.lookup o.place = some o.character → (s.observe o).1 = s) ∧
      ∀ c, s.seen.lookup o.place = some c → c ≠ o.character →
        s.observe o = (ofLayouts layouts).observe o) ∧
    ∀ os os' : List Observation, AreConsistent os → (∀ o, o ∈ os ↔ o ∈ os') →
      ((ofLayouts layouts).run (os.map .observe)).entries =
        ((ofLayouts layouts).run (os'.map .observe)).entries := by
  intro s
  have hfresh := isTally_ofLayouts layouts
  have htally : s.IsTally := hfresh.run ops
  have hcandidates (ops : List Operation) : ((ofLayouts layouts).run ops).candidates = layouts :=
    (candidates_run _ ops).trans (candidates_ofLayouts layouts)
  have hentries := htally.entries
  rw [hcandidates ops] at hentries
  refine ⟨hentries, fun hlength => ?_, fun o => ⟨s.observe_eq_false_iff o, fun h => ?_,
    fun c h hne => ?_⟩, fun os os' hos hmem => ?_⟩
  · rw [hentries]
    refine List.map_congr_left fun l _ => ?_
    rw [Nat.mod_eq_of_lt (Nat.lt_of_le_of_lt (s.evidence_le l) hlength)]
  · rw [observe_of_noted h]
  · rw [observe_of_contradicted h hne, hcandidates ops]
  · have hos' : AreConsistent os' := fun o ho o' ho' =>
      hos o ((hmem o).mpr ho) o' ((hmem o').mpr ho')
    refine (hfresh.run _).entries_congr (hfresh.run _) ?_ ?_
    · rw [hcandidates, hcandidates]
    · exact seen_eq_of_mem_iff (hfresh.run _) (hfresh.run _) (notes_run layouts hos)
        (notes_run layouts hos') hmem

/-- Two keys that have changed their places. -/
def swapped : Layout where
  name := "Swapped"
  hardware := .pc
  language := "en"
  native := { keys := [("KeyY", { plain := "z" }), ("KeyZ", { plain := "y" })] }

def seenY : Observation := { code := "KeyY", character := "z" }

def seenZ : Observation := { code := "KeyZ", character := "y" }

def plainZ : Observation := { code := "KeyZ", character := "z" }

theorem scores_are_evidence_swapped :
    let s := (ofLayouts [swapped]).run [.observe plainZ, .reset, .observe seenZ, .observe seenY]
    s.evidence swapped = 2 ∧ s.entries = [(swapped, s.evidence swapped)] ∧
      s.seen.lookup seenZ.place = some seenZ.character ∧ (s.observe seenZ).1 = s ∧
      s.seen.lookup plainZ.place = some "y" ∧ "y" ≠ plainZ.character ∧
      s.observe plainZ = (ofLayouts [swapped]).observe plainZ ∧
      AreConsistent [seenZ, seenY] ∧ (∀ o, o ∈ [seenZ, seenY] ↔ o ∈ [seenY, seenZ, seenY]) ∧
      ((ofLayouts [swapped]).run ([seenZ, seenY].map .observe)).entries =
        ((ofLayouts [swapped]).run ([seenY, seenZ, seenY].map .observe)).entries := by
  intro s
  have hseenZ : s.seen.lookup seenZ.place = some seenZ.character := by decide
  have hplainZ : s.seen.lookup plainZ.place = some "y" := by decide
  have hother : "y" ≠ plainZ.character := by decide
  have hconsistent : AreConsistent [seenZ, seenY] := by decide
  have hmem : ∀ o, o ∈ [seenZ, seenY] ↔ o ∈ [seenY, seenZ, seenY] := by
    intro o
    simp [or_comm]
  obtain ⟨-, hexact, hobserve, horder⟩ := scores_are_evidence [swapped]
    [.observe plainZ, .reset, .observe seenZ, .observe seenY]
  refine ⟨by decide, hexact (by decide), hseenZ, (hobserve seenZ).2.1 hseenZ, hplainZ, hother,
    (hobserve plainZ).2.2 "y" hplainZ hother, hconsistent, hmem, ?_⟩
  exact horder _ _ hconsistent hmem

end Scores

end Shortcuts
