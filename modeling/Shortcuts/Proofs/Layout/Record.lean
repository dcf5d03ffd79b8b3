import Shortcuts.Layout.Detection
import Shortcuts.Proofs.Storage

/-!
What is kept of detection between runs. A record whose counts have 32 bits and whose fields are in
order is read as it was written, and every record that is read is of this kind.
-/

namespace Shortcuts

open Json (Keeps)

/-! ### Scores -/

namespace ScoreRecord

structure IsStorable (r : ScoreRecord) : Prop where
  sorted : r.scores.IsSorted
  count_lt : ∀ e ∈ r.scores, e.2 < 2 ^ 32
  top_lt : r.top < 2 ^ 32
  seen : r.seen.IsSorted

theorem written_ofNat {n : Nat} (hn : n < 2 ^ 32) :
    (Json.ofNat n).written = .num (some (.int n)) := by
  rw [Json.ofNat_eq (by omega), Json.written]

theorem readCount?_written {n : Nat} (hn : n < 2 ^ 32) :
    readCount? (Json.ofNat n).written = some n := by
  rw [written_ofNat hn, readCount?, if_pos, Int.toNat_natCast]
  simp only [Nat.pow_eq]
  omega

/-- Every field is read back where its value is. -/
theorem map?_written {α : Type} (read : Json.Written → Option α) (write : α → Json)
    {m : Fields α} (hm : m.IsSorted) (h : ∀ e ∈ m, read (write e.2).written = some e.2) :
    (Json.obj (m.map fun e => (e.1, write e.2))).written.map? read = some m := by
  have hfields : (Json.writtenFields (m.map fun e => (e.1, write e.2))).mapM
      (Json.Written.keyed? read) = some m := by
    clear hm
    induction m with
    | nil => rfl
    | cons e m ih =>
        obtain ⟨hread, hrest⟩ := List.forall_mem_cons.mp h
        rw [List.map_cons, Json.writtenFields, List.mapM_cons, ih hrest, Json.Written.keyed?, hread]
        rfl
  rw [Json.written, Json.Written.map?, hfields, Option.map_some, hm.ofList_eq]

/-- What is read is in order, and of the kind that is read. -/
theorem of_map? {α : Type} {read : Json.Written → Option α} {w : Json.Written} {m : Fields α}
    (h : w.map? read = some m) : m.IsSorted ∧ ∀ e ∈ m, ∃ v, read v = some e.2 := by
  cases w with
  | obj fields =>
      obtain ⟨entries, hentries, rfl⟩ := Option.map_eq_some_iff.mp h
      have hread : ∀ e ∈ entries, ∃ v, read v = some e.2 := by
        clear h
        induction fields generalizing entries with
        | nil =>
            cases hentries
            nofun
        | cons f fields ih =>
            rw [List.mapM_cons] at hentries
            obtain ⟨e, he, hentries⟩ := Option.bind_eq_some_iff.mp hentries
            obtain ⟨rest, hrest, hentries⟩ := Option.bind_eq_some_iff.mp hentries
            obtain ⟨k, -, he⟩ := Option.bind_eq_some_iff.mp he
            obtain ⟨v, hv, he⟩ := Option.bind_eq_some_iff.mp he
            cases hentries
            cases he
            exact List.forall_mem_cons.mpr ⟨⟨f.2, hv⟩, ih rest hrest⟩
      exact ⟨Fields.isSorted_ofList entries, fun e he => hread e (Fields.mem_of_mem_ofList he)⟩
  | _ => cases h

theorem record?_written (a b c : Json) :
    (Json.obj [("scores", a), ("testedInputs", b), ("topScore", c)]).written.record? .refused
      ["scores", "topScore", "testedInputs"] = some [some a.written, some c.written, some b.written] := by
  simp [Json.written, Json.writtenFields, Json.Written.record?, Json.Written.field?]

theorem ofWritten?_of_fields {r : ScoreRecord} {w a b c : Json.Written}
    (hw : w.record? .refused ["scores", "topScore", "testedInputs"] = some [some a, some c, some b])
    (hscores : a.map? readCount? = some r.scores) (htop : readCount? c = some r.top)
    (hseen : b.map? (·.text?) = some r.seen) : ofWritten? w = some r := by
  rw [ofWritten?, hw]
  simp only [Json.Written.defaulted, hscores, htop, hseen]
  rfl

theorem ofWritten?_toJson {r : ScoreRecord} (h : r.IsStorable) :
    ofWritten? r.toJson.written = some r :=
  ofWritten?_of_fields (record?_written _ _ _)
    (map?_written readCount? .ofNat h.sorted fun e he => readCount?_written (h.count_lt e he))
    (readCount?_written h.top_lt)
    (map?_written (·.text?) .str h.seen fun e _ => by rw [Json.written]; rfl)

theorem of_defaulted {α : Type} {P : α → Prop} {value : α} {read : Json.Written → Option α}
    {w : Option Json.Written} {x : α} (hvalue : P value) (hread : ∀ w x, read w = some x → P x)
    (h : Json.Written.defaulted value read w = some x) : P x := by
  cases w with
  | none =>
      cases h
      exact hvalue
  | some w => exact hread w x h

theorem readCount?_lt {w : Json.Written} {n : Nat} (h : readCount? w = some n) : n < 2 ^ 32 := by
  unfold readCount? at h
  split at h
  · split at h
    · next hi =>
        cases h
        simp only [Nat.pow_eq] at hi
        omega
    · cases h
  · cases h

/-- What is read can be stored. -/
theorem isStorable_of_ofWritten? {r : ScoreRecord} {w : Json.Written}
    (h : ofWritten? w = some r) : r.IsStorable := by
  rw [ofWritten?] at h
  split at h
  · next scores top seen _ =>
      obtain ⟨s, hscores, h⟩ := Option.bind_eq_some_iff.mp h
      obtain ⟨t, htop, h⟩ := Option.bind_eq_some_iff.mp h
      obtain ⟨m, hseen, h⟩ := Option.bind_eq_some_iff.mp h
      cases h
      have hscores : Fields.IsSorted s ∧ ∀ e ∈ s, e.2 < 2 ^ 32 :=
        of_defaulted (P := fun s => Fields.IsSorted s ∧ ∀ e ∈ s, e.2 < 2 ^ 32) ⟨.nil, nofun⟩
          (fun w s hs => ⟨(of_map? hs).1, fun e he =>
            readCount?_lt ((of_map? hs).2 e he).choose_spec⟩) hscores
      have htop : t < 2 ^ 32 :=
        of_defaulted (P := (· < 2 ^ 32)) (Nat.two_pow_pos 32) (fun _ _ => readCount?_lt) htop
      have hseen : Fields.IsSorted m := of_defaulted .nil (fun _ _ hm => (of_map? hm).1) hseen
      exact ⟨hscores.1, hscores.2, htop, hseen⟩
  · cases h

theorem keeps_toJson {r : ScoreRecord} (h : r.IsStorable) (depth : Nat) :
    Keeps (depth + 2) r.toJson := by
  have hscores : Keeps (depth + 1) (.obj (r.scores.map fun e => (e.1, .ofNat e.2))) := by
    refine Json.keeps_obj (h.sorted.map_values _) (List.forall_mem_map.mpr fun e he => ?_)
    exact Json.keeps_ofNat (Nat.lt_trans (h.count_lt e he) (by decide)) depth
  have hseen : Keeps (depth + 1) (.obj (r.seen.map fun e => (e.1, .str e.2))) :=
    Json.keeps_obj (h.seen.map_values _) (List.forall_mem_map.mpr fun e _ =>
      Json.keeps_str depth e.2)
  have htop : Keeps (depth + 1) (.ofNat r.top) :=
    Json.keeps_ofNat (Nat.lt_trans h.top_lt (by decide)) _
  refine Json.keeps_obj ?_ ?_
  · simp only [Fields.IsSorted, List.pairwise_cons, List.forall_mem_cons]
    decide
  · simp only [List.forall_mem_cons]
    exact ⟨hscores, hseen, htop, nofun⟩

end ScoreRecord

/-! ### Detection -/

theorem LayoutSource.ofStoredName?_storedName (s : LayoutSource) :
    ofStoredName? s.storedName = some s := by
  cases s <;> decide

namespace DetectionRecord

theorem record?_written (current time source tester : Json) :
    (Json.obj [("currentLayout", current), ("savedAt", time), ("source", source),
      ("tester", tester)]).written.record? .refused ["tester", "source", "currentLayout", "savedAt"] =
      some [some tester.written, some source.written, some current.written, some time.written] := by
  simp [Json.written, Json.writtenFields, Json.Written.record?, Json.Written.field?]

theorem ofWritten?_of_fields {r : DetectionRecord} {w tester source current time : Json.Written}
    (hw : w.record? .refused ["tester", "source", "currentLayout", "savedAt"] =
      some [some tester, some source, some current, some time])
    (hscores : Json.Written.optional ScoreRecord.ofWritten? (some tester) = some r.scores)
    (hsource : Json.Written.optional LayoutSource.ofWritten? (some source) = some r.source)
    (hcurrent : Json.Written.optional (·.text?) (some current) = some r.current)
    (htime : Json.Written.optional readTime? (some time) = some r.time) :
    ofWritten? w = some r := by
  rw [ofWritten?, hw]
  simp only [hscores, hsource, hcurrent, htime]
  rfl

/-- A text that may be absent is read back where it is one that can be read. -/
theorem optional_ofOptionStr {α : Type} (read : Json.Written → Option α) (text : α → String)
    {v : Option α} (h : ∀ x, v = some x → read (.str (some (text x))) = some x) :
    Json.Written.optional read (some (Json.ofOptionStr (v.map text)).written) = some v := by
  cases v with
  | none =>
      rw [Option.map_none, Json.ofOptionStr, Json.written]
      rfl
  | some x =>
      rw [Option.map_some, Json.ofOptionStr, Json.written, Json.Written.optional, h x rfl]
      · rfl
      · nofun

structure IsStorable (r : DetectionRecord) : Prop where
  scores : ∀ s, r.scores = some s → s.IsStorable
  time : ∀ t, r.time = some t → Timestamp.isValid t = true

theorem of_optional {α : Type} {read : Json.Written → Option α} {w : Option Json.Written}
    {v : Option α} (h : Json.Written.optional read w = some v) {x : α} (hx : v = some x) :
    ∃ w, read w = some x := by
  subst hx
  rw [Json.Written.optional.eq_def] at h
  split at h
  · cases h
  · cases h
  · next w _ =>
      obtain ⟨y, hy, heq⟩ := Option.map_eq_some_iff.mp h
      cases heq
      exact ⟨w, hy⟩

/-- What is read can be stored. -/
theorem isStorable_of_ofWritten? {r : DetectionRecord} {w : Json.Written}
    (h : ofWritten? w = some r) : r.IsStorable := by
  rw [ofWritten?] at h
  split at h
  · obtain ⟨scores, hscores, h⟩ := Option.bind_eq_some_iff.mp h
    obtain ⟨source, -, h⟩ := Option.bind_eq_some_iff.mp h
    obtain ⟨current, -, h⟩ := Option.bind_eq_some_iff.mp h
    obtain ⟨time, htime, h⟩ := Option.bind_eq_some_iff.mp h
    cases h
    refine ⟨fun s hs => ?_, fun t ht => ?_⟩
    · exact ScoreRecord.isStorable_of_ofWritten? (of_optional hscores hs).choose_spec
    · exact (Option.filter_eq_some_iff.mp (of_optional htime ht).choose_spec).2
  · cases h

theorem ofWritten?_toJson {r : DetectionRecord} (h : r.IsStorable) :
    ofWritten? r.toJson.written = some r := by
  refine ofWritten?_of_fields (record?_written _ _ _ _) ?_ ?_ ?_ ?_
  · cases hs : r.scores with
    | none => rw [Option.map_none, Json.ofOption, Json.written]; rfl
    | some s =>
        rw [Option.map_some, Json.ofOption, Json.Written.optional,
          ScoreRecord.ofWritten?_toJson (h.scores s hs)]
        · rfl
        · rw [ScoreRecord.toJson, Json.written]
          nofun
  · exact optional_ofOptionStr LayoutSource.ofWritten? _ fun s _ =>
      LayoutSource.ofStoredName?_storedName s
  · have hcurrent := optional_ofOptionStr (·.text?) id (v := r.current) fun s _ => rfl
    rwa [Option.map_id] at hcurrent
  · have hread (t : String) (ht : r.time = some t) : readTime? (.str (some (id t))) = some t := by
      rw [readTime?, Json.Written.text?]
      exact Option.filter_eq_some_iff.mpr ⟨rfl, h.time t ht⟩
    have htime := optional_ofOptionStr readTime? id hread
    rwa [Option.map_id] at htime

theorem keeps_toJson {r : DetectionRecord} (h : r.IsStorable) (depth : Nat) :
    Keeps (depth + 3) r.toJson := by
  have htester : Keeps (depth + 2) (.ofOption (r.scores.map ScoreRecord.toJson)) := by
    cases hs : r.scores with
    | none => exact Json.keeps_null _
    | some s => exact ScoreRecord.keeps_toJson (h.scores s hs) depth
  refine Json.keeps_obj ?_ ?_
  · simp only [Fields.IsSorted, List.pairwise_cons, List.forall_mem_cons]
    decide
  · simp only [List.forall_mem_cons]
    exact ⟨Json.keeps_ofOptionStr _ _, Json.keeps_ofOptionStr _ _, Json.keeps_ofOptionStr _ _,
      htester, nofun⟩

end DetectionRecord

end Shortcuts
