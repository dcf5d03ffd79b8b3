import Shortcuts.Storage
import Shortcuts.Proofs.Fields
import Shortcuts.Proofs.Json.ReadBack

/-!
Values that are stored and read again. A value of texts, counts and objects comes back as it was
stored, also from a file, which is read as a whole with all that others stored there.
-/

namespace Shortcuts

namespace Json

variable {depth : Nat} {fields : List (String × Json)}

/-- Read back, with room for this many levels of nesting, a value is what it was. -/
def Keeps (depth : Nat) (j : Json) : Prop := j.reread.value depth = some j

theorem keeps_null (depth : Nat) : Keeps depth null := by
  rw [Keeps, reread, Written.value]

theorem keeps_str (depth : Nat) (s : String) : Keeps depth (str s) := by
  rw [Keeps, reread, Written.value]
  rfl

theorem keeps_ofOptionStr (depth : Nat) : ∀ s, Keeps depth (ofOptionStr s)
  | none => keeps_null depth
  | some s => keeps_str depth s

theorem ofNat_eq {n : Nat} (hn : n < 2 ^ 64) : ofNat n = num (.int n) := by
  have hfits : -(Nat.pow 2 63 : Int) ≤ (n : Int) ∧ (n : Int) < Nat.pow 2 64 := by
    simp only [Nat.pow_eq]
    omega
  rw [ofNat, ofInt, Number.ofInt, if_pos hfits]

theorem reread_int {n : Nat} (hn : n < 2 ^ 64) :
    Number.reread (.int n) = .num (some (.int n)) := by
  have htext : (Number.int n).text.toList = Double.decimalDigits n := by
    rw [Number.text, Int.toString_eq_repr, Int.repr_eq_if, if_pos (Int.natCast_nonneg n),
      Int.toNat_natCast, Nat.toList_repr]
    rfl
  have hread := readNumber_whole false (isWhole_decimalDigits n) (.inl (Eq.refl []))
  have hhead := head?_of_readNumber hread
  rw [List.append_nil] at hread hhead
  rw [Number.reread, htext, readValue_of_digit hhead, hread]
  have hnumber : numberOf false (Double.decimalDigits n) [] none = some (.int n) := by
    simp only [numberOf, List.isEmpty_nil, Option.isNone_none, Bool.and_self, if_true,
      Double.ofDigits_decimalDigits, Bool.not_false, Bool.true_and, decide_eq_true_eq, Nat.pow_eq]
    exact if_pos hn
  rw [hnumber]
  rfl

theorem keeps_ofNat {n : Nat} (hn : n < 2 ^ 64) (depth : Nat) : Keeps depth (ofNat n) := by
  rw [Keeps, ofNat_eq hn, reread, reread_int hn, Written.value]
  rfl

theorem fieldValues_of_keeps (h : ∀ f ∈ fields, Keeps depth f.2) :
    Written.fieldValues depth (rereadFields fields) = some fields := by
  induction fields with
  | nil => rw [rereadFields, Written.fieldValues]
  | cons f fields ih =>
      obtain ⟨k, j⟩ := f
      obtain ⟨hj, hfields⟩ := List.forall_mem_cons.mp h
      rw [rereadFields, Written.fieldValues, ih hfields, show j.reread.value depth = some j from hj]
      rfl

theorem keeps_obj (hsorted : Fields.IsSorted fields) (h : ∀ f ∈ fields, Keeps depth f.2) :
    Keeps (depth + 1) (obj fields) := by
  rw [Keeps, reread, Written.value, if_neg (Nat.succ_ne_zero depth), Nat.add_sub_cancel,
    fieldValues_of_keeps h, Option.map_some, ofFields, hsorted.ofList_eq]

/-! ### Whole texts -/

theorem readWritten_pretty (j : Json) : readWritten (j.pretty "") = some j.reread := by
  have hindent : ∀ c ∈ "".toList, isSpace c = true := nofun
  have hread := readValue_pretty j hindent (2 * (j.pretty "").toList.length + 2) [] (.inl rfl)
    (by omega)
  rw [List.append_nil] at hread
  rw [readWritten, hread]
  rfl

theorem read?_pretty (j : Json) : read? (j.pretty "") = j.reread.toJson := by
  rw [read?, readWritten_pretty]
  rfl

/-- What has an object for its value is written as one. -/
theorem exists_of_value_eq_obj {w : Written} (h : w.value depth = some (obj fields)) :
    ∃ written entries, w = .obj written ∧ fields = Fields.ofList entries := by
  cases w with
  | null | bool b => simp [Written.value] at h
  | str s => simp [Written.value] at h
  | num n =>
      obtain ⟨n, -, hn⟩ := Option.map_eq_some_iff.mp (by simpa only [Written.value] using h)
      cases n with
      | int i => cases hn
      | float d =>
          rw [Number.value] at hn
          split at hn <;> cases hn
  | arr items =>
      rw [Written.value] at h
      split at h
      · cases h
      · obtain ⟨items, -, hitems⟩ := Option.map_eq_some_iff.mp h
        cases hitems
  | obj written =>
      rw [Written.value] at h
      split at h
      · cases h
      · obtain ⟨entries, -, hentries⟩ := Option.map_eq_some_iff.mp h
        cases hentries
        exact ⟨written, entries, rfl, rfl⟩

/-- The fields of an object that was read are in order. -/
theorem isSorted_of_value {w : Written} (h : w.value depth = some (obj fields)) :
    Fields.IsSorted fields := by
  obtain ⟨-, entries, -, rfl⟩ := exists_of_value_eq_obj h
  exact Fields.isSorted_ofList entries

/-- Reading takes the keys as they are, and values that keep. -/
theorem fieldValues_reread {entries : List (String × Json)}
    (h : Written.fieldValues depth (rereadFields fields) = some entries) :
    entries.map Prod.fst = fields.map Prod.fst ∧
      ∀ k j, (k, j) ∈ fields → Keeps depth j → (k, j) ∈ entries := by
  induction fields generalizing entries with
  | nil =>
      rw [rereadFields, Written.fieldValues] at h
      cases h
      exact ⟨rfl, nofun⟩
  | cons f fields ih =>
      obtain ⟨l, i⟩ := f
      rw [rereadFields, Written.fieldValues] at h
      simp only [Option.bind_eq_bind, Option.bind_some] at h
      obtain ⟨i', hi', h⟩ := Option.bind_eq_some_iff.mp h
      obtain ⟨rest, hrest, h⟩ := Option.bind_eq_some_iff.mp h
      cases h
      obtain ⟨hkeys, hvalues⟩ := ih hrest
      refine ⟨congrArg (_ :: ·) hkeys, fun k j hmem hj => ?_⟩
      rcases List.mem_cons.mp hmem with heq | hmem
      · cases heq
        rw [show i.reread.value depth = some i from hj] at hi'
        cases hi'
        exact .head _
      · exact .tail _ (hvalues k j hmem hj)

end Json

namespace Storage

variable {st st' : Storage} {data : Fields Json} {k : String} {v : Json}

theorem isSorted_contents {text : Option String} (h : (file text).contents = .ok data) :
    data.IsSorted := by
  cases text with
  | none =>
      cases h
      exact .nil
  | some text =>
      rw [contents] at h
      split at h
      · next fields hread =>
          cases h
          obtain ⟨w, -, hw⟩ := Option.bind_eq_some_iff.mp hread
          exact Json.isSorted_of_value hw
      · cases h

/-- What was stored is there, if it keeps and all can be read afterwards. -/
theorem get_put (h : st.put k v = .ok st') (hread : st'.contents = .ok data)
    (hv : Json.Keeps (Json.maxDepth - 1) v) : st'.get k = .ok (some v) := by
  rw [get, hread]
  refine congrArg Except.ok ?_
  rw [put] at h
  cases hcontents : st.contents with
  | error e => rw [hcontents] at h; cases h
  | ok before =>
      rw [hcontents] at h
      cases st with
      | memory _ | broken =>
          cases h
          cases hread
          exact Fields.lookup_insert_self k v before
      | file text =>
          have hsorted := (isSorted_contents hcontents).insert k v
          cases h
          rw [contents, Json.read?_pretty, Json.reread, Json.Written.toJson, Json.Written.value,
            if_neg (by decide)] at hread
          split at hread
          · next fields hfields =>
              cases hread
              obtain ⟨entries, hentries, heq⟩ := Option.map_eq_some_iff.mp hfields
              cases heq
              obtain ⟨hkeys, hvalues⟩ := Json.fieldValues_reread hentries
              have hmem : (k, v) ∈ before.insert k v := Fields.mem_of_lookup (by simp)
              exact Fields.lookup_ofList_of_mem (hkeys ▸ hsorted.nodup_keys) (hvalues k v hmem hv)
          · cases hread

end Storage

end Shortcuts
