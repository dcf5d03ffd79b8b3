import Shortcuts.Proofs.Settings

/-!
What an edit of the settings says about the keys that have other values after it. What is written
to one key is said whenever it counts for another one. Where the base layer is replaced, only the
keys of the new one are named, so nothing is said of a default that is gone with all around it.
-/

namespace Shortcuts

theorem SettingsChange.affects_iff (change : SettingsChange) (key : String) :
    change.affects key = true ↔ ∃ k ∈ change.keys, Covers k key ∨ Covers key k := by
  rw [affects, List.any_eq_true]
  refine exists_congr fun k => and_congr_right fun _ => ?_
  simp only [Bool.or_eq_true, decide_eq_true_eq, Covers]
  by_cases hsame : k = key <;> simp [hsame, eq_comm (a := key)]

theorem SettingsChange.affects_of_covers {change : SettingsChange} {k key : String}
    (hk : k ∈ change.keys) (h : Covers k key) : change.affects key = true :=
  (change.affects_iff key).mpr ⟨k, hk, .inl h⟩

namespace Settings

variable {values : Fields Json} {key : String} {s : Settings}

/-! ### Where a value comes from -/

/-- The value that the layers above the base have for a key. -/
def above? (s : Settings) (key : String) : Option Json :=
  [Layer.memory, .workspace, .user].findSome? (s.inspect? key)

theorem get?_eq (s : Settings) (key : String) :
    s.get? key = (s.above? key).or (lookupIn s.base key) := by
  have hlayers : Layer.strongestFirst = [.memory, .workspace, .user] ++ [.base] := rfl
  rw [get?, hlayers, List.findSome?_append, List.findSome?_singleton]
  rfl

/-- The base layer has a value for the key, and no layer above it has one. -/
def IsDefaulted (s : Settings) (key : String) : Prop :=
  s.above? key = none ∧ (lookupIn s.base key).isSome = true

theorem above?_setDefaults (s : Settings) (values : Fields Json) (key : String) :
    (s.setDefaults values).1.above? key = s.above? key := rfl

theorem lookupSection_nil (parts : List String) (n : Nat) : lookupSection [] parts n = none := by
  induction n with
  | zero => rfl
  | succ n ih => exact ih

/-- Where nothing is stored that counts for a key, the key has no value. -/
theorem lookupIn_eq_none (h : ∀ k ∈ values.keys, ¬ Covers k key) : lookupIn values key = none := by
  have hempty : lookupIn values key = lookupIn [] key := by
    refine lookupIn_congr fun k hk => ?_
    refine List.lookup_eq_none_iff.mpr fun e he => ?_
    have hne : k ≠ e.1 := by
      rintro rfl
      exact h e.1 (List.mem_map_of_mem he) hk
    simpa using hne
  rw [hempty]
  exact lookupSection_nil _ _

/-! ### What is said -/

/-- An edit takes the default of a key away, and names no key that is this one, around it or inside
it. -/
def Edit.Drops (s : Settings) (key : String) : Edit → Prop
  | .setDefaults values =>
    s.IsDefaulted key ∧ ∀ k ∈ values.keys, ¬ Covers k key ∧ ¬ Covers key k
  | _ => False

theorem get?_setDefaults (h : ∀ k ∈ values.keys, ¬ Covers k key) :
    (s.setDefaults values).1.get? key = s.above? key := by
  rw [get?_eq, above?_setDefaults]
  change (s.above? key).or (lookupIn values key) = s.above? key
  rw [lookupIn_eq_none h, Option.or_none]

/-- Only what is dropped is lost from sight. -/
theorem get?_setDefaults_ne_iff (h : ∀ k ∈ values.keys, ¬ Covers k key) :
    (s.setDefaults values).1.get? key ≠ s.get? key ↔ s.IsDefaulted key := by
  rw [get?_setDefaults h, get?_eq, IsDefaulted]
  cases s.above? key with
  | some v => simp
  | none => cases lookupIn s.base key <;> simp

/-- In any settings and for every key: that an edit gives the key another value is said to whom it
concerns exactly if the edit does not drop the default of the key. -/
theorem told_iff_not_drops (s : Settings) (e : Edit) (key : String) :
    ((s.edit e).1.get? key ≠ s.get? key →
      ∃ change, (s.edit e).2 = some change ∧ change.affects key = true) ↔ ¬ e.Drops s key := by
  cases e with
  | update k v l =>
      refine iff_of_true (fun hne => ⟨_, rfl, ?_⟩) not_false
      refine SettingsChange.affects_of_covers (List.mem_singleton_self k) ?_
      exact Classical.not_not.mp fun hk => hne (get?_update s v l hk)
  | remove k l =>
      refine iff_of_true (fun hne => ?_) not_false
      have hk : Covers k key := Classical.not_not.mp fun hk => hne (get?_remove s l hk)
      cases hchange : (s.remove k l).2 with
      | none => exact absurd (congrArg (·.get? key) (remove_of_none s k l hchange)) hne
      | some change =>
          refine ⟨change, hchange, SettingsChange.affects_of_covers ?_ hk⟩
          rw [keys_of_remove s k l hchange]
          exact List.mem_singleton_self k
  | setDefaults values =>
      have hsaid : (s.edit (.setDefaults values)).2 = some ⟨.base, values.keys⟩ := rfl
      constructor
      · rintro htold ⟨hdefaulted, hapart⟩
        obtain ⟨change, hchange, haffects⟩ :=
          htold ((get?_setDefaults_ne_iff fun k hk => (hapart k hk).1).mpr hdefaulted)
        rw [hsaid] at hchange
        cases hchange
        obtain ⟨k, hk, hnear⟩ := (SettingsChange.affects_iff _ key).mp haffects
        exact hnear.elim (hapart k hk).1 (hapart k hk).2
      · intro hkept hne
        refine ⟨_, hsaid, (SettingsChange.affects_iff _ key).mpr ?_⟩
        refine Classical.byContradiction fun hnone => ?_
        have hapart : ∀ k ∈ values.keys, ¬ Covers k key ∧ ¬ Covers key k :=
          fun k hk => not_or.mp fun hnear => hnone ⟨k, hk, hnear⟩
        exact hkept ⟨(get?_setDefaults_ne_iff fun k hk => (hapart k hk).1).mp hne, hapart⟩

/-- A default that was there is gone, and the change that is told names no key. -/
theorem dropped_default_untold :
    let s := Settings.edited {} [.setDefaults [("a", .bool true)]]
    s.get? "a" = some (.bool true) ∧ (s.edit (.setDefaults [])).1.get? "a" = none ∧
      ¬ ((s.edit (.setDefaults [])).1.get? "a" ≠ s.get? "a" →
        ∃ change, (s.edit (.setDefaults [])).2 = some change ∧ change.affects "a" = true) := by
  intro s
  have hbefore : s.get? "a" = some (.bool true) := rfl
  have hafter : (s.edit (.setDefaults [])).1.get? "a" = none := rfl
  refine ⟨hbefore, hafter, fun htold => ?_⟩
  obtain ⟨change, hchange, haffects⟩ := htold (by rw [hbefore, hafter]; exact nofun)
  cases hchange
  cases haffects

end Settings

end Shortcuts
