import Shortcuts.Proofs.Text.Pieces
import Shortcuts.Settings

/-!
What a key depends on. A layer answers a key from what is stored under the key itself or under a
section around it, so what is written elsewhere does not change the answer.
-/

namespace Shortcuts

theorem isSectionOf_iff (part whole : String) :
    isSectionOf part whole = true ↔ ∃ rest, whole.toList = part.toList ++ '.' :: rest := by
  rw [isSectionOf, List.isPrefixOf_iff_prefix]
  constructor
  · rintro ⟨rest, hrest⟩
    exact ⟨rest, by rw [← hrest, List.append_assoc]; rfl⟩
  · rintro ⟨rest, hrest⟩
    exact ⟨rest, by rw [hrest, List.append_assoc]; rfl⟩

/-- What is stored under `part` may count for `key`. -/
def Covers (part key : String) : Prop := part = key ∨ isSectionOf part key = true

/-! ### Paths -/

/-- The first parts of a path are the whole of it or are followed by a dot. -/
theorem intercalate_take (ws : List (List Char)) (n : Nat) :
    ['.'].intercalate (ws.take (n + 1)) = ['.'].intercalate ws ∨
      ∃ rest, ['.'].intercalate ws = ['.'].intercalate (ws.take (n + 1)) ++ '.' :: rest := by
  induction ws generalizing n with
  | nil => exact .inl rfl
  | cons w ws ih =>
      cases ws with
      | nil =>
          left
          rw [List.take_succ_cons, List.take_nil]
      | cons w' ws =>
          cases n with
          | zero =>
              refine .inr ⟨['.'].intercalate (w' :: ws), ?_⟩
              rw [List.intercalate_cons_cons, List.append_assoc]
              simp
          | succ n =>
              have hpart : ['.'].intercalate ((w :: w' :: ws).take (n + 1 + 1)) =
                  w ++ ['.'] ++ ['.'].intercalate ((w' :: ws).take (n + 1)) := by
                rw [List.take_succ_cons, List.take_succ_cons, List.intercalate_cons_cons]
              rw [hpart, List.intercalate_cons_cons]
              rcases ih n with hall | ⟨rest, hrest⟩
              · exact .inl (by rw [hall])
              · exact .inr ⟨rest, by simp only [hrest, List.append_assoc]⟩

namespace Settings

variable {values values' : Fields Json} {key : String} {s s' : Settings}

theorem covers_take (key : String) (n : Nat) :
    Covers (".".intercalate ((pathParts key).take (n + 1))) key := by
  have hpath : (".".intercalate ((pathParts key).take (n + 1))).toList =
      ['.'].intercalate ((Text.splitBy (· = '.') key.toList).take (n + 1)) := by
    rw [String.toList_intercalate, pathParts, ← List.map_take, List.map_map]
    simp [Function.comp_def]
  rcases intercalate_take (Text.splitBy (· = '.') key.toList) n with hall | ⟨rest, hrest⟩
  · left
    rw [← String.toList_inj, hpath, hall, Text.intercalate_splitBy]
  · right
    rw [isSectionOf_iff, hpath]
    exact ⟨rest, by rw [← hrest, Text.intercalate_splitBy]⟩

theorem lookupSection_congr {parts : List String} {n : Nat}
    (h : ∀ m, values'.lookup (".".intercalate (parts.take (m + 1))) =
      values.lookup (".".intercalate (parts.take (m + 1)))) :
    lookupSection values' parts n = lookupSection values parts n := by
  induction n with
  | zero => rfl
  | succ n ih => rw [lookupSection, lookupSection, h n, ih]

theorem lookupIn_congr (h : ∀ k, Covers k key → values'.lookup k = values.lookup k) :
    lookupIn values' key = lookupIn values key :=
  lookupSection_congr fun m => h _ (covers_take key m)

theorem get?_congr (h : ∀ l k, Covers k key → (s'.layer l).lookup k = (s.layer l).lookup k) :
    s'.get? key = s.get? key := by
  have hlayer (l : Layer) : s'.inspect? key l = s.inspect? key l := lookupIn_congr (h l)
  simp only [get?, hlayer]

theorem layer_withLayer (s : Settings) (l l' : Layer) (values : Fields Json) :
    (s.withLayer l values).layer l' = if l' = l then values else s.layer l' := by
  cases l <;> cases l' <;> rfl

/-- What is stored in a layer under one key counts for no key that it does not cover. -/
theorem get?_withLayer {k : String} {l : Layer} (hk : ¬ Covers k key)
    (h : ∀ k', k' ≠ k → values.lookup k' = (s.layer l).lookup k') :
    (s.withLayer l values).get? key = s.get? key := by
  refine get?_congr fun l' k' hcovers => ?_
  rw [layer_withLayer]
  split
  · next hl =>
      rw [hl]
      refine h k' ?_
      rintro rfl
      exact hk hcovers
  · rfl

end Settings

/-- What a change says covers all keys that have another value after it. A change of the base layer
says nothing. -/
def SettingsChange.Tells (change : SettingsChange) (s s' : Settings) : Prop :=
  change.layer = .base ∨
    ∀ key, (∀ k ∈ change.keys, ¬ Covers k key) → s'.get? key = s.get? key

namespace Settings

theorem get?_update {k : String} (s : Settings) (v : Json) (l : Layer) (hk : ¬ Covers k key) :
    (s.update k v l).1.get? key = s.get? key :=
  get?_withLayer hk fun _ hk' => Fields.lookup_insert_of_ne hk' v (s.layer l)

theorem get?_remove {k : String} (s : Settings) (l : Layer) (hk : ¬ Covers k key) :
    (s.remove k l).1.get? key = s.get? key := by
  rw [remove]
  split
  · exact get?_withLayer hk fun _ hk' => Fields.lookup_erase_of_ne hk' (s.layer l)
  · rfl

theorem tells_update (s : Settings) (key : String) (v : Json) (l : Layer) :
    (s.update key v l).2.Tells s (s.update key v l).1 :=
  .inr fun _ h => get?_update s v l (h key (List.mem_singleton_self key))

theorem keys_of_remove {change : SettingsChange} (s : Settings) (key : String) (l : Layer)
    (h : (s.remove key l).2 = some change) : change = ⟨l, [key]⟩ := by
  rw [remove] at h
  split at h
  · exact (Option.some.inj h).symm
  · cases h

theorem tells_remove {change : SettingsChange} (s : Settings) (key : String) (l : Layer)
    (h : (s.remove key l).2 = some change) : change.Tells s (s.remove key l).1 := by
  rw [keys_of_remove s key l h]
  exact .inr fun _ h => get?_remove s l (h key (List.mem_singleton_self key))

theorem remove_of_none (s : Settings) (key : String) (l : Layer)
    (h : (s.remove key l).2 = none) : (s.remove key l).1 = s := by
  rw [remove] at h ⊢
  split at h
  · cases h
  · next hs => rw [if_neg hs]

theorem tells_setDefaults (s : Settings) (values : Fields Json) :
    (s.setDefaults values).2.Tells s (s.setDefaults values).1 := .inl rfl

/-! ### Edits -/

inductive Edit where
  | update (key : String) (v : Json) (l : Layer)
  | remove (key : String) (l : Layer)
  | setDefaults (values : Fields Json)

/-- The settings after an edit, and what is said of it. -/
def edit (s : Settings) : Edit → Settings × Option SettingsChange
  | .update key v l => let r := s.update key v l; (r.1, some r.2)
  | .remove key l => s.remove key l
  | .setDefaults values => let r := s.setDefaults values; (r.1, some r.2)

def edited (s : Settings) (es : List Edit) : Settings := es.foldl (fun s e => (s.edit e).1) s

variable {s : Settings}

theorem tells_edit {change : SettingsChange} {e : Edit} (h : (s.edit e).2 = some change) :
    change.Tells s (s.edit e).1 := by
  cases e with
  | update key v l => cases h; exact tells_update s key v l
  | remove key l => exact tells_remove s key l h
  | setDefaults values => cases h; exact tells_setDefaults s values

/-- An edit of which nothing is said changes nothing. -/
theorem edit_of_silent {e : Edit} (h : (s.edit e).2 = none) : (s.edit e).1 = s := by
  cases e with
  | remove key l => exact remove_of_none s key l h
  | update | setDefaults => cases h

end Settings

end Shortcuts
