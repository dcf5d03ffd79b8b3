import Shortcuts.Fields

/-!
Fields in ascending order of their keys, and tables whose keys are counted. Putting an entry in
and taking one out keeps the order of fields, and where the entries of one map are put over
another, a key is looked up in the upper one first.
-/

namespace Shortcuts

theorem lookup_filter {κ α : Type} [BEq κ] [LawfulBEq κ] (p : κ → Bool) (m : List (κ × α)) (k : κ) :
    (m.filter fun e => p e.1).lookup k = if p k then m.lookup k else none := by
  induction m with
  | nil => simp
  | cons e m ih =>
      obtain ⟨l, v⟩ := e
      by_cases hk : k = l
      · subst hk
        cases hp : p k with
        | true => simp [hp]
        | false => simpa [hp] using ih
      · have hb : (k == l) = false := by simpa using hk
        cases hp : p l with
        | true => simp [hp, List.lookup_cons, hb, ih]
        | false => simp [hp, List.lookup_cons, hb, ih]

theorem lookup_map_values {κ α β : Type} [BEq κ] [LawfulBEq κ] (f : α → β) (m : List (κ × α))
    (k : κ) : (m.map fun e => (e.1, f e.2)).lookup k = (m.lookup k).map f := by
  induction m with
  | nil => rfl
  | cons e m ih =>
      obtain ⟨l, v⟩ := e
      rw [List.map_cons, List.lookup_cons, List.lookup_cons]
      cases k == l with
      | true => rfl
      | false => exact ih

namespace Fields

variable {α : Type}

def IsSorted (m : Fields α) : Prop := m.Pairwise fun e e' => e.1 < e'.1

theorem mem_of_mem_insert {k : String} {v : α} {m : Fields α} {e : String × α}
    (h : e ∈ m.insert k v) : e = (k, v) ∨ e ∈ m := by
  induction m with
  | nil => exact .inl (List.mem_singleton.mp h)
  | cons e' m ih =>
      obtain ⟨l, w⟩ := e'
      rw [insert] at h
      split at h
      · rcases List.mem_cons.mp h with h | h
        · exact .inl h
        · exact .inr (.tail _ h)
      · split at h
        · exact List.mem_cons.mp h
        · rcases List.mem_cons.mp h with h | h
          · exact .inr (h ▸ .head _)
          · exact (ih h).imp_right (.tail _)

theorem erase_insert (k : String) (v : α) (m : Fields α) : (m.insert k v).erase k = m.erase k := by
  induction m with
  | nil => simp [insert, erase]
  | cons e m ih =>
      obtain ⟨l, w⟩ := e
      rw [insert]
      split
      · next hk => simp [erase, hk]
      · split
        · simp [erase]
        · rw [erase, erase, List.filter_cons, List.filter_cons]
          rw [erase, erase] at ih
          rw [ih]

theorem length_insert_le (k : String) (v : α) (m : Fields α) :
    (m.insert k v).length ≤ m.length + 1 := by
  induction m with
  | nil => exact Nat.le_refl 1
  | cons e m ih =>
      obtain ⟨l, w⟩ := e
      rw [insert]
      split
      · exact Nat.le_succ _
      · split
        · exact Nat.le_refl _
        · exact Nat.succ_le_succ ih

theorem mem_keys_insert (k l : String) (v : α) (m : Fields α) :
    l ∈ (m.insert k v).keys ↔ l = k ∨ l ∈ m.keys := by
  induction m with
  | nil => simp [insert, keys]
  | cons e m ih =>
      obtain ⟨n, w⟩ := e
      rw [keys, keys] at ih
      rw [insert, keys, keys]
      split
      · next hk => simp [hk]
      · split
        · simp
        · rw [List.map_cons, List.mem_cons, ih, List.map_cons, List.mem_cons]
          exact or_left_comm

theorem mem_keys_ofList (entries : List (String × α)) (l : String) :
    l ∈ (ofList entries).keys ↔ l ∈ entries.map Prod.fst := by
  have hfold : ∀ m : Fields α, l ∈ (entries.foldl (fun m e => insert e.1 e.2 m) m).keys ↔
      l ∈ m.keys ∨ l ∈ entries.map Prod.fst := by
    induction entries with
    | nil => exact fun m => (or_iff_left List.not_mem_nil).symm
    | cons e entries ih =>
        intro m
        rw [List.foldl_cons, ih, mem_keys_insert, List.map_cons, List.mem_cons, or_assoc]
        exact or_left_comm
  exact (hfold []).trans (or_iff_right List.not_mem_nil)

theorem mem_of_mem_ofList {entries : List (String × α)} {e : String × α}
    (h : e ∈ ofList entries) : e ∈ entries := by
  have hfold : ∀ m : Fields α, e ∈ entries.foldl (fun m e => insert e.1 e.2 m) m →
      e ∈ m ∨ e ∈ entries := by
    clear h
    induction entries with
    | nil => exact fun m => .inl
    | cons e' entries ih =>
        intro m h
        rcases ih _ h with h | h
        · rcases mem_of_mem_insert h with rfl | h
          · exact .inr (.head _)
          · exact .inl h
        · exact .inr (.tail _ h)
  exact (hfold [] h).resolve_left List.not_mem_nil

theorem lookup_overlay_of_nodup {extra : Fields α} (h : extra.keys.Nodup) (m : Fields α)
    (k : String) : (m.overlay extra).lookup k = (extra.lookup k).or (m.lookup k) := by
  induction extra generalizing m with
  | nil => rfl
  | cons e extra ih =>
      obtain ⟨l, w⟩ := e
      obtain ⟨hl, hextra⟩ := List.nodup_cons.mp h
      have hover : m.overlay ((l, w) :: extra) = (m.insert l w).overlay extra := rfl
      rw [hover, ih hextra]
      by_cases hk : k = l
      · subst hk
        have hnone : extra.lookup k = none := by
          refine List.lookup_eq_none_iff.mpr fun e he => ?_
          have hne : k ≠ e.1 := fun heq => hl (List.mem_map.mpr ⟨e, he, heq.symm⟩)
          simpa using hne
        rw [hnone, lookup_insert_self, List.lookup_cons, beq_self_eq_true]
        rfl
      · have hb : (k == l) = false := by simpa using hk
        rw [lookup_insert_of_ne hk, List.lookup_cons, hb]

theorem ofList_append (entries more : List (String × α)) :
    ofList (entries ++ more) = (ofList entries).overlay more :=
  List.foldl_append

theorem lookup_overlay_ofList (m : Fields α) (entries : List (String × α)) (k : String) :
    (m.overlay entries).lookup k = ((ofList entries).lookup k).or (m.lookup k) := by
  induction entries generalizing m with
  | nil => rfl
  | cons e entries ih =>
      obtain ⟨l, v⟩ := e
      have hover : ∀ m : Fields α, m.overlay ((l, v) :: entries) = (m.insert l v).overlay entries :=
        fun _ => rfl
      have hlist : ofList ((l, v) :: entries) = overlay [] ((l, v) :: entries) := rfl
      rw [hlist, hover, hover, ih, ih (insert l v []), Option.or_assoc]
      by_cases hk : k = l
      · subst hk
        rw [lookup_insert_self, lookup_insert_self, Option.some_or]
      · rw [lookup_insert_of_ne hk, lookup_insert_of_ne hk]
        rfl

/-- Of entries in two lists those in the second count first. -/
theorem lookup_ofList_append (entries more : List (String × α)) (k : String) :
    (ofList (entries ++ more)).lookup k =
      ((ofList more).lookup k).or ((ofList entries).lookup k) := by
  rw [ofList_append, lookup_overlay_ofList]

theorem mem_of_lookup {m : Fields α} {k : String} {v : α} (h : m.lookup k = some v) :
    (k, v) ∈ m := by
  obtain ⟨l, r, hm, -⟩ := List.lookup_eq_some_iff.mp h
  simp [hm]

theorem lookup_of_mem {entries : List (String × α)} {k : String} {v : α}
    (h : (entries.map Prod.fst).Nodup) (hv : (k, v) ∈ entries) : entries.lookup k = some v := by
  induction entries with
  | nil => cases hv
  | cons e entries ih =>
      obtain ⟨l, w⟩ := e
      obtain ⟨hl, hentries⟩ := List.nodup_cons.mp h
      rcases List.mem_cons.mp hv with heq | hv
      · cases heq
        rw [List.lookup_cons, beq_self_eq_true]
      · have hne : k ≠ l := fun heq => hl (List.mem_map.mpr ⟨_, hv, heq⟩)
        have hb : (k == l) = false := by simpa using hne
        rw [List.lookup_cons, hb]
        exact ih hentries hv

/-- Where no key stands twice each entry counts. -/
theorem lookup_ofList_of_mem {entries : List (String × α)} {k : String} {v : α}
    (h : (entries.map Prod.fst).Nodup) (hv : (k, v) ∈ entries) :
    (ofList entries).lookup k = some v := by
  have hover : ofList entries = overlay [] entries := rfl
  rw [hover, lookup_overlay_of_nodup h, lookup_of_mem h hv]
  rfl

theorem insert_of_lt {m : Fields α} {k : String} (h : ∀ e ∈ m, e.1 < k) (v : α) :
    m.insert k v = m ++ [(k, v)] := by
  induction m with
  | nil => rfl
  | cons e m ih =>
      obtain ⟨l, w⟩ := e
      have hl : l < k := h _ (.head _)
      rw [insert, if_neg (Std.ne_of_lt hl).symm,
        if_neg fun hlt => String.lt_irrefl l (String.lt_trans hl hlt),
        ih fun e he => h e (.tail _ he)]
      rfl

namespace IsSorted

variable {m extra : Fields α}

theorem overlay_eq_append (h : (m ++ extra).IsSorted) : m.overlay extra = m ++ extra := by
  induction extra generalizing m with
  | nil => exact (List.append_nil m).symm
  | cons e extra ih =>
      have hlt : ∀ e' ∈ m, e'.1 < e.1 := fun e' he' =>
        (List.pairwise_append.mp h).2.2 e' he' e (.head _)
      have hover : m.overlay (e :: extra) = (m.insert e.1 e.2).overlay extra := rfl
      rw [List.append_cons] at h ⊢
      rw [hover, insert_of_lt hlt]
      exact ih h

theorem ofList_eq (h : m.IsSorted) : Fields.ofList m = m :=
  overlay_eq_append (m := []) h

theorem insert (h : m.IsSorted) (k : String) (v : α) : (m.insert k v).IsSorted := by
  induction m with
  | nil => exact List.pairwise_singleton _ _
  | cons e m ih =>
      obtain ⟨l, w⟩ := e
      obtain ⟨hl, hm⟩ := List.pairwise_cons.mp h
      rw [Fields.insert]
      split
      · next hk => exact List.pairwise_cons.mpr ⟨fun e he => hk ▸ hl e he, hm⟩
      · next hk =>
          split
          · next hlt =>
              refine List.pairwise_cons.mpr ⟨List.forall_mem_cons.mpr ⟨hlt, ?_⟩, h⟩
              exact fun e he => String.lt_trans hlt (hl e he)
          · next hlt =>
              refine List.pairwise_cons.mpr ⟨fun e he => ?_, ih hm⟩
              rcases mem_of_mem_insert he with rfl | he
              · exact Std.lt_of_le_of_ne (String.not_lt.mp hlt) (Ne.symm hk)
              · exact hl e he

theorem erase (h : m.IsSorted) (k : String) : (m.erase k).IsSorted :=
  List.Pairwise.sublist List.filter_sublist h

theorem map_values {β : Type} (h : m.IsSorted) (f : α → β) :
    Fields.IsSorted (m.map fun e => (e.1, f e.2)) := List.pairwise_map.mpr h

theorem nodup_keys (h : m.IsSorted) : m.keys.Nodup :=
  List.pairwise_map.mpr (h.imp Std.ne_of_lt)

theorem lookup_overlay (h : extra.IsSorted) (m : Fields α) (k : String) :
    (m.overlay extra).lookup k = (extra.lookup k).or (m.lookup k) :=
  lookup_overlay_of_nodup h.nodup_keys m k

theorem lookup_eq_none {k : String} (h : ∀ e ∈ m, k < e.1) : m.lookup k = none :=
  List.lookup_eq_none_iff.mpr fun e he => by simpa using Std.ne_of_lt (h e he)

theorem head_le {k l : String} {v w : α} (hl : ∀ e ∈ extra, l < e.1)
    (h : List.lookup k ((l, w) :: extra) = some v) : l ≤ k := by
  rcases Decidable.em (k < l) with hlt | hge
  · have habove : ∀ e ∈ (l, w) :: extra, k < e.1 :=
      List.forall_mem_cons.mpr ⟨hlt, fun e he => String.lt_trans hlt (hl e he)⟩
    rw [lookup_eq_none habove] at h
    cases h
  · exact String.not_lt.mp hge

/-- Fields in order are the same when every key is looked up alike. -/
theorem ext (hm : m.IsSorted) (hextra : extra.IsSorted)
    (h : ∀ k, m.lookup k = extra.lookup k) : m = extra := by
  induction m generalizing extra with
  | nil =>
      cases extra with
      | nil => rfl
      | cons e extra =>
          have hnone := h e.1
          rw [List.lookup_cons_self] at hnone
          cases hnone
  | cons e m ih =>
      cases extra with
      | nil =>
          have hnone := h e.1
          rw [List.lookup_cons_self] at hnone
          cases hnone
      | cons e' extra =>
          obtain ⟨k, v⟩ := e
          obtain ⟨l, w⟩ := e'
          obtain ⟨hk, hrest⟩ := List.pairwise_cons.mp hm
          obtain ⟨hl, hrest'⟩ := List.pairwise_cons.mp hextra
          obtain rfl : k = l := String.le_antisymm
            (head_le hk ((h l).trans List.lookup_cons_self))
            (head_le hl ((h k).symm.trans List.lookup_cons_self))
          have hv := h k
          rw [List.lookup_cons_self, List.lookup_cons_self] at hv
          cases hv
          refine congrArg _ (ih hrest hrest' fun j => ?_)
          by_cases hj : j = k
          · rw [hj, lookup_eq_none hk, lookup_eq_none hl]
          · have hb : (j == k) = false := by simpa using hj
            have hjs := h j
            rwa [List.lookup_cons, List.lookup_cons, hb] at hjs

end IsSorted

end Fields

theorem Fields.isSorted_ofList {α : Type} (entries : List (String × α)) :
    (Fields.ofList entries).IsSorted :=
  List.foldlRecOn (motive := Fields.IsSorted) entries _ .nil fun _ hm e _ => hm.insert e.1 e.2

theorem sortedKeys_increase (ks : List String) : (sortedKeys ks).Pairwise (· < ·) :=
  List.pairwise_map.mpr (Fields.isSorted_ofList _)

theorem mem_sortedKeys (ks : List String) (k : String) : k ∈ sortedKeys ks ↔ k ∈ ks := by
  rw [sortedKeys, Fields.mem_keys_ofList, List.map_map]
  exact iff_of_eq (congrArg (k ∈ ·) (List.map_id ks))

namespace Table

variable {α : Type}

theorem mem_keys_of_lookup {k : Nat} {v : α} {m : Table α} (h : m.lookup k = some v) :
    k ∈ m.map Prod.fst := by
  obtain ⟨l, r, hm, -⟩ := List.lookup_eq_some_iff.mp h
  simp [hm]

/-- The keys are the numbers from zero, in order. -/
def IsCounted (m : Table α) : Prop := m.map Prod.fst = List.range m.length

theorem put_of_absent {k : Nat} {m : Table α} (h : m.lookup k = none) (v : α) :
    m.put k v = m ++ [(k, v)] := by
  induction m with
  | nil => rfl
  | cons e m ih =>
      obtain ⟨l, w⟩ := e
      rw [List.lookup_cons] at h
      split at h
      · cases h
      · next hne =>
          rw [put, if_neg (by simpa using hne), ih h]
          rfl

theorem map_put {β : Type} (f : α → β) (k : Nat) (v : α) (m : Table α) :
    (m.put k v).map (fun e => (e.1, f e.2)) = Table.put k (f v) (m.map fun e => (e.1, f e.2)) := by
  induction m with
  | nil => rfl
  | cons e m ih =>
      obtain ⟨l, w⟩ := e
      rw [put, List.map_cons, put]
      split
      · rfl
      · rw [List.map_cons, ih]

theorem map_modify {β : Type} {f : α → β} {g : α → α} {h : β → β} (hfg : ∀ v, f (g v) = h (f v))
    (k : Nat) (m : Table α) :
    (m.modify k g).map (fun e => (e.1, f e.2)) = Table.modify k h (m.map fun e => (e.1, f e.2)) := by
  rw [modify, modify, List.map_map, List.map_map]
  refine List.map_congr_left fun e _ => ?_
  simp only [Function.comp_apply]
  split
  · rw [hfg]
  · rfl

theorem modify_modify (k : Nat) (f g : α → α) (m : Table α) :
    (m.modify k g).modify k f = m.modify k (f ∘ g) := by
  rw [Table.modify, Table.modify, List.map_map, Table.modify]
  refine List.map_congr_left fun e _ => ?_
  by_cases h : e.1 = k
  · simp [h]
  · simp [h]

theorem length_modify (k : Nat) (f : α → α) (m : Table α) : (m.modify k f).length = m.length :=
  List.length_map _

namespace IsCounted

variable {m : Table α} {k : Nat} {v : α}

theorem lt (h : m.IsCounted) (hk : m.lookup k = some v) : k < m.length := by
  have := mem_keys_of_lookup hk
  rwa [h, List.mem_range] at this

theorem lookup_length (h : m.IsCounted) : m.lookup m.length = none := by
  cases hk : m.lookup m.length with
  | none => rfl
  | some v => exact absurd (h.lt hk) (Nat.lt_irrefl _)

theorem modify_self (h : m.IsCounted) {f : α → α} (hk : m.lookup k = some v) (hf : f v = v) :
    m.modify k f = m := by
  have hkeys : (m.map Prod.fst).Nodup := h ▸ List.nodup_range
  clear h
  induction m with
  | nil => rfl
  | cons e m ih =>
      obtain ⟨l, w⟩ := e
      obtain ⟨hl, hkeys⟩ := List.nodup_cons.mp hkeys
      rw [List.lookup_cons] at hk
      rw [Table.modify, List.map_cons]
      split at hk
      · next heq =>
          cases hk
          cases beq_iff_eq.mp heq
          have hrest : m.map (fun e => if e.1 = k then (e.1, f e.2) else e) = m.map id := by
            refine List.map_congr_left fun e he => if_neg fun hek => hl ?_
            exact List.mem_map.mpr ⟨e, he, hek⟩
          rw [hrest, List.map_id, if_pos rfl, hf]
      · next hne =>
          have hlk : ¬ l = k := fun h => by simp [h] at hne
          rw [if_neg hlk]
          exact congrArg _ (ih hk hkeys)

theorem put (h : m.IsCounted) (v : α) : (m.put m.length v).IsCounted := by
  rw [put_of_absent h.lookup_length, IsCounted, List.map_append, h, List.length_append,
    List.length_singleton, List.range_succ]
  rfl

theorem modify (h : m.IsCounted) (k : Nat) (f : α → α) : (m.modify k f).IsCounted := by
  rw [IsCounted, length_modify, ← h, Table.modify, List.map_map]
  refine List.map_congr_left fun e _ => ?_
  rw [Function.comp_apply]
  split <;> rfl

end IsCounted

end Table

end Shortcuts
