import Shortcuts.Proofs.Keymap.Tiers
import Shortcuts.Proofs.Run

/-!
Keymaps under runs of operations. An entry stands in its tier among those of as many chords, in
the order of their numbers, and no operation but an insertion changes more of a tier than taking
entries out.
-/

namespace Shortcuts.Keymap

open scoped List

inductive Operation where
  | insert (s : Scope) (b : Binding) (chords : Option (List Chord))
  | remove (s : Scope) (id : Nat)
  | removeWhere (s : Scope) (test : Binding → Bool)
  | clear (s : Scope)
  | clearResolved
  | resolveAll (resolve : Binding → Option (List Chord))
  | resolveTier (resolve : Binding → Option (List Chord)) (s : Scope)

def apply (m : Keymap) : Operation → Keymap
  | .insert s b chords => (m.insert s b chords).1
  | .remove s id => (m.remove s id).1
  | .removeWhere s test => (m.removeWhere s test).1
  | .clear s => m.clear s
  | .clearResolved => m.clearResolved
  | .resolveAll resolve => m.resolveAll resolve
  | .resolveTier resolve s => m.resolveTier resolve s

def run (m : Keymap) (ops : List Operation) : Keymap := ops.foldl apply m

theorem run_append (m : Keymap) (ops ops' : List Operation) :
    m.run (ops ++ ops') = (m.run ops).run ops' := List.foldl_append

/-- The tier that an operation is about, if it is about one. -/
def Operation.scope? : Operation → Option Scope
  | insert s _ _ | remove s _ | removeWhere s _ | clear s | resolveTier _ s => some s
  | clearResolved | resolveAll _ => none

/-- The number that an insertion gives. -/
def number? (m : Keymap) : Operation → Option Nat
  | .insert s b chords => some (m.insert s b chords).2
  | _ => none

/-- The numbers that the insertions of a run give, in their order. -/
def numbers (m : Keymap) : List Operation → List Nat
  | [] => []
  | op :: ops => (m.number? op).toList ++ (m.apply op).numbers ops

/-- An entry, whatever is known of its chords. -/
def Entry.row (e : Entry) : Nat × Binding := (e.id, e.binding)

def roster (m : Keymap) (s : Scope) : List (Nat × Binding) := (m.tier s).map Entry.row

def ids (m : Keymap) : List Nat := m.scan.map fun p => p.2.id

/-- Between two entries of equally many chords stand only others of as many. -/
def IsGrouped (entries : List (Nat × Binding)) : Prop :=
  ∀ a b c, [a, b, c] <+ entries → a.2.strokes = c.2.strokes → b.2.strokes = a.2.strokes

/-- Of two entries of equally many chords the one with the lower number stands first. -/
def IsInTurn (entries : List (Nat × Binding)) : Prop :=
  entries.Pairwise fun a b => a.2.strokes = b.2.strokes → a.1 < b.1

structure Ordered (m : Keymap) : Prop where
  distinct : m.ids.Nodup
  counted : ∀ id ∈ m.ids, id < m.next
  grouped : ∀ s, IsGrouped (m.roster s)
  inTurn : ∀ s, IsInTurn (m.roster s)

variable {m m' : Keymap} {s : Scope} {b : Binding}

theorem ids_eq (m : Keymap) :
    m.ids = Scope.strongestFirst.flatMap fun s => (m.roster s).map Prod.fst := by
  simp only [ids, scan, roster, Entry.row, List.map_flatMap, List.map_map, Function.comp_def]

theorem mem_ids {id : Nat} : id ∈ m.ids ↔ ∃ s, ∃ r ∈ m.roster s, r.1 = id := by
  simp only [ids_eq, List.mem_flatMap, List.mem_map]
  constructor
  · rintro ⟨s, -, h⟩
    exact ⟨s, h⟩
  · rintro ⟨s, h⟩
    exact ⟨s, by cases s <;> decide, h⟩

theorem mem_roster {r : Nat × Binding} : r ∈ m.roster s ↔ ∃ e ∈ m.tier s, e.row = r :=
  List.mem_map

/-! ### What one operation does -/

/-- Nothing is new, and what is left of each tier stands as it stood. -/
structure Thins (m m' : Keymap) : Prop where
  next : m'.next = m.next
  roster : ∀ s, m'.roster s <+ m.roster s

/-- One tier has one more entry: it stands behind the last one of as many chords if there is one,
and at the end if there is none. -/
structure Adds (m m' : Keymap) (s : Scope) (e : Entry) (before behind : List Entry) : Prop where
  next : m'.next = m.next + 1
  number : e.id = m.next
  old : m.tier s = before ++ behind
  new : m'.tier s = before ++ e :: behind
  elsewhere : ∀ t, t ≠ s → m'.tier t = m.tier t
  unlike : ∀ x ∈ behind, x.binding.strokes ≠ e.binding.strokes
  last : (∃ rest x, before = rest ++ [x] ∧ x.binding.strokes = e.binding.strokes) ∨
    behind = [] ∧ ∀ x ∈ before, x.binding.strokes ≠ e.binding.strokes

theorem roster_withTier_self (m : Keymap) (s : Scope) (entries : List Entry) :
    (m.withTier s entries).roster s = entries.map Entry.row := by
  rw [roster, tier_withTier_self]

theorem roster_withTier_of_ne {t : Scope} (h : t ≠ s) (m : Keymap) (entries : List Entry) :
    (m.withTier s entries).roster t = m.roster t := by
  rw [roster, tier_withTier_of_ne h, roster]

theorem next_withTier (m : Keymap) (s : Scope) (entries : List Entry) :
    (m.withTier s entries).next = m.next := by
  cases s <;> rfl

theorem thins_withTier {entries : List Entry} (h : entries <+ m.tier s) :
    Thins m (m.withTier s entries) where
  next := next_withTier m s entries
  roster t := by
    by_cases ht : t = s
    · subst t
      rw [roster_withTier_self]
      exact h.map _
    · exact (roster_withTier_of_ne ht m entries).symm ▸ .refl _

/-- Looking up chords or forgetting them leaves the entries where they are. -/
theorem thins_of_roster (hnext : m'.next = m.next) (h : ∀ s, m'.roster s = m.roster s) :
    Thins m m' where
  next := hnext
  roster s := (h s).symm ▸ .refl _

theorem map_row {f : Entry → Entry} (hf : ∀ e, (f e).row = e.row) (entries : List Entry) :
    (entries.map f).map Entry.row = entries.map Entry.row := by
  simp only [List.map_map, Function.comp_def, hf]

theorem row_resolved (resolve : Binding → Option (List Chord)) (e : Entry) :
    (e.resolved resolve).row = e.row := by
  cases h : e.chords <;> simp [Entry.resolved, Entry.row, h]

theorem thins_resolveTier (m : Keymap) (resolve : Binding → Option (List Chord)) (s : Scope) :
    Thins m (m.resolveTier resolve s) := by
  refine thins_of_roster (next_withTier _ _ _) fun t => ?_
  by_cases ht : t = s
  · rw [ht, resolveTier, roster_withTier_self]
    refine map_row (fun e => ?_) (m.tier s)
    split
    · rfl
    · exact row_resolved resolve e
  · rw [resolveTier, roster_withTier_of_ne ht]

theorem adds_insert (m : Keymap) (s : Scope) (b : Binding) (chords : Option (List Chord)) :
    ∃ before behind, Adds m (m.insert s b chords).1 s ⟨m.next, b, chords⟩ before behind := by
  obtain ⟨before, behind, hold, hnew, hbehind, hbefore⟩ :=
    place_cases ⟨m.next, b, chords⟩ (m.tier s)
  refine ⟨before, behind, rfl, rfl, hold, ?_, fun t ht => ?_, hbehind, hbefore⟩
  · rw [tier_insert, tier_withTier_self, hnew]
  · rw [tier_insert, tier_withTier_of_ne ht]

theorem apply_cases (m : Keymap) (op : Operation) :
    (∃ s e before behind, Adds m (m.apply op) s e before behind ∧ m.number? op = some m.next) ∨
      Thins m (m.apply op) ∧ m.number? op = none := by
  cases op with
  | insert s b chords =>
      obtain ⟨before, behind, h⟩ := adds_insert m s b chords
      exact .inl ⟨s, _, before, behind, h, rfl⟩
  | remove s id => exact .inr ⟨thins_withTier List.filter_sublist, rfl⟩
  | removeWhere s test => exact .inr ⟨thins_withTier List.filter_sublist, rfl⟩
  | clear s => exact .inr ⟨thins_withTier (List.nil_sublist _), rfl⟩
  | clearResolved =>
      refine .inr ⟨thins_of_roster rfl fun s => ?_, rfl⟩
      rw [apply, roster, tier_clearResolved, unresolve]
      exact map_row (fun _ => by rfl) (m.tier s)
  | resolveAll resolve =>
      refine .inr ⟨thins_of_roster rfl fun s => ?_, rfl⟩
      rw [apply, roster, tier_resolveAll]
      exact map_row (row_resolved resolve) (m.tier s)
  | resolveTier resolve s => exact .inr ⟨thins_resolveTier m resolve s, rfl⟩

/-! ### What stays in order -/

theorem Thins.ids (h : Thins m m') : m'.ids <+ m.ids := by
  rw [ids_eq, ids_eq]
  simp only [Scope.strongestFirst, List.flatMap_cons, List.flatMap_nil, List.append_nil]
  have hscope (s : Scope) := (h.roster s).map Prod.fst
  exact (hscope .workspace).append ((hscope .user).append (hscope .base))

/-- The entries of a tier as they stand among those of all tiers. -/
def part (m : Keymap) (s : Scope) : List (Scope × Entry) := (m.tier s).map fun e => (s, e)

theorem scan_eq (m : Keymap) : m.scan = m.part .workspace ++ (m.part .user ++ m.part .base) := by
  simp only [scan, part, Scope.strongestFirst, List.flatMap_cons, List.flatMap_nil,
    List.append_nil]

theorem Adds.scan {e : Entry} {before behind : List Entry} (h : Adds m m' s e before behind) :
    ∃ left right, m.scan = left ++ right ∧ m'.scan = left ++ (s, e) :: right := by
  have hold : m.part s = before.map (fun e => (s, e)) ++ behind.map fun e => (s, e) := by
    rw [part, h.old, List.map_append]
  have hnew : m'.part s = before.map (fun e => (s, e)) ++ (s, e) :: behind.map fun e => (s, e) := by
    rw [part, h.new, List.map_append, List.map_cons]
  have helse (t : Scope) (ht : t ≠ s) : m'.part t = m.part t := by
    rw [part, h.elsewhere t ht, part]
  rw [scan_eq, scan_eq]
  cases s with
  | workspace =>
      rw [hold, hnew, helse .user nofun, helse .base nofun]
      exact ⟨before.map fun e => (.workspace, e), _, List.append_assoc _ _ _,
        List.append_assoc _ _ _⟩
  | user =>
      rw [hold, hnew, helse .workspace nofun, helse .base nofun]
      refine ⟨m.part .workspace ++ before.map fun e => (.user, e),
        behind.map (fun e => (.user, e)) ++ m.part .base, ?_, ?_⟩
      · simp only [List.append_assoc]
      · simp only [List.append_assoc, List.cons_append]
  | base =>
      rw [hold, hnew, helse .workspace nofun, helse .user nofun]
      refine ⟨m.part .workspace ++ (m.part .user ++ before.map fun e => (.base, e)),
        behind.map fun e => (.base, e), ?_, ?_⟩
      · simp only [List.append_assoc]
      · simp only [List.append_assoc]

theorem Adds.ids {e : Entry} {before behind : List Entry} (h : Adds m m' s e before behind) :
    ∃ left right, m.ids = left ++ right ∧ m'.ids = left ++ m.next :: right := by
  obtain ⟨left, right, hold, hnew⟩ := h.scan
  refine ⟨left.map fun p => p.2.id, right.map fun p => p.2.id, ?_, ?_⟩
  · rw [Keymap.ids, hold, List.map_append]
  · rw [Keymap.ids, hnew, List.map_append, List.map_cons, h.number]

theorem Adds.roster_of_ne {e : Entry} {before behind : List Entry}
    (h : Adds m m' s e before behind) {t : Scope} (ht : t ≠ s) : m'.roster t = m.roster t := by
  rw [Keymap.roster, h.elsewhere t ht, Keymap.roster]

theorem Adds.roster_old {e : Entry} {before behind : List Entry}
    (h : Adds m m' s e before behind) :
    m.roster s = before.map Entry.row ++ behind.map Entry.row := by
  rw [Keymap.roster, h.old, List.map_append]

theorem Adds.roster_new {e : Entry} {before behind : List Entry}
    (h : Adds m m' s e before behind) :
    m'.roster s = before.map Entry.row ++ e.row :: behind.map Entry.row := by
  rw [Keymap.roster, h.new, List.map_append, List.map_cons]

theorem IsGrouped.insert {before behind : List (Nat × Binding)} {r : Nat × Binding}
    (h : IsGrouped (before ++ behind)) (hunlike : ∀ x ∈ behind, x.2.strokes ≠ r.2.strokes)
    (hlast : (∃ rest x, before = rest ++ [x] ∧ x.2.strokes = r.2.strokes) ∨
      behind = [] ∧ ∀ x ∈ before, x.2.strokes ≠ r.2.strokes) :
    IsGrouped (before ++ r :: behind) := by
  intro a b c habc hac
  obtain ⟨left, right, hsplit, hleft, hright⟩ := List.sublist_append_iff.mp habc
  rcases List.sublist_cons_iff.mp hright with hright | ⟨tail, rfl, htail⟩
  · exact h a b c (hsplit ▸ hleft.append hright) hac
  -- the new entry is the first of the three, the second or the third
  rcases left with _ | ⟨x, _ | ⟨y, _ | ⟨z, rest⟩⟩⟩
  · simp only [List.nil_append, List.cons.injEq] at hsplit
    obtain ⟨rfl, rfl⟩ := hsplit
    have hc : c ∈ behind := htail.subset (List.mem_cons_of_mem b (List.mem_singleton_self c))
    exact absurd hac.symm (hunlike c hc)
  · simp only [List.cons_append, List.nil_append, List.cons.injEq] at hsplit
    obtain ⟨rfl, rfl, rfl⟩ := hsplit
    have hc : c ∈ behind := htail.subset (List.mem_singleton_self c)
    rcases hlast with ⟨rest, w, rfl, hw⟩ | ⟨rfl, -⟩
    · rcases List.mem_append.mp (hleft.subset (List.mem_singleton_self a)) with ha | ha
      · have hmiddle : [a, w, c] <+ rest ++ [w] ++ behind :=
          ((List.singleton_sublist.mpr ha).append (.refl [w])).append htail
        rw [← hw, h a w c hmiddle hac]
      · rw [List.mem_singleton.mp ha, hw]
    · cases hc
  · simp only [List.cons_append, List.nil_append, List.cons.injEq] at hsplit
    obtain ⟨rfl, rfl, rfl, rfl⟩ := hsplit
    rcases hlast with ⟨rest, w, rfl, hw⟩ | ⟨-, hnone⟩
    · obtain ⟨l, l', hl, hrest, hw'⟩ := List.sublist_append_iff.mp hleft
      rcases List.sublist_cons_iff.mp hw' with hw' | ⟨tail, rfl, htail⟩
      · rw [List.sublist_nil.mp hw', List.append_nil] at hl
        subst hl
        have hlonger : [a, b, w] <+ rest ++ [w] ++ behind :=
          (hrest.append (.refl [w])).trans (List.sublist_append_left _ _)
        exact h a b w hlonger (hac.trans hw.symm)
      · rw [List.sublist_nil.mp htail] at hl
        have hsame : [b] = [w] := (List.append_inj' (show [a] ++ [b] = l ++ [w] from hl) rfl).2
        rw [(List.cons.inj hsame).1, hw, hac]
    · exact absurd hac (hnone a (hleft.subset (List.mem_cons_self)))
  · simp at hsplit

theorem Thins.ordered (h : Thins m m') (hm : m.Ordered) : m'.Ordered where
  distinct := hm.distinct.sublist h.ids
  counted id hid := by
    rw [h.next]
    exact hm.counted id (h.ids.subset hid)
  grouped s a b c habc := hm.grouped s a b c (habc.trans (h.roster s))
  inTurn s := (hm.inTurn s).sublist (h.roster s)

theorem Adds.ordered {e : Entry} {before behind : List Entry} (h : Adds m m' s e before behind)
    (hm : m.Ordered) : m'.Ordered where
  distinct := by
    obtain ⟨left, right, hold, hnew⟩ := h.ids
    rw [hnew, List.perm_middle.nodup_iff, ← hold]
    exact List.nodup_cons.mpr ⟨fun hid => Nat.lt_irrefl _ (hm.counted _ hid), hm.distinct⟩
  counted id hid := by
    obtain ⟨left, right, hold, hnew⟩ := h.ids
    rw [h.next]
    rw [hnew, List.mem_append, List.mem_cons, or_left_comm, ← List.mem_append, ← hold] at hid
    rcases hid with rfl | hid
    · exact Nat.lt_succ_self _
    · exact Nat.lt_succ_of_lt (hm.counted id hid)
  grouped t := by
    by_cases ht : t = s
    · subst t
      rw [h.roster_new]
      refine (h.roster_old ▸ hm.grouped s).insert (List.forall_mem_map.mpr h.unlike) ?_
      rcases h.last with ⟨rest, x, rfl, hx⟩ | ⟨rfl, hx⟩
      · exact .inl ⟨rest.map Entry.row, x.row, List.map_append, hx⟩
      · exact .inr ⟨rfl, List.forall_mem_map.mpr hx⟩
    · rw [h.roster_of_ne ht]
      exact hm.grouped t
  inTurn t := by
    by_cases ht : t = s
    · subst t
      obtain ⟨hbefore, hbehind, hacross⟩ := List.pairwise_append.mp (h.roster_old ▸ hm.inTurn s)
      have hlow : ∀ r ∈ before.map Entry.row, r.1 < e.id := fun r hr => by
        rw [h.number]
        refine hm.counted _ (mem_ids.mpr ⟨s, r, ?_, rfl⟩)
        rw [h.roster_old]
        exact List.mem_append_left _ hr
      have hunlike : ∀ r ∈ behind.map Entry.row, r.2.strokes ≠ e.binding.strokes :=
        List.forall_mem_map.mpr h.unlike
      rw [h.roster_new]
      refine List.pairwise_append.mpr ⟨hbefore, List.pairwise_cons.mpr ⟨?_, hbehind⟩, ?_⟩
      · exact fun r hr hstrokes => absurd hstrokes.symm (hunlike r hr)
      · exact fun r hr => List.forall_mem_cons.mpr ⟨fun _ => hlow r hr, hacross r hr⟩
    · rw [h.roster_of_ne ht]
      exact hm.inTurn t

theorem Ordered.apply (hm : m.Ordered) (op : Operation) : (m.apply op).Ordered := by
  rcases apply_cases m op with ⟨s, e, before, behind, h, -⟩ | ⟨h, -⟩
  · exact h.ordered hm
  · exact h.ordered hm

theorem ordered_empty : ({} : Keymap).Ordered where
  distinct := .nil
  counted := nofun
  grouped s a b c habc := by
    rw [roster, tier_empty] at habc
    cases habc
  inTurn s := by
    rw [roster, tier_empty]
    exact .nil

theorem Ordered.run (hm : m.Ordered) (ops : List Operation) : (m.run ops).Ordered :=
  kept_foldl Ordered (fun _ op hm => hm.apply op) hm ops

/-! ### What is left in place -/

/-- The entries that were there before an operation stand in their order, and it leaves all tiers
alone but its own. -/
structure Keeps (m : Keymap) (op : Operation) : Prop where
  order : ∀ s, ((m.apply op).roster s).filter (fun r => r.1 < m.next) <+ m.roster s
  elsewhere : ∀ s, op.scope? = some s → ∀ t, t ≠ s → (m.apply op).tier t = m.tier t

theorem Thins.order (h : Thins m m') (s : Scope) :
    (m'.roster s).filter (fun r => r.1 < m.next) <+ m.roster s :=
  List.filter_sublist.trans (h.roster s)

theorem Adds.order {e : Entry} {before behind : List Entry} (h : Adds m m' s e before behind)
    (t : Scope) : (m'.roster t).filter (fun r => r.1 < m.next) <+ m.roster t := by
  by_cases ht : t = s
  · subst t
    rw [h.roster_new, h.roster_old, List.filter_append,
      List.filter_cons_of_neg (by simp [Entry.row, h.number])]
    exact List.filter_sublist.append List.filter_sublist
  · rw [h.roster_of_ne ht]
    exact List.filter_sublist

theorem keeps (m : Keymap) (op : Operation) : m.Keeps op where
  order s := by
    rcases apply_cases m op with ⟨t, e, before, behind, h, -⟩ | ⟨h, -⟩
    · exact h.order s
    · exact h.order s
  elsewhere s hs t ht := by
    cases op with
    | insert s' b chords =>
        cases hs
        exact (tier_insert m _ b chords t).trans (tier_withTier_of_ne ht m _)
    | remove s' id | removeWhere s' test | clear s' | resolveTier resolve s' =>
        cases hs
        exact tier_withTier_of_ne ht m _
    | clearResolved | resolveAll resolve => cases hs

/-! ### Numbers -/

variable {n : Nat} {ops : List Operation}

theorem le_of_mem_numbers (h : n ∈ m.numbers ops) : m.next ≤ n := by
  induction ops generalizing m with
  | nil => cases h
  | cons op ops ih =>
      rw [numbers, List.mem_append] at h
      rcases apply_cases m op with ⟨s, e, before, behind, hadds, hnumber⟩ | ⟨hthins, hnumber⟩
      · rw [hnumber, Option.toList_some, List.mem_singleton] at h
        rcases h with rfl | h
        · exact Nat.le_refl _
        · have hle := ih h
          rw [hadds.next] at hle
          exact Nat.le_of_succ_le hle
      · rw [hnumber] at h
        rcases h with h | h
        · cases h
        · exact hthins.next ▸ ih h

theorem numbers_increase (m : Keymap) (ops : List Operation) :
    (m.numbers ops).Pairwise (· < ·) := by
  induction ops generalizing m with
  | nil => exact .nil
  | cons op ops ih =>
      rw [numbers]
      rcases apply_cases m op with ⟨s, e, before, behind, hadds, hnumber⟩ | ⟨hthins, hnumber⟩
      · rw [hnumber, Option.toList_some, List.singleton_append]
        refine List.pairwise_cons.mpr ⟨fun n hn => ?_, ih (m.apply op)⟩
        have hle := le_of_mem_numbers hn
        rwa [hadds.next] at hle
      · rw [hnumber]
        exact ih (m.apply op)

theorem Adds.mem_roster {e : Entry} {before behind : List Entry}
    (h : Adds m m' s e before behind) {t : Scope} {r : Nat × Binding} :
    r ∈ m'.roster t ↔ (t = s ∧ r = e.row) ∨ r ∈ m.roster t := by
  by_cases ht : t = s
  · subst t
    rw [h.roster_new, h.roster_old]
    simp [or_left_comm]
  · rw [h.roster_of_ne ht]
    simp [ht]

theorem mem_ids_run (h : n ∈ (m.run ops).ids) : n ∈ m.ids ∨ n ∈ m.numbers ops := by
  induction ops generalizing m with
  | nil => exact .inl h
  | cons op ops ih =>
      rw [numbers, List.mem_append]
      rcases ih h with h | h
      · rcases apply_cases m op with ⟨s, e, before, behind, hadds, hnumber⟩ | ⟨hthins, -⟩
        · obtain ⟨t, r, hr, rfl⟩ := mem_ids.mp h
          rcases hadds.mem_roster.mp hr with ⟨-, rfl⟩ | hr
          · rw [hnumber, Entry.row, hadds.number]
            exact .inr (.inl (List.mem_singleton_self _))
          · exact .inl (mem_ids.mpr ⟨t, r, hr, rfl⟩)
        · exact .inl (hthins.ids.subset h)
      · exact .inr (.inr h)

theorem next_le_apply (m : Keymap) (op : Operation) : m.next ≤ (m.apply op).next := by
  rcases apply_cases m op with ⟨s, e, before, behind, h, -⟩ | ⟨h, -⟩
  · exact h.next ▸ Nat.le_succ _
  · exact h.next ▸ Nat.le_refl _

theorem next_le_run (m : Keymap) (ops : List Operation) : m.next ≤ (m.run ops).next :=
  kept_foldl (fun m' : Keymap => m.next ≤ m'.next)
    (fun m' op h => Nat.le_trans h (next_le_apply m' op)) (Nat.le_refl _) ops

/-- An entry that was not there before has a new number. -/
theorem mem_roster_run {r : Nat × Binding} (h : r ∈ (m.run ops).roster s) :
    r ∈ m.roster s ∨ m.next ≤ r.1 := by
  induction ops generalizing m with
  | nil => exact .inl h
  | cons op ops ih =>
      rcases ih h with h | h
      · rcases apply_cases m op with ⟨t, e, before, behind, hadds, -⟩ | ⟨hthins, -⟩
        · rcases hadds.mem_roster.mp h with ⟨-, rfl⟩ | h
          · exact .inr (Nat.le_of_eq hadds.number.symm)
          · exact .inl h
        · exact .inl ((hthins.roster s).subset h)
      · exact .inr (Nat.le_trans (next_le_apply m op) h)

/-- A number was given, and no entry has it but one for this binding in this tier. -/
structure Names (m : Keymap) (n : Nat) (s : Scope) (b : Binding) : Prop where
  given : n < m.next
  only : ∀ t, ∀ r ∈ m.roster t, r.1 = n → t = s ∧ r.2 = b

theorem Names.apply (h : m.Names n s b) (op : Operation) : (m.apply op).Names n s b := by
  rcases apply_cases m op with ⟨t, e, before, behind, hadds, -⟩ | ⟨hthins, -⟩
  · refine ⟨?_, fun u r hr hn => ?_⟩
    · rw [hadds.next]
      exact Nat.lt_succ_of_lt h.given
    · rcases hadds.mem_roster.mp hr with ⟨-, rfl⟩ | hr
      · exact absurd (hadds.number.symm.trans hn) (Nat.ne_of_gt h.given)
      · exact h.only u r hr hn
  · refine ⟨?_, fun u r hr => h.only u r ((hthins.roster u).subset hr)⟩
    rw [hthins.next]
    exact h.given

theorem Names.run (h : m.Names n s b) (ops : List Operation) : (m.run ops).Names n s b :=
  kept_foldl (fun m : Keymap => m.Names n s b) (fun _ op h => h.apply op) h ops

theorem Ordered.names_insert (hm : m.Ordered) (s : Scope) (b : Binding)
    (chords : Option (List Chord)) : (m.insert s b chords).1.Names m.next s b := by
  obtain ⟨before, behind, h⟩ := adds_insert m s b chords
  refine ⟨by rw [h.next]; exact Nat.lt_succ_self _, fun t r hr hn => ?_⟩
  rcases h.mem_roster.mp hr with ⟨rfl, rfl⟩ | hr
  · exact ⟨rfl, rfl⟩
  · have hlt := hm.counted r.1 (mem_ids.mpr ⟨t, r, hr, rfl⟩)
    exact absurd hn (Nat.ne_of_lt hlt)

/-- What removing under a number comes to: the one entry of the tier that has it is taken out, or
there is none and all stays as it is. -/
def TakesOut (m : Keymap) (s : Scope) (id : Nat) (r : Keymap × Bool) : Prop :=
  (∃ before e behind, m.tier s = before ++ e :: behind ∧ e.id = id ∧
    r = (m.withTier s (before ++ behind), true)) ∨
  (∀ e ∈ m.tier s, e.id ≠ id) ∧ r = (m, false)

theorem withTier_tier (m : Keymap) (s : Scope) : m.withTier s (m.tier s) = m := by
  cases s <;> rfl

theorem Ordered.nodup_tier (hm : m.Ordered) (s : Scope) : ((m.tier s).map Entry.id).Nodup := by
  have hpart : (m.roster s).map Prod.fst <+ m.ids := by
    rw [ids_eq, List.flatMap_def]
    exact List.sublist_flatten_of_mem (List.mem_map_of_mem (by cases s <;> decide))
  rw [roster, List.map_map] at hpart
  exact hm.distinct.sublist hpart

theorem Ordered.takesOut_remove (hm : m.Ordered) (s : Scope) (id : Nat) :
    m.TakesOut s id (m.remove s id) := by
  by_cases h : ∃ e ∈ m.tier s, e.id = id
  · obtain ⟨e, he, rfl⟩ := h
    obtain ⟨before, behind, htier⟩ := List.append_of_mem he
    have hnodup := hm.nodup_tier s
    rw [htier, List.map_append, List.map_cons, List.perm_middle.nodup_iff, ← List.map_append,
      List.nodup_cons] at hnodup
    have hothers : ∀ x ∈ before ++ behind, x.id ≠ e.id := fun x hx hid =>
      hnodup.1 (hid ▸ List.mem_map_of_mem hx)
    have hfilter : (m.tier s).filter (fun x => decide (x.id ≠ e.id)) = before ++ behind := by
      rw [htier, List.filter_append, List.filter_cons_of_neg (by simp), ← List.filter_append]
      exact List.filter_eq_self.mpr fun x hx => decide_eq_true (hothers x hx)
    have hany : ((m.tier s).any fun x => decide (x.id = e.id)) = true :=
      List.any_eq_true.mpr ⟨e, he, decide_eq_true rfl⟩
    exact .inl ⟨before, e, behind, htier, rfl, by rw [remove, hfilter, hany]⟩
  · have hnone : ∀ e ∈ m.tier s, e.id ≠ id := fun e he hid => h ⟨e, he, hid⟩
    have hfilter : (m.tier s).filter (fun x => decide (x.id ≠ id)) = m.tier s :=
      List.filter_eq_self.mpr fun x hx => decide_eq_true (hnone x hx)
    have hany : ((m.tier s).any fun x => decide (x.id = id)) = false :=
      List.any_eq_false.mpr fun x hx => by simpa using hnone x hx
    exact .inr ⟨hnone, by rw [remove, hfilter, hany, withTier_tier]⟩

end Shortcuts.Keymap
