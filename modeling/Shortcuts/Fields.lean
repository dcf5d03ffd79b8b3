/-!
Finite maps as lists of pairs: `Fields` from texts, in ascending order of the keys, and `Table`
from numbers, in order of entry. Every key stands once.
-/

namespace Shortcuts

abbrev Fields (α : Type) := List (String × α)

namespace Fields

variable {α : Type}

/-- Puts an entry at its place, instead of an earlier one of the same key. -/
def insert (k : String) (v : α) : Fields α → Fields α
  | [] => [(k, v)]
  | (l, w) :: rest =>
    if k = l then (k, v) :: rest
    else if k < l then (k, v) :: (l, w) :: rest
    else (l, w) :: insert k v rest

def erase (k : String) (m : Fields α) : Fields α := m.filter (·.1 ≠ k)

/-- Of two entries of one key the later counts. -/
def ofList (entries : List (String × α)) : Fields α :=
  entries.foldl (fun m e => insert e.1 e.2 m) []

/-- Adds the entries of the second map to the first, in place of those of the same key. -/
def overlay (m extra : Fields α) : Fields α :=
  extra.foldl (fun m e => insert e.1 e.2 m) m

def keys (m : Fields α) : List String := m.map Prod.fst

@[simp] theorem lookup_insert_self (k : String) (v : α) (m : Fields α) :
    (insert k v m).lookup k = some v := by
  induction m with
  | nil => simp [insert]
  | cons e m ih =>
    obtain ⟨l, w⟩ := e
    simp only [insert]
    split
    · simp
    · split
      · simp
      · next h _ =>
        have hb : (k == l) = false := by simpa using h
        simp [List.lookup_cons, hb, ih]

theorem lookup_insert_of_ne {k l : String} (h : l ≠ k) (v : α) (m : Fields α) :
    (insert k v m).lookup l = m.lookup l := by
  have hb : (l == k) = false := by simpa using h
  induction m with
  | nil => simp [insert, List.lookup_cons, hb]
  | cons e m ih =>
    obtain ⟨n, w⟩ := e
    simp only [insert]
    split
    · next hk =>
      subst hk
      simp [List.lookup_cons, hb]
    · split
      · simp [List.lookup_cons, hb]
      · simp only [List.lookup_cons]
        split <;> simp_all

@[simp] theorem lookup_erase_self (k : String) (m : Fields α) : (erase k m).lookup k = none := by
  induction m with
  | nil => rfl
  | cons e m ih =>
    obtain ⟨l, w⟩ := e
    by_cases h : l = k
    · simpa [erase, h] using ih
    · have hb : (k == l) = false := by simpa using fun e => h e.symm
      simpa [erase, h, List.lookup_cons, hb] using ih

theorem lookup_erase_of_ne {k l : String} (h : l ≠ k) (m : Fields α) :
    (erase k m).lookup l = m.lookup l := by
  induction m with
  | nil => rfl
  | cons e m ih =>
    obtain ⟨n, w⟩ := e
    simp only [erase] at ih ⊢
    by_cases hn : n = k
    · subst hn
      have hb : (l == n) = false := by simpa using h
      simpa only [List.filter_cons, ne_eq, not_true_eq_false, decide_false, Bool.false_eq_true,
        if_false, List.lookup_cons, hb] using ih
    · simp only [List.filter_cons, ne_eq, hn, not_false_eq_true, decide_true, if_true,
        List.lookup_cons] at ih ⊢
      rw [ih]

end Fields

/-- The texts of a list in ascending order, each once. -/
def sortedKeys (ks : List String) : List String :=
  (Fields.ofList (ks.map fun k => (k, ()))).keys

abbrev Table (α : Type) := List (Nat × α)

namespace Table

variable {α : Type}

/-- Replaces the entry of a key, or adds it at the end. -/
def put (k : Nat) (v : α) : Table α → Table α
  | [] => [(k, v)]
  | (l, w) :: rest => if k = l then (k, v) :: rest else (l, w) :: put k v rest

def modify (k : Nat) (f : α → α) (m : Table α) : Table α :=
  m.map fun e => if e.1 = k then (e.1, f e.2) else e

def erase (k : Nat) (m : Table α) : Table α := m.filter (·.1 ≠ k)

@[simp] theorem lookup_put_self (k : Nat) (v : α) (m : Table α) :
    (put k v m).lookup k = some v := by
  induction m with
  | nil => simp [put]
  | cons e m ih =>
    obtain ⟨l, w⟩ := e
    by_cases h : k = l
    · simp [put, h]
    · have : (k == l) = false := by simpa using h
      simp [put, h, List.lookup_cons, this, ih]

theorem lookup_put_of_ne {k l : Nat} (h : l ≠ k) (v : α) (m : Table α) :
    (put k v m).lookup l = m.lookup l := by
  have hb : (l == k) = false := by simpa using h
  induction m with
  | nil => simp [put, List.lookup_cons, hb]
  | cons e m ih =>
    obtain ⟨n, w⟩ := e
    by_cases hk : k = n
    · subst hk
      simp [put, List.lookup_cons, hb]
    · simp only [put, hk, if_false, List.lookup_cons]
      split <;> simp_all

theorem lookup_modify (k l : Nat) (f : α → α) (m : Table α) :
    (modify k f m).lookup l = if l = k then (m.lookup l).map f else m.lookup l := by
  simp only [modify]
  induction m with
  | nil => simp
  | cons e m ih =>
    obtain ⟨n, w⟩ := e
    rw [List.map_cons]
    by_cases hl : l = n
    · subst hl
      by_cases hk : l = k <;> simp [hk]
    · have hb : (l == n) = false := by simpa using hl
      have hstep : (if n = k then (n, f w) else (n, w)) = (n, if n = k then f w else w) := by
        split <;> rfl
      rw [hstep, List.lookup_cons, List.lookup_cons, hb]
      exact ih

theorem lookup_erase_of_ne {k l : Nat} (h : l ≠ k) (m : Table α) :
    (erase k m).lookup l = m.lookup l := by
  simp only [erase]
  induction m with
  | nil => rfl
  | cons e m ih =>
    obtain ⟨n, w⟩ := e
    by_cases hn : n = k
    · subst hn
      have hb : (l == n) = false := by simpa using h
      simpa only [List.filter_cons, ne_eq, not_true_eq_false, decide_false, Bool.false_eq_true,
        if_false, List.lookup_cons, hb] using ih
    · simp only [List.filter_cons, ne_eq, hn, not_false_eq_true, decide_true, if_true,
        List.lookup_cons] at ih ⊢
      rw [ih]

@[simp] theorem lookup_erase_self (k : Nat) (m : Table α) : (erase k m).lookup k = none := by
  simp only [erase]
  induction m with
  | nil => rfl
  | cons e m ih =>
    obtain ⟨n, w⟩ := e
    by_cases hn : n = k
    · simpa [hn] using ih
    · have hb : (k == n) = false := by simpa using fun e => hn e.symm
      simpa [hn, List.lookup_cons, hb] using ih

end Table

end Shortcuts
