import Shortcuts.Proofs.Json.Grammar
import Shortcuts.Proofs.Storage

/-!
A file in place of a memory. As long as values are read as they were printed, a file that is opened
again and again answers like one memory all the time. A file that holds no object refuses every
access, and its text stays.
-/

namespace Shortcuts

/-- Printed in an object and read again, a value is what it was. -/
def Json.IsFaithful (v : Json) : Prop :=
  ∀ k, read? ((obj [(k, v)]).pretty "") = some (obj [(k, v)])

theorem Json.read?_pretty_single (k : String) (v : Json) : read? ((obj [(k, v)]).pretty "") =
    (v.reread.value (maxDepth - 1)).map fun v' => obj [(k, v')] := by
  rw [read?_pretty, reread, rereadFields, rereadFields, Written.toJson, Written.value,
    if_neg (by decide), Written.fieldValues, Written.fieldValues]
  cases v.reread.value (maxDepth - 1) <;> rfl

theorem Json.isFaithful_iff {v : Json} : v.IsFaithful ↔ v.Keeps (maxDepth - 1) := by
  have hsingle (k : String) : read? ((obj [(k, v)]).pretty "") = some (obj [(k, v)]) ↔
      v.Keeps (maxDepth - 1) := by
    rw [read?_pretty_single, Option.map_eq_some_iff, Keeps]
    constructor
    · rintro ⟨v', hv', heq⟩
      cases heq
      exact hv'
    · exact fun h => ⟨v, h, rfl⟩
  exact ⟨fun h => (hsingle "").mp (h ""), fun h k => (hsingle k).mpr h⟩

/-- Only a text that has the form of an object is read as one. -/
theorem Json.isObjectText_of_read? {text : String} {fields : Fields Json}
    (h : read? text = some (.obj fields)) : IsObjectText text := by
  obtain ⟨w, hw, hvalue⟩ := Option.bind_eq_some_iff.mp h
  obtain ⟨written, -, rfl, -⟩ := exists_of_value_eq_obj hvalue
  exact isObjectText_of_readWritten hw

namespace Storage

/-! ### Accesses -/

inductive Access where
  | get (k : String)
  | put (k : String) (v : Json)

inductive Answer where
  | value (r : Except StorageError (Option Json))
  | stored (r : Except StorageError Unit)

/-- The next state and the answer. Where nothing can be stored, the state stays. -/
def access (st : Storage) : Access → Storage × Answer
  | .get k => (st, .value (st.get k))
  | .put k v =>
    match st.put k v with
    | .ok st' => (st', .stored (.ok ()))
    | .error e => (st, .stored (.error e))

def run (st : Storage) (accesses : List Access) : Storage :=
  accesses.foldl (fun st a => (st.access a).1) st

def answers (st : Storage) : List Access → List Answer
  | [] => []
  | a :: accesses => (st.access a).2 :: answers (st.access a).1 accesses

/-- The text in the file of a storage, if there is a file. -/
def text? : Storage → Option String
  | file text => text
  | _ => none

/-- The text of a file behind several sessions. Each session opens the file as the one before it
left it. -/
def fileAfter (text : Option String) (sessions : List (List Access)) : Option String :=
  sessions.foldl (fun text accesses => ((file text).run accesses).text?) text

/-- What is answered in several sessions with one file. -/
def fileAnswers (text : Option String) : List (List Access) → List Answer
  | [] => []
  | accesses :: sessions =>
    (file text).answers accesses ++ fileAnswers ((file text).run accesses).text? sessions

/-- What is stored under a key last. -/
def lastPut (k : String) (accesses : List Access) : Option Json :=
  accesses.foldl (fun found a =>
    match a with
    | .put l v => if k = l then some v else found
    | .get _ => found) none

def Access.IsFaithful : Access → Prop
  | get _ => True
  | put _ v => v.IsFaithful

/-- The answer of a file that holds no object. -/
def Access.refusal : Access → Answer
  | get _ => .value (.error .malformed)
  | put _ _ => .stored (.error .malformed)

/-! ### Memory -/

theorem answers_append (st : Storage) (as bs : List Access) :
    st.answers (as ++ bs) = st.answers as ++ (st.run as).answers bs := by
  induction as generalizing st with
  | nil => rfl
  | cons a as ih => exact congrArg ((st.access a).2 :: ·) (ih _)

theorem run_append (st : Storage) (as bs : List Access) :
    st.run (as ++ bs) = (st.run as).run bs := List.foldl_append

theorem access_memory (data : Fields Json) (a : Access) :
    ((memory data).access a).1 = memory (match a with
      | .get _ => data
      | .put k v => data.insert k v) := by
  cases a <;> rfl

/-- A memory knows what was stored last. -/
theorem get_run_memory (accesses : List Access) (k : String) :
    ((memory []).run accesses).get k = .ok (lastPut k accesses) := by
  have hrun : ∃ data, (memory []).run accesses = memory data ∧
      data.lookup k = lastPut k accesses := by
    induction accesses using List.reverseRecOn with
    | nil => exact ⟨[], rfl, rfl⟩
    | append_singleton accesses a ih =>
        obtain ⟨data, hdata, hlookup⟩ := ih
        rw [run_append, hdata, lastPut, List.foldl_append]
        refine ⟨_, access_memory data a, ?_⟩
        rw [List.foldl_cons, List.foldl_nil, ← lastPut, ← hlookup]
        cases a with
        | get l => rfl
        | put l v =>
            dsimp only
            split
            · next hk => rw [hk, Fields.lookup_insert_self]
            · next hk => exact Fields.lookup_insert_of_ne hk v data
  obtain ⟨data, hdata, hlookup⟩ := hrun
  rw [hdata, ← hlookup]
  rfl

/-! ### Files that hold what a memory holds -/

/-- The storage is a file, in which a memory holds the same fields. -/
structure Refines (st memory : Storage) : Prop where
  file : st = .file st.text?
  memory : ∃ data, memory = .memory data ∧ st.contents = .ok data ∧ ∀ e ∈ data, e.2.IsFaithful

theorem refines_empty : Refines (file none) (memory []) where
  file := rfl
  memory := ⟨[], rfl, rfl, nofun⟩

theorem contents_pretty {data : Fields Json} (hsorted : data.IsSorted)
    (h : ∀ e ∈ data, e.2.IsFaithful) :
    (file (some ((Json.obj data).pretty ""))).contents = .ok data := by
  have hkeeps : Json.Keeps (Json.maxDepth - 1 + 1) (.obj data) :=
    Json.keeps_obj hsorted fun e he => Json.isFaithful_iff.mp (h e he)
  have hread : Json.read? ((Json.obj data).pretty "") = some (.obj data) :=
    (Json.read?_pretty _).trans hkeeps
  rw [contents, hread]

namespace Refines

variable {st mem : Storage}

theorem access (h : st.Refines mem) {a : Access} (ha : a.IsFaithful) :
    (st.access a).2 = (mem.access a).2 ∧ (st.access a).1.Refines (mem.access a).1 := by
  obtain ⟨hfile, data, rfl, hcontents, hfaithful⟩ := h
  cases a with
  | get k =>
      refine ⟨?_, hfile, data, rfl, hcontents, hfaithful⟩
      rw [Storage.access, Storage.get, hcontents]
      rfl
  | put k v =>
      have hsorted : data.IsSorted := isSorted_contents (hfile ▸ hcontents)
      have hall : ∀ e ∈ data.insert k v, e.2.IsFaithful := by
        intro e he
        rcases Fields.mem_of_mem_insert he with rfl | he
        · exact ha
        · exact hfaithful e he
      have hput : st.put k v = .ok (.file (some ((Json.obj (data.insert k v)).pretty ""))) := by
        rw [Storage.put, hcontents, hfile]
        rfl
      rw [Storage.access, hput]
      exact ⟨rfl, rfl, data.insert k v, rfl, contents_pretty (hsorted.insert k v) hall, hall⟩

theorem run (h : st.Refines mem) {accesses : List Access} (ha : ∀ a ∈ accesses, a.IsFaithful) :
    st.answers accesses = mem.answers accesses ∧ (st.run accesses).Refines (mem.run accesses) := by
  induction accesses generalizing st mem with
  | nil => exact ⟨rfl, h⟩
  | cons a accesses ih =>
      obtain ⟨ha, haccesses⟩ := List.forall_mem_cons.mp ha
      obtain ⟨hanswer, hnext⟩ := h.access ha
      obtain ⟨hanswers, hrun⟩ := ih hnext haccesses
      exact ⟨congrArg₂ List.cons hanswer hanswers, hrun⟩

/-- Opened again, the file holds what the memory holds. -/
theorem reopened (h : st.Refines mem) : (Storage.file st.text?).Refines mem := h.file ▸ h

end Refines

theorem fileAnswers_eq {text : Option String} {mem : Storage} (h : (file text).Refines mem)
    {sessions : List (List Access)} (ha : ∀ a ∈ sessions.flatten, a.IsFaithful) :
    fileAnswers text sessions = mem.answers sessions.flatten := by
  induction sessions generalizing text mem with
  | nil => rfl
  | cons accesses sessions ih =>
      rw [List.flatten_cons, List.forall_mem_append] at ha
      obtain ⟨hanswers, hrun⟩ := h.run ha.1
      rw [fileAnswers, hanswers, ih hrun.reopened ha.2, List.flatten_cons, answers_append]

/-- A value that is not read as it was printed shows when it is read. -/
theorem isFaithful_of_fileAnswers {k : String} {v : Json}
    (h : fileAnswers none [[.put k v], [.get k]] = (memory []).answers [.put k v, .get k]) :
    v.IsFaithful := by
  have hanswer : Answer.value ((file (some ((Json.obj [(k, v)]).pretty ""))).get k) =
      .value ((memory [(k, v)]).get k) := (List.cons.inj (List.cons.inj h).2).1
  have hget : (file (some ((Json.obj [(k, v)]).pretty ""))).get k = .ok (some v) := by
    rw [Answer.value.inj hanswer, get, contents, Except.map, List.lookup_cons_self]
  rw [get, contents, Json.read?_pretty_single] at hget
  refine Json.isFaithful_iff.mpr ?_
  cases hv : v.reread.value (Json.maxDepth - 1) with
  | none =>
      rw [hv] at hget
      cases hget
  | some v' =>
      rw [hv, Option.map_some, Except.map, List.lookup_cons_self] at hget
      cases hget
      exact hv

/-! ### Files that hold no object -/

section

variable {text : String} (h : ∀ fields, Json.read? text ≠ some (.obj fields))

include h

theorem contents_eq_malformed : (file (some text)).contents = .error .malformed := by
  rw [contents]
  split
  · next fields hread => exact absurd hread (h fields)
  · rfl

theorem access_malformed (a : Access) : (file (some text)).access a = (file (some text), a.refusal) := by
  cases a with
  | get k =>
      rw [access, get, contents_eq_malformed h]
      rfl
  | put k v =>
      have hput : (file (some text)).put k v = .error .malformed := by
        rw [put, contents_eq_malformed h]
        rfl
      rw [access, hput]
      rfl

theorem run_malformed (accesses : List Access) : (file (some text)).run accesses = file (some text) ∧
    (file (some text)).answers accesses = accesses.map Access.refusal := by
  induction accesses with
  | nil => exact ⟨rfl, rfl⟩
  | cons a accesses ih =>
      rw [run, List.foldl_cons, answers, access_malformed h]
      exact ⟨ih.1, congrArg (a.refusal :: ·) ih.2⟩

theorem sessions_malformed (sessions : List (List Access)) :
    fileAnswers (some text) sessions = sessions.flatten.map Access.refusal ∧
      fileAfter (some text) sessions = some text := by
  induction sessions with
  | nil => exact ⟨rfl, rfl⟩
  | cons accesses sessions ih =>
      obtain ⟨hrun, hanswers⟩ := run_malformed h accesses
      rw [fileAnswers, fileAfter, List.foldl_cons, hrun, hanswers, List.flatten_cons, List.map_append]
      exact ⟨congrArg (accesses.map Access.refusal ++ ·) ih.1, ih.2⟩

end

/-! ### Refinement -/

/-- However often a file is opened, and whatever is stored in it, it answers like one memory, as long
as the values are read as they were printed, and no longer. The memory answers with what was stored
last. Only texts of objects are read as objects, and where a file holds no object, every access is
refused and the text of the file stays. -/
theorem file_refines_memory :
    (∀ sessions : List (List Access), (∀ a ∈ sessions.flatten, a.IsFaithful) →
      fileAnswers none sessions = (memory []).answers sessions.flatten) ∧
    (∀ k v, fileAnswers none [[.put k v], [.get k]] = (memory []).answers [.put k v, .get k] →
      v.IsFaithful) ∧
    (∀ accesses k, ((memory []).run accesses).get k = .ok (lastPut k accesses)) ∧
    (∀ text fields, Json.read? text = some (.obj fields) → Json.IsObjectText text) ∧
    ∀ text, (∀ fields, Json.read? text ≠ some (.obj fields)) → ∀ sessions,
      fileAnswers (some text) sessions = sessions.flatten.map Access.refusal ∧
        fileAfter (some text) sessions = some text :=
  ⟨fun _ ha => fileAnswers_eq refines_empty ha, fun _ _ => isFaithful_of_fileAnswers,
    get_run_memory, fun _ _ => Json.isObjectText_of_read?, fun _ h => sessions_malformed h⟩

theorem file_refines_memory_reopened :
    let sessions : List (List Access) :=
      [[.get "a", .put "a" (.ofNat 1), .put "b" (.arr [.bool true])], [.put "a" (.str "é")],
        [.get "a", .get "b"]]
    (∀ a ∈ sessions.flatten, a.IsFaithful) ∧
      fileAnswers none sessions = [.value (.ok none), .stored (.ok ()), .stored (.ok ()),
        .stored (.ok ()), .value (.ok (some (.str "é"))), .value (.ok (some (.arr [.bool true])))] ∧
      Json.IsObjectText " \x7B\x7D\n" ∧ (∀ fields, Json.read? "[true]" ≠ some (.obj fields)) ∧
      fileAnswers (some "[true]") [[.put "a" .null], [.get "a"]] =
        [.stored (.error .malformed), .value (.error .malformed)] ∧
      fileAfter (some "[true]") [[.put "a" .null], [.get "a"]] = some "[true]" := by
  intro sessions
  have hput {k : String} {v : Json} (h : v.Keeps (Json.maxDepth - 1)) :
      (Access.put k v).IsFaithful := Json.isFaithful_iff.mpr h
  have hone : (Json.ofNat 1).Keeps (Json.maxDepth - 1) := Json.keeps_ofNat (by omega) _
  have hlist : (Json.arr [.bool true]).Keeps (Json.maxDepth - 1) := rfl
  have hfaithful : ∀ a ∈ sessions.flatten, a.IsFaithful := by
    simp only [sessions, List.flatten_cons, List.flatten_nil, List.cons_append, List.nil_append,
      List.append_nil, List.forall_mem_cons]
    exact ⟨trivial, hput hone, hput hlist, hput (Json.keeps_str _ _), trivial, trivial,
      List.forall_mem_nil _⟩
  have hread : Json.read? "[true]" = some (.arr [.bool true]) := rfl
  have hnone : ∀ fields, Json.read? "[true]" ≠ some (.obj fields) := by
    intro fields h
    rw [hread] at h
    cases h
  obtain ⟨hrefines, -, -, hobject, hrefuses⟩ := file_refines_memory
  obtain ⟨hanswers, hafter⟩ := hrefuses "[true]" hnone [[.put "a" .null], [.get "a"]]
  refine ⟨hfaithful, (hrefines sessions hfaithful).trans ?_, hobject " \x7B\x7D\n" [] rfl, hnone,
    hanswers, hafter⟩
  rfl

end Storage

end Shortcuts
