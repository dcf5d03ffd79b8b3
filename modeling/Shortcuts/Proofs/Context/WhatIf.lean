import Mathlib
import Shortcuts.Proofs.Clause.Congruence
import Shortcuts.Proofs.Context.Tending

/-!
Overlays as questions what would be. A region answers through an overlay as it would if the entries
were stored where the question is asked; a value is not stored again in place of an equal one, but
that makes a difference to no clause, as long as it looks for no pattern in the text of a zero.
-/

namespace Shortcuts

open Clause (Alike)

/-! ### Storing several values -/

namespace Arena

variable {a : Arena} {id : ContextId} {key : String} {v : Json}
  {entries : List (String × Json)}

/-- Stores values in a context, one after the other. -/
def setAll (a : Arena) (id : ContextId) (entries : List (String × Json)) : Arena :=
  entries.foldl (fun a e => (a.set id e.1 e.2).1) a

theorem setAll_concat (a : Arena) (id : ContextId) (entries : List (String × Json))
    (e : String × Json) :
    a.setAll id (entries ++ [e]) = ((a.setAll id entries).set id e.1 e.2).1 := by
  rw [setAll, List.foldl_append]
  rfl

theorem contains_set (a : Arena) (id : ContextId) (key : String) (v : Json) (x : ContextId) :
    (a.set id key v).1.contains x = a.contains x := by
  rcases set_eq a id key v with heq | heq <;> rw [heq]
  exact contains_withValues a id (Fields.insert key v) x

theorem IsPlain.set (ha : a.IsPlain) (id : ContextId) (key : String) (v : Json) :
    (a.set id key v).1.IsPlain := by
  rcases set_eq a id key v with heq | heq <;> rw [heq]
  · exact ha
  · exact ha.withValues id fun _ hm => hm.insert key v

/-! ### The context where values are stored -/

/-- What is stored is the value, or one that is equal to it. -/
theorem alike_own?_set (h : a.contains id = true) (key : String) (v : Json) :
    Alike (some v) ((a.set id key v).1.own? id key) := by
  obtain ⟨node, hnode⟩ := Option.isSome_iff_exists.mp h
  rw [set, hnode]
  dsimp only
  split
  · next heq =>
      rw [own?, hnode, Option.bind_some]
      cases hv : node.values.lookup key with
      | none =>
          rw [hv] at heq
          cases heq
      | some w =>
          rw [hv] at heq
          exact .of_beq ((Json.beq_comm v w).trans heq)
  · have hafter := own?_withValues hnode (Fields.insert key v) key
    rw [Fields.lookup_insert_self] at hafter
    exact hafter ▸ .same _

/-! ### What contexts see -/

section Lookups

variable (settings : String → Option Json) (ha : a.IsPlain) (hforest : a.IsForest)

include ha hforest

theorem get?_of_own? (hkey : key ≠ idKey) (h : a.own? id key = some v) :
    a.get? settings id key = some v := by
  obtain ⟨node, hnode, hv⟩ := Option.bind_eq_some_iff.mp h
  have hset : ¬ (id = root ∧ isSettingKey key ∧ a.remembered.isSome) := by
    simp [ha.unbacked]
  rw [get?_eq ha hforest hkey, ((hforest.ends id).1 key).unique (.value hnode hset hv)]
  rfl

theorem get?_set_of_ne {l : String} (h : key ≠ l) (x : ContextId) (v : Json) :
    (a.set x l v).1.get? settings id key = a.get? settings id key := by
  by_cases hkey : key = idKey
  · rw [get?, get?, if_pos hkey, if_pos hkey, contains_set]
  have hforest' : (a.set x l v).1.IsForest := (isForest_congr (parent?_set a x l v)).mpr hforest
  rw [get?_eq (ha.set x l v) hforest' hkey, get?_eq ha hforest hkey]
  by_contra hne
  -- a lookup that ends otherwise comes by a context that replies otherwise
  obtain ⟨n, y, -, hy, -⟩ := ((hforest'.ends id).1 key).differs ((hforest.ends id).1 key)
    fun heq => hne (congrArg Found.value? heq)
  rcases set_eq a x l v with heq | heq
  · exact hy (by rw [heq])
  · exact hy (by rw [heq, reply_withValues _ fun _ m => Fields.lookup_insert_of_ne h v m])

theorem alike_get?_set (hkey : key ≠ idKey) (h : a.contains id = true) (v : Json) :
    Alike (some v) ((a.set id key v).1.get? settings id key) := by
  have halike := alike_own?_set h key v
  obtain ⟨w, hw⟩ := halike.exists_some
  have hforest' := (isForest_congr (parent?_set a id key v)).mpr hforest
  rw [get?_of_own? settings (ha.set id key v) hforest' hkey hw, ← hw]
  exact halike

end Lookups

/-- Storing values leads to arenas of the same kind. -/
structure Kept (a b : Arena) (id : ContextId) : Prop where
  plain : b.IsPlain
  forest : b.IsForest
  contains : b.contains id = a.contains id

theorem kept_setAll (ha : a.IsPlain) (hforest : a.IsForest) (id : ContextId)
    (entries : List (String × Json)) : Kept a (a.setAll id entries) id :=
  kept_foldl (Kept a · id) (fun b e hb =>
    { plain := hb.plain.set id e.1 e.2
      forest := (isForest_congr (parent?_set b id e.1 e.2)).mpr hb.forest
      contains := (contains_set b id e.1 e.2 id).trans hb.contains })
    ⟨ha, hforest, rfl⟩ entries

/-- A context sees what is stored in it last, or what is equal to it, and otherwise what it saw. -/
theorem get?_setAll (settings : String → Option Json) (ha : a.IsPlain) (hforest : a.IsForest)
    (h : a.contains id = true) (hkeys : ∀ e ∈ entries, e.1 ≠ idKey) (key : String) :
    (∀ v, (Fields.ofList entries).lookup key = some v →
      Alike (some v) ((a.setAll id entries).get? settings id key)) ∧
    ((Fields.ofList entries).lookup key = none →
      (a.setAll id entries).get? settings id key = a.get? settings id key) := by
  induction entries using List.reverseRecOn with
  | nil => exact ⟨nofun, fun _ => rfl⟩
  | append_singleton entries e ih =>
      obtain ⟨l, v⟩ := e
      obtain ⟨hbefore, hlast⟩ := List.forall_mem_append.mp hkeys
      have hkept := kept_setAll ha hforest id entries
      have hlist : Fields.ofList (entries ++ [(l, v)]) = (Fields.ofList entries).insert l v :=
        Fields.ofList_append entries [(l, v)]
      rw [setAll_concat, hlist]
      by_cases hl : key = l
      · subst hl
        rw [Fields.lookup_insert_self]
        refine ⟨fun v' hv => ?_, nofun⟩
        obtain rfl := Option.some.inj hv
        exact alike_get?_set settings hkept.plain hkept.forest (hlast _ (.head _))
          (hkept.contains.trans h) v
      · rw [Fields.lookup_insert_of_ne hl, get?_set_of_ne settings hkept.plain hkept.forest hl]
        exact ih hbefore

end Arena

/-! ### Overlays that answer alike -/

namespace Overlay

/-- Both overlays give the same answers to all questions, and remember the same. -/
structure AnswersLike (o o' : Overlay) : Prop where
  get : ∀ c key, (Viewpoint.overlay o).get c key = (Viewpoint.overlay o').get c key
  getAt : ∀ c target keys,
    (Viewpoint.overlay o).getAt c target keys = (Viewpoint.overlay o').getAt c target keys
  matchText : ∀ c text target,
    (Viewpoint.overlay o).matchText c text target = (Viewpoint.overlay o').matchText c text target
  matchRules : ∀ c rules,
    (Viewpoint.overlay o).matchRules c rules = (Viewpoint.overlay o').matchRules c rules

/-- Of layers only the values count that are seen in them. -/
theorem answersLike_of_own? {o o' : Overlay} (hregion : o.region = o'.region)
    (hown : ∀ key, o.own? key = o'.own? key) : o.AnswersLike o' := by
  have hthrough : o.through = o'.through := by
    funext below key
    rw [through, through, hown]
  have hget (c : Contexts) (key : String) :
      o.noteGet c key = o'.noteGet c key ∧ o.get? c key = o'.get? c key := by
    rw [noteGet, noteGet, get?, get?, hown, hthrough, hregion]
    exact ⟨rfl, rfl⟩
  have hgetAt (c : Contexts) (target : Option ElementId) : (o.noteGetAt c target =
      o'.noteGetAt c target) ∧ o.getAt? c target = o'.getAt? c target := by
    refine ⟨funext fun key => ?_, funext fun key => ?_⟩
    · rw [noteGetAt, noteGetAt, hown, hregion]
    · rw [getAt?, getAt?, hown, hthrough, hregion]
  have hat (c : Contexts) (clause : Clause) (tree : Nat) (context : Option ContextId) :
      o.noteAt c clause tree context = o'.noteAt c clause tree context ∧
        o.evaluateAt c clause tree context = o'.evaluateAt c clause tree context := by
    simp only [noteAt, evaluateAt, hthrough, hown, and_self]
  constructor
  · exact fun c key => Prod.ext (hget c key).1 (hget c key).2
  · intro c target keys
    simp only [Viewpoint.getAt, hgetAt]
  · intro c text target
    simp only [Viewpoint.matchText, noteMatch, matchText, hregion, hat]
  · intro c rules
    simp only [Viewpoint.matchRules, noteRules, matchRules, hregion, hat]

theorem on_eq {c : Contexts} {id : RegionId} (h : c.isDisposed id = false)
    (entries : Fields Json) : Overlay.on c id entries = .ok ⟨id, [entries]⟩ := by
  rw [on, h]
  rfl

theorem own?_single (id : RegionId) (entries : Fields Json) (key : String) :
    own? ⟨id, [entries]⟩ key = entries.lookup key := by
  rw [own?, List.findSome?_cons]
  cases entries.lookup key <;> rfl

/-- A second overlay is as good as one with the entries of both. -/
theorem stack_answersLike (id : RegionId) (entries more : List (String × Json)) :
    (stack ⟨id, [Fields.ofList entries]⟩ (Fields.ofList more)).AnswersLike
      ⟨id, [Fields.ofList (entries ++ more)]⟩ := by
  refine answersLike_of_own? rfl fun key => ?_
  rw [own?_single, Fields.lookup_ofList_append, own?, stack, List.findSome?_cons]
  cases (Fields.ofList more).lookup key with
  | some v => rfl
  | none => exact own?_single id (Fields.ofList entries) key

end Overlay

/-! ### What would be -/

namespace Contexts

variable {c : Contexts} {id : RegionId} {r : Region} {a : Arena} {x : ContextId}
  {entries : List (String × Json)}

theorem contextFor_withArena (c : Contexts) (t : Nat) (b : Arena) (r : Region)
    (target : Option ElementId) :
    (c.withArena t b).contextFor r target = c.contextFor r target := by
  have hfocus : ((c.withArena t b).trees.lookup r.tree).bind (·.focused) =
      (c.trees.lookup r.tree).bind (·.focused) := by
    rw [withArena, Table.lookup_modify]
    split
    · rw [Option.bind_map]
      rfl
    · rfl
  rw [contextFor, contextFor, hfocus]
  rfl

theorem valuesAt_of_arena? {t : Nat} (ha : c.arena? t = some a) (x : ContextId) (key : String) :
    c.valuesAt t (some x) key = a.get? c.settings.get? x key := by
  simp only [valuesAt, ha]

/-- A clause holds through an overlay if it would hold with the entries stored in the context. -/
theorem evaluate_overlay (hc : c.Upright) (ha : c.arena? r.tree = some a)
    (hkeys : ∀ e ∈ entries, e.1 ≠ Arena.idKey) (hcontains : a.contains x = true) {clause : Clause}
    (htexts : ∀ k ∈ clause.searches, ∀ v, (Fields.ofList entries).lookup k = some v →
      Clause.searchedText ((a.setAll x entries).get? c.settings.get? x k) =
        Clause.searchedText (some v)) :
    Overlay.evaluateAt ⟨id, [Fields.ofList entries]⟩ c clause r.tree (some x) =
      clause.evaluate ((c.withArena r.tree (a.setAll x entries)).valuesAt r.tree (some x)) := by
  have hstored (key : String) :
      (c.withArena r.tree (a.setAll x entries)).valuesAt r.tree (some x) key =
        (a.setAll x entries).get? c.settings.get? x key := by
    exact valuesAt_of_arena? ((arena?_withArena ha _ _).trans (if_pos rfl)) x key
  have hthrough (key : String) :
      Overlay.through ⟨id, [Fields.ofList entries]⟩ (c.valuesAt r.tree (some x)) key =
        ((Fields.ofList entries).lookup key).or (a.get? c.settings.get? x key) := by
    rw [Overlay.through, Overlay.own?_single, valuesAt_of_arena? ha]
    cases (Fields.ofList entries).lookup key <;> rfl
  have hget := Arena.get?_setAll c.settings.get? (hc.founded.plain ha) (hc.forests _ a ha)
    hcontains hkeys
  rw [Overlay.evaluateAt]
  refine Clause.evaluate_congr (fun k => ?_) clause fun k hk => ?_
  · rw [hthrough, hstored]
    cases hv : (Fields.ofList entries).lookup k with
    | some v => exact (hget k).1 v hv
    | none =>
        rw [(hget k).2 hv]
        exact .same _
  · rw [hthrough, hstored]
    cases hv : (Fields.ofList entries).lookup k with
    | some v => exact (htexts k hk v hv).symm
    | none =>
        rw [(hget k).2 hv]
        rfl

/-- What a region answers through an overlay is what it would answer if the entries were stored, one
after the other, in the context where the clause is evaluated. The clause must not look for patterns
in texts that differ: where an equal value is in place of an entry the entry is not stored, and the
two zeros are equal. Layers on layers are as good as one, and asking changes nothing. -/
theorem overlay_answers_as_stored {text : String} {target : Option ElementId} (hc : c.Tended)
    (hr : c.region? id = some r) (hlives : r.disposed = false) (ha : c.arena? r.tree = some a)
    (hkeys : ∀ e ∈ entries, e.1 ≠ Arena.idKey) (hx : c.contextFor r target = some x)
    (hcontains : a.contains x = true)
    (htexts : ∀ clause, Clause.ofText text = .ok (some clause) → ∀ k ∈ clause.searches, ∀ v,
      (Fields.ofList entries).lookup k = some v →
        Clause.searchedText ((a.setAll x entries).get? c.settings.get? x k) =
          Clause.searchedText (some v)) :
    ∃ o, Overlay.on c id (Fields.ofList entries) = .ok o ∧
      o.matchText c text target =
        (c.withArena r.tree (a.setAll x entries)).matchText id text target ∧
      (∀ more, ∃ both, Overlay.on c id (Fields.ofList (entries ++ more)) = .ok both ∧
        (o.stack (Fields.ofList more)).AnswersLike both) ∧
      (∀ q : Read, c.read q = c) ∧
      ∀ k v, (Fields.ofList entries).lookup k = some v →
        let kept := (a.setAll x entries).get? c.settings.get? x k
        Clause.IsStandard (some v) → Clause.IsStandard kept →
          Clause.searchedText (some v) ≠ Clause.searchedText kept →
            Clause.AreBothZeros (some v) kept := by
  have hdisposed : c.isDisposed id = false := (isDisposed_of_region? hr).trans hlives
  have hkept := Arena.get?_setAll c.settings.get? (hc.upright.founded.plain ha)
    (hc.upright.forests _ a ha) hcontains hkeys
  refine ⟨_, Overlay.on_eq hdisposed _, ?_, fun more => ⟨_, Overlay.on_eq hdisposed _,
    Overlay.stack_answersLike id entries more⟩, hc.upright.read_eq, fun k v hv hstandard =>
      (Clause.zeros_of_searchedText_ne hstandard · ((hkept k).1 v hv))⟩
  have hregion : (c.withArena r.tree (a.setAll x entries)).region? id = some r := hr
  rw [Overlay.matchText, matchText, hregion]
  dsimp only
  rw [hr]
  cases htext : Clause.ofText text with
  | error e => rfl
  | ok clause? =>
      cases clause? with
      | none => rfl
      | some clause =>
          dsimp only
          rw [hlives, contextFor_withArena, hx,
            evaluate_overlay hc.upright ha hkeys hcontains (htexts clause htext)]
          rfl

/-! Zeros -/

def zero (negative : Bool) : Json := .num (.float (.finite negative 0 0))

def holdingZero : Contexts :=
  accessed (start {} {}) [.operate (.newRoot false), .operate (.set 0 "x" (zero false))]

theorem tended_holdingZero : holdingZero.Tended := by
  have hroot : (access (start {} {}) (.operate (.newRoot false))).Tended :=
    .step (.start {} {}) rfl
  exact .step (x := .operate (.set 0 "x" (zero false))) hroot trivial

/-- A negative zero is not stored in place of a zero, and has a sign in its text. -/
theorem overlay_of_negative_zero :
    ∃ r a, holdingZero.Tended ∧ holdingZero.region? 0 = some r ∧ r.disposed = false ∧
      holdingZero.arena? r.tree = some a ∧
      holdingZero.contextFor r none = some Arena.root ∧ a.contains Arena.root = true ∧
      ∃ o, Overlay.on holdingZero 0 (Fields.ofList [("x", zero true)]) = .ok o ∧
        o.matchText holdingZero "x =~ /-/" none = .ok true ∧
        (holdingZero.withArena r.tree (a.setAll Arena.root [("x", zero true)])).matchText 0
          "x =~ /-/" none = .ok false := by
  have hlex : Clause.lex "x =~ /-/".toList =
      .ok [(0, .word ['x']), (2, .tilde), (5, .regex ['-'] [])] := by cbv
  have htext : Clause.ofText "x =~ /-/" = .ok (some (.matching "x" "-" "")) := by
    rw [Clause.ofText, hlex]
    rfl
  refine ⟨_, _, tended_holdingZero, rfl, rfl, rfl, rfl, rfl, _, rfl, ?_, ?_⟩
  · rw [Overlay.matchText, htext]
    exact congrArg Except.ok (by decide)
  · rw [matchText, htext]
    exact congrArg Except.ok (by decide)

/-- The mode of a region below a root, seen as another one. -/
def inserting : Contexts :=
  accessed (start {} (Elements.create {} none).1)
    [.operate (.newRoot false), .operate (.createScoped 0 0), .operate (.set 1 "m" (.str "i"))]

theorem tended_inserting : inserting.Tended := by
  have hroot : (access (start {} (Elements.create {} none).1) (.operate (.newRoot false))).Tended :=
    .step (.start {} _) rfl
  have hscoped := Tended.step (x := .operate (.createScoped 0 0)) hroot trivial
  exact .step (x := .operate (.set 1 "m" (.str "i"))) hscoped trivial

theorem overlay_answers_as_stored_mode :
    ∃ r a o, inserting.region? 0 = some r ∧ r.disposed = false ∧
      inserting.arena? r.tree = some a ∧ inserting.contextFor r (some 0) = some 1 ∧
      a.contains 1 = true ∧
      Overlay.on inserting 0 (Fields.ofList [("m", .str "i"), ("m", .str "n")]) = .ok o ∧
      o.matchText inserting "m =~ /n/" (some 0) = .ok true ∧
      (inserting.withArena r.tree (a.setAll 1 [("m", .str "i"), ("m", .str "n")])).matchText 0
        "m =~ /n/" (some 0) = .ok true ∧
      inserting.read (.matchText (.overlay o) "m =~ /n/" (some 0)) = inserting := by
  have hlex : Clause.lex "m =~ /n/".toList =
      .ok [(0, .word ['m']), (2, .tilde), (5, .regex ['n'] [])] := by cbv
  have htext : Clause.ofText "m =~ /n/" = .ok (some (.matching "m" "n" "")) := by
    rw [Clause.ofText, hlex]
    rfl
  have hkeys : ∀ e ∈ [("m", Json.str "i"), ("m", .str "n")], e.1 ≠ Arena.idKey := by decide
  have hregion : inserting.region? 0 = some _ := rfl
  obtain ⟨o, ho, hanswer, -, hread, -⟩ := overlay_answers_as_stored tended_inserting hregion rfl rfl
    hkeys (show inserting.contextFor _ (some 0) = some 1 from rfl) rfl
    fun clause (hclause : Clause.ofText "m =~ /n/" = _) k hk v hv => by
      rw [htext] at hclause
      cases hclause
      cases List.mem_singleton.mp hk
      cases hv
      rfl
  have htrue : o.matchText inserting "m =~ /n/" (some 0) = .ok true := by
    cases ho
    rw [Overlay.matchText, htext]
    exact congrArg Except.ok (by decide)
  exact ⟨_, _, o, rfl, rfl, rfl, rfl, rfl, ho, htrue, hanswer ▸ htrue, hread _⟩

end Contexts

end Shortcuts
