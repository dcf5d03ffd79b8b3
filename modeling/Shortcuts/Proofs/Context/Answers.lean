import Shortcuts.Proofs.Clause.Mentions
import Shortcuts.Proofs.Context.Reparenting

/-!
Answers to clauses, and what is told when they change. An operation that is announced changes what
one context replies and nothing else. If a region answers a clause otherwise afterwards, it sees
another value of a key of the clause, and hears of that key.
-/

namespace Shortcuts.Contexts

open Clause (PassesUnseen)

variable {c d : Contexts} {id t above : RegionId} {r : Region} {a b : Arena} {op : Operation}
  {key name text written : String} {f : Fields Json → Fields Json} {s : Contexts × List Notice}

/-- The observers of a region are told once for each subscription of a change of keys, one of
which is among the given ones. -/
def TellsSome (c : Contexts) (told : List Notice) (t : RegionId) (name : String)
    (ks : List String) : Prop :=
  ∃ keys, (∃ k ∈ keys, k ∈ ks) ∧ told.filter (Notice.isTo name) =
    List.replicate (c.subscriptions t name) (.context name keys)

/-! ### One context that replies otherwise -/

/-- Of all contexts only that of the region may reply otherwise, and none comes or goes. -/
structure Touches (c d : Contexts) (r : Region) (a b : Arena) : Prop where
  site? : ∀ x, d.site? x = c.site? x
  isDisposed : ∀ x, d.isDisposed x = c.isDisposed x
  arena? : ∀ s, d.arena? s = if s = r.tree then some b else c.arena? s
  contains : ∀ x, b.contains x = a.contains x
  reply : ∀ key y, y ≠ r.context → b.reply key y = a.reply key y
  focused? : ∀ x, d.focused? x = c.focused? x

theorem focused?_eq (c : Contexts) (x : RegionId) : c.focused? x =
    (c.site? x).bind fun s => (c.trees.lookup s.1).bind (·.focused) := by
  rw [focused?, Contexts.site?, Option.bind_map, Option.bind_assoc]
  rfl

theorem focused_withArena (c : Contexts) (t : Nat) (b : Arena) (s : Nat) :
    ((c.withArena t b).trees.lookup s).bind (·.focused) =
      (c.trees.lookup s).bind (·.focused) := by
  rw [withArena, Table.lookup_modify]
  split
  · rw [Option.bind_map]
    rfl
  · rfl

theorem touches_withValues (ha : c.arena? r.tree = some a) (f : Fields Json → Fields Json) :
    Touches c (c.withArena r.tree (a.withValues r.context f)) r a (a.withValues r.context f) where
  site? _ := rfl
  isDisposed _ := rfl
  arena? := arena?_withArena ha _
  contains := Arena.contains_withValues a r.context f
  reply _ _ hy := Arena.reply_withValues f fun heq => absurd heq hy
  focused? x := by
    simp only [focused?_eq, focused_withArena]
    rfl

theorem touches_moved {ra : Region} (ha : c.arena? r.tree = some a)
    (hb : a.updateParent r.context ra.context = .ok b) (id above : RegionId) :
    Touches c (((c.withArena r.tree b).withParent id above).listenTo id above) r a b := by
  have hlisten := samePlaces_listenTo ((c.withArena r.tree b).withParent id above) id above
  refine
    { site? := fun x => (hlisten.site? x).trans (site?_withParent _ id above x)
      isDisposed := fun x => (hlisten.isDisposed x).trans (isDisposed_withParent _ id above x)
      arena? := fun s => (arena?_congr hlisten.trees s).trans (arena?_withArena ha b s)
      contains := Arena.contains_updateParent hb
      reply := fun _ _ hy => Arena.reply_updateParent hb hy
      focused? := fun x => ?_ }
  have hfocus := focused_withArena c r.tree b
  rw [focused?_eq, hlisten.site?, hlisten.trees, site?_withParent, focused?_eq]
  exact congrArg _ (funext fun s => hfocus s.1)

namespace Touches

theorem get?_idKey (h : Touches c d r a b) (ha : c.arena? r.tree = some a) (t : RegionId) :
    c.get? t Arena.idKey = d.get? t Arena.idKey := by
  cases ht : c.isDisposed t with
  | true => rw [get?_of_disposed ht, get?_of_disposed ((h.isDisposed t).trans ht)]
  | false =>
      obtain ⟨rc, hrc, hlivesc⟩ := exists_region_of_lives ht
      obtain ⟨rd, hrd, hlivesd⟩ := exists_region_of_lives ((h.isDisposed t).trans ht)
      have hsite := h.site? t
      rw [site?_of_region? hrc, site?_of_region? hrd] at hsite
      obtain ⟨htree, hcontext⟩ := Prod.mk.inj (Option.some.inj hsite)
      simp only [get?, hrc, hrd, hlivesc, hlivesd, Bool.false_eq_true, if_false, valuesAt, htree,
        hcontext, h.arena?]
      by_cases hr : rc.tree = r.tree
      · simp only [hr, ha, if_true, Arena.get?, h.contains]
      · simp only [hr, if_false]
        cases c.arena? rc.tree with
        | none => rfl
        | some a' => simp only [Arena.get?, if_true]

/-- A region sees a change only if it is below the one whose context has changed. -/
theorem changed_below (h : Touches c d r a b) (hc : c.Upright) (hd : d.Upright)
    (hr : c.region? id = some r) (ha : c.arena? r.tree = some a)
    (hchange : c.get? t key ≠ d.get? t key) :
    key ≠ Arena.idKey ∧ (∃ n, Climbs d.parentOf t n id) ∧
      b.reply key r.context ≠ a.reply key r.context ∧
      ∃ f g, a.Looks key r.context f ∧ b.Looks key r.context g ∧
        f.value? = c.get? t key ∧ g.value? = d.get? t key := by
  have hkey : key ≠ Arena.idKey := by
    rintro rfl
    exact hchange (h.get?_idKey ha t)
  obtain ⟨n, x, hsite, -, hclimb, hseen⟩ := changed_at hc.grown hc.forests hd.forests
    hc.founded.plain hd.founded.plain ha h.site? h.isDisposed h.arena? (h.reply key) hkey hchange
  obtain ⟨p, hp, hsitep⟩ := hd.founded.climbs_regions hsite ((h.arena? _).trans (if_pos rfl)) hclimb
  cases hd.founded.distinct hsitep ((h.site? id).trans (site?_of_region? hr))
  exact ⟨hkey, ⟨n, hp⟩, hseen⟩

end Touches

/-! ### Answers -/

theorem matchText_eq {clause : Clause} (hlives : c.isDisposed t = false)
    (hfocus : c.focused? t = none) (htext : Clause.ofText text = .ok (some clause)) :
    c.matchText t text none = .ok (clause.evaluate (c.get? t)) := by
  obtain ⟨r, hr, hdisposed⟩ := exists_region_of_lives hlives
  rw [focused?, hr, Option.bind_some] at hfocus
  have hcontext : c.contextFor r none = some r.context := by
    rw [contextFor, hfocus]
    rfl
  have hvalues : c.get? t = c.valuesAt r.tree (some r.context) := by
    funext key
    simp only [get?, hr, hdisposed, Bool.false_eq_true, if_false]
  simp only [matchText, htext, hr, hdisposed, Bool.false_eq_true, if_false, hcontext, hvalues]

theorem matchText_of_disposed (h : c.isDisposed t = true) (text : String)
    (target : Option ElementId) :
    c.matchText t text target = (Clause.ofText text).map Option.isNone := by
  rw [matchText]
  cases Clause.ofText text with
  | error e => rfl
  | ok clause? =>
      cases clause? with
      | none => rfl
      | some clause =>
          dsimp only
          cases hr : c.region? t with
          | none => rfl
          | some r => exact if_pos ((isDisposed_of_region? hr).symm.trans h)

theorem matchRules_of_disposed (h : c.isDisposed t = true) (rules : Option Clause) :
    c.matchRules t rules = false := by
  rw [matchRules]
  cases hr : c.region? t with
  | none => rfl
  | some r => exact if_pos ((isDisposed_of_region? hr).symm.trans h)

theorem exists_clause_of_answers_ne (hlives : d.isDisposed t = c.isDisposed t)
    (hfocus : c.focused? t = none) (hfocusd : d.focused? t = none)
    (h : c.matchText t text none ≠ d.matchText t text none) :
    ∃ clause, Clause.ofText text = .ok (some clause) ∧
      clause.evaluate (c.get? t) ≠ clause.evaluate (d.get? t) := by
  cases ht : c.isDisposed t with
  | true =>
      rw [matchText_of_disposed ht, matchText_of_disposed (hlives.trans ht)] at h
      exact absurd rfl h
  | false =>
      cases htext : Clause.ofText text with
      | error e =>
          rw [matchText, matchText, htext] at h
          exact absurd rfl h
      | ok clause? =>
          cases clause? with
          | none =>
              rw [matchText, matchText, htext] at h
              exact absurd rfl h
          | some clause =>
              rw [matchText_eq ht hfocus htext, matchText_eq (hlives.trans ht) hfocusd htext] at h
              exact ⟨clause, rfl, fun heq => h (congrArg Except.ok heq)⟩

/-! ### Hearing of a change -/

theorem Upright.fire_fst (hc : c.Upright) (hlinked : c.Linked) (id : RegionId)
    (keys : List String) : (c.fire id keys).1 = c := by
  rw [fire_eq hc.grown hlinked.toAreIdle]

theorem Upright.written_heard (hc : c.Upright) (hlinked : c.Linked)
    (hop : op.Writes id written f) (hr : c.region? id = some r) (ha : c.arena? r.tree = some a)
    (hheld : c.isHeld t = true) (honly : c.ListensOnlyAt name t)
    (hchange : c.get? t key ≠ (c.withArena r.tree (a.withValues r.context f)).get? t key) :
    key = written ∧
      ((c.withArena r.tree (a.withValues r.context f)).fire id [written]).2.filter
          (Notice.isTo name) =
        List.replicate (c.subscriptions t name) (.context name [written]) := by
  have hd := hc.withValues ha hop.sorted r.context
  have htouches := touches_withValues ha f
  obtain ⟨-, ⟨n, hclimb⟩, hreply, -⟩ := htouches.changed_below hc hd hr ha hchange
  have hheld' := isHeld_of_agree hc.acyclic hd.acyclic rfl (fun _ _ => rfl) hclimb hheld
  refine ⟨hop.eq_of_reply_ne hreply, ?_⟩
  exact fire_told hd.grown (hlinked.withArena r.tree _) hd.acyclic honly hheld' hclimb
    (List.cons_ne_nil _ _)

theorem Upright.moved_heard {ra : Region} (hc : c.Upright) (hlinked : c.Linked)
    (hbelow : ∀ n, ¬ Climbs c.parentOf above n id) (hr : c.region? id = some r)
    (hra : c.region? above = some ra) (htree : r.tree = ra.tree) (ha : c.arena? r.tree = some a)
    (hb : a.updateParent r.context ra.context = .ok b) (hheld : c.isHeld t = true)
    (honly : c.ListensOnlyAt name t)
    (hchange : c.get? t key ≠
      (((c.withArena r.tree b).withParent id above).listenTo id above).get? t key)
    (hdiffers : (c.get? t key ==
      (((c.withArena r.tree b).withParent id above).listenTo id above).get? t key) = false) :
    key ∈ differences (a.collect r.context) (b.collect r.context) ∧
      ((((c.withArena r.tree b).withParent id above).listenTo id above).fire id
          (differences (a.collect r.context) (b.collect r.context))).2.filter (Notice.isTo name) =
        List.replicate (c.subscriptions t name)
          (.context name (differences (a.collect r.context) (b.collect r.context))) := by
  have hd := hc.moved hr hra htree ha hb hbelow
  have htouches := touches_moved ha hb id above
  obtain ⟨hkey, ⟨n, hclimb⟩, -, f, g, hf, hg, hbefore, hafter⟩ :=
    htouches.changed_below hc hd hr ha hchange
  have hmoved : b.IsForest := hd.forests r.tree b ((htouches.arena? _).trans (if_pos rfl))
  have hplain := hc.founded.plain ha
  rw [← hbefore, ← hafter] at hdiffers
  have hmem := mem_differences_of_looks hplain (hc.forests _ a ha) (hplain.updateParent hb) hmoved
    hkey hf hg hdiffers
  refine ⟨hmem, ?_⟩
  exact moved_told hlinked hc.acyclic hr rfl hd.grown
    ((hlinked.withArena r.tree b).relocated hr hra) hd.acyclic hheld honly hclimb
    (List.ne_nil_of_mem hmem)

/-- Where a value is stored or taken away, or a region put below another one, and some region
answers a clause otherwise than before, its observers are told of a key of the clause. Only of a
move they may hear nothing, if the clause looks for a pattern in a value for which it sees an equal
one with another text. -/
theorem Upright.answer_told (hc : c.Upright) (hlinked : c.Linked) (hstep : Step c op s)
    (hop : c.Permits (.operate op)) (hannounces : op.Announces) (hfocus : c.focused? t = none)
    (hheld : c.isHeld t = true) (honly : c.ListensOnlyAt name t)
    (hanswer : c.matchText t text none ≠ s.1.matchText t text none) :
    ∃ clause, Clause.ofText text = .ok (some clause) ∧
      (c.TellsSome s.2 t name clause.keys ∨ (∃ id above, op = .updateParent id above) ∧
        ∃ k ∈ clause.searches, PassesUnseen (c.get? t k) (s.1.get? t k)) := by
  cases hstep with
  | refused => exact absurd rfl hanswer
  | @moved id above s h =>
      have hbelow := hop ⟨_, h⟩
      obtain ⟨r, ra, a, b, hr, hra, -, -, htree, ha, hb, rfl⟩ := updateParent_ok h
      have hd := hc.moved hr hra htree ha hb hbelow
      have htouches := touches_moved ha hb id above
      rw [hd.fire_fst ((hlinked.withArena r.tree b).relocated hr hra)] at hanswer ⊢
      obtain ⟨clause, htext, hne⟩ := exists_clause_of_answers_ne (htouches.isDisposed t) hfocus
        ((htouches.focused? t).trans hfocus) hanswer
      refine ⟨clause, htext, ?_⟩
      rcases Clause.exists_of_evaluate_ne hne with ⟨k, hk, hchange, hdiffers⟩ | hunseen
      · have hheard := hc.moved_heard hlinked hbelow hr hra htree ha hb hheld honly hchange hdiffers
        exact .inl ⟨_, ⟨k, hheard.1, hk⟩, hheard.2⟩
      · exact .inr ⟨⟨id, above, rfl⟩, hunseen⟩
  | @written op id written f r a hwrites hr _ ha =>
      have hd := hc.withValues ha hwrites.sorted r.context
      have htouches := touches_withValues ha f
      rw [hd.fire_fst (hlinked.withArena r.tree _)] at hanswer ⊢
      obtain ⟨clause, htext, hne⟩ := exists_clause_of_answers_ne (htouches.isDisposed t) hfocus
        ((htouches.focused? t).trans hfocus) hanswer
      -- a value that was written is told of even if another one like it was seen before
      obtain ⟨k, hk, hchange⟩ : ∃ k ∈ clause.keys, c.get? t k ≠
          (c.withArena r.tree (a.withValues r.context f)).get? t k := by
        by_contra hnone
        push Not at hnone
        apply hne
        apply Clause.evaluate_eq_of_mentions
        intro k hk
        exact hnone k (clause.mem_keys.mpr hk)
      obtain ⟨rfl, htold⟩ := hc.written_heard hlinked hwrites hr ha hheld honly hchange
      exact ⟨clause, htext, .inl ⟨_, ⟨k, .head _, hk⟩, htold⟩⟩
  | newRoot | child | gone | entered | ended | observed | held => exact hannounces.elim

/-! ### The keys of a clause -/

/-- A clause reads no key that is not among its keys, and contexts that see alike values of those
answer it alike, if it finds the same texts where it looks for patterns. Hence whatever was done
before: if storing or taking away a value, or putting a region below another one, changes the
answer of a region, its observers are told of a key of the clause. A move that brings an equal
value with another text, which of numbers only the two zeros have, may pass unheard. -/
theorem answers_by_keys :
    (∀ (clause : Clause) (value value' : String → Option Json),
      (∀ k ∈ clause.lookups value, k ∈ clause.keys) ∧
      ((∀ k ∈ clause.keys, Clause.Alike (value k) (value' k)) →
        (∀ k ∈ clause.searches, Clause.searchedText (value k) = Clause.searchedText (value' k)) →
          clause.evaluate value = clause.evaluate value')) ∧
    ∀ {c : Contexts} {t : RegionId} {op : Operation} {name text : String}, c.Tended →
      (∀ x, (c.changesOf x).depth = 0) → c.Permits (.operate op) → op.Announces →
      c.focused? t = none → c.isHeld t = true → c.ListensOnlyAt name t →
      c.matchText t text none ≠ (c.apply op).1.matchText t text none →
      ∃ clause, Clause.ofText text = .ok (some clause) ∧
        (c.TellsSome (c.apply op).2 t name clause.keys ∨
          (∃ id above, op = .updateParent id above) ∧
            ∃ k ∈ clause.searches, PassesUnseen (c.get? t k) ((c.apply op).1.get? t k)) := by
  refine ⟨fun clause value value' => ⟨fun k hk => ?_, Clause.evaluate_eq_of_keys clause⟩, ?_⟩
  · exact clause.mem_keys.mpr (Clause.mem_mentions_of_mem_lookups clause hk)
  · intro c t op name text hc hidle hop hannounces hfocus hheld honly hanswer
    have hup := hc.upright
    exact hup.answer_told (linked_of_calm hup.linked hidle) (hup.grown.step op) hop hannounces
      hfocus hheld honly hanswer

/-- A region below the first of two others, of which each has one of the two zeros. -/
def betweenZeros : Contexts := (start {} {}).accessed [.operate (.newRoot false),
  .operate (.createScoped 0 0), .operate (.createScoped 0 1), .operate (.createScoped 1 2),
  .operate (.set 1 "x" (.num (.float (.finite false 0 0)))),
  .operate (.set 2 "x" (.num (.float (.finite true 0 0)))), .operate (.observe 3 "low"),
  .operate (.hold [3])]

theorem tended_betweenZeros : betweenZeros.Tended := by
  simp only [betweenZeros, accessed, List.foldl_cons, List.foldl_nil]
  refine .step (.step (.step (.step (.step (.step (.step (.step (.start {} {}) ?_) ?_) ?_) ?_) ?_)
    ?_) ?_) ?_
  · exact rfl
  all_goals exact trivial

theorem idle_betweenZeros (x : RegionId) : (betweenZeros.changesOf x).depth = 0 := by
  match x with
  | 0 | 1 | 2 | 3 | _ + 4 => rfl

theorem listensOnlyAt_betweenZeros : betweenZeros.ListensOnlyAt "low" 3 := by
  intro p hp
  match p with
  | 0 | 1 | 2 | _ + 4 => rfl
  | 3 => exact absurd rfl hp

/-- For the negative zero below the second one the region hears nothing. -/
theorem negative_zero_unheard :
    let op := Operation.updateParent 3 2
    betweenZeros.Tended ∧ (∀ x, (betweenZeros.changesOf x).depth = 0) ∧
      betweenZeros.Permits (.operate op) ∧ betweenZeros.focused? 3 = none ∧
      betweenZeros.isHeld 3 = true ∧ betweenZeros.ListensOnlyAt "low" 3 ∧
      betweenZeros.subscriptions 3 "low" = 1 ∧
      betweenZeros.matchText 3 "x =~ /-/" none = .ok false ∧
      (betweenZeros.apply op).1.matchText 3 "x =~ /-/" none = .ok true ∧
      (betweenZeros.apply op).2 = [] := by
  have hlex : Clause.lex "x =~ /-/".toList =
      .ok [(0, .word ['x']), (2, .tilde), (5, .regex ['-'] [])] := by decide +kernel
  have htext : Clause.ofText "x =~ /-/" = .ok (some (.matching "x" "-" "")) := by
    rw [Clause.ofText, hlex]
    rfl
  have htop : ∀ x, betweenZeros.parentOf x ≠ some 3
    | 0 | 1 | 2 | 3 | _ + 4 => nofun
  have hbelow : ∀ n, ¬ Climbs betweenZeros.parentOf 2 n 3 := by
    intro n h
    cases h with
    | up _ hp => exact htop _ hp
  refine ⟨tended_betweenZeros, idle_betweenZeros, fun _ => hbelow, rfl, rfl,
    listensOnlyAt_betweenZeros, rfl, ?_, ?_, ?_⟩
  · rw [matchText, htext]
    exact congrArg Except.ok (by decide)
  · rw [matchText, htext]
    decide +kernel
  · decide +kernel

theorem answers_by_keys_truth :
    let op := Operation.set 1 "x" (.bool true)
    betweenZeros.matchText 3 "x" none = .ok false ∧
      (betweenZeros.apply op).1.matchText 3 "x" none = .ok true ∧
      betweenZeros.TellsSome (betweenZeros.apply op).2 3 "low" ["x"] := by
  intro op
  have hlex : Clause.lex "x".toList = .ok [(0, .word ['x'])] := by decide +kernel
  have htext : Clause.ofText "x" = .ok (some (.defined "x")) := by
    rw [Clause.ofText, hlex]
    rfl
  have hbefore : betweenZeros.matchText 3 "x" none = .ok false := by
    rw [matchText, htext]
    decide +kernel
  have hafter : (betweenZeros.apply op).1.matchText 3 "x" none = .ok true := by
    rw [matchText, htext]
    decide +kernel
  have hanswer : betweenZeros.matchText 3 "x" none ≠
      (betweenZeros.apply op).1.matchText 3 "x" none := by
    rw [hbefore, hafter]
    exact nofun
  refine ⟨hbefore, hafter, ?_⟩
  obtain ⟨clause, hclause, htold | ⟨⟨_, _, hmove⟩, -⟩⟩ := answers_by_keys.2 tended_betweenZeros
    idle_betweenZeros (show betweenZeros.Permits (.operate op) from trivial) trivial rfl rfl
    listensOnlyAt_betweenZeros hanswer
  · rw [htext] at hclause
    cases hclause
    exact htold
  · exact Operation.noConfusion hmove
end Shortcuts.Contexts
