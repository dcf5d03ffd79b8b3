import Shortcuts.Proofs.Context.Elements
import Shortcuts.Proofs.Context.Growth

/-!
Elements and the scopes around them. A scoped region names its context on an element for as long
as it lives. Where no name is written over another one, the nearest name outwards from an element
is that of the region anchored there, so what is asked at an element is asked of that region.
-/

namespace Shortcuts

/-- Where a scoped region is anchored, and the context that it stands for. -/
structure Anchor where
  element : ElementId
  tree : Nat
  context : ContextId

/-- A region that has ended is anchored nowhere. -/
def Region.anchor? (r : Region) : Option Anchor :=
  if r.disposed then none else r.target.map fun e => ⟨e, r.tree, r.context⟩

namespace Contexts

open Elements (contextAttribute)

def anchor? (c : Contexts) (id : RegionId) : Option Anchor := (c.region? id).bind Region.anchor?

variable {c d : Contexts} {id above : RegionId} {r : Region} {a : Arena} {e : ElementId}
  {p q : Anchor} {o : Option RegionId} {path : List ElementId}

theorem anchor?_eq_some_iff : c.anchor? id = some p ↔ ∃ r, c.region? id = some r ∧
    r.disposed = false ∧ r.target = some p.element ∧ r.tree = p.tree ∧ r.context = p.context := by
  obtain ⟨e, t, x⟩ := p
  rw [anchor?, Option.bind_eq_some_iff]
  refine exists_congr fun r => and_congr_right fun _ => ?_
  rw [Region.anchor?]
  cases r.disposed <;> cases r.target <;> simp

theorem site?_of_anchor? (h : c.anchor? id = some p) : c.site? id = some (p.tree, p.context) := by
  obtain ⟨r, hr, -, -, htree, hcontext⟩ := anchor?_eq_some_iff.mp h
  rw [site?_of_region? hr, htree, hcontext]

theorem anchor?_withEnd (c : Contexts) (id x : RegionId) :
    (c.withEnd id).anchor? x = if x = id then none else c.anchor? x := by
  rw [anchor?, withEnd, region?_withRegion]
  split
  · cases c.region? x <;> rfl
  · rfl

theorem anchor?_withNew (c : Contexts) (elements : Elements) (r : Region) (x : RegionId) :
    (c.withNew elements r).anchor? x = if x = c.regions.length then r.anchor? else c.anchor? x := by
  rw [anchor?, region?_withNew]
  split <;> rfl

/-! ### What is left alone -/

/-- The elements are the same, and the same regions are anchored there. -/
structure SameAnchors (c d : Contexts) : Prop where
  elements : d.elements = c.elements
  anchor? : ∀ x, d.anchor? x = c.anchor? x

namespace SameAnchors

theorem refl (c : Contexts) : SameAnchors c c := ⟨rfl, fun _ => rfl⟩

theorem withRegion (h : SameAnchors c d) (id : RegionId) {f : Region → Region}
    (hf : ∀ r, (f r).anchor? = r.anchor?) : SameAnchors c (d.withRegion id f) where
  elements := h.elements
  anchor? x := by
    rw [← h.anchor?, Contexts.anchor?, region?_withRegion, Contexts.anchor?]
    split
    · rw [Option.bind_map]
      exact congrArg (Option.bind _) (funext hf)
    · rfl

theorem withArena (h : SameAnchors c d) (t : Nat) (a : Arena) :
    SameAnchors c (d.withArena t a) := ⟨h.elements, h.anchor?⟩

theorem retune (h : SameAnchors c d) (id : RegionId) {f : Region → Region} (hf : Retunes f) :
    SameAnchors c (d.withRegion id f) := by
  apply h.withRegion
  intro r
  obtain ⟨changes, feed, heq⟩ := hf r
  rw [heq]
  rfl

theorem forget (h : SameAnchors c d) (feed : Option (RegionId × Nat)) :
    SameAnchors c (d.forget feed) := forget_induction (fun _ id _ hf hd => hd.retune id hf) h feed

theorem listenTo (h : SameAnchors c d) (id above : RegionId) :
    SameAnchors c (d.listenTo id above) :=
  listenTo_induction (fun _ id _ hf hd => hd.retune id hf) h id above

theorem fire (h : SameAnchors c d) (id : RegionId) (keys : List String) :
    SameAnchors c (d.fire id keys).1 :=
  fire_induction (fun _ id _ hd => hd.withRegion id fun _ => rfl) h id keys

theorem observe (h : SameAnchors c d) (id : RegionId) (name : String) :
    SameAnchors c (d.observe id name).1 :=
  observe_induction (fun _ id _ hf hd => hd.retune id hf) h id name

theorem newRoot (hc : c.Grown) (backed : Bool) : SameAnchors c (c.newRoot backed).1 := by
  obtain ⟨watchers, heq⟩ := newRoot_eq c backed
  rw [heq]
  refine ⟨rfl, fun x => ?_⟩
  rw [anchor?_withNew]
  split
  · next hx =>
      rw [hx, Contexts.anchor?, region?]
      exact (congrArg (Option.bind · Region.anchor?) hc.regions.lookup_length).symm
  · rfl

end SameAnchors

/-- Operations that may anchor a region, or end one. -/
def Operation.IsToAnchor : Operation → Prop
  | .createScoped _ _ => True
  | .dispose _ => True
  | _ => False

theorem sameAnchors_of_step {op : Operation} {s : Contexts × List Notice} (hc : c.Grown)
    (h : Step c op s) (hop : ¬ op.IsToAnchor) : SameAnchors c s.1 := by
  have hsame := SameAnchors.refl c
  cases h with
  | entered | ended => exact absurd trivial hop
  | refused => exact hsame
  | newRoot backed => exact .newRoot hc backed
  | child | gone => exact hsame.withArena _ _
  | moved h =>
      obtain ⟨r, ra, a, b, -, -, -, -, -, -, -, rfl⟩ := updateParent_ok h
      exact (((hsame.withArena _ b).withRegion _ fun _ => by rfl).listenTo _ _).fire _ _
  | written => exact (hsame.withArena _ _).fire _ _
  | observed id name => exact hsame.observe id name
  | held => exact ⟨rfl, fun _ => rfl⟩

/-! ### What is changed -/

theorem elements_createScoped {below : RegionId} (h : c.createScoped id e = .ok (d, below))
    (hr : c.region? id = some r) (ha : c.arena? r.tree = some a) :
    d.elements = c.elements.setAttribute e contextAttribute
      (toString (a.createChild r.context).2) := by
  rw [createScoped] at h
  split at h
  · cases h
  · next hchild =>
      obtain ⟨r', a', hr', -, ha', rfl, rfl⟩ := createChild_ok hchild
      rw [hr] at hr'
      cases hr'
      rw [ha] at ha'
      cases ha'
      cases h
      exact ((SameAnchors.refl _).listenTo _ _).elements

theorem anchor?_createScoped {below : RegionId} (h : c.createScoped id e = .ok (d, below))
    (hr : c.region? id = some r) (ha : c.arena? r.tree = some a) (x : RegionId) :
    d.anchor? x = if x = c.regions.length then
      some ⟨e, r.tree, (a.createChild r.context).2⟩ else c.anchor? x := by
  obtain ⟨r', a', elements, hr', -, ha', rfl, rfl⟩ := createScoped_ok h
  rw [hr] at hr'
  cases hr'
  rw [ha] at ha'
  cases ha'
  rw [((SameAnchors.refl _).listenTo _ _).anchor?, anchor?_withNew]
  rfl

theorem elements_dispose (c : Contexts) (id : RegionId) : (c.dispose id).elements =
    (c.anchor? id).elim c.elements fun p =>
      c.elements.removeAttribute p.element contextAttribute := by
  rw [dispose, anchor?]
  cases c.region? id with
  | none => rfl
  | some r =>
      obtain ⟨tree, context, parent, target, changes, feed, disposed⟩ := r
      cases disposed with
      | true => rfl
      | false =>
          dsimp only
          rw [if_neg Bool.false_ne_true]
          cases target <;> cases feed <;> (dsimp only; split <;> rfl)

theorem anchor?_of_disposed (h : c.isDisposed id = true) : c.anchor? id = none := by
  rw [Option.eq_none_iff_forall_ne_some]
  intro p hp
  obtain ⟨r, hr, hlives, -⟩ := anchor?_eq_some_iff.mp hp
  rw [isDisposed_of_region? hr, hlives] at h
  cases h

theorem anchor?_dispose (hc : c.Grown) (id x : RegionId) :
    (c.dispose id).anchor? x = if x = id then none else c.anchor? x := by
  cases hdisposed : c.isDisposed id with
  | true =>
      rw [dispose_of_disposed hdisposed]
      split
      · next hx => rw [hx, anchor?_of_disposed hdisposed]
      · rfl
  | false =>
      obtain ⟨r, hr, hlives⟩ := exists_region_of_lives hdisposed
      obtain ⟨a, ha, -⟩ := hc.placed (site?_of_region? hr)
      obtain ⟨watchers, elements, heq⟩ := dispose_eq hr hlives ha
      rw [heq, anchor?_withEnd]
      exact congrArg (ite _ none) (((SameAnchors.refl c).forget r.feed).anchor? x)

/-! ### Names and regions -/

/-- Of the anchored regions no two have the same of something. -/
def AreApart {α : Type} (c : Contexts) (f : Anchor → α) : Prop :=
  ∀ id id' p q, c.anchor? id = some p → c.anchor? id' = some q → f p = f q → id = id'

theorem AreApart.entered {α : Type} {f : Anchor → α} {n : RegionId} (hc : c.AreApart f)
    (hanchor : ∀ x, d.anchor? x = if x = n then some p else c.anchor? x)
    (hfresh : ∀ x q, c.anchor? x = some q → f q ≠ f p) : d.AreApart f := by
  intro x y q q' hq hq' heq
  rw [hanchor] at hq hq'
  split at hq <;> split at hq'
  · next hx hy => exact hx.trans hy.symm
  · cases hq
    exact absurd heq.symm (hfresh y q' hq')
  · cases hq'
    exact absurd heq (hfresh x q hq)
  · exact hc x y q q' hq hq' heq

theorem AreApart.mono {α : Type} {f : Anchor → α} (hc : c.AreApart f)
    (h : ∀ x q, d.anchor? x = some q → c.anchor? x = some q) : d.AreApart f :=
  fun x y p q hp hq => hc x y p q (h x p hp) (h y q hq)

/-- The names on the elements are those of the contexts of the regions that are anchored there. No
two regions are anchored at one element or share a context. -/
structure Anchored (c : Contexts) : Prop where
  grown : c.Grown
  named : ∀ {id p}, c.anchor? id = some p →
    c.elements.attribute? p.element contextAttribute = some (toString p.context)
  owned : ∀ {e name}, c.elements.attribute? e contextAttribute = some name →
    ∃ id p, c.anchor? id = some p ∧ p.element = e
  alone : c.AreApart Anchor.element
  distinct : c.AreApart fun p => (p.tree, p.context)

namespace Anchored

theorem congr (hc : c.Anchored) (hd : d.Grown) (h : SameAnchors c d) : d.Anchored where
  grown := hd
  named hp := by
    rw [h.anchor?] at hp
    rw [h.elements]
    exact hc.named hp
  owned hname := by
    rw [h.elements] at hname
    obtain ⟨id, p, hp, he⟩ := hc.owned hname
    exact ⟨id, p, (h.anchor? id).trans hp, he⟩
  alone := hc.alone.mono fun x _ hp => (h.anchor? x).symm.trans hp
  distinct := hc.distinct.mono fun x _ hp => (h.anchor? x).symm.trans hp

theorem context_le (hc : c.Anchored) (hp : c.anchor? id = some p) (ha : c.arena? p.tree = some a) :
    p.context ≤ a.lastId := by
  obtain ⟨r, hr, -, -, htree, hcontext⟩ := anchor?_eq_some_iff.mp hp
  rw [← htree] at ha
  exact hcontext ▸ hc.grown.context_le hr ha

theorem unnamed_iff (hc : c.Anchored) : c.elements.attribute? e contextAttribute = none ↔
    ∀ id p, c.anchor? id = some p → p.element ≠ e := by
  constructor
  · rintro h id p hp rfl
    rw [hc.named hp] at h
    cases h
  · intro h
    rw [Option.eq_none_iff_forall_ne_some]
    intro name hname
    obtain ⟨id, p, hp, he⟩ := hc.owned hname
    exact h id p hp he

theorem entered {below : RegionId} (hc : c.Anchored) (he : c.elements.IsBare e)
    (h : c.createScoped id e = .ok (d, below)) : d.Anchored := by
  obtain ⟨r, a, -, hr, -, ha, -, -⟩ := createScoped_ok h
  have hanchor := anchor?_createScoped h hr ha
  have hothers := hc.unnamed_iff.mp he.unnamed
  have hname := Elements.attribute?_setAttribute he.isThere contextAttribute
    (toString (a.createChild r.context).2)
  rw [← elements_createScoped h hr ha] at hname
  refine ⟨hc.grown.createScoped h, ?named, ?owned, hc.alone.entered hanchor hothers,
    hc.distinct.entered hanchor ?fresh⟩
  case named =>
    intro x p hp
    rw [hanchor] at hp
    rw [hname]
    split at hp
    · cases hp
      exact if_pos rfl
    · rw [if_neg (hothers x p hp)]
      exact hc.named hp
  case owned =>
    intro x name hx
    rw [hname] at hx
    split at hx
    · next hxe => exact ⟨c.regions.length, _, (hanchor _).trans (if_pos rfl), hxe.symm⟩
    · obtain ⟨y, p, hp, hpx⟩ := hc.owned hx
      obtain ⟨ry, hry, -⟩ := anchor?_eq_some_iff.mp hp
      have hy := Nat.ne_of_lt (hc.grown.regions.lt hry)
      exact ⟨y, p, (hanchor y).trans ((if_neg hy).trans hp), hpx⟩
  case fresh =>
    -- numbers of contexts go up, and no region of the tree has one beyond the last
    intro x p hp heq
    have htree : p.tree = r.tree := (Prod.mk.inj heq).1
    have hcontext : p.context = a.lastId + 1 := (Prod.mk.inj heq).2
    have hle := hc.context_le hp (htree ▸ ha)
    rw [hcontext] at hle
    exact Nat.not_succ_le_self a.lastId hle

theorem ended (hc : c.Anchored) (id : RegionId) : (c.dispose id).Anchored := by
  have hgrown := hc.grown.of_step (hc.grown.step_dispose id)
  have hanchor := anchor?_dispose hc.grown id
  have helements := elements_dispose c id
  cases hp : c.anchor? id with
  | none =>
      rw [hp] at helements
      refine hc.congr hgrown ⟨helements, fun x => ?_⟩
      rw [hanchor]
      split
      · next hx => rw [hx, hp]
      · rfl
  | some p =>
      rw [hp, Option.elim_some] at helements
      have hname := Elements.attribute?_removeAttribute c.elements p.element contextAttribute
      rw [← helements] at hname
      have hsub : ∀ x q, (c.dispose id).anchor? x = some q → x ≠ id ∧ c.anchor? x = some q := by
        intro x q hq
        rw [hanchor] at hq
        split at hq
        · cases hq
        · next hx => exact ⟨hx, hq⟩
      refine ⟨hgrown, fun {x q} hq => ?_, fun {e name} he => ?_,
        hc.alone.mono fun x q hq => (hsub x q hq).2, hc.distinct.mono fun x q hq => (hsub x q hq).2⟩
      · -- the region that ended was alone on its element
        obtain ⟨hx, hq⟩ := hsub x q hq
        rw [hname, if_neg fun heq => hx (hc.alone _ _ _ _ hq hp heq)]
        exact hc.named hq
      · rw [hname] at he
        split at he
        · cases he
        · next hne =>
            obtain ⟨x, q, hq, hqe⟩ := hc.owned he
            refine ⟨x, q, (hanchor x).trans ((if_neg ?_).trans hq), hqe⟩
            rintro rfl
            rw [hp] at hq
            cases hq
            exact hne hqe.symm

end Anchored

/-! ### What is done to the contexts -/

/-- A region is not put on an element that is named already. -/
def Spares (c : Contexts) : Operation → Prop
  | .createScoped _ e => c.elements.IsBare e
  | _ => True

/-- Contexts as they come about while no name is written over another one. -/
inductive Scoped : Contexts → Prop
  | start (settings : Settings) (elements : Elements)
      (h : ∀ e, elements.attribute? e contextAttribute = none) : Scoped (start settings elements)
  | step {c : Contexts} {op : Operation} (hc : Scoped c) (hop : c.Spares op) :
      Scoped (c.apply op).1

theorem Anchored.step {op : Operation} (hc : c.Anchored) (hop : c.Spares op) :
    (c.apply op).1.Anchored := by
  have hstep := hc.grown.step op
  by_cases hanchor : op.IsToAnchor
  · cases op with
    | createScoped id e =>
        rw [apply]
        split
        · next s hs => exact hc.entered hop hs
        · exact hc
    | dispose id => exact hc.ended id
    | _ => exact hanchor.elim
  · exact hc.congr (hc.grown.of_step hstep) (sameAnchors_of_step hc.grown hstep hanchor)

theorem Scoped.anchored (hc : c.Scoped) : c.Anchored := by
  induction hc with
  | start settings elements h =>
      refine ⟨grown_start settings elements, nofun, fun {e name} he => ?_, nofun, nofun⟩
      cases (h e).symm.trans he
  | step _ hop ih => exact ih.step hop

/-! ### The nearest scope -/

/-- The first region that is anchored on a way outwards. -/
inductive Nearest (c : Contexts) : List ElementId → Option RegionId → Prop
  | root : Nearest c [] none
  | here {id : RegionId} {p : Anchor} {path : List ElementId} (h : c.anchor? id = some p) :
      Nearest c (p.element :: path) (some id)
  | further {e : ElementId} {path : List ElementId} {o : Option RegionId}
      (h : ∀ id p, c.anchor? id = some p → p.element ≠ e) (ho : Nearest c path o) :
      Nearest c (e :: path) o

theorem exists_nearest (c : Contexts) (path : List ElementId) : ∃ o, c.Nearest path o := by
  induction path with
  | nil => exact ⟨none, .root⟩
  | cons e path ih =>
      obtain ⟨o, ho⟩ := ih
      by_cases h : ∃ id p, c.anchor? id = some p ∧ p.element = e
      · obtain ⟨id, p, hp, rfl⟩ := h
        exact ⟨some id, .here hp⟩
      · exact ⟨o, .further (fun id p hp he => h ⟨id, p, hp, he⟩) ho⟩

/-- The context of a region, the root where there is none. -/
def scopeContext (c : Contexts) (o : Option RegionId) : ContextId :=
  (o.bind c.region?).elim Arena.root Region.context

theorem scopeContext_of_anchor? (h : c.anchor? id = some p) :
    c.scopeContext (some id) = p.context := by
  obtain ⟨r, hr, -, -, -, hcontext⟩ := anchor?_eq_some_iff.mp h
  rw [scopeContext, Option.bind_some, hr]
  exact hcontext

namespace Nearest

theorem unique {o' : Option RegionId} (h : c.Nearest path o) (hc : c.Anchored)
    (h' : c.Nearest path o') : o' = o := by
  induction h with
  | root => cases h'; rfl
  | here hp =>
      generalize hpath : _ :: _ = path at h'
      cases h' with
      | root => cases hpath
      | here hq =>
          obtain ⟨heq, -⟩ := List.cons.inj hpath
          exact congrArg some (hc.alone _ _ _ _ hq hp heq.symm)
      | further hnone =>
          obtain ⟨heq, -⟩ := List.cons.inj hpath
          exact absurd heq (hnone _ _ hp)
  | further hnone ho ih =>
      cases h' with
      | here hq => exact absurd rfl (hnone _ _ hq)
      | further _ ho' => exact ih ho'

theorem name (h : c.Nearest path o) (hc : c.Anchored) :
    path.findSome? (c.elements.attribute? · contextAttribute) =
      (o.bind c.anchor?).map fun p => toString p.context := by
  induction h with
  | root => rfl
  | here hp =>
      rw [List.findSome?_cons, hc.named hp, Option.bind_some, hp]
      rfl
  | further hnone _ ih =>
      rw [List.findSome?_cons, hc.unnamed_iff.mpr hnone]
      exact ih

theorem anchored {scope : RegionId} (h : c.Nearest path (some scope)) :
    ∃ p ∈ c.anchor? scope, p.element ∈ path := by
  generalize ho : some scope = o at h
  induction h with
  | root => cases ho
  | here hp =>
      cases ho
      exact ⟨_, hp, .head _⟩
  | further _ _ ih =>
      obtain ⟨p, hp, he⟩ := ih ho
      exact ⟨p, hp, .tail _ he⟩

theorem contextOf (h : c.Nearest (c.elements.path e) o) (hc : c.Anchored)
    (hfits : ∀ t a, c.arena? t = some a → a.lastId < 2 ^ 32) :
    c.elements.contextOf (some e) = some (c.scopeContext o) := by
  rw [Elements.contextOf_some, h.name hc]
  cases o with
  | none => rfl
  | some scope =>
      obtain ⟨p, hp, -⟩ := h.anchored
      obtain ⟨a, ha, hle⟩ := hc.grown.placed (site?_of_anchor? hp)
      rw [Option.bind_some, hp, scopeContext_of_anchor? hp, Option.map_some, Option.elim_some]
      exact Arena.idOfText?_toString (Nat.lt_of_le_of_lt hle (hfits _ a ha))

end Nearest

/-! ### Questions at an element -/

theorem matchText_of_contextOf {x : ContextId} (hr : c.region? id = some r)
    (hlives : r.disposed = false) (h : c.elements.contextOf (some e) = some x) (text : String) :
    c.matchText id text (some e) = (Clause.ofText text).map fun clause? =>
      clause?.all fun clause => clause.evaluate (c.valuesAt r.tree (some x)) := by
  have hcontext : c.contextFor r (some e) = some x := h
  rw [matchText]
  cases Clause.ofText text with
  | error err => rfl
  | ok clause? =>
      cases clause? with
      | none => rfl
      | some clause =>
          simp only [hr, hlives, hcontext, Bool.false_eq_true, if_false]
          rfl

theorem matchRules_of_region? (hr : c.region? id = some r) (hlives : r.disposed = false) :
    c.matchRules id = fun clause? : Option Clause =>
      clause?.all fun clause => clause.evaluate (c.valuesAt r.tree (some r.context)) := by
  funext clause?
  simp only [matchRules, hr, hlives, Bool.false_eq_true, if_false]
  cases clause? <;> rfl

/-- The element belongs to the nearest scope `o`, and a clause is evaluated there. -/
structure BelongsTo (c : Contexts) (e : ElementId) (o : Option RegionId) : Prop where
  nearest : c.Nearest (c.elements.path e) o
  unique : ∀ o', c.Nearest (c.elements.path e) o' → o' = o
  contextOf : c.elements.contextOf (some e) = some (c.scopeContext o)
  asked : ∀ {id r} text, c.region? id = some r → r.disposed = false →
    c.matchText id text (some e) = (Clause.ofText text).map fun clause? =>
      clause?.all fun clause => clause.evaluate (c.valuesAt r.tree (some (c.scopeContext o)))
  /-- A live region with that context, in the tree of the one asked, gives the same answer. -/
  answered : ∀ {id scope r s} text, c.region? id = some r → r.disposed = false →
    c.region? scope = some s → s.disposed = false → s.tree = r.tree →
    s.context = c.scopeContext o →
    c.matchText id text (some e) = (Clause.ofText text).map (c.matchRules scope)

theorem Nearest.belongsTo (h : c.Nearest (c.elements.path e) o) (hc : c.Anchored)
    (hfits : ∀ t a, c.arena? t = some a → a.lastId < 2 ^ 32) : c.BelongsTo e o where
  nearest := h
  unique _ h' := h.unique hc h'
  contextOf := h.contextOf hc hfits
  asked text hr hlives := matchText_of_contextOf hr hlives (h.contextOf hc hfits) text
  answered text hr hlives hs hlive htree hcontext := by
    rw [matchText_of_contextOf hr hlives (h.contextOf hc hfits) text,
      matchRules_of_region? hs hlive, htree, hcontext]

theorem createScoped_of_disposed (h : c.isDisposed id = true) (e : ElementId) :
    c.createScoped id e = .error .disposed := by
  rw [createScoped, createChild]
  cases hr : c.region? id with
  | none => rfl
  | some r =>
      rw [isDisposed_of_region? hr] at h
      dsimp only
      rw [if_pos h]

theorem anchors_of_lives (hc : c.Grown) (hr : c.region? id = some r) (hlives : r.disposed = false)
    (e : ElementId) : ∃ d below p, c.createScoped id e = .ok (d, below) ∧
      d.anchor? below = some p ∧ p.element = e ∧ p.tree = r.tree := by
  obtain ⟨a, ha, -⟩ := hc.placed (site?_of_region? hr)
  obtain ⟨d, hd⟩ : ∃ d, c.createScoped id e = .ok (d, c.regions.length) := by
    simp only [createScoped, createChild, hr, hlives, ha]
    exact ⟨_, rfl⟩
  have hanchor := (anchor?_createScoped hd hr ha c.regions.length).trans (if_pos rfl)
  exact ⟨d, _, _, hd, hanchor, rfl, rfl⟩

/-- Where there is one tree all regions are in it. -/
theorem Grown.tree_eq {s : Region} {scope : RegionId} (hc : c.Grown) (hone : c.trees.length = 1)
    (hr : c.region? id = some r) (hs : c.region? scope = some s) : s.tree = r.tree := by
  have hfirst : ∀ {id r}, c.region? id = some r → r.tree = 0 := by
    intro id r hr
    obtain ⟨a, ha, -⟩ := hc.placed (site?_of_region? hr)
    obtain ⟨tree, htree, -⟩ := Option.map_eq_some_iff.mp ha
    have hlt := hc.trees.lt htree
    omega
  rw [hfirst hr, hfirst hs]

/-- However regions were created, moved and ended, with no name written over another one and no
more contexts than there are numbers of 32 bits, an element belongs to the nearest scope around
it, or to the root. Of the anchored regions no two are anchored at one element or share a context.
Below a live region one is created on any element, and one that has ended is anchored nowhere; below
that none is created, and no name is written. -/
theorem targets_belong_to_nearest_scope (hc : c.Scoped)
    (hfits : ∀ t a, c.arena? t = some a → a.lastId < 2 ^ 32) :
    (∀ e, ∃ o, c.BelongsTo e o) ∧
      c.AreApart Anchor.element ∧ c.AreApart (fun p => (p.tree, p.context)) ∧
      (c.trees.length = 1 → ∀ id scope r s, c.region? id = some r → c.region? scope = some s →
        s.tree = r.tree) ∧
      (∀ id e r, c.region? id = some r → r.disposed = false → ∃ d below p,
        c.createScoped id e = .ok (d, below) ∧ d.anchor? below = some p ∧ p.element = e ∧
          p.tree = r.tree) ∧
      (∀ id, (c.dispose id).anchor? id = none) ∧
      ∀ id e, c.isDisposed id = true → c.createScoped id e = .error .disposed ∧
        c.apply (.createScoped id e) = (c, []) := by
  have hanchored := hc.anchored
  refine ⟨fun e => ?_, hanchored.alone, hanchored.distinct,
    fun hone id scope r s => hanchored.grown.tree_eq hone,
    fun id e r hr hlives => anchors_of_lives hanchored.grown hr hlives e,
    fun id => (anchor?_dispose hanchored.grown id id).trans (if_pos rfl), fun id e hended => ?_⟩
  · obtain ⟨o, ho⟩ := c.exists_nearest (c.elements.path e)
    exact ⟨o, ho.belongsTo hanchored hfits⟩
  · have herror := createScoped_of_disposed hended e
    refine ⟨herror, ?_⟩
    rw [apply, herror]

/-- Three elements, each inside the one before. -/
def nested : Elements := ⟨[(0, {}), (1, { around := [0] }), (2, { around := [1, 0] })], 3⟩

/-- Regions on the outer two elements, of which the inner one has ended. -/
def nestedScopes : Contexts := (start {} nested).run
  [.newRoot false, .createScoped 0 0, .createScoped 1 1, .updateParent 2 0, .dispose 2]

theorem scoped_nestedScopes : nestedScopes.Scoped := by
  have hbare : ∀ e, nested.attribute? e contextAttribute = none
    | 0 | 1 | 2 | _ + 3 => rfl
  have hroot := (Scoped.start {} nested hbare).step (show Spares _ (.newRoot false) from trivial)
  have houter := hroot.step (show Spares _ (.createScoped 0 0) from ⟨rfl, rfl⟩)
  have hinner := houter.step (show Spares _ (.createScoped 1 1) from ⟨rfl, rfl⟩)
  have hmoved := hinner.step (show Spares _ (.updateParent 2 0) from trivial)
  exact hmoved.step (show Spares _ (.dispose 2) from trivial)

theorem targets_belong_nested :
    (∀ t a, nestedScopes.arena? t = some a → a.lastId < 2 ^ 32) ∧
      nestedScopes.BelongsTo 2 (some 1) ∧ nestedScopes.scopeContext (some 1) = 1 ∧
      nestedScopes.createScoped 2 2 = .error .disposed := by
  have hfits : ∀ t a, nestedScopes.arena? t = some a → a.lastId < 2 ^ 32
    | 0, _, rfl => by decide
    | _ + 1, _, h => nomatch h
  have houter : ∀ id p, nestedScopes.anchor? id = some p → p.element = 0
    | 1, _, rfl => rfl
    | 0, _, h | 2, _, h | _ + 3, _, h => nomatch h
  have hpath : nestedScopes.elements.path 2 = [2, 1, 0] := rfl
  have hnearest : nestedScopes.Nearest [2, 1, 0] (some 1) := by
    refine .further (fun id p hp => ?_) (.further (fun id p hp => ?_) (.here (p := ⟨0, 0, 1⟩) rfl))
    · rw [houter id p hp]
      decide
    · rw [houter id p hp]
      decide
  obtain ⟨hbelongs, -, -, -, -, -, hended⟩ := targets_belong_to_nearest_scope scoped_nestedScopes hfits
  obtain ⟨o, ho⟩ := hbelongs 2
  obtain rfl := ho.unique _ (hpath ▸ hnearest)
  exact ⟨hfits, ho, rfl, (hended 2 2 rfl).1⟩

end Contexts

end Shortcuts
