import Mathlib.Data.List.Nodup
import Shortcuts.Proofs.Chord.RoundTrip

/-!
The grammar of chord texts. A text is a chord when its pieces, in any order, are words of different
modifiers and one token of a key. The reader goes from left to right; where it refuses a text it
blames the first piece that does not go with those before it.
-/

namespace Shortcuts

namespace Text

theorem lowerChar_ne_nil (c : Char) : lowerChar c ≠ [] := by
  have hspecial : ∀ e ∈ lowerSpecial, e.2 ≠ [] := by decide +kernel
  rw [lowerChar]
  split
  · exact List.cons_ne_nil _ _
  · split
    · next cs hcs =>
        obtain ⟨e, e', he, -⟩ := List.lookup_eq_some_iff.mp hcs
        refine mt List.map_eq_nil_iff.mp (hspecial (c.toNat, cs) ?_)
        rw [he]
        exact List.mem_append_right _ (.head _)
    · exact List.cons_ne_nil _ _

theorem lower_eq_nil_iff {s : List Char} : lower s = [] ↔ s = [] := by
  cases s with
  | nil => exact iff_of_true rfl rfl
  | cons c s =>
      refine iff_of_false (fun h => ?_) (List.cons_ne_nil c s)
      rw [lower, lowerAfter, List.append_eq_nil_iff] at h
      have hfirst := h.1
      split at hfirst
      · cases hfirst
      · exact lowerChar_ne_nil c hfirst

end Text

namespace Chord

variable {p : Platform} {whole t : String} {c c' : Chord} {k : Key} {m : Modifier} {last : Bool}
  {ts before : List String} {piece s : List Char} {e : ChordError}

/-! ### Tokens -/

def token (piece : List Char) : String := String.ofList (Text.lower piece)

/-- The tokens between the `+` signs of a text. -/
def tokens (s : List Char) : List String := (pieces (Text.trim s)).map token

/-- The key of a token that is not the word of a modifier. -/
def key? (p : Platform) (t : String) : Option Key :=
  match Modifier.ofWord? p t with
  | some _ => none
  | none => Key.ofToken? t

theorem token_eq_empty_iff : token piece = "" ↔ piece = [] := by
  rw [token, ← Text.lower_eq_nil_iff]
  exact String.ofList_eq_empty_iff

theorem ofWord?_empty (p : Platform) : Modifier.ofWord? p "" = none := by
  simp [Modifier.ofWord?]

theorem key?_empty (p : Platform) : key? p "" = none := by
  rw [key?, ofWord?_empty]
  decide +kernel

theorem lower_token (piece : List Char) :
    Text.lower (token piece).toList = (token piece).toList := by
  rw [token, String.toList_ofList, Text.lower_lower]

/-- But for the keys that are modifiers, no two keys have one token. -/
theorem find?_token : ∀ k ∈ Key.all,
    Key.all.find? (·.token = k.token) = some k ∨ (Modifier.ofWord? .host k.token).isSome := by
  decide +kernel

theorem lookup_alias : ∀ e ∈ Key.aliases, Key.aliases.lookup e.1 = some e.2 := by
  decide

/-- A token stands for a key by the key's own name or by an alias of it. -/
theorem key?_token_iff : key? p (token piece) = some k ↔
    Modifier.ofWord? p (token piece) = none ∧ k ∈ Key.all ∧
      (k.token = token piece ∨ (token piece, k.token) ∈ Key.aliases) := by
  have hown (hk : k ∈ Key.all) (hword : Modifier.ofWord? p k.token = none) :
      Key.all.find? (·.token = k.token) = some k := by
    have := find?_token k hk
    rw [Modifier.ofWord?_eq_none .host hword] at this
    simpa using this
  rw [key?]
  cases hword : Modifier.ofWord? p (token piece) with
  | some m => simp
  | none =>
      rw [Key.ofToken?_of_lower (lower_token piece)]
      refine Iff.trans ?_ (and_iff_right rfl).symm
      constructor
      · intro h
        have htoken : k.token = (Key.aliases.lookup (token piece)).getD (token piece) := by
          simpa using List.find?_some h
        refine ⟨List.mem_of_find?_eq_some h, ?_⟩
        cases halias : Key.aliases.lookup (token piece) with
        | none => exact .inl (by rw [htoken, halias, Option.getD_none])
        | some v =>
            rw [halias, Option.getD_some] at htoken
            exact .inr (htoken ▸ Fields.mem_of_lookup halias)
      · rintro ⟨hk, htoken | halias⟩
        · rw [← htoken, Key.lookup_token k hk, Option.getD_none]
          exact hown hk (htoken ▸ hword)
        · rw [lookup_alias _ halias, Option.getD_some]
          exact hown hk (Modifier.ofWord?_eq_none p (Key.ofWord?_alias _ halias))

/-! ### What is spelled, and what is blamed -/

/-- The tokens are words of different modifiers and at most one token of a key, and these are what
the chord is made of. -/
structure Gathers (p : Platform) (ts : List String) (c : Chord) : Prop where
  known : ∀ t ∈ ts, (Modifier.ofWord? p t).isSome ∨ (key? p t).isSome
  different : (ts.filterMap (Modifier.ofWord? p)).Nodup
  held : ∀ m, c.holds m = true ↔ m ∈ ts.filterMap (Modifier.ofWord? p)
  key : ts.filterMap (key? p) = c.key.toList
  character : c.character = none

structure Spells (p : Platform) (ts : List String) (c : Chord) : Prop extends Gathers p ts c where
  hasKey : c.key.isSome

/-- A token does not go with those before it. -/
inductive Offends (p : Platform) (whole : String) (before : List String) (t : String)
    (last : Bool) : ChordError → Prop
  | empty (h : t = "") : Offends p whole before t last (.missingKey whole)
  | again {m : Modifier} (hm : Modifier.ofWord? p t = some m)
      (hbefore : m ∈ before.filterMap (Modifier.ofWord? p)) :
      Offends p whole before t last (.duplicateModifier t)
  | second {k : Key} (hk : key? p t = some k) (hbefore : before.filterMap (key? p) ≠ []) :
      Offends p whole before t last (.multipleKeys whole)
  | unknownKey (ht : t ≠ "") (hword : Modifier.ofWord? p t = none) (hkey : key? p t = none)
      (hlast : last = true) : Offends p whole before t last (.unknownKey t)
  | unknownModifier (ht : t ≠ "") (hword : Modifier.ofWord? p t = none) (hkey : key? p t = none)
      (hlast : last = false) : Offends p whole before t last (.unknownModifier t)

/-- The error of the leftmost token that offends. -/
def Blames (p : Platform) (whole : String) (ts : List String) (e : ChordError) : Prop :=
  ∃ before t after, ts = before ++ t :: after ∧ Offends p whole before t after.isEmpty e ∧
    ∀ before' t' after', before = before' ++ t' :: after' → ∀ e',
      ¬ Offends p whole before' t' false e'

theorem Offends.unique {e' : ChordError} (h : Offends p whole before t last e)
    (h' : Offends p whole before t last e') : e = e' := by
  have hempty := ofWord?_empty p
  have hkey := key?_empty p
  cases h <;> cases h' <;> simp_all [Chord.key?]

/-- A token that offends does not stand before one for which nothing before it offends. -/
theorem Offends.eq_of_first {before' after after' between : List String} {t' : String}
    {e' : ChordError} (h : Offends p whole before t after.isEmpty e)
    (h' : Offends p whole before' t' after'.isEmpty e')
    (hfirst : ∀ ok u later, before' = ok ++ u :: later → ∀ e'', ¬ Offends p whole ok u false e'')
    (hbefore : before' = before ++ between) (hafter : t :: after = between ++ t' :: after') :
    e = e' := by
  cases between with
  | nil =>
      rw [List.append_nil] at hbefore
      cases hbefore
      cases hafter
      exact h.unique h'
  | cons u between =>
      cases hafter
      have hmore : (between ++ t' :: after').isEmpty = false := by cases between <;> rfl
      exact absurd (hmore ▸ h) (hfirst _ _ _ hbefore e)

theorem Blames.unique {e' : ChordError} (h : Blames p whole ts e) (h' : Blames p whole ts e') :
    e = e' := by
  obtain ⟨before, t, after, rfl, hoffends, hfirst⟩ := h
  obtain ⟨before', t', after', heq, hoffends', hfirst'⟩ := h'
  rcases List.append_eq_append_iff.mp heq with ⟨_, hbefore, hafter⟩ | ⟨_, hbefore, hafter⟩
  · exact hoffends.eq_of_first hoffends' hfirst' hbefore hafter
  · exact (hoffends'.eq_of_first hoffends hfirst hbefore hafter).symm

namespace Gathers

theorem nil (p : Platform) : Gathers p [] {} where
  known := nofun
  different := .nil
  held m := by cases m <;> simp [Stroke.holds]
  key := rfl
  character := rfl

/-- What goes together goes with what stands before it. -/
theorem not_offends {after : List String} (h : Gathers p (before ++ t :: after) c) (whole : String)
    (last : Bool) (e : ChordError) : ¬ Offends p whole before t last e := by
  have hknown := h.known t (List.mem_append_right _ (.head _))
  intro hoffends
  cases hoffends with
  | empty ht => simp [ht, ofWord?_empty, key?_empty] at hknown
  | again hm hbefore =>
      have hdifferent := h.different
      rw [List.filterMap_append, List.filterMap_cons_some hm] at hdifferent
      exact (List.nodup_append.mp hdifferent).2.2 _ hbefore _ (.head _) rfl
  | second hk hbefore =>
      have hlength := congrArg List.length h.key
      rw [List.filterMap_append, List.filterMap_cons_some hk, List.length_append,
        List.length_cons] at hlength
      have hpos := List.length_pos_iff.mpr hbefore
      have hone : c.key.toList.length ≤ 1 := by cases c.key <;> simp
      omega
  | unknownKey _ hword hkey | unknownModifier _ hword hkey => simp [hword, hkey] at hknown

theorem hold (h : Gathers p before c) (hm : Modifier.ofWord? p t = some m)
    (hnew : c.holds m = false) : Gathers p (before ++ [t]) (c.hold m) where
  known u hu := by
    rcases List.mem_append.mp hu with hu | hu
    · exact h.known u hu
    · rw [List.mem_singleton.mp hu, hm]
      exact .inl rfl
  different := by
    rw [List.filterMap_append, List.filterMap_cons_some hm, List.filterMap_nil]
    have hfresh : m ∉ before.filterMap (Modifier.ofWord? p) := by
      rw [← h.held m, hnew]
      exact Bool.false_ne_true
    exact List.nodup_append.mpr ⟨h.different, List.nodup_singleton m, fun a ha b hb hab =>
      hfresh (List.mem_singleton.mp hb ▸ hab ▸ ha)⟩
  held m' := by
    rw [List.filterMap_append, List.filterMap_cons_some hm, List.filterMap_nil, List.mem_append,
      List.mem_singleton, ← h.held m']
    exact Stroke.holds_hold_iff.trans or_comm
  key := by
    have hkey : key? p t = none := by rw [Chord.key?, hm]
    rw [List.filterMap_append, List.filterMap_cons_none hkey, List.filterMap_nil, List.append_nil,
      h.key]
    cases m <;> rfl
  character := h.character

theorem withKey (h : Gathers p before c) (hk : key? p t = some k) (hnew : c.key = none) :
    Gathers p (before ++ [t]) { c with key := some k } := by
  have hword : Modifier.ofWord? p t = none := by
    rw [Chord.key?] at hk
    split at hk
    · cases hk
    · assumption
  have hwords : (before ++ [t]).filterMap (Modifier.ofWord? p) =
      before.filterMap (Modifier.ofWord? p) := by
    rw [List.filterMap_append, List.filterMap_cons_none hword, List.filterMap_nil, List.append_nil]
  refine ⟨fun u hu => ?_, hwords ▸ h.different, fun m' => ?_, ?_, h.character⟩
  · rcases List.mem_append.mp hu with hu | hu
    · exact h.known u hu
    · rw [List.mem_singleton.mp hu, hk]
      exact .inr rfl
  · rw [hwords, ← h.held m']
    cases m' <;> rfl
  · rw [List.filterMap_append, List.filterMap_cons_some hk, List.filterMap_nil, h.key, hnew]
    rfl

end Gathers

/-! ### The reader -/

theorem addPiece_cases (h : Gathers p before c) (whole : String) (last : Bool)
    (piece : List Char) :
    (∃ c', addPiece p whole c last piece = .ok c' ∧ Gathers p (before ++ [token piece]) c') ∨
      ∃ e, addPiece p whole c last piece = .error e ∧
        Offends p whole before (token piece) last e := by
  rw [addPiece]
  cases hempty : piece.isEmpty with
  | true => exact .inr ⟨_, rfl, .empty (token_eq_empty_iff.mpr (List.isEmpty_iff.mp hempty))⟩
  | false =>
      have hne : token piece ≠ "" := by simpa [token_eq_empty_iff] using hempty
      rw [← token]
      simp only [Bool.false_eq_true, if_false]
      cases hword : Modifier.ofWord? p (token piece) with
      | some m =>
          cases hheld : c.holds m with
          | true => exact .inr ⟨_, if_pos hheld, .again hword ((h.held m).mp hheld)⟩
          | false => exact .inl ⟨_, if_neg (Bool.eq_false_iff.mp hheld), h.hold hword hheld⟩
      | none =>
          have hkey : key? p (token piece) = Key.ofToken? (token piece) := by rw [key?, hword]
          cases hk : Key.ofToken? (token piece) with
          | some k =>
              rw [hk] at hkey
              cases hold : c.key with
              | some k' =>
                  refine .inr ⟨_, rfl, .second hkey ?_⟩
                  rw [h.key, hold]
                  exact List.cons_ne_nil _ _
              | none => exact .inl ⟨_, rfl, h.withKey hkey hold⟩
          | none =>
              rw [hk] at hkey
              cases last with
              | true => exact .inr ⟨_, rfl, .unknownKey hne hword hkey rfl⟩
              | false => exact .inr ⟨_, rfl, .unknownModifier hne hword hkey rfl⟩

theorem addPieces_cases (h : Gathers p before c) (whole : String) (rest : List (List Char)) :
    (∃ c', addPieces p whole c rest = .ok c' ∧ Gathers p (before ++ rest.map token) c') ∨
      ∃ e ok piece later, addPieces p whole c rest = .error e ∧ rest = ok ++ piece :: later ∧
        (∃ c', Gathers p (before ++ ok.map token) c') ∧
          Offends p whole (before ++ ok.map token) (token piece) later.isEmpty e := by
  induction rest generalizing before c with
  | nil => exact .inl ⟨c, rfl, by simpa using h⟩
  | cons piece rest ih =>
      rw [addPieces]
      rcases addPiece_cases h whole rest.isEmpty piece with ⟨c', hok, hc'⟩ | ⟨e, herror, hoffends⟩
      · rw [hok]
        rcases ih hc' with ⟨d, hd, hgathers⟩ | ⟨e, ok, last, later, herror, rfl, hfine, hoffends⟩
        · exact .inl ⟨d, hd, by simpa using hgathers⟩
        · refine .inr ⟨e, piece :: ok, last, later, herror, rfl, ?_, ?_⟩
          · simpa using hfine
          · simpa using hoffends
      · rw [herror]
        exact .inr ⟨e, [], piece, rest, rfl, rfl, ⟨c, by simpa using h⟩, by simpa using hoffends⟩

theorem Gathers.not_blames (h : Gathers p ts c) (whole : String) (e : ChordError) :
    ¬ Blames p whole ts e := by
  rintro ⟨before, t, after, rfl, hoffends, -⟩
  exact h.not_offends whole _ e hoffends

/-- A text that is not blank is a chord, or it is blamed for a token or for having no key. -/
theorem read_cases (p : Platform) {s : List Char} (hs : Text.trim s ≠ []) :
    (∃ c, read p s = .ok c ∧ Spells p (tokens s) c) ∨
      ∃ e, read p s = .error e ∧ (Blames p (String.ofList (Text.trim s)) (tokens s) e ∨
        (∃ c, Gathers p (tokens s) c ∧ c.key = none) ∧
          e = .missingKey (String.ofList (Text.trim s))) := by
  have hempty : (Text.trim s).isEmpty = false := by simpa using hs
  rcases addPieces_cases (Gathers.nil p) (String.ofList (Text.trim s)) (pieces (Text.trim s)) with
    ⟨c, hok, hgathers⟩ | ⟨e, ok, piece, later, herror, hsplit, ⟨c, hfine⟩, hoffends⟩
  · cases hkey : c.key with
    | some k => exact .inl ⟨c, by simp [read, hempty, hok, hkey], hgathers, by simp [hkey]⟩
    | none => exact .inr ⟨_, by simp [read, hempty, hok, hkey], .inr ⟨⟨c, hgathers, hkey⟩, rfl⟩⟩
  · refine .inr ⟨e, by simp [read, hempty, herror], .inl ⟨ok.map token, token piece,
      later.map token, by simp [tokens, hsplit], ?_, ?_⟩⟩
    · simpa using hoffends
    · rintro before t after hbefore e'
      rw [List.nil_append, hbefore] at hfine
      exact hfine.not_offends _ _ e'

theorem read_of_blank (hs : Text.trim s = []) : read p s = .error .empty := by
  rw [read, hs]
  rfl

theorem not_spells_of_blank (hs : Text.trim s = []) : ¬ Spells p (tokens s) c := by
  intro h
  have htokens : tokens s = [""] := by
    rw [tokens, hs]
    rfl
  have hknown := h.known "" (htokens ▸ .head _)
  simp [ofWord?_empty, key?_empty] at hknown

theorem Gathers.unique (h : Gathers p ts c) (h' : Gathers p ts c') : c = c' := by
  have hholds (m : Modifier) : c.holds m = c'.holds m :=
    Bool.eq_iff_iff.mpr ((h.held m).trans (h'.held m).symm)
  have hkey : c.key = c'.key := by
    have hlists := h.key.symm.trans h'.key
    cases hk : c.key <;> cases hk' : c'.key <;> simp_all
  have hcharacter := h.character.trans h'.character.symm
  obtain ⟨⟨ctrl, alt, shift, metaKey, key⟩, character⟩ := c
  obtain ⟨⟨ctrl', alt', shift', metaKey', key'⟩, character'⟩ := c'
  cases hholds .ctrl
  cases hholds .alt
  cases hholds .shift
  cases hholds .metaKey
  cases hkey
  cases hcharacter
  rfl

theorem read_ok_iff (p : Platform) (s : List Char) (c : Chord) :
    read p s = .ok c ↔ Spells p (tokens s) c := by
  by_cases hs : Text.trim s = []
  · rw [read_of_blank hs]
    exact iff_of_false nofun (not_spells_of_blank hs)
  rcases read_cases p hs with ⟨d, hread, hspells⟩ | ⟨e, hread, hrefused⟩
  · rw [hread]
    constructor
    · rintro ⟨⟩
      exact hspells
    · intro h
      rw [hspells.toGathers.unique h.toGathers]
  · rw [hread]
    refine iff_of_false nofun fun h => ?_
    rcases hrefused with hblames | ⟨⟨d, hgathers, hkey⟩, -⟩
    · exact h.toGathers.not_blames _ e hblames
    · have hhas := h.hasKey
      rw [h.toGathers.unique hgathers, hkey] at hhas
      cases hhas

theorem read_error_iff (p : Platform) (s : List Char) (e : ChordError) :
    read p s = .error e ↔ Text.trim s = [] ∧ e = .empty ∨ Text.trim s ≠ [] ∧
      (Blames p (String.ofList (Text.trim s)) (tokens s) e ∨
        (∀ e', ¬ Blames p (String.ofList (Text.trim s)) (tokens s) e') ∧
          (tokens s).filterMap (key? p) = [] ∧ e = .missingKey (String.ofList (Text.trim s))) := by
  by_cases hs : Text.trim s = []
  · rw [read_of_blank hs, Except.error.injEq, or_iff_left (fun h => h.1 hs), and_iff_right hs]
    exact eq_comm
  rw [or_iff_right (fun h => hs h.1), and_iff_right hs]
  rcases read_cases p hs with ⟨c, hread, hspells⟩ | ⟨e', hread, hrefused⟩
  · rw [hread]
    refine iff_of_false nofun fun h => ?_
    rcases h with hblames | ⟨-, hnone, -⟩
    · exact hspells.toGathers.not_blames _ e hblames
    · have hhas := hspells.hasKey
      rw [hspells.key] at hnone
      cases hkey : c.key <;> simp_all
  · rw [hread, Except.error.injEq]
    rcases hrefused with hblames | ⟨⟨c, hgathers, hkey⟩, rfl⟩
    · constructor
      · rintro rfl
        exact .inl hblames
      · rintro (hblames' | ⟨hnone, -⟩)
        · exact hblames.unique hblames'
        · exact absurd hblames (hnone e')
    · constructor
      · rintro rfl
        exact .inr ⟨hgathers.not_blames _, by rw [hgathers.key, hkey]; rfl, rfl⟩
      · rintro (hblames | ⟨-, -, rfl⟩)
        · exact absurd hblames (hgathers.not_blames _ e)
        · rfl

/-! ### The order of the pieces -/

theorem Spells.perm {ts' : List String} (h : Spells p ts c) (hts : ts'.Perm ts) :
    Spells p ts' c where
  known t ht := h.known t (hts.mem_iff.mp ht)
  different := (hts.filterMap _).nodup_iff.mpr h.different
  held m := (h.held m).trans (hts.filterMap _).mem_iff.symm
  key := by
    obtain ⟨k, hk⟩ := Option.isSome_iff_exists.mp h.hasKey
    have hkeys := hts.filterMap (key? p)
    rw [h.key, hk] at hkeys
    rw [hk]
    exact List.perm_singleton.mp hkeys
  character := h.character
  hasKey := h.hasKey

/-- Pieces without a `+` that are joined by it are the pieces again, but for blanks around them. -/
theorem pieces_trim_intercalate {ws : List (List Char)} (hne : ws ≠ [])
    (h : ∀ w ∈ ws, '+' ∉ w) : pieces (Text.trim (['+'].intercalate ws)) = ws.map Text.trim := by
  have hcut : Text.splitBy (· = '+') (['+'].intercalate ws) = ws :=
    Text.splitBy_intercalate (by decide) hne fun w hw c hc => by
      have : c ≠ '+' := fun heq => h w hw (heq ▸ hc)
      simpa using this
  have hblank (c : Char) (hc : Text.isBlank c = true) : decide (c = '+') = false := by
    refine decide_eq_false ?_
    rintro rfl
    exact absurd hc (by decide)
  rw [pieces, Text.map_trim_splitBy_trim hblank, hcut]

/-- Chord texts are read by a grammar in which order does not count: a text is a chord when its
pieces are words of different modifiers and one token of a key. Any other text is refused, for the
first piece that does not go with those before it, or for want of a key. -/
theorem ofText_by_grammar (p : Platform) (text : String) :
    let trimmed := Text.trim text.toList
    let whole := String.ofList trimmed
    let ts := tokens text.toList
    (∀ c, ofText p text = .ok c ↔ Spells p ts c) ∧
    (∀ c, Spells p ts c → ∀ piece ∈ pieces trimmed, piece ≠ []) ∧
    (∀ piece k, key? p (token piece) = some k ↔ Modifier.ofWord? p (token piece) = none ∧
      k ∈ Key.all ∧ (k.token = token piece ∨ (token piece, k.token) ∈ Key.aliases)) ∧
    (∀ c, ofText p text = .ok c → ∀ ws : List String, (∀ w ∈ ws, '+' ∉ w.toList) →
      (ws.map fun w => Text.trim w.toList).Perm (pieces trimmed) →
        ofText p ("+".intercalate ws) = .ok c) ∧
    ∀ e, ofText p text = .error e ↔ trimmed = [] ∧ e = .empty ∨ trimmed ≠ [] ∧
      (Blames p whole ts e ∨ (∀ e', ¬ Blames p whole ts e') ∧ ts.filterMap (key? p) = [] ∧
        e = .missingKey whole) := by
  intro trimmed whole ts
  refine ⟨read_ok_iff p text.toList, fun c hc piece hpiece hempty => ?_,
    fun _ _ => key?_token_iff, fun c hc ws hws hperm => ?_, read_error_iff p text.toList⟩
  · have hknown := hc.known (token piece) (List.mem_map_of_mem hpiece)
    simp [token_eq_empty_iff.mpr hempty, ofWord?_empty, key?_empty] at hknown
  · have hspells := (read_ok_iff p text.toList c).mp hc
    have hne : ws ≠ [] := by
      rintro rfl
      have hnil := hperm.symm.eq_nil
      exact Text.splitBy_ne_nil _ _ (List.map_eq_nil_iff.mp hnil)
    have hlists : ("+".intercalate ws).toList = ['+'].intercalate (ws.map String.toList) := by
      rw [String.toList_intercalate]
      rfl
    have hwords : ws.map String.toList ≠ [] := by simpa using hne
    have hpieces := pieces_trim_intercalate hwords (List.forall_mem_map.mpr hws)
    rw [List.map_map] at hpieces
    refine (read_ok_iff p _ c).mpr (hspells.perm ?_)
    rw [tokens, hlists, hpieces]
    exact hperm.map token

def letterK : Key := ⟨"KeyK", 75, "k", some 'k', some 'K'⟩

/-- The key may come first. -/
theorem ofText_by_grammar_key_first : ofText .mac "k + shift+ctrlcmd" =
    .ok { shift := true, metaKey := true, key := some letterK } := by
  have hread : ofText .mac "ctrlcmd+shift+k" =
      .ok { shift := true, metaKey := true, key := some letterK } := rfl
  have hreorders := (ofText_by_grammar .mac "ctrlcmd+shift+k").2.2.2.1 _ hread
  exact hreorders ["k ", " shift", "ctrlcmd"] (by decide) (by decide +kernel)

-- where Ctrl is primary, the word for the primary modifier repeats it, before the unknown key counts
example : ofText .pc "ctrl+ctrlcmd+nokey" = .error (.duplicateModifier "ctrlcmd") := rfl

end Chord

end Shortcuts
