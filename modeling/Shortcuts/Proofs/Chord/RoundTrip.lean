import Shortcuts.Chord.Reader
import Shortcuts.Proofs.Fields
import Shortcuts.Proofs.Outcome
import Shortcuts.Proofs.Text.Lowering
import Shortcuts.Proofs.Text.Pieces

/-!
Chord texts are read back. Whatever way a chord was written, what is read of it is a key that its
own token denotes, and modifiers; so the text made of it denotes it again, on every platform.
-/

namespace Shortcuts

/-! ### Modifiers -/

namespace Modifier

/-- The word for a held modifier in the text of a chord. -/
def word : Modifier → String
  | ctrl => "ctrl"
  | alt => "alt"
  | shift => "shift"
  | metaKey => "meta"

theorem ofWord?_word (p : Platform) (m : Modifier) : ofWord? p m.word = some m := by
  cases m <;> simp [ofWord?, word]

/-- What a word denotes depends on the platform, but not whether it denotes something. -/
theorem ofWord?_eq_none {p : Platform} (p' : Platform) {w : String} (h : ofWord? p w = none) :
    ofWord? p' w = none := by
  simp only [ofWord?] at h ⊢
  repeat' split at h
  all_goals simp_all

end Modifier

/-! ### Pieces -/

/-- Nothing in the text cuts it: neither the sign between the pieces of a chord nor a blank. -/
def IsPiece (w : List Char) : Prop := w ≠ [] ∧ ∀ c ∈ w, c ≠ '+' ∧ Text.isBlank c = false

instance (w : List Char) : Decidable (IsPiece w) :=
  decidable_of_iff (w ≠ [] ∧ w.all (fun c => c != '+' && !Text.isBlank c) = true)
    (by simp [IsPiece])

theorem Modifier.isPiece_word (m : Modifier) : IsPiece m.word.toList := by
  cases m <;> decide

theorem Modifier.lower_word (m : Modifier) : Text.lower m.word.toList = m.word.toList := by
  cases m <;> decide +kernel

theorem Chord.pieces_intercalate {ws : List (List Char)} (hne : ws ≠ []) (h : ∀ w ∈ ws, IsPiece w) :
    pieces (['+'].intercalate ws) = ws := by
  rw [pieces, Text.splitBy_intercalate (by decide) hne fun w hw c hc => by
    simpa using ((h w hw).2 c hc).1]
  refine (List.map_congr_left fun w hw => ?_).trans (List.map_id ws)
  exact Text.trim_of_not_blank fun c hc => ((h w hw).2 c hc).2

/-! ### Keys -/

namespace Key

/-- The token denotes the key, and no modifier. -/
structure IsSpelled (k : Key) : Prop where
  ofToken? : Key.ofToken? k.token = some k
  ofWord? : ∀ p, Modifier.ofWord? p k.token = none

theorem isPiece_token : ∀ k ∈ all, IsPiece k.token.toList := by
  decide +kernel

theorem lower_token : ∀ k ∈ all, Text.lower k.token.toList = k.token.toList := by
  decide +kernel

theorem lookup_token : ∀ k ∈ all, aliases.lookup k.token = none := by
  decide +kernel

theorem ofWord?_alias : ∀ e ∈ aliases, Modifier.ofWord? .host e.2 = none := by
  decide

variable {k : Key} {token : String}

theorem mem_of_ofToken? (h : ofToken? token = some k) : k ∈ all := by
  simp only [ofToken?] at h
  exact List.mem_of_find?_eq_some h

theorem ofToken?_of_lower (h : Text.lower token.toList = token.toList) :
    ofToken? token = all.find? (·.token = (aliases.lookup token).getD token) := by
  simp only [ofToken?, h, String.ofList_toList]

/-- What is read as a key and not as a modifier is spelled by its own token. -/
theorem isSpelled_of_ofToken? {p : Platform} (hlower : Text.lower token.toList = token.toList)
    (hword : Modifier.ofWord? p token = none) (h : ofToken? token = some k) : k.IsSpelled := by
  have hk := mem_of_ofToken? h
  rw [ofToken?_of_lower hlower] at h
  have htoken : k.token = (aliases.lookup token).getD token := by
    simpa using List.find?_some h
  constructor
  · rw [ofToken?_of_lower (lower_token k hk), lookup_token k hk, Option.getD_none, htoken]
    exact h
  · intro p'
    rw [htoken]
    cases halias : aliases.lookup token with
    | none => exact Modifier.ofWord?_eq_none p' hword
    | some v =>
        exact Modifier.ofWord?_eq_none p' (ofWord?_alias (token, v) (Fields.mem_of_lookup halias))

end Key

/-! ### Chords that are read -/

namespace Chord

variable {p : Platform} {whole : String} {c c' : Chord} {last : Bool} {piece : List Char}

/-- The key is spelled, and no character is known. -/
structure IsSpelled (c : Chord) : Prop where
  key : ∀ k ∈ c.key, k.IsSpelled
  character : c.character = none

theorem isSpelled_of_addPiece (hc : c.IsSpelled) (h : addPiece p whole c last piece = .ok c') :
    c'.IsSpelled := by
  simp only [addPiece] at h
  split at h
  · cases h
  · split at h
    · next m hm =>
        split at h
        · cases h
        · cases h
          exact ⟨by cases m <;> exact hc.key, hc.character⟩
    · next hword =>
        split at h
        · next k hk =>
            split at h
            · cases h
            · cases h
              refine ⟨fun k' hk' => ?_, hc.character⟩
              cases hk'
              refine Key.isSpelled_of_ofToken? ?_ hword hk
              rw [String.toList_ofList, Text.lower_lower]
        · cases h

theorem isSpelled_of_addPieces {ws : List (List Char)} (hc : c.IsSpelled)
    (h : addPieces p whole c ws = .ok c') : c'.IsSpelled := by
  induction ws generalizing c with
  | nil =>
      cases h
      exact hc
  | cons w ws ih =>
      rw [addPieces] at h
      split at h
      · next hw => exact ih (isSpelled_of_addPiece hc hw) h
      · cases h

theorem isSpelled_of_read {s : List Char} (h : read p s = .ok c) :
    c.IsSpelled ∧ ∃ k, c.key = some k := by
  simp only [read] at h
  split at h
  · cases h
  · split at h
    · cases h
    · next hpieces =>
        split at h
        · cases h
        · next hkey =>
            cases h
            refine ⟨isSpelled_of_addPieces ⟨by simp, rfl⟩ hpieces, ?_⟩
            simpa [Option.isNone_iff_eq_none, Option.ne_none_iff_exists'] using hkey

end Chord

/-! ### Reading back -/

namespace Stroke

/-- The modifiers that are held, in the order of their words. -/
def held (s : Stroke) : List Modifier := [.ctrl, .alt, .shift, .metaKey].filter s.holds

theorem nodup_held (s : Stroke) : s.held.Nodup :=
  .filter _ (by decide)

theorem tokens_eq (s : Stroke) :
    s.tokens = s.held.map Modifier.word ++ (s.key.map Key.token).toList := by
  obtain ⟨ctrl, alt, shift, metaKey, key⟩ := s
  cases ctrl <;> cases alt <;> cases shift <;> cases metaKey <;> rfl

theorem holds_hold_iff {s : Stroke} {m m' : Modifier} :
    (s.hold m).holds m' = true ↔ m' = m ∨ s.holds m' = true := by
  cases m <;> cases m' <;> simp [hold, holds]

theorem holds_hold {s : Stroke} {m m' : Modifier} (hne : m' ≠ m) :
    (s.hold m).holds m' = s.holds m' :=
  Bool.eq_iff_iff.mpr (holds_hold_iff.trans (or_iff_right hne))

end Stroke

namespace Chord

variable {p : Platform} {whole : String} {c : Chord} {last : Bool}

theorem addPiece_word (m : Modifier) (h : c.holds m = false) :
    addPiece p whole c last m.word.toList = .ok (c.hold m) := by
  have hne : m.word.toList.isEmpty = false := by simpa using m.isPiece_word.1
  simp [addPiece, hne, m.lower_word, Modifier.ofWord?_word, h]

theorem addPiece_token {k : Key} (hk : k.IsSpelled) (h : c.key = none) :
    addPiece p whole c last k.token.toList = .ok { c with key := some k } := by
  have hmem := Key.mem_of_ofToken? hk.ofToken?
  have hne : k.token.toList.isEmpty = false := by simpa using (Key.isPiece_token k hmem).1
  simp [addPiece, hne, Key.lower_token k hmem, hk.ofWord?, hk.ofToken?, h]

/-- Words of modifiers that are not held yet are taken up one after the other. -/
theorem addPieces_words {ms : List Modifier} (hms : ms.Nodup) (h : ∀ m ∈ ms, c.holds m = false)
    (rest : List (List Char)) :
    addPieces p whole c (ms.map (·.word.toList) ++ rest) =
      addPieces p whole (ms.foldl hold c) rest := by
  induction ms generalizing c with
  | nil => rfl
  | cons m ms ih =>
      obtain ⟨hm, hrest⟩ := List.forall_mem_cons.mp h
      obtain ⟨hnotin, hnodup⟩ := List.nodup_cons.mp hms
      rw [List.map_cons, List.cons_append, addPieces, addPiece_word m hm]
      refine ih hnodup fun m' hm' => ?_
      exact (Stroke.holds_hold (ne_of_mem_of_not_mem hm' hnotin)).trans (hrest m' hm')

theorem foldl_hold_held (s : Stroke) :
    s.held.foldl hold {} = { toStroke := { s with key := none } } := by
  obtain ⟨ctrl, alt, shift, metaKey, key⟩ := s
  cases ctrl <;> cases alt <;> cases shift <;> cases metaKey <;> rfl

theorem toList_text (c : Chord) :
    c.text.toList = ['+'].intercalate (c.tokens.map String.toList) := by
  rw [text, String.toList_intercalate]
  rfl

theorem isPiece_of_mem_tokens (hc : c.IsSpelled) : ∀ w ∈ c.tokens.map String.toList, IsPiece w := by
  rw [Stroke.tokens_eq, List.map_append, List.map_map, List.forall_mem_append]
  refine ⟨List.forall_mem_map.mpr fun m _ => m.isPiece_word, ?_⟩
  cases hkey : c.key with
  | none => exact List.forall_mem_nil _
  | some k =>
      refine List.forall_mem_singleton.mpr (Key.isPiece_token k ?_)
      exact Key.mem_of_ofToken? (hc.key k hkey).ofToken?

theorem tokens_ne_nil {k : Key} (hkey : c.key = some k) : c.tokens.map String.toList ≠ [] := by
  rw [Stroke.tokens_eq, hkey, List.map_append]
  exact List.append_ne_nil_of_right_ne_nil _ (List.cons_ne_nil _ _)

theorem not_blank_of_mem_text (hc : c.IsSpelled) :
    ∀ x ∈ c.text.toList, Text.isBlank x = false := by
  intro x hx
  rw [toList_text] at hx
  rcases Text.mem_intercalate hx with rfl | ⟨w, hw, hx⟩
  · decide
  · exact ((isPiece_of_mem_tokens hc w hw).2 x hx).2

theorem toList_text_ne_nil {k : Key} (hc : c.IsSpelled) (hkey : c.key = some k) :
    c.text.toList ≠ [] := by
  have hpieces := pieces_intercalate (tokens_ne_nil hkey) (isPiece_of_mem_tokens hc)
  intro hnil
  rw [← toList_text, hnil] at hpieces
  exact (isPiece_of_mem_tokens hc [] (hpieces ▸ .head _)).1 rfl

theorem addPieces_tokens {k : Key} (hc : c.IsSpelled) (hkey : c.key = some k) :
    addPieces p whole {} (c.tokens.map String.toList) = .ok c := by
  rw [Stroke.tokens_eq, List.map_append, List.map_map, hkey]
  refine (addPieces_words c.nodup_held (fun m _ => by cases m <;> rfl) _).trans ?_
  rw [foldl_hold_held]
  change addPieces p whole _ [k.token.toList] = _
  rw [addPieces, addPiece_token (hc.key k hkey) rfl]
  obtain ⟨⟨ctrl, alt, shift, metaKey, key⟩, character⟩ := c
  obtain rfl : key = some k := hkey
  obtain rfl : character = none := hc.character
  rfl

theorem read_text {k : Key} (hc : c.IsSpelled) (hkey : c.key = some k) :
    read p c.text.toList = .ok c := by
  have htrim := Text.trim_of_not_blank (not_blank_of_mem_text hc)
  have hne : c.text.toList.isEmpty = false := by simpa using toList_text_ne_nil hc hkey
  have hpieces : pieces c.text.toList = c.tokens.map String.toList := by
    rw [toList_text, pieces_intercalate (tokens_ne_nil hkey) (isPiece_of_mem_tokens hc)]
  simp only [read, htrim, hne, hpieces, addPieces_tokens hc hkey, hkey]
  rfl

/-! ### Sequences -/

variable {cs : List Chord}

theorem isSpelled_of_mapM_read {ws : List (List Char)} (h : ws.mapM (read p) = .ok cs) :
    cs.length = ws.length ∧ ∀ c ∈ cs, c.IsSpelled ∧ ∃ k, c.key = some k := by
  induction ws generalizing cs with
  | nil =>
      cases h
      exact ⟨rfl, List.forall_mem_nil _⟩
  | cons w ws ih =>
      rw [List.mapM_cons] at h
      obtain ⟨c, hread, h⟩ := of_bind_eq_ok h
      obtain ⟨rest, hrest, h⟩ := of_bind_eq_ok h
      cases h
      obtain ⟨hlength, hspelled⟩ := ih hrest
      exact ⟨by simp [hlength], List.forall_mem_cons.mpr ⟨isSpelled_of_read hread, hspelled⟩⟩

theorem mapM_read_text (h : ∀ c ∈ cs, c.IsSpelled ∧ ∃ k, c.key = some k) :
    (cs.map (·.text.toList)).mapM (read p) = .ok cs := by
  induction cs with
  | nil => rfl
  | cons c cs ih =>
      obtain ⟨⟨hc, k, hkey⟩, hrest⟩ := List.forall_mem_cons.mp h
      rw [List.map_cons, List.mapM_cons, read_text hc hkey, ih hrest]
      rfl

theorem toList_sequenceText (cs : List Chord) :
    (sequenceText cs).toList = [' '].intercalate (cs.map (·.text.toList)) := by
  rw [sequenceText, String.toList_intercalate, List.map_map]
  rfl

theorem words_sequenceText (h : ∀ c ∈ cs, c.IsSpelled ∧ ∃ k, c.key = some k) :
    Text.words (sequenceText cs).toList = cs.map (·.text.toList) := by
  rw [toList_sequenceText]
  refine Text.words_intercalate (List.forall_mem_map.mpr fun c hc => ?_)
    (List.forall_mem_map.mpr fun c hc => not_blank_of_mem_text (h c hc).1)
  obtain ⟨hspelled, k, hkey⟩ := h c hc
  exact toList_text_ne_nil hspelled hkey

theorem sequenceOfText_eq_ok_iff {text : String} : sequenceOfText p text = .ok cs ↔
    (Text.words text.toList).mapM (read p) = .ok cs ∧ cs ≠ [] := by
  rw [sequenceOfText]
  constructor
  · intro h
    split at h <;> cases h
    next hwords => exact ⟨hwords, List.cons_ne_nil _ _⟩
  · rintro ⟨hwords, hne⟩
    rw [hwords]
    cases cs with
    | nil => exact absurd rfl hne
    | cons c cs => rfl

/-- A sequence that is read has as many chords as its text seems to have. Its own text is read as
the same sequence again, on every platform, and so has that text again. -/
theorem sequence_text_rereads (p : Platform) (text : String) (cs : List Chord)
    (h : sequenceOfText p text = .ok cs) :
    cs.length = countIn text ∧ ∀ p', sequenceOfText p' (sequenceText cs) = .ok cs ∧
      (sequenceOfText p' (sequenceText cs)).map sequenceText = .ok (sequenceText cs) := by
  obtain ⟨hwords, hne⟩ := sequenceOfText_eq_ok_iff.mp h
  obtain ⟨hlength, hspelled⟩ := isSpelled_of_mapM_read hwords
  refine ⟨hlength, fun p' => ?_⟩
  have hreread : sequenceOfText p' (sequenceText cs) = .ok cs := by
    rw [sequenceOfText_eq_ok_iff, words_sequenceText hspelled]
    exact ⟨mapM_read_text hspelled, hne⟩
  rw [hreread]
  exact ⟨rfl, rfl⟩

/-- A chord with two modifiers, and then a letter alone. -/
def escaped : List Chord :=
  [{ shift := true, metaKey := true, key := some ⟨"Escape", 27, "escape", none, none⟩ },
   { key := some ⟨"KeyK", 75, "k", some 'k', some 'K'⟩ }]

theorem sequence_text_rereads_escaped :
    sequenceOfText .mac " Shift+CtrlCmd+ESC  K" = .ok escaped ∧
      escaped.length = countIn " Shift+CtrlCmd+ESC  K" ∧
      sequenceText escaped = "shift+meta+escape k" ∧
      sequenceOfText .pc (sequenceText escaped) = .ok escaped := by
  have h : sequenceOfText .mac " Shift+CtrlCmd+ESC  K" = .ok escaped := rfl
  obtain ⟨hlength, hreread⟩ := sequence_text_rereads .mac _ _ h
  exact ⟨h, hlength, rfl, (hreread .pc).1⟩

end Chord

end Shortcuts
