import LogAnomaly.Proofs.Cluster.Edges
import LogAnomaly.Proofs.Text.Blank

/-!
# Normalized texts

* `placeholders`: what stands for values. Each is a name in angle brackets, and the brackets are
  edges of a token, so that only the name is looked at when a text is normalized once more;
* `IsPlain`: words whose core is no value. Normalization leaves them alone
  (`normalizeToken_of_isPlain`) and makes no others (`isPlain_normalizeToken`);
* `words_normalizeWords`: words of a text are normalized each for itself;
* `normalize_settles_words`: so a normalized text is not changed by a second normalization.
-/

namespace LogAnomaly

open LogAnomaly.Text

/-! ## Placeholders -/

/-- The names of the values. -/
def placeholderNames : List (List Char) :=
  [['I', 'P'], ['N', 'U', 'M'], ['H', 'E', 'X'], ['E', 'M', 'A', 'I', 'L']]

/-- What stands for values. -/
def placeholders : List String := ["<IP>", "<NUM>", "<HEX>", "<EMAIL>"]

theorem exists_name_of_placeholder? {core mark : List Char} (h : placeholder? core = some mark) :
    ∃ name ∈ placeholderNames, mark = '<' :: (name ++ ['>']) := by
  unfold placeholder? at h
  repeat' split at h
  all_goals cases h
  all_goals decide

theorem mem_placeholders {core mark : List Char} (h : placeholder? core = some mark) :
    String.ofList mark ∈ placeholders := by
  obtain ⟨name, hname, rfl⟩ := exists_name_of_placeholder? h
  clear h
  revert name
  decide

/-- A placeholder is a name in angle brackets. The name has no edges of its own and is no value. -/
structure IsMark (mark : List Char) (name : List Char) : Prop where
  eq_bracketed : mark = '<' :: (name ++ ['>'])
  ne_nil : name ≠ []
  not_edge : ∀ c ∈ name, isEdge c = false
  not_blank : ∀ c ∈ mark, isBlank c = false
  not_value : placeholder? name = none

theorem isMark_bracketed {name : List Char} (h : name ∈ placeholderNames) :
    IsMark ('<' :: (name ++ ['>'])) name where
  eq_bracketed := rfl
  ne_nil := by
    have hall : ∀ name ∈ placeholderNames, name ≠ [] := by decide
    exact hall name h
  not_edge c hc := by
    have hall : ∀ name ∈ placeholderNames, name.all (!isEdge ·) := by decide
    simpa using List.all_eq_true.1 (hall name h) c hc
  not_blank c hc := by
    have hall : ∀ name ∈ placeholderNames, ('<' :: (name ++ ['>'])).all (!isBlank ·) := by decide
    simpa using List.all_eq_true.1 (hall name h) c hc
  not_value := by
    have hall : ∀ name ∈ placeholderNames, placeholder? name = none := by decide
    exact hall name h

theorem isMark_of_placeholder? {core mark : List Char} (h : placeholder? core = some mark) :
    ∃ name, IsMark mark name := by
  obtain ⟨name, hname, rfl⟩ := exists_name_of_placeholder? h
  exact ⟨name, isMark_bracketed hname⟩

/-! ## Words that are left alone -/

/-- A word whose core is no value. -/
def IsPlain (token : List Char) : Prop := placeholder? (Edges.ofToken token).core = none

theorem normalizeToken_of_isPlain {token : List Char} (h : IsPlain token) :
    normalizeToken token = token := by
  rw [normalizeToken, h]

/-- A word with a value becomes the edges of the word around the placeholder of the value. -/
theorem normalizeToken_of_value {token mark : List Char}
    (h : placeholder? (Edges.ofToken token).core = some mark) :
    normalizeToken token = (Edges.ofToken token).lead ++ mark ++ (Edges.ofToken token).trail := by
  rw [normalizeToken, h]

/-- The edges of a word grow by the brackets of a placeholder. -/
theorem Edges.Proper.bracketed {e : Edges} (h : e.Proper) {mark name : List Char}
    (hmark : IsMark mark name) :
    let around : Edges := ⟨e.lead ++ ['<'], name, '>' :: e.trail⟩
    around.Proper ∧ around.token = e.lead ++ mark ++ e.trail := by
  refine ⟨⟨fun c hc => ?_, fun c hc => ?_, fun c hc => ?_, fun c hc => ?_, fun hnil => ?_⟩, ?_⟩
  · rcases List.mem_append.1 hc with hc | hc
    · exact h.lead_edge c hc
    · rw [List.mem_singleton.1 hc]
      decide
  · rcases List.mem_cons.1 hc with rfl | hc
    · decide
    · exact h.trail_edge c hc
  · exact hmark.not_edge c (List.mem_of_head? hc)
  · exact hmark.not_edge c (List.mem_of_getLast? hc)
  · exact absurd hnil hmark.ne_nil
  · simp [Edges.token, hmark.eq_bracketed]

/-- The core of a normalized word is no value: it is none from the first, or it is the name in a
placeholder. -/
theorem isPlain_normalizeToken (token : List Char) : IsPlain (normalizeToken token) := by
  cases h : placeholder? (Edges.ofToken token).core with
  | none =>
    rw [normalizeToken_of_isPlain h]
    exact h
  | some mark =>
    obtain ⟨name, hmark⟩ := isMark_of_placeholder? h
    obtain ⟨hproper, htoken⟩ := (Edges.proper_ofToken token).bracketed hmark
    rw [normalizeToken_of_value h, ← htoken, IsPlain, hproper.ofToken_token]
    exact hmark.not_value

theorem normalizeToken_normalizeToken (token : List Char) :
    normalizeToken (normalizeToken token) = normalizeToken token :=
  normalizeToken_of_isPlain (isPlain_normalizeToken token)

/-! ## The words of a text -/

/-- A normalized word is a word again. -/
theorem normalizeToken_word {token : List Char} (hne : token ≠ [])
    (hblank : ∀ c ∈ token, isBlank c = false) :
    normalizeToken token ≠ [] ∧ ∀ c ∈ normalizeToken token, isBlank c = false := by
  cases h : placeholder? (Edges.ofToken token).core with
  | none =>
    rw [normalizeToken_of_isPlain h]
    exact ⟨hne, hblank⟩
  | some mark =>
    obtain ⟨name, hmark⟩ := isMark_of_placeholder? h
    have htoken := Edges.token_ofToken token
    rw [normalizeToken_of_value h]
    refine ⟨by simp [hmark.eq_bracketed], fun c hc => ?_⟩
    rw [List.mem_append, List.mem_append] at hc
    rcases hc with (hc | hc) | hc
    · exact hblank c (htoken ▸ List.mem_append_left _ hc)
    · exact hmark.not_blank c hc
    · exact hblank c (htoken ▸ List.mem_append_right _ (List.mem_append_right _ hc))

/-- The words of a text are normalized each for itself. -/
theorem splitBlank_normalizeWords (s : List Char) :
    splitBlank (normalizeWords s) = (splitBlank s).map normalizeToken := by
  refine splitBlank_intercalate fun w hw => ?_
  obtain ⟨token, htoken, rfl⟩ := List.mem_map.1 hw
  exact normalizeToken_word (splitBlank_ne_nil htoken) (splitBlank_not_blank htoken)

theorem normalizeWords_normalizeWords (s : List Char) :
    normalizeWords (normalizeWords s) = normalizeWords s := by
  have hsettled : normalizeToken ∘ normalizeToken = normalizeToken :=
    funext normalizeToken_normalizeToken
  rw [normalizeWords, splitBlank_normalizeWords, List.map_map, hsettled]
  rfl

theorem normalizeText_normalizeText (mode : Tokenization) (text : String) :
    normalizeText mode (normalizeText mode text) = normalizeText mode text := by
  cases mode with
  | words => simp only [normalizeText, String.toList_ofList, normalizeWords_normalizeWords]
  | whole => simp only [normalizeText, String.toList_ofList, trimBlank_trimBlank]

/-- A word with a placeholder for its value, if it has one. -/
def normalizeWord (word : String) : String := String.ofList (normalizeToken word.toList)

theorem words_normalizeText (text : String) :
    words (normalizeText .words text) = (words text).map normalizeWord := by
  simp only [words, normalizeText, String.toList_ofList, splitBlank_normalizeWords, List.map_map]
  refine List.map_congr_left fun token _ => ?_
  simp [normalizeWord]

theorem normalizeText_eq_intercalate (text : String) :
    normalizeText .words text = " ".intercalate ((words text).map normalizeWord) := by
  rw [← String.toList_inj, String.toList_intercalate, words, List.map_map, List.map_map]
  have hword : (String.toList ∘ normalizeWord) ∘ String.ofList = normalizeToken := by
    funext token
    simp [normalizeWord]
  rw [hword]
  exact String.toList_ofList

/-- A second normalization changes nothing. Word by word, each word of the result is what one word of
the text becomes, whatever the other words are, and single spaces stand between them. A word whose
core is no value stays as it is; else a placeholder takes the place of the core, and the punctuation
on both sides of it stays. -/
theorem normalize_settles_words (magicWords : List String) (text : String) :
    (∀ mode, let normalize := (Preprocessor.standard magicWords mode).normalize
      normalize (normalize text) = normalize text) ∧
    let result := (Preprocessor.standard magicWords .words).normalize text
    words result = (words text).map normalizeWord ∧
      result = " ".intercalate (words result) ∧
      ∀ word : String, ∃ e : Edges, e.Proper ∧ e.token = word.toList ∧
        ((placeholder? e.core = none ∧ normalizeWord word = word) ∨
          ∃ mark ∈ placeholders, placeholder? e.core = some mark.toList ∧
            normalizeWord word = String.ofList (e.lead ++ mark.toList ++ e.trail)) := by
  have hwords := words_normalizeText text
  refine ⟨fun mode => normalizeText_normalizeText mode text, hwords, ?_, fun word =>
    ⟨Edges.ofToken word.toList, Edges.proper_ofToken _, Edges.token_ofToken _, ?_⟩⟩
  · exact (normalizeText_eq_intercalate text).trans (congrArg " ".intercalate hwords.symm)
  · cases h : placeholder? (Edges.ofToken word.toList).core with
    | none =>
      refine .inl ⟨rfl, ?_⟩
      rw [normalizeWord, normalizeToken_of_isPlain h, String.ofList_toList]
    | some mark =>
      refine .inr ⟨String.ofList mark, mem_placeholders h, ?_, ?_⟩
      · rw [String.toList_ofList]
      · rw [normalizeWord, normalizeToken_of_value h, String.toList_ofList]

end LogAnomaly
