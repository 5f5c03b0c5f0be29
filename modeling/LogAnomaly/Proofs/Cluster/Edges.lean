import LogAnomaly.Cluster.Preparation
import LogAnomaly.Proofs.Text.Case
import Mathlib.Data.List.DropRight

/-!
# Edges of tokens

* `Edges.Proper`: punctuation on both sides of a core that neither begins nor ends with any. Every
  token has one such form (`Edges.proper_ofToken`, `Edges.token_ofToken`) and only one
  (`Edges.Proper.ofToken_token`);
* `Edges.ofToken_lowerFrom`: small letters change the core of a token and leave its edges alone;
* `lowercase_eq_iff`: so two tokens have the same small letters if they stand for the same magic
  word and have the same edges.
-/

namespace LogAnomaly

open LogAnomaly.Text

namespace Edges

/-- The token with these edges. -/
def token (e : Edges) : List Char := e.lead ++ (e.core ++ e.trail)

/-- Punctuation on both sides of a core that neither begins nor ends with any. If there is nothing
else, all of it is in front. -/
structure Proper (e : Edges) : Prop where
  lead_edge : ∀ c ∈ e.lead, isEdge c = true
  trail_edge : ∀ c ∈ e.trail, isEdge c = true
  head_core : ∀ c, e.core.head? = some c → isEdge c = false
  last_core : ∀ c, e.core.getLast? = some c → isEdge c = false
  trail_eq_nil : e.core = [] → e.trail = []

theorem ofToken_eq (token : List Char) :
    ofToken token =
      ⟨token.takeWhile isEdge, (token.dropWhile isEdge).rdropWhile isEdge,
        (token.dropWhile isEdge).rtakeWhile isEdge⟩ := by
  have hdrop : ∀ rest : List Char,
      rest.drop (rest.rdropWhile isEdge).length = rest.rtakeWhile isEdge := fun rest => by
    have h : (rest.rdropWhile isEdge ++ rest.rtakeWhile isEdge).drop
        (rest.rdropWhile isEdge).length = rest.rtakeWhile isEdge := List.drop_left
    rwa [List.rdropWhile_append_rtakeWhile] at h
  exact congrArg (Edges.mk _ _) (hdrop _)

/-- No character of a token is lost. -/
theorem token_ofToken (token : List Char) : (ofToken token).token = token := by
  rw [ofToken_eq, Edges.token, List.rdropWhile_append_rtakeWhile,
    List.takeWhile_append_dropWhile]

theorem proper_ofToken (token : List Char) : (ofToken token).Proper := by
  rw [ofToken_eq]
  generalize hrest : token.dropWhile isEdge = rest
  have hhead : ∀ c, rest.head? = some c → isEdge c = false := fun c hc => by
    have h := List.head?_dropWhile_not isEdge token
    rw [hrest, hc] at h
    exact h
  exact {
    lead_edge := fun c hc => List.mem_takeWhile_imp hc
    trail_edge := fun c hc => List.mem_rtakeWhile_imp hc
    head_core := fun c hc => by
      obtain ⟨after, hafter⟩ := List.rdropWhile_prefix isEdge rest
      refine hhead c ?_
      rw [← hafter, List.head?_append, hc]
      rfl
    last_core := fun c hc => by
      have hne : rest.rdropWhile isEdge ≠ [] := by rintro h; simp [h] at hc
      have hlast := List.rdropWhile_last_not isEdge rest hne
      rw [List.getLast?_eq_some_getLast hne, Option.some_inj] at hc
      rw [← hc]
      simpa using hlast
    trail_eq_nil := fun hcore => by
      cases rest with
      | nil => rfl
      | cons c after =>
        have hall := (List.rdropWhile_eq_nil_iff ..).1 hcore c List.mem_cons_self
        rw [hhead c rfl] at hall
        cases hall }

/-- A token has no other proper edges than those that it is split into. -/
theorem Proper.ofToken_token {e : Edges} (h : e.Proper) : ofToken e.token = e := by
  obtain ⟨lead, core, trail⟩ := e
  obtain ⟨hlead, htrail, hhead, hlast, hnil⟩ := h
  dsimp only at hlead htrail hhead hlast hnil
  have hstop : (core ++ trail).takeWhile isEdge = [] ∧
      (core ++ trail).dropWhile isEdge = core ++ trail := by
    cases core with
    | nil => rw [hnil rfl]; exact ⟨rfl, rfl⟩
    | cons c core =>
      have hc : ¬ isEdge c = true := by simp [hhead c rfl]
      exact ⟨List.takeWhile_cons_of_neg hc, List.dropWhile_cons_of_neg hc⟩
  have hcore : (core ++ trail).rdropWhile isEdge = core := by
    have hself : core.rdropWhile isEdge = core := by
      refine List.rdropWhile_eq_self_iff.2 fun hne => ?_
      simp [hlast _ (List.getLast?_eq_some_getLast hne)]
    rw [List.rdropWhile, List.reverse_append,
      List.dropWhile_append_of_pos fun c hc => htrail c (List.mem_reverse.1 hc)]
    exact hself
  have hbehind : (core ++ trail).rtakeWhile isEdge = trail := by
    have h := List.rdropWhile_append_rtakeWhile (p := isEdge) (l := core ++ trail)
    rw [hcore] at h
    exact List.append_cancel_left h
  rw [ofToken_eq, Edges.token]
  dsimp only
  rw [List.takeWhile_append_of_pos hlead, List.dropWhile_append_of_pos hlead, hstop.1, hstop.2,
    hcore, hbehind, List.append_nil]

/-! ## Small letters -/

/-- What holds of all marks holds of every edge character. -/
theorem of_isEdge {P : Char → Prop} [DecidablePred P]
    (h : ['(', ')', '[', ']', '{', '}', '<', '>', ',', ';', '"', '\'', '.'].all (P ·) = true)
    {c : Char} (hc : isEdge c = true) : P c :=
  of_decide_eq_true (List.all_eq_true.1 h c (List.contains_iff_mem.1 hc))

theorem caseless_of_isEdge {c : Char} (h : isEdge c = true) : Caseless c := by
  have hmarks : isCased c = false ∧ lowerChar c = [c] ∧ c ≠ 'Σ' :=
    of_isEdge (P := fun c => isCased c = false ∧ lowerChar c = [c] ∧ c ≠ 'Σ') (by decide +kernel) h
  exact ⟨hmarks.1, hmarks.2.1, hmarks.2.2⟩

/-- No mark is among the small letters of ASCII or beyond ASCII. -/
theorem isEdge_ofNat {n : Nat} (h : (0x61 ≤ n ∧ n ≤ 0x7A) ∨ 0x7F ≤ n) :
    isEdge (Char.ofNat n) = false := by
  have hcode : (Char.ofNat n).toNat = n ∨ (Char.ofNat n).toNat = 0 := by
    rw [Char.ofNat]
    by_cases hvalid : n.isValidChar
    · rw [dif_pos hvalid]
      exact .inl rfl
    · rw [dif_neg hvalid]
      exact .inr rfl
  refine Bool.eq_false_iff.2 fun hedge => ?_
  have hmark := of_isEdge
    (P := fun c => 0 < c.toNat ∧ c.toNat < 0x7F ∧ (c.toNat < 0x61 ∨ 0x7A < c.toNat))
    (by decide) hedge
  omega

theorem isEdge_lowerChar {c d : Char} (hc : isEdge c = false) (hd : d ∈ lowerChar c) :
    isEdge d = false := by
  have hsequences : ∀ entry ∈ lowerSequences, ∀ n ∈ entry.2,
      (0x61 ≤ n ∧ n ≤ 0x7A) ∨ 0x7F ≤ n := by decide
  have hruns : ∀ run ∈ lowerRuns,
      (0x61 ≤ run.first + run.shift ∧ run.last + run.shift ≤ 0x7A) ∨
        0x7F ≤ run.first + run.shift := by decide +kernel
  unfold lowerChar mapCase at hd
  split at hd
  · rename_i image himage
    obtain ⟨before, after, hentries, -⟩ := List.lookup_eq_some_iff.1 himage
    obtain ⟨n, hn, rfl⟩ := List.mem_map.1 hd
    exact isEdge_ofNat (hsequences (c.toNat, image) (by simp [hentries]) n hn)
  · split at hd
    · rename_i n hn
      obtain ⟨run, hrun, himage⟩ := List.exists_of_findSome?_eq_some hn
      unfold CaseRun.image? at himage
      split at himage
      · rename_i hrange
        rw [List.mem_singleton.1 hd, ← Option.some.inj himage]
        simp only [Bool.and_eq_true, decide_eq_true_eq] at hrange
        have := hruns run hrun
        exact isEdge_ofNat (by omega)
      · cases himage
    · rw [List.mem_singleton.1 hd]
      exact hc

theorem isEdge_smallForm {c d : Char} {form : List Char} (h : SmallForm c form)
    (hc : isEdge c = false) (hd : d ∈ form) : isEdge d = false := by
  cases h with
  | alone => exact isEdge_lowerChar hc hd
  | sigma =>
    rw [List.mem_singleton.1 hd]
    decide
  | finalSigma =>
    rw [List.mem_singleton.1 hd]
    decide

/-- The edges with the core in small letters. -/
def lowered (e : Edges) : Edges := { e with core := lowerFrom false e.core }

theorem Proper.lowered {e : Edges} (h : e.Proper) : e.lowered.Proper where
  lead_edge := h.lead_edge
  trail_edge := h.trail_edge
  head_core c hc := by
    cases hcore : e.core with
    | nil => simp [Edges.lowered, hcore, lowerFrom] at hc
    | cons d core =>
      obtain ⟨form, after, hlower, hform⟩ := lowerFrom_cons false d core
      rw [Edges.lowered, hcore, hlower, List.head?_append_of_ne_nil _ hform.ne_nil] at hc
      exact isEdge_smallForm hform (h.head_core d (by rw [hcore]; rfl)) (List.mem_of_head? hc)
  last_core c hc := by
    rcases List.eq_nil_or_concat' e.core with hcore | ⟨core, d, hcore⟩
    · simp [Edges.lowered, hcore, lowerFrom] at hc
    · obtain ⟨before, form, hlower, hform⟩ := lowerFrom_concat false core d
      rw [Edges.lowered, hcore, hlower, List.getLast?_append_of_ne_nil _ hform.ne_nil] at hc
      exact isEdge_smallForm hform (h.last_core d (by simp [hcore])) (List.mem_of_getLast? hc)
  trail_eq_nil hcore := by
    refine h.trail_eq_nil ?_
    cases hold : e.core with
    | nil => rfl
    | cons d core =>
      obtain ⟨form, after, hlower, hform⟩ := lowerFrom_cons false d core
      rw [Edges.lowered, hold, hlower] at hcore
      exact absurd (List.append_eq_nil_iff.1 hcore).1 hform.ne_nil

theorem Proper.token_lowered {e : Edges} (h : e.Proper) :
    e.lowered.token = lowerFrom false e.token := by
  have hlead : ∀ c ∈ e.lead, Caseless c := fun c hc => caseless_of_isEdge (h.lead_edge c hc)
  have htrail : ∀ c ∈ e.trail, Caseless c := fun c hc => caseless_of_isEdge (h.trail_edge c hc)
  rw [Edges.token, Edges.token, lowerFrom_append_left hlead, lowerFrom_append_right htrail]
  rfl

/-- Small letters leave the edges of a token alone. -/
theorem ofToken_lowerFrom (token : List Char) :
    ofToken (lowerFrom false token) = (ofToken token).lowered := by
  have hproper := proper_ofToken token
  have htoken := hproper.token_lowered
  rw [token_ofToken] at htoken
  rw [← htoken, hproper.lowered.ofToken_token]

end Edges

/-- The punctuation at the ends of a token. -/
def tokenEdges (token : String) : List Char × List Char :=
  let e := Edges.ofToken token.toList
  (e.lead, e.trail)

theorem ofToken_lowercase (token : String) :
    Edges.ofToken (lowercase token).toList = (Edges.ofToken token.toList).lowered := by
  rw [lowercase, String.toList_ofList, Edges.ofToken_lowerFrom]

theorem magicForm_eq (token : String) :
    magicForm token = String.ofList (Edges.ofToken token.toList).lowered.core := by
  rw [magicForm, lowercase, String.toList_ofList]
  rfl

/-- Tokens have the same small letters if they stand for the same magic word and have the same
edges. -/
theorem lowercase_eq_iff (s t : String) :
    lowercase s = lowercase t ↔ magicForm s = magicForm t ∧ tokenEdges s = tokenEdges t := by
  rw [magicForm_eq, magicForm_eq, String.ofList_inj]
  constructor
  · intro h
    have heq : (Edges.ofToken s.toList).lowered = (Edges.ofToken t.toList).lowered := by
      rw [← ofToken_lowercase, ← ofToken_lowercase, h]
    exact ⟨congrArg (·.core) heq, congrArg (fun e => (e.lead, e.trail)) heq⟩
  · rintro ⟨hcore, hedges⟩
    obtain ⟨hlead, htrail⟩ := Prod.mk.inj hedges
    have heq : (Edges.ofToken s.toList).lowered = (Edges.ofToken t.toList).lowered :=
      (Edges.mk.injEq ..).mpr ⟨hlead, hcore, htrail⟩
    have htoken := congrArg Edges.token heq
    rw [← ofToken_lowercase, ← ofToken_lowercase, Edges.token_ofToken,
      Edges.token_ofToken] at htoken
    exact String.toList_injective htoken

end LogAnomaly
