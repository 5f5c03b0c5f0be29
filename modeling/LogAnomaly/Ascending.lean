/-!
# Ascending lists

* `ascending`: the elements of a list in ascending order, each once;
* `IdSet`, `IdMap`: a set of numbers, and a map from numbers, as ascending lists.
-/

namespace LogAnomaly

/-- The elements of a sorted list, each once. -/
def dedupSorted : List Nat → List Nat
  | [] => []
  | [a] => [a]
  | a :: b :: rest => if a = b then dedupSorted (b :: rest) else a :: dedupSorted (b :: rest)

/-- The elements of a list in ascending order, each once. -/
def ascending (s : List Nat) : List Nat := dedupSorted (s.mergeSort (· ≤ ·))

theorem mem_dedupSorted {a : Nat} {s : List Nat} : a ∈ dedupSorted s ↔ a ∈ s := by
  fun_induction dedupSorted s with
  | case1 => simp
  | case2 => simp
  | case3 b rest ih => simp [ih]
  | case4 b c rest hne ih => simp [ih]

theorem mem_ascending {a : Nat} {s : List Nat} : a ∈ ascending s ↔ a ∈ s := by
  simp [ascending, mem_dedupSorted]

theorem pairwise_dedupSorted {s : List Nat} (h : s.Pairwise (· ≤ ·)) :
    (dedupSorted s).Pairwise (· < ·) := by
  fun_induction dedupSorted s with
  | case1 => simp
  | case2 => simp
  | case3 b rest ih => exact ih h.tail
  | case4 b c rest hne ih =>
    refine List.pairwise_cons.2 ⟨fun x hx => ?_, ih h.tail⟩
    have hb := List.pairwise_cons.1 h
    have hc := List.pairwise_cons.1 hb.2
    have hbc := hb.1 c (by simp)
    rcases List.mem_cons.1 (mem_dedupSorted.1 hx) with rfl | hx
    · omega
    · have := hc.1 x hx
      omega

theorem pairwise_ascending (s : List Nat) : (ascending s).Pairwise (· < ·) := by
  refine pairwise_dedupSorted ?_
  have h : (s.mergeSort (· ≤ ·)).Pairwise fun a b => decide (a ≤ b) = true :=
    List.pairwise_mergeSort (fun a b c hab hbc => by simp at *; omega)
      (fun a b => by simp; omega) s
  exact h.imp fun hab => by simpa using hab

/-- A set of numbers. -/
structure IdSet where
  toList : List Nat
  pairwise : toList.Pairwise (· < ·)
  deriving DecidableEq

namespace IdSet

/-- The set of the elements of a list. -/
def ofList (s : List Nat) : IdSet := ⟨ascending s, pairwise_ascending s⟩

/-- Whether a number is an element. -/
def contains (id : Nat) (s : IdSet) : Bool := s.toList.contains id

end IdSet

/-- A map from numbers. -/
structure IdMap (β : Type) where
  toList : List (Nat × β)
  pairwise : toList.Pairwise fun a b => a.1 < b.1
  deriving DecidableEq

namespace IdMap

variable {β : Type}

/-- The map without any numbers. -/
def empty : IdMap β := ⟨[], .nil⟩

/-- Puts an entry into an ascending list; an entry of the same number is replaced. -/
def insertEntry (id : Nat) (value : β) : List (Nat × β) → List (Nat × β)
  | [] => [(id, value)]
  | entry :: rest =>
    if id < entry.1 then (id, value) :: entry :: rest
    else if id = entry.1 then (id, value) :: rest
    else entry :: insertEntry id value rest

theorem mem_insertEntry {id : Nat} {value : β} {x : Nat × β} {s : List (Nat × β)}
    (h : x ∈ insertEntry id value s) : x = (id, value) ∨ x ∈ s := by
  induction s with
  | nil => simp_all [insertEntry]
  | cons entry rest ih =>
    unfold insertEntry at h
    split at h
    · simpa using h
    · split at h
      · rcases List.mem_cons.1 h with h | h
        · exact .inl h
        · exact .inr (List.mem_cons_of_mem _ h)
      · rcases List.mem_cons.1 h with h | h
        · exact .inr (h ▸ List.mem_cons_self)
        · exact (ih h).imp_right (List.mem_cons_of_mem _)

theorem pairwise_insertEntry (id : Nat) (value : β) {s : List (Nat × β)}
    (h : s.Pairwise fun a b => a.1 < b.1) :
    (insertEntry id value s).Pairwise fun a b => a.1 < b.1 := by
  induction s with
  | nil => simp [insertEntry]
  | cons entry rest ih =>
    have hrest := List.pairwise_cons.1 h
    unfold insertEntry
    split
    · rename_i hlt
      refine List.pairwise_cons.2 ⟨fun x hx => ?_, h⟩
      rcases List.mem_cons.1 hx with rfl | hx
      · exact hlt
      · exact Nat.lt_trans hlt (hrest.1 x hx)
    · split
      · rename_i heq
        exact List.pairwise_cons.2 ⟨fun x hx => heq ▸ hrest.1 x hx, hrest.2⟩
      · refine List.pairwise_cons.2 ⟨fun x hx => ?_, ih hrest.2⟩
        rcases mem_insertEntry hx with rfl | hx
        · simp only
          omega
        · exact hrest.1 x hx

/-- Sets the value of a number. -/
def insert (id : Nat) (value : β) (m : IdMap β) : IdMap β :=
  ⟨insertEntry id value m.toList, pairwise_insertEntry id value m.pairwise⟩

/-- The map with the given entries; the last one of a number counts. -/
def ofList (entries : List (Nat × β)) : IdMap β :=
  entries.foldl (fun m entry => m.insert entry.1 entry.2) empty

/-- The value of a number. -/
def get? (id : Nat) (m : IdMap β) : Option β := m.toList.lookup id

/-- An entry of a number that is greater than all others goes to the end. -/
theorem insertEntry_of_lt {id : Nat} (value : β) {s : List (Nat × β)} (h : ∀ x ∈ s, x.1 < id) :
    insertEntry id value s = s ++ [(id, value)] := by
  induction s with
  | nil => rfl
  | cons entry rest ih =>
    have hlt := h entry List.mem_cons_self
    rw [insertEntry, if_neg (Nat.lt_asymm hlt), if_neg (Nat.ne_of_gt hlt),
      ih fun x hx => h x (List.mem_cons_of_mem _ hx)]
    rfl

/-- The map of ascending entries has just these. -/
theorem toList_ofList {entries : List (Nat × β)} (h : entries.Pairwise fun a b => a.1 < b.1) :
    (ofList entries).toList = entries := by
  have hfold : ∀ (rest : List (Nat × β)) (m : IdMap β),
      (m.toList ++ rest).Pairwise (fun a b => a.1 < b.1) →
      (rest.foldl (fun m entry => m.insert entry.1 entry.2) m).toList = m.toList ++ rest := by
    intro rest
    induction rest with
    | nil => simp
    | cons entry rest ih =>
      intro m hpairs
      have hlast : (m.insert entry.1 entry.2).toList = m.toList ++ [entry] :=
        insertEntry_of_lt entry.2 fun x hx =>
          (List.pairwise_append.1 hpairs).2.2 x hx entry List.mem_cons_self
      have hassoc : (m.insert entry.1 entry.2).toList ++ rest = m.toList ++ entry :: rest := by
        rw [hlast, List.append_assoc]
        rfl
      rw [List.foldl_cons, ih _ (hassoc ▸ hpairs), hassoc]
  exact hfold entries empty h

theorem get?_eq_some_iff {m : IdMap β} {id : Nat} {value : β} :
    m.get? id = some value ↔ (id, value) ∈ m.toList := by
  obtain ⟨s, hpairs⟩ := m
  show s.lookup id = some value ↔ (id, value) ∈ s
  induction s with
  | nil => simp
  | cons entry rest ih =>
    have hrest := List.pairwise_cons.1 hpairs
    by_cases hid : id = entry.1
    · have hnot : (id, value) ∉ rest := fun hmem =>
        Nat.ne_of_gt (hrest.1 (id, value) hmem) hid
      have hlookup : (entry :: rest).lookup id = some entry.2 := by
        rw [hid]
        exact List.lookup_cons_self
      rw [hlookup, List.mem_cons, or_iff_left hnot, Prod.ext_iff, Option.some_inj]
      exact ⟨fun h => ⟨hid, h.symm⟩, fun h => h.2.symm⟩
    · have hne : (id, value) ≠ entry := fun h => hid (congrArg Prod.fst h)
      have hlookup : (entry :: rest).lookup id = rest.lookup id := by
        rw [List.lookup_cons, beq_false_of_ne hid]
      rw [hlookup, ih hrest.2, List.mem_cons, or_iff_right hne]

end IdMap

end LogAnomaly
