import ClusterTopology.Assoc

/-!
# Sorted maps

Finite maps kept as lists of entries whose keys increase strictly.  Two maps
with the same entries are therefore the same value, so equality of maps is plain
equality, and listing a map gives its entries in key order whatever order they
were inserted in.

## Main definitions

* `SortedMap κ β` — a map from keys in `κ` to values in `β`.
* `SortedMap.insert`, `SortedMap.get?`, `SortedMap.toList` — the usual operations.
* `SortedMap.ofList` — the map of a list of pairs, of a repeated key the last.

## Main results

* `SortedMap.get?_insert` — an insertion changes the value of its own key only.
* `SortedMap.mem_toList_iff` — the entries are the pairs that a look-up finds.
* `SortedMap.ext_of_get?` — look-ups determine a map.
* `SortedMap.ofList_toList` — a map is made again from its entries.
-/

namespace ClusterTopology

/-- A finite map, as the list of its entries in strictly increasing key order. -/
@[ext] structure SortedMap (κ : Type) (β : Type) [LT κ] where
  /-- The entries, in key order. -/
  toList : List (κ × β)
  /-- The keys increase strictly. -/
  sorted : toList.Pairwise (·.1 < ·.1)

namespace SortedMap

variable {κ β : Type} [LT κ]

instance [DecidableEq κ] [DecidableEq β] : DecidableEq (SortedMap κ β) := fun a b =>
  decidable_of_iff (a.toList = b.toList) SortedMap.ext_iff.symm

/-- The map without entries. -/
def empty : SortedMap κ β := ⟨[], .nil⟩

instance : Inhabited (SortedMap κ β) := ⟨empty⟩

/-- The keys in order. -/
def keys (m : SortedMap κ β) : List κ := m.toList.map (·.1)

/-- The number of entries. -/
def size (m : SortedMap κ β) : Nat := m.toList.length

/-- Whether there is no entry. -/
def isEmpty (m : SortedMap κ β) : Bool := m.toList.isEmpty

/-- The value of a key. -/
def get? [DecidableEq κ] (m : SortedMap κ β) (k : κ) : Option β := m.toList.lookup k

/-- The value of a key, or `d` if it has none. -/
def getD [DecidableEq κ] (m : SortedMap κ β) (k : κ) (d : β) : β := (m.get? k).getD d

@[simp] theorem toList_empty : (empty : SortedMap κ β).toList = [] := rfl

@[simp] theorem get?_empty [DecidableEq κ] (k : κ) : (empty : SortedMap κ β).get? k = none := rfl

@[simp] theorem isEmpty_iff {m : SortedMap κ β} : m.isEmpty = true ↔ m = empty := by
  simp [isEmpty, SortedMap.ext_iff]

/-! ### Insertion -/

section Insert

variable [DecidableLT κ]

/-- The entries after the key `k` is given the value `b`. -/
def insertEntry (k : κ) (b : β) : List (κ × β) → List (κ × β)
  | [] => [(k, b)]
  | e :: es =>
    if k < e.1 then (k, b) :: e :: es
    else if e.1 < k then e :: insertEntry k b es
    else (k, b) :: es

theorem mem_insertEntry {k : κ} {b : β} {e : κ × β} {es : List (κ × β)}
    (h : e ∈ insertEntry k b es) : e = (k, b) ∨ e ∈ es := by
  induction es with
  | nil => simpa [insertEntry] using h
  | cons e' es ih =>
    rw [insertEntry] at h
    split at h
    · simpa using h
    · split at h
      · rcases List.mem_cons.mp h with rfl | h
        · simp
        · rcases ih h with h | h <;> simp [h]
      · rcases List.mem_cons.mp h with rfl | h <;> simp_all

variable [LE κ] [Std.IsLinearOrder κ] [Std.LawfulOrderLT κ]

omit [DecidableLT κ] in
/-- Keys of which neither is smaller are equal. -/
theorem eq_of_not_lt {a b : κ} (hab : ¬ a < b) (hba : ¬ b < a) : a = b :=
  Std.le_antisymm (Std.not_lt.mp hba) (Std.not_lt.mp hab)

theorem sorted_insertEntry (k : κ) (b : β) {es : List (κ × β)}
    (h : es.Pairwise (·.1 < ·.1)) : (insertEntry k b es).Pairwise (·.1 < ·.1) := by
  induction es with
  | nil => simp [insertEntry]
  | cons e es ih =>
    obtain ⟨hhead, htail⟩ := List.pairwise_cons.mp h
    rw [insertEntry]
    split
    · next hlt =>
      refine List.pairwise_cons.mpr ⟨fun e' he' => ?_, h⟩
      rcases List.mem_cons.mp he' with rfl | he'
      · exact hlt
      · exact Std.lt_trans hlt (hhead e' he')
    · next hnlt =>
      split
      · next hgt =>
        refine List.pairwise_cons.mpr ⟨fun e' he' => ?_, ih htail⟩
        rcases mem_insertEntry he' with rfl | he'
        · exact hgt
        · exact hhead e' he'
      · next hngt =>
        have hk : k = e.1 := eq_of_not_lt hnlt hngt
        exact List.pairwise_cons.mpr ⟨fun e' he' => hk ▸ hhead e' he', htail⟩

/-- The map in which the key `k` has the value `b`, whatever it had before. -/
def insert (m : SortedMap κ β) (k : κ) (b : β) : SortedMap κ β :=
  ⟨insertEntry k b m.toList, sorted_insertEntry k b m.sorted⟩

/-- The map of a list of pairs; of a repeated key the last pair counts. -/
def ofList (pairs : List (κ × β)) : SortedMap κ β :=
  pairs.foldl (fun m pair => m.insert pair.1 pair.2) empty

omit [Std.IsLinearOrder κ] in
/-- A key that is larger than all others is inserted at the end. -/
theorem insertEntry_of_forall_lt {k : κ} {b : β} {es : List (κ × β)} (h : ∀ e ∈ es, e.1 < k) :
    insertEntry k b es = es ++ [(k, b)] := by
  induction es with
  | nil => rfl
  | cons e es ih =>
    obtain ⟨hlt, hlts⟩ := List.forall_mem_cons.mp h
    rw [insertEntry, if_neg (Std.not_gt_of_lt hlt), if_pos hlt, ih hlts, List.cons_append]

theorem toList_foldl_insert {m : SortedMap κ β} {es : List (κ × β)}
    (h : (m.toList ++ es).Pairwise (·.1 < ·.1)) :
    (es.foldl (fun m e => m.insert e.1 e.2) m).toList = m.toList ++ es := by
  induction es generalizing m with
  | nil => exact (List.append_nil _).symm
  | cons e es ih =>
    have hbelow : ∀ e' ∈ m.toList, e'.1 < e.1 := fun e' he' =>
      (List.pairwise_append.mp h).2.2 e' he' e List.mem_cons_self
    have hinsert : (m.insert e.1 e.2).toList = m.toList ++ [e] :=
      insertEntry_of_forall_lt hbelow
    have hassoc : m.toList ++ e :: es = (m.insert e.1 e.2).toList ++ es := by
      rw [hinsert, List.append_assoc, List.singleton_append]
    rw [List.foldl_cons, hassoc]
    rw [hassoc] at h
    exact ih h

/-- A map is made again from its entries. -/
@[simp] theorem ofList_toList (m : SortedMap κ β) : ofList m.toList = m :=
  SortedMap.ext (toList_foldl_insert m.sorted)

end Insert

/-! ### Look-up -/

section Lookup

variable [DecidableEq κ]

variable [LE κ] [Std.IsLinearOrder κ] [Std.LawfulOrderLT κ]

theorem lookup_insertEntry [DecidableLT κ] (k k' : κ) (b : β) (es : List (κ × β)) :
    (insertEntry k b es).lookup k' = if k' = k then some b else es.lookup k' := by
  induction es with
  | nil => rw [insertEntry, Assoc.lookup_cons_eq_ite]
  | cons e es ih =>
    rw [insertEntry]
    split
    · rw [Assoc.lookup_cons_eq_ite]
    · next hnlt =>
      split
      · next hgt =>
        have hne : k ≠ e.1 := fun h => Std.lt_irrefl (h ▸ hgt)
        rw [Assoc.lookup_cons_eq_ite, Assoc.lookup_cons_eq_ite, ih]
        by_cases h : k' = e.1
        · simp [h, Ne.symm hne]
        · simp [h]
      · next hngt =>
        have hk : k = e.1 := eq_of_not_lt hnlt hngt
        rw [Assoc.lookup_cons_eq_ite, Assoc.lookup_cons_eq_ite, ← hk]
        by_cases h : k' = k <;> simp [h]

@[simp] theorem get?_insert [DecidableLT κ] (m : SortedMap κ β) (k k' : κ) (b : β) :
    (m.insert k b).get? k' = if k' = k then some b else m.get? k' :=
  lookup_insertEntry k k' b m.toList

omit [Std.IsLinearOrder κ] in
/-- The entries of a map are the pairs that a look-up finds. -/
theorem mem_toList_iff {m : SortedMap κ β} {k : κ} {b : β} :
    (k, b) ∈ m.toList ↔ m.get? k = some b := by
  obtain ⟨es, hes⟩ := m
  show (k, b) ∈ es ↔ es.lookup k = some b
  induction es with
  | nil => simp
  | cons e es ih =>
    obtain ⟨hhead, htail⟩ := List.pairwise_cons.mp hes
    rw [List.mem_cons, ih htail, Assoc.lookup_cons_eq_ite]
    by_cases h : k = e.1
    · subst h
      -- strictly larger keys follow, so this is the only entry of its key
      have hnone : ¬ es.lookup e.1 = some b := fun hb =>
        Std.lt_irrefl (hhead (e.1, b) ((ih htail).mpr hb))
      simp [hnone, Prod.ext_iff, eq_comm]
    · simp [h, Prod.ext_iff]

/-- A map is determined by the values of its keys. -/
theorem ext_of_get? {m n : SortedMap κ β} (h : ∀ k, m.get? k = n.get? k) : m = n := by
  have hnodup : ∀ l : SortedMap κ β, l.toList.Nodup := by
    intro l
    refine l.sorted.imp ?_
    rintro e _ hlt rfl
    exact Std.lt_irrefl hlt
  have hperm : m.toList.Perm n.toList := by
    refine (List.perm_ext_iff_of_nodup (hnodup m) (hnodup n)).mpr ?_
    rintro ⟨k, b⟩
    rw [mem_toList_iff, mem_toList_iff, h]
  -- both lists increase strictly, so there is one order only
  have hlist : m.toList = n.toList := by
    refine hperm.eq_of_pairwise ?_ m.sorted n.sorted
    intro e e' _ _ hlt hgt
    exact absurd (Std.lt_trans hlt hgt) Std.lt_irrefl
  exact SortedMap.ext hlist

theorem insert_comm [DecidableLT κ] (m : SortedMap κ β) {k k' : κ} (hk : k ≠ k') (b b' : β) :
    (m.insert k b).insert k' b' = (m.insert k' b').insert k b := by
  apply ext_of_get?
  intro l
  simp only [get?_insert]
  by_cases hl : l = k
  · subst hl
    simp [hk]
  · simp [hl]

end Lookup

end SortedMap

end ClusterTopology
