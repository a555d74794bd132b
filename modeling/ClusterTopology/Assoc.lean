/-!
# Association lists

Lists of pairs read as tables: the value of a key is that of the first pair
with this key.  The order of pairs is kept by every operation.

## Main definitions

* `Assoc.set` — the table after a key is given a value.
* `Assoc.present` — the table of those keys that have a value.

## Main results

* `Assoc.lookup_set` — setting a key changes the value of this key only.
* `Assoc.lookup_present` — a table of distinct keys has, for each key, the value it
  was given.
* `Assoc.lookup_eq_of_perm`, `Assoc.lookup_zip` — tables of distinct keys in another order,
  and tables that are given by a list of keys and one of values.
-/

namespace ClusterTopology.Assoc

variable {κ β : Type} [DecidableEq κ]

/-- The table after `k` is given the value `b`: at its place if it has one, and
else at the end. -/
def set (k : κ) (b : β) : List (κ × β) → List (κ × β)
  | [] => [(k, b)]
  | e :: es => if e.1 = k then (k, b) :: es else e :: set k b es

omit [DecidableEq κ] in
/-- The table of those keys that have a value. -/
def present : List (κ × Option β) → List (κ × β)
  | [] => []
  | (k, some b) :: es => (k, b) :: present es
  | (_, none) :: es => present es

theorem lookup_cons_eq_ite (k : κ) (e : κ × β) (es : List (κ × β)) :
    (e :: es).lookup k = if k = e.1 then some e.2 else es.lookup k := by
  obtain ⟨k', b⟩ := e
  rw [List.lookup_cons]
  by_cases h : k = k'
  · simp [h]
  · have hbeq : (k == k') = false := by simpa using h
    simp [hbeq, h]

@[simp] theorem lookup_set (k k' : κ) (b : β) (es : List (κ × β)) :
    (set k b es).lookup k' = if k' = k then some b else es.lookup k' := by
  induction es with
  | nil => rw [set, lookup_cons_eq_ite]
  | cons e es ih =>
    rw [set]
    split
    · next he =>
      rw [lookup_cons_eq_ite, lookup_cons_eq_ite]
      by_cases h : k' = k <;> simp [h, he]
    · next he =>
      rw [lookup_cons_eq_ite, lookup_cons_eq_ite, ih]
      by_cases h : k' = e.1
      · simp [h, he]
      · simp [h]

theorem lookup_eq_none_of_notMem {k : κ} {es : List (κ × β)} (h : k ∉ es.map (·.1)) :
    es.lookup k = none := by
  induction es with
  | nil => rfl
  | cons e es ih =>
    rw [List.map_cons, List.mem_cons, not_or] at h
    rw [lookup_cons_eq_ite, if_neg h.1, ih h.2]

theorem lookup_of_mem {k : κ} {b : β} {es : List (κ × β)} (h : (es.map (·.1)).Nodup)
    (hmem : (k, b) ∈ es) : es.lookup k = some b := by
  induction es with
  | nil => exact absurd hmem List.not_mem_nil
  | cons e es ih =>
    obtain ⟨hhead, htail⟩ := List.nodup_cons.mp h
    rw [lookup_cons_eq_ite]
    rcases List.mem_cons.mp hmem with rfl | hmem
    · rw [if_pos rfl]
    · have hkey : k ∈ es.map (·.1) := List.mem_map_of_mem hmem
      have hne : k ≠ e.1 := by
        rintro rfl
        exact hhead hkey
      rw [if_neg hne, ih htail hmem]

/-- A table of distinct keys has, for each key, the value it was given. -/
theorem lookup_present {es : List (κ × Option β)} (h : (es.map (·.1)).Nodup) (k : κ) :
    (present es).lookup k = (es.lookup k).join := by
  induction es with
  | nil => rfl
  | cons e es ih =>
    obtain ⟨hhead, htail⟩ := List.nodup_cons.mp h
    obtain ⟨k', _ | b⟩ := e
    · rw [present, ih htail, lookup_cons_eq_ite]
      by_cases hk : k = k'
      · subst hk
        simp [lookup_eq_none_of_notMem hhead]
      · simp [hk]
    · rw [present, lookup_cons_eq_ite, lookup_cons_eq_ite, ih htail]
      by_cases hk : k = k' <;> simp [hk]

theorem lookup_middle (before after : List (κ × β)) (k k' : κ) (b : β) :
    (before ++ (k', b) :: after).lookup k =
      (before.lookup k).or (if k = k' then some b else after.lookup k) := by
  rw [List.lookup_append, lookup_cons_eq_ite]

theorem lookup_insert_of_ne {k k' : κ} (h : k ≠ k') (before after : List (κ × β)) (b : β) :
    (before ++ (k', b) :: after).lookup k = (before ++ after).lookup k := by
  rw [lookup_middle, if_neg h, List.lookup_append]

theorem lookup_insert_self {k : κ} {before after : List (κ × β)}
    (h : k ∉ (before ++ after).map (·.1)) (b : β) :
    (before ++ (k, b) :: after).lookup k = some b := by
  have hbefore : k ∉ before.map (·.1) := by
    intro hk
    rw [List.map_append] at h
    exact h (List.mem_append_left _ hk)
  rw [lookup_middle, lookup_eq_none_of_notMem hbefore, Option.none_or, if_pos rfl]

/-- A table of distinct keys has the same values in every order. -/
theorem lookup_eq_of_perm {es es' : List (κ × β)} (hkeys : (es.map (·.1)).Nodup)
    (h : es.Perm es') (k : κ) : es.lookup k = es'.lookup k := by
  have hperm : (es.map (·.1)).Perm (es'.map (·.1)) := h.map _
  by_cases hk : k ∈ es.map (·.1)
  · obtain ⟨⟨k, b⟩, hmem, rfl⟩ := List.mem_map.mp hk
    rw [lookup_of_mem hkeys hmem, lookup_of_mem (hperm.nodup hkeys) (h.mem_iff.mp hmem)]
  · rw [lookup_eq_none_of_notMem hk, lookup_eq_none_of_notMem (mt hperm.mem_iff.mpr hk)]

/-- In a table that is given by a list of keys and one of values, a key has the value at its
place. -/
theorem lookup_zip {ks : List κ} (hks : ks.Nodup) {i : Nat} {k : κ} (hi : ks[i]? = some k)
    (bs : List β) : (ks.zip bs).lookup k = bs[i]? := by
  induction ks generalizing i bs with
  | nil => cases hi
  | cons k' ks ih =>
    obtain ⟨hhead, htail⟩ := List.nodup_cons.mp hks
    cases bs with
    | nil => rw [List.zip_nil_right, List.lookup_nil, List.getElem?_nil]
    | cons b bs =>
      rw [List.zip_cons_cons, lookup_cons_eq_ite]
      cases i with
      | zero =>
        obtain rfl := Option.some.inj hi
        rw [if_pos rfl, List.getElem?_cons_zero]
      | succ i =>
        have hmem : k ∈ ks := List.mem_of_getElem? hi
        have hne : k ≠ k' := by
          rintro rfl
          exact hhead hmem
        rw [if_neg hne, ih htail hi, List.getElem?_cons_succ]

end ClusterTopology.Assoc
