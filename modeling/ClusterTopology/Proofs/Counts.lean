import Mathlib.Data.List.Nodup
import Mathlib.Data.Nat.Basic
import Mathlib.Order.Basic
import ClusterTopology.Usage

/-!
# Counting uses

What the operations on usages do to their entries and counts.  A usage stands for a
set of slots, one for each fingerprint and each number below its count; counting one
more use fills the next slot of a fingerprint, and the supremum of usages has the
slots of all of them.

## Main definitions

* `f ∈ u` — the fingerprint `f` has an entry in the usage `u`.
* `Usage.addAll` — one more use of each fingerprint of a list.
* `Usage.slots` — the fingerprints with the numbers below their counts.

## Main results

* `Usage.ext_of_get` — entries and counts determine a usage.
* `Usage.get_addAll`, `Usage.mem_addAll` — the counts and entries after a list of uses.
* `Usage.lt_get_foldl_sup`, `Usage.mem_foldl_sup` — those of a supremum of usages.
* `Usage.foldl_increment_eq_addAll` — a list of uses counted in 64 bits.
* `Usage.addAll_eq_of_perm`, `Usage.foldl_sup_congr` — order does not matter to a list of
  uses, and neither order nor repetition to a supremum.
* `Usage.length_slots` — the total of a usage is its number of slots.
-/

namespace ClusterTopology
namespace Usage

/-! ### Entries -/

/-- A fingerprint belongs to a usage that has an entry for it, be its count zero. -/
instance : Membership Fingerprint Usage := ⟨fun u f => f ∈ u.counts.keys⟩

theorem mem_iff_exists {u : Usage} {f : Fingerprint} : f ∈ u ↔ ∃ n, (f, n) ∈ u.toList := by
  constructor
  · intro h
    obtain ⟨⟨g, n⟩, he, rfl⟩ := List.mem_map.mp h
    exact ⟨n, he⟩
  · rintro ⟨n, he⟩
    exact List.mem_map.mpr ⟨(f, n), he, rfl⟩

theorem mem_iff_isSome {u : Usage} {f : Fingerprint} : f ∈ u ↔ (u.counts.get? f).isSome := by
  rw [mem_iff_exists, Option.isSome_iff_exists]
  exact exists_congr fun n => SortedMap.mem_toList_iff

theorem mem_toList_iff {u : Usage} {f : Fingerprint} {n : Nat} :
    (f, n) ∈ u.toList ↔ f ∈ u ∧ u.get f = n := by
  rw [mem_iff_isSome, get, SortedMap.getD]
  refine SortedMap.mem_toList_iff.trans ?_
  cases u.counts.get? f <;> simp

theorem get_eq_zero_of_notMem {u : Usage} {f : Fingerprint} (h : f ∉ u) : u.get f = 0 := by
  rw [mem_iff_isSome, Option.not_isSome_iff_eq_none] at h
  rw [get, SortedMap.getD, h, Option.getD_none]

theorem mem_of_lt_get {u : Usage} {f : Fingerprint} {i : Nat} (h : i < u.get f) : f ∈ u := by
  by_contra hf
  rw [get_eq_zero_of_notMem hf] at h
  omega

theorem nodup_keys (u : Usage) : u.counts.keys.Nodup := by
  refine List.pairwise_map.mpr (u.counts.sorted.imp ?_)
  intro e e' hlt heq
  exact Std.lt_irrefl (heq ▸ hlt)

/-- A usage is determined by its entries and their counts. -/
theorem ext_of_get {u v : Usage} (hmem : ∀ f, f ∈ u ↔ f ∈ v) (hget : ∀ f, u.get f = v.get f) :
    u = v := by
  have hentry : ∀ f n, (f, n) ∈ u.toList ↔ (f, n) ∈ v.toList := by
    intro f n
    rw [mem_toList_iff, mem_toList_iff, hmem, hget]
  refine Usage.ext (SortedMap.ext_of_get? fun f => Option.ext fun n => ?_)
  exact SortedMap.mem_toList_iff.symm.trans ((hentry f n).trans SortedMap.mem_toList_iff)

@[simp] theorem notMem_empty (f : Fingerprint) : f ∉ empty := List.not_mem_nil

@[simp] theorem mem_add {u : Usage} {f g : Fingerprint} : g ∈ u.add f ↔ g = f ∨ g ∈ u := by
  rw [mem_iff_isSome, mem_iff_isSome, add, SortedMap.get?_insert]
  by_cases h : g = f <;> simp [h]

@[simp] theorem mem_raise {u : Usage} {f g : Fingerprint} {n : Nat} :
    g ∈ u.raise f n ↔ g = f ∨ g ∈ u := by
  rw [mem_iff_isSome, mem_iff_isSome, raise, SortedMap.get?_insert]
  by_cases h : g = f <;> simp [h]

/-! ### Lists of uses -/

/-- The usage after one more use of each fingerprint of a list. -/
def addAll (u : Usage) (fs : List Fingerprint) : Usage := fs.foldl add u

@[simp] theorem addAll_nil (u : Usage) : u.addAll [] = u := rfl

@[simp] theorem addAll_cons (u : Usage) (f : Fingerprint) (fs : List Fingerprint) :
    u.addAll (f :: fs) = (u.add f).addAll fs := rfl

theorem addAll_append (u : Usage) (fs gs : List Fingerprint) :
    u.addAll (fs ++ gs) = (u.addAll fs).addAll gs :=
  List.foldl_append

/-- After a list of uses, each count has grown by the number of uses in the list. -/
theorem get_addAll (u : Usage) (fs : List Fingerprint) (g : Fingerprint) :
    (u.addAll fs).get g = u.get g + fs.count g := by
  induction fs generalizing u with
  | nil => rfl
  | cons f fs ih =>
    rw [addAll_cons, ih, get_add, List.count_cons]
    by_cases h : g = f
    · subst h
      simp only [if_true, beq_self_eq_true]
      omega
    · have hbeq : (f == g) = false := by simpa using Ne.symm h
      rw [if_neg h, hbeq]
      rfl

theorem mem_addAll {u : Usage} {fs : List Fingerprint} {g : Fingerprint} :
    g ∈ u.addAll fs ↔ g ∈ u ∨ g ∈ fs := by
  induction fs generalizing u with
  | nil => simp
  | cons f fs ih =>
    rw [addAll_cons, ih, mem_add, List.mem_cons]
    tauto

/-- A list of uses in another order comes to the same usage. -/
theorem addAll_eq_of_perm {fs gs : List Fingerprint} (h : fs.Perm gs) (u : Usage) :
    u.addAll fs = u.addAll gs := by
  apply ext_of_get
  · intro f
    rw [mem_addAll, mem_addAll, h.mem_iff]
  · intro f
    rw [get_addAll, get_addAll, h.count_eq]

/-- A list of uses is counted in 64 bits as in natural numbers, if the counts after it have
room. -/
theorem foldl_increment_eq_addAll {u : Usage} {fs : List Fingerprint}
    (h : ∀ f, u.get f + fs.count f < UInt64.size) : fs.foldl increment u = u.addAll fs := by
  induction fs generalizing u with
  | nil => rfl
  | cons f fs ih =>
    have hfirst : u.get f + 1 < UInt64.size := by
      have hcount := h f
      rw [List.count_cons_self] at hcount
      omega
    rw [List.foldl_cons, addAll_cons, increment_eq_add hfirst]
    refine ih fun g => ?_
    -- the uses to come after the first one end with the same counts
    have hcounts : (u.add f).get g + fs.count g = u.get g + (f :: fs).count g := by
      rw [← get_addAll, ← get_addAll, addAll_cons]
    exact hcounts ▸ h g

/-! ### Suprema -/

theorem get_foldl_raise {es : List (Fingerprint × Nat)} (h : (es.map (·.1)).Nodup) (u : Usage)
    (g : Fingerprint) :
    (es.foldl (fun w e => w.raise e.1 e.2) u).get g = max (u.get g) ((es.lookup g).getD 0) := by
  induction es generalizing u with
  | nil => exact (Nat.max_zero _).symm
  | cons e es ih =>
    obtain ⟨hhead, htail⟩ := List.nodup_cons.mp h
    rw [List.foldl_cons, ih htail, get_raise, Assoc.lookup_cons_eq_ite]
    by_cases hg : g = e.1
    · -- the entry of `g` is the first one, and there is no other
      subst hg
      rw [if_pos rfl, if_pos rfl, Assoc.lookup_eq_none_of_notMem hhead]
      exact Nat.max_zero _
    · rw [if_neg hg, if_neg hg]

theorem mem_foldl_raise {es : List (Fingerprint × Nat)} {u : Usage} {g : Fingerprint} :
    g ∈ es.foldl (fun w e => w.raise e.1 e.2) u ↔ g ∈ u ∨ g ∈ es.map (·.1) := by
  induction es generalizing u with
  | nil => simp
  | cons e es ih =>
    rw [List.foldl_cons, ih, mem_raise, List.map_cons, List.mem_cons]
    tauto

@[simp] theorem get_sup (u v : Usage) (f : Fingerprint) :
    (u.sup v).get f = max (u.get f) (v.get f) :=
  get_foldl_raise v.nodup_keys u f

@[simp] theorem mem_sup {u v : Usage} {f : Fingerprint} : f ∈ u.sup v ↔ f ∈ u ∨ f ∈ v :=
  mem_foldl_raise

section Suprema

variable {α : Type} (usageOf : α → Usage)

/-- The slots of a supremum are those of the usages it is made of. -/
theorem lt_get_foldl_sup {items : List α} {u : Usage} {f : Fingerprint} {i : Nat} :
    i < (items.foldl (fun w a => w.sup (usageOf a)) u).get f ↔
      i < u.get f ∨ ∃ a ∈ items, i < (usageOf a).get f := by
  induction items generalizing u with
  | nil => simp
  | cons a items ih =>
    have hmax : i < max (u.get f) ((usageOf a).get f) ↔ i < u.get f ∨ i < (usageOf a).get f := by
      omega
    rw [List.foldl_cons, ih, get_sup, hmax, List.exists_mem_cons_iff, or_assoc]

theorem mem_foldl_sup {items : List α} {u : Usage} {f : Fingerprint} :
    f ∈ items.foldl (fun w a => w.sup (usageOf a)) u ↔ f ∈ u ∨ ∃ a ∈ items, f ∈ usageOf a := by
  induction items generalizing u with
  | nil => simp
  | cons a items ih =>
    rw [List.foldl_cons, ih, mem_sup, List.exists_mem_cons_iff, or_assoc]

/-- Neither order nor repetition matters to a supremum: families with the same usages have
the same one. -/
theorem foldl_sup_congr {β : Type} {usageOf' : β → Usage} {items : List α} {items' : List β}
    (h : ∀ a ∈ items, ∃ b ∈ items', usageOf' b = usageOf a)
    (h' : ∀ b ∈ items', ∃ a ∈ items, usageOf a = usageOf' b) (u : Usage) :
    items.foldl (fun w a => w.sup (usageOf a)) u =
      items'.foldl (fun w b => w.sup (usageOf' b)) u := by
  have htransfer : ∀ P : Usage → Prop,
      (∃ a ∈ items, P (usageOf a)) ↔ ∃ b ∈ items', P (usageOf' b) := by
    intro P
    constructor
    · rintro ⟨a, ha, hP⟩
      obtain ⟨b, hb, hab⟩ := h a ha
      exact ⟨b, hb, hab ▸ hP⟩
    · rintro ⟨b, hb, hP⟩
      obtain ⟨a, ha, hab⟩ := h' b hb
      exact ⟨a, ha, hab ▸ hP⟩
  apply ext_of_get
  · intro f
    rw [mem_foldl_sup, mem_foldl_sup, htransfer (f ∈ ·)]
  · intro f
    -- the same numbers are below both counts
    refine eq_of_forall_lt_iff fun i => ?_
    rw [lt_get_foldl_sup, lt_get_foldl_sup, htransfer (i < ·.get f)]

end Suprema

/-! ### Slots -/

/-- The fingerprints with the numbers below their counts. -/
def slots (u : Usage) : List (Fingerprint × Nat) :=
  u.toList.flatMap fun e => (List.range e.2).map (e.1, ·)

theorem mem_slots {u : Usage} {f : Fingerprint} {i : Nat} : (f, i) ∈ u.slots ↔ i < u.get f := by
  unfold slots
  rw [List.mem_flatMap]
  constructor
  · rintro ⟨⟨g, n⟩, he, hi⟩
    obtain ⟨j, hj, heq⟩ := List.mem_map.mp hi
    obtain ⟨rfl, rfl⟩ := Prod.mk.inj heq
    rw [(mem_toList_iff.mp he).2]
    exact List.mem_range.mp hj
  · intro hi
    refine ⟨(f, u.get f), mem_toList_iff.mpr ⟨mem_of_lt_get hi, rfl⟩, ?_⟩
    exact List.mem_map.mpr ⟨i, List.mem_range.mpr hi, rfl⟩

theorem nodup_slots (u : Usage) : u.slots.Nodup := by
  unfold slots
  rw [List.nodup_flatMap]
  refine ⟨fun e _ => List.nodup_range.map fun i j h => (Prod.mk.inj h).2, ?_⟩
  -- entries differ in their fingerprints, so they have no slot in common
  refine (List.pairwise_map.mp u.nodup_keys).imp ?_
  intro e e' hne slot hslot hslot'
  obtain ⟨i, -, rfl⟩ := List.mem_map.mp hslot
  obtain ⟨j, -, heq⟩ := List.mem_map.mp hslot'
  exact hne (Prod.mk.inj heq).1.symm

theorem length_slots (u : Usage) : u.slots.length = u.total := by
  unfold slots total
  induction u.toList with
  | nil => rfl
  | cons e es ih =>
    rw [List.flatMap_cons, List.length_append, ih, List.length_map, List.length_range,
      List.foldr_cons]

end Usage
end ClusterTopology
