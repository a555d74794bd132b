import Mathlib.Data.List.Nodup
import Mathlib.Data.List.Perm.Basic
import Mathlib.Logic.Equiv.Basic

/-!
# Lists in another order

A list in another order is given by the place that each item comes from.  Unlike the fact
that two lists are permutations of each other this tells equal items apart, so that what
is said of the item at a place may be said of it where it has gone to.  The items may also
change on the way, in any manner that a relation describes.

## Main definitions

* `MovedBy` — the items of a list, moved and related to what they were.

## Main results

* `exists_movedBy_iff_perm` — every permutation of a list moves its items.
* `MovedBy.perm_flatMap` — what is collected from moved items is a permutation.
-/

namespace ClusterTopology

/-- The items of `m` are those of `l` in another order: the one at index `i` was at index
`σ i` before, and is related by `R i` to what it was. -/
def MovedBy {α : Type} (σ : Equiv.Perm Nat) (R : Nat → α → α → Prop) (l m : List α) : Prop :=
  ∀ i, Option.Rel (R i) l[σ i]? m[i]?

namespace MovedBy

variable {α β : Type} {σ : Equiv.Perm Nat} {R : Nat → α → α → Prop} {l m : List α}

theorem refl (h : ∀ i a, R i a a) (l : List α) : MovedBy (Equiv.refl Nat) R l l := by
  intro i
  rw [Equiv.refl_apply]
  cases l[i]? with
  | none => exact .none
  | some a => exact .some (h i a)

/-- At each place there is no item and there was none, or there are two that are related. -/
theorem none_or_some (h : MovedBy σ R l m) (i : Nat) :
    (l[σ i]? = none ∧ m[i]? = none) ∨ ∃ a b, l[σ i]? = some a ∧ m[i]? = some b ∧ R i a b := by
  have hi := h i
  generalize l[σ i]? = a?, m[i]? = b? at hi
  cases hi with
  | none => exact Or.inl ⟨rfl, rfl⟩
  | some hab => exact Or.inr ⟨_, _, rfl, rfl, hab⟩

theorem map {S : Nat → β → β → Prop} {f : α → β} (h : MovedBy σ R l m)
    (hf : ∀ i a b, R i a b → S i (f a) (f b)) : MovedBy σ S (l.map f) (m.map f) := by
  intro i
  rw [List.getElem?_map, List.getElem?_map]
  rcases h.none_or_some i with ⟨ha, hb⟩ | ⟨a, b, ha, hb, hab⟩
  · rw [ha, hb]
    exact .none
  · rw [ha, hb]
    exact .some (hf i a b hab)

/-- Each item comes from one before. -/
theorem exists_of_mem (h : MovedBy σ R l m) {b : α} (hb : b ∈ m) : ∃ i, ∃ a ∈ l, R i a b := by
  obtain ⟨i, hi⟩ := List.mem_iff_getElem?.mp hb
  rcases h.none_or_some i with ⟨-, hnone⟩ | ⟨a, b', ha, hb', hab⟩
  · rw [hi] at hnone
    cases hnone
  · obtain rfl := Option.some.inj (hi.symm.trans hb')
    exact ⟨i, a, List.mem_of_getElem? ha, hab⟩

/-- Each item before has gone somewhere. -/
theorem exists_mem_of_mem (h : MovedBy σ R l m) {a : α} (ha : a ∈ l) :
    ∃ i, ∃ b ∈ m, R i a b := by
  obtain ⟨i, hi⟩ := List.mem_iff_getElem?.mp ha
  rw [← σ.apply_symm_apply i] at hi
  rcases h.none_or_some (σ.symm i) with ⟨hnone, -⟩ | ⟨a', b, ha', hb, hab⟩
  · rw [hi] at hnone
    cases hnone
  · obtain rfl := Option.some.inj (hi.symm.trans ha')
    exact ⟨σ.symm i, b, List.mem_of_getElem? hb, hab⟩

/-- A place is taken exactly if the place that its item comes from was. -/
theorem lt_length_iff (h : MovedBy σ R l m) (i : Nat) : σ i < l.length ↔ i < m.length := by
  rcases h.none_or_some i with ⟨ha, hb⟩ | ⟨a, b, ha, hb, -⟩
  · rw [List.getElem?_eq_none_iff] at ha hb
    omega
  · exact iff_of_true (List.getElem?_eq_some_iff.mp ha).1 (List.getElem?_eq_some_iff.mp hb).1

/-- The places that the items come from are all the places there were. -/
theorem perm_range (h : MovedBy σ R l m) :
    (List.range l.length).Perm ((List.range m.length).map σ) := by
  refine (List.perm_ext_iff_of_nodup List.nodup_range
    (List.Nodup.map σ.injective List.nodup_range)).mpr ?_
  intro i
  rw [List.mem_range, List.mem_map]
  constructor
  · intro hi
    refine ⟨σ.symm i, List.mem_range.mpr ?_, σ.apply_symm_apply i⟩
    rw [← h.lt_length_iff, σ.apply_symm_apply]
    exact hi
  · rintro ⟨j, hj, rfl⟩
    exact (h.lt_length_iff j).mpr (List.mem_range.mp hj)

/-- A list is collected place by place. -/
theorem flatMap_range_elim (f : α → List β) (l : List α) :
    (List.range l.length).flatMap (fun i => l[i]?.elim [] f) = l.flatMap f := by
  induction l with
  | nil => rfl
  | cons a l ih =>
    rw [List.length_cons, List.range_succ_eq_map, List.flatMap_cons, List.flatMap_map,
      List.flatMap_cons, ← ih]
    rfl

/-- **What is collected from moved items is a permutation** of what was collected from them
before, if what each of them gives is. -/
theorem perm_flatMap (h : MovedBy σ R l m) {f : α → List β}
    (hf : ∀ i a b, R i a b → (f a).Perm (f b)) : (l.flatMap f).Perm (m.flatMap f) := by
  have hplace : ∀ i, (l[σ i]?.elim [] f).Perm (m[i]?.elim [] f) := by
    intro i
    rcases h.none_or_some i with ⟨ha, hb⟩ | ⟨a, b, ha, hb, hab⟩
    · rw [ha, hb]
    · rw [ha, hb]
      exact hf i a b hab
  have hmoved : (l.flatMap f).Perm
      ((List.range m.length).flatMap fun i => l[σ i]?.elim [] f) := by
    rw [← flatMap_range_elim f l, ← List.flatMap_map (f := σ) (g := fun i => l[i]?.elim [] f)]
    exact h.perm_range.flatMap_right _
  rw [← flatMap_range_elim f m]
  exact hmoved.trans (List.Perm.flatMap_left _ fun i _ => hplace i)

/-! ### Permutations -/

/-- The first two items change places. -/
theorem swap {a a' b b' : α} {l m : List α} (hb : R 0 b b') (ha : R 1 a a')
    (h : ∀ i, Option.Rel (R (i + 2)) l[i]? m[i]?) :
    MovedBy (Equiv.swap 0 1) R (a :: b :: l) (b' :: a' :: m) := by
  intro i
  match i with
  | 0 => rw [Equiv.swap_apply_left]; exact .some hb
  | 1 => rw [Equiv.swap_apply_right]; exact .some ha
  | i + 2 =>
    rw [Equiv.swap_apply_of_ne_of_ne (by omega) (by omega)]
    exact h i

/-- The permutation of places behind a first item that stays. -/
def keepFirst (σ : Equiv.Perm Nat) : Equiv.Perm Nat where
  toFun
    | 0 => 0
    | i + 1 => σ i + 1
  invFun
    | 0 => 0
    | i + 1 => σ.symm i + 1
  left_inv i := by cases i <;> simp
  right_inv i := by cases i <;> simp

/-- Items that do not change on the way. -/
theorem eq_iff : MovedBy σ (fun _ => Eq) l m ↔ ∀ i, m[i]? = l[σ i]? := by
  refine forall_congr' fun i => ?_
  constructor
  · intro h
    generalize l[σ i]? = a?, m[i]? = b? at h ⊢
    cases h with
    | none => rfl
    | some hab => exact congrArg some hab.symm
  · intro h
    rw [h]
    cases l[σ i]? with
    | none => exact .none
    | some a => exact .some rfl

theorem cons (h : MovedBy σ (fun _ => Eq) l m) (a : α) :
    MovedBy (keepFirst σ) (fun _ => Eq) (a :: l) (a :: m) := by
  intro i
  cases i with
  | zero => exact .some rfl
  | succ i => exact h i

theorem trans {τ : Equiv.Perm Nat} {n : List α} (h : MovedBy σ (fun _ => Eq) l m)
    (h' : MovedBy τ (fun _ => Eq) m n) : MovedBy (τ.trans σ) (fun _ => Eq) l n := by
  rw [eq_iff] at h h' ⊢
  intro i
  rw [h', h, Equiv.trans_apply]

end MovedBy

/-- **Every permutation of a list moves its items**, each to a place of its own. -/
theorem exists_movedBy_iff_perm {α : Type} {l m : List α} :
    (∃ σ, MovedBy σ (fun _ => Eq) l m) ↔ l.Perm m := by
  constructor
  · rintro ⟨σ, h⟩
    have hperm := h.perm_flatMap (f := fun a => [a]) fun _ a b hab => hab ▸ List.Perm.refl _
    rw [List.flatMap_singleton', List.flatMap_singleton'] at hperm
    exact hperm
  · intro h
    induction h with
    | nil => exact ⟨Equiv.refl Nat, .refl (fun _ _ => rfl) []⟩
    | cons a _ ih =>
      obtain ⟨σ, h⟩ := ih
      exact ⟨_, h.cons a⟩
    | swap a b l => exact ⟨_, .swap rfl rfl (MovedBy.refl (fun _ _ => rfl) l)⟩
    | trans _ _ ih ih' =>
      obtain ⟨σ, h⟩ := ih
      obtain ⟨τ, h'⟩ := ih'
      exact ⟨_, h.trans h'⟩

end ClusterTopology
