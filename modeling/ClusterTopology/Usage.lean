import ClusterTopology.Fingerprint
import ClusterTopology.SortedMap

/-!
# Usage of deployments

How often each deployment is used.  A fingerprint that has been counted has an
entry even if its count is zero, which is not the same as having no entry.

A count is kept in 64 bits, so that the greatest one, `UInt64.size - 1`, has none
after it and one more use brings it back to zero: `Usage.increment`.  A resolution
counts replicas, of which there are never that many, and does so in natural numbers:
`Usage.add`.  While a count has room the two are the same.

## Main definitions

* `Usage` — a count for each fingerprint.
* `Usage.increment` — one more use, counted in 64 bits.
* `Usage.add` — one more use, counted in natural numbers.
* `Usage.sup` — the larger of two counts for each fingerprint.
* `Usage.total` — the sum of all counts.

## Main results

* `Usage.get_increment`, `Usage.get_add` — one more use changes one count only.
* `Usage.increment_eq_add` — the two are the same while the count has room.
-/

namespace ClusterTopology

/-- A count for each fingerprint that has been counted. -/
@[ext] structure Usage where
  /-- The counts by fingerprint. -/
  counts : SortedMap Fingerprint Nat
  deriving DecidableEq, Inhabited

namespace Usage

/-- The usage that has counted nothing. -/
def empty : Usage := ⟨.empty⟩

/-- The entries in the order of their fingerprints. -/
def toList (u : Usage) : List (Fingerprint × Nat) := u.counts.toList

/-- The usage with the given entries; of a repeated fingerprint the last counts. -/
def ofList (entries : List (Fingerprint × Nat)) : Usage := ⟨.ofList entries⟩

/-- The count of a fingerprint, zero if it has no entry. -/
def get (u : Usage) (f : Fingerprint) : Nat := u.counts.getD f 0

/-- The number of entries. -/
def size (u : Usage) : Nat := u.counts.size

/-- Whether there is no entry. -/
def isEmpty (u : Usage) : Bool := u.counts.isEmpty

/-- The sum of all counts, a natural number; it is the one of 64 bits if it is below
`UInt64.size`. -/
def total (u : Usage) : Nat := u.toList.foldr (fun e sum => e.2 + sum) 0

/-- The usage after one more use of a fingerprint, counted in 64 bits. -/
def increment (u : Usage) (f : Fingerprint) : Usage :=
  ⟨u.counts.insert f ((u.get f + 1) % UInt64.size)⟩

/-- The usage after one more use of a fingerprint, counted in natural numbers. -/
def add (u : Usage) (f : Fingerprint) : Usage := ⟨u.counts.insert f (u.get f + 1)⟩

/-- The usage in which a fingerprint has an entry and its count is at least `n`. -/
def raise (u : Usage) (f : Fingerprint) (n : Nat) : Usage := ⟨u.counts.insert f (max (u.get f) n)⟩

/-- The usage with the entries of both, each with the larger of its counts. -/
def sup (u v : Usage) : Usage := v.toList.foldl (fun w e => w.raise e.1 e.2) u

/-! ### Basic properties -/

@[simp] theorem toList_empty : empty.toList = [] := rfl

@[simp] theorem get_empty (f : Fingerprint) : empty.get f = 0 := rfl

@[simp] theorem get_add (u : Usage) (f g : Fingerprint) :
    (u.add f).get g = if g = f then u.get f + 1 else u.get g := by
  simp only [get, add, SortedMap.getD, SortedMap.get?_insert]
  split <;> simp

@[simp] theorem get_increment (u : Usage) (f g : Fingerprint) :
    (u.increment f).get g = if g = f then (u.get f + 1) % UInt64.size else u.get g := by
  simp only [get, increment, SortedMap.getD, SortedMap.get?_insert]
  split <;> simp

/-- While the count has room, one more use is counted in 64 bits as in natural numbers. -/
theorem increment_eq_add {u : Usage} {f : Fingerprint} (h : u.get f + 1 < UInt64.size) :
    u.increment f = u.add f := by
  rw [increment, Nat.mod_eq_of_lt h, add]

@[simp] theorem get_raise (u : Usage) (f g : Fingerprint) (n : Nat) :
    (u.raise f n).get g = if g = f then max (u.get f) n else u.get g := by
  simp only [get, raise, SortedMap.getD, SortedMap.get?_insert]
  split <;> simp

@[simp] theorem sup_empty (u : Usage) : u.sup empty = u := rfl

end Usage

end ClusterTopology
