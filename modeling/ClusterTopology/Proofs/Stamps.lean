import Mathlib.Data.List.Count
import Mathlib.Data.Option.Basic
import ClusterTopology.Proofs.Counts
import ClusterTopology.Proofs.Runs

/-!
# Stamps of a run

A run over replicas stamps each of them with its fingerprint and with the count that
this fingerprint has just then.  So the indices that a fingerprint gets in a run follow
on from its count before the run, without a gap and without a repetition.  Runs over
the shards of a cluster are runs over all its replicas, shard by shard.

## Main definitions

* `Usage.stamps` — the stamps of replicas with given fingerprints, one after the other.
* `Replica.stamps?`, `Cluster.stamps` — the stamps that replicas carry.
* `Scope.fingerprints` — the fingerprints of the replicas of a cluster.

## Main results

* `Usage.mem_stamps`, `Usage.nodup_stamps` — the indices of a run have no gap and no
  repetition.
* `Usage.map_snd_filter_stamps` — they are consecutive, in the order of the run.
* `Usage.stamps_perm` — the order of a run does not matter to the stamps as a whole.
* `Scope.stamps_normalize`, `Scope.usage_normalize_eq` — the stamps and the usage of a
  normalized cluster.
-/

namespace ClusterTopology

/-! ### Stamps one after the other -/

namespace Usage

/-- The stamps of replicas with the given fingerprints that are resolved one after the
other, starting from a usage. -/
def stamps (u : Usage) : List Fingerprint → List (Fingerprint × Nat)
  | [] => []
  | f :: fs => (f, u.get f) :: (u.add f).stamps fs

@[simp] theorem stamps_nil (u : Usage) : u.stamps [] = [] := rfl

@[simp] theorem stamps_cons (u : Usage) (f : Fingerprint) (fs : List Fingerprint) :
    u.stamps (f :: fs) = (f, u.get f) :: (u.add f).stamps fs := rfl

theorem stamps_append (u : Usage) (fs gs : List Fingerprint) :
    u.stamps (fs ++ gs) = u.stamps fs ++ (u.addAll fs).stamps gs := by
  induction fs generalizing u with
  | nil => rfl
  | cons f fs ih => rw [List.cons_append, stamps_cons, stamps_cons, ih, addAll_cons,
      List.cons_append]

@[simp] theorem map_fst_stamps (u : Usage) (fs : List Fingerprint) :
    (u.stamps fs).map (·.1) = fs := by
  induction fs generalizing u with
  | nil => rfl
  | cons f fs ih => rw [stamps_cons, List.map_cons, ih]

/-- The stamp at a place of a run has the count that its fingerprint has after the uses before
that place. -/
theorem getElem?_stamps (u : Usage) (fs : List Fingerprint) (i : Nat) :
    (u.stamps fs)[i]? = fs[i]?.map fun f => (f, (u.addAll (fs.take i)).get f) := by
  induction fs generalizing u i with
  | nil => rfl
  | cons f fs ih =>
    cases i with
    | zero => rfl
    | succ i => exact ih (u.add f) i

/-- **The indices that a fingerprint gets in a run have no gap**: they are the numbers
from its count before the run up to its count after it. -/
theorem mem_stamps {u : Usage} {fs : List Fingerprint} {g : Fingerprint} {i : Nat} :
    (g, i) ∈ u.stamps fs ↔ u.get g ≤ i ∧ i < (u.addAll fs).get g := by
  induction fs generalizing u with
  | nil =>
    rw [stamps_nil, addAll_nil]
    constructor
    · intro h
      exact absurd h List.not_mem_nil
    · rintro ⟨hle, hlt⟩
      omega
  | cons f fs ih =>
    rw [stamps_cons, List.mem_cons, ih, addAll_cons]
    -- counts only grow, so the index of the first stamp is below the count after the run
    have hgrow : (u.add f).get g ≤ ((u.add f).addAll fs).get g := by
      rw [get_addAll]
      omega
    rw [get_add] at hgrow ⊢
    by_cases hg : g = f
    · -- the first stamp takes the least index, and the run goes on from the next
      subst hg
      rw [if_pos rfl] at hgrow ⊢
      rw [Prod.mk.injEq]
      constructor
      · rintro (⟨-, rfl⟩ | ⟨hle, hlt⟩)
        · exact ⟨Nat.le_refl _, by omega⟩
        · exact ⟨by omega, hlt⟩
      · rintro ⟨hle, hlt⟩
        rcases Nat.eq_or_lt_of_le hle with heq | hgt
        · exact Or.inl ⟨rfl, heq.symm⟩
        · exact Or.inr ⟨hgt, hlt⟩
    · rw [if_neg hg]
      constructor
      · rintro (heq | h)
        · exact absurd (Prod.mk.inj heq).1 hg
        · exact h
      · intro h
        exact Or.inr h

/-- No stamp is repeated in a run. -/
theorem nodup_stamps (u : Usage) (fs : List Fingerprint) : (u.stamps fs).Nodup := by
  induction fs generalizing u with
  | nil => exact List.nodup_nil
  | cons f fs ih =>
    refine List.nodup_cons.mpr ⟨?_, ih _⟩
    intro h
    -- the later indices of a fingerprint begin after the count that its first stamp took
    have hle := (mem_stamps.mp h).1
    rw [get_add, if_pos rfl] at hle
    omega

/-- **The indices that a fingerprint gets in a run are consecutive**, in the order of the
run. -/
theorem map_snd_filter_stamps (u : Usage) (fs : List Fingerprint) (f : Fingerprint) :
    ((u.stamps fs).filter (·.1 = f)).map (·.2) = List.range' (u.get f) (fs.count f) := by
  induction fs generalizing u with
  | nil => rfl
  | cons g fs ih =>
    rw [stamps_cons, List.filter_cons, List.count_cons]
    by_cases hg : g = f
    · -- the first stamp takes the count before the run, and the run goes on from the next
      subst hg
      simp only [decide_true, beq_self_eq_true, if_true]
      rw [List.map_cons, ih, get_add, if_pos rfl, List.range'_succ]
    · have hbeq : (g == f) = false := by simpa using hg
      simp only [hg, hbeq, decide_false, Bool.false_eq_true, if_false]
      rw [ih, get_add, if_neg (Ne.symm hg), Nat.add_zero]

/-- Fingerprints in another order get the same stamps in another order. -/
theorem stamps_perm {fs gs : List Fingerprint} (h : fs.Perm gs) (u : Usage) :
    (u.stamps fs).Perm (u.stamps gs) := by
  refine (List.perm_ext_iff_of_nodup (nodup_stamps u fs) (nodup_stamps u gs)).mpr ?_
  rintro ⟨f, i⟩
  rw [mem_stamps, mem_stamps, addAll_eq_of_perm h]

end Usage

/-! ### The stamps that replicas carry -/

/-- The fingerprint and the index of a replica that carries both. -/
def Replica.stamps? (r : Replica) : Option (Fingerprint × Nat) := do
  let f ← r.deployment.fingerprint
  let index ← r.deployment.index
  some (f, index)

theorem Replica.stamps?_eq_some_iff {r : Replica} {f : Fingerprint} {i : Nat} :
    r.stamps? = some (f, i) ↔ r.deployment.fingerprint = some f ∧ r.deployment.index = some i := by
  unfold stamps?
  cases r.deployment.fingerprint <;> cases r.deployment.index <;> simp

section

variable {rs : List Replica} {fs : List Fingerprint}

/-- What can be read off the stamps of replicas is listed with them. -/
theorem map_eq_of_stamps {γ : Type} {ss : List (Fingerprint × Nat)}
    (h : rs.map Replica.stamps? = ss.map some) {g : Replica → γ} {g' : Fingerprint × Nat → γ}
    (hg : ∀ r s, r.stamps? = some s → g r = g' s) : rs.map g = ss.map g' := by
  induction rs generalizing ss with
  | nil =>
    obtain rfl := List.map_eq_nil_iff.mp h.symm
    rfl
  | cons r rs ih =>
    obtain ⟨s, ss, rfl, hr, hrs⟩ := List.map_eq_cons_iff.mp h.symm
    rw [List.map_cons, List.map_cons, hg r s hr.symm, ih hrs.symm]

/-- Replicas that carry given stamps have the fingerprints of these. -/
theorem map_fingerprint_of_stamps {ss : List (Fingerprint × Nat)}
    (h : rs.map Replica.stamps? = ss.map some) :
    rs.map (·.deployment.fingerprint) = (ss.map (·.1)).map some := by
  rw [List.map_map]
  exact map_eq_of_stamps h fun r s hs => (Replica.stamps?_eq_some_iff.mp hs).1

/-- Replicas are counted by counting their fingerprints. -/
theorem countP_fingerprint_eq (h : rs.map (·.deployment.fingerprint) = fs.map some)
    (f : Fingerprint) : rs.countP (fun r => r.deployment.fingerprint = some f) = fs.count f := by
  rw [← List.count_map_of_injective fs some (Option.some_injective _), ← h, List.count,
    List.countP_map]
  refine List.countP_congr fun r _ => ?_
  simp

end

/-- The stamps of the replicas of a cluster, shard by shard. -/
def Cluster.stamps (cluster : Cluster) : List (Option (Fingerprint × Nat)) :=
  cluster.replicas.map (·.replica.stamps?)

theorem Cluster.map_replica_replicas (cluster : Cluster) :
    cluster.replicas.map (·.replica) = cluster.layout.shards.flatMap (·.replicas) := by
  have hshard : cluster.replicas.map (·.replica) =
      cluster.layout.shards.zipIdx.flatMap fun item => item.1.replicas := by
    unfold Cluster.replicas
    rw [List.map_flatMap]
    refine congrArg (fun f => cluster.layout.shards.zipIdx.flatMap f) (funext fun item => ?_)
    rw [List.map_map]
    exact List.zipIdx_map_fst 0 item.1.replicas
  rw [hshard, ← List.flatMap_map, List.zipIdx_map_fst]

theorem Cluster.stamps_eq_flatMap (cluster : Cluster) :
    cluster.stamps = cluster.layout.shards.flatMap fun shard =>
      shard.replicas.map Replica.stamps? := by
  unfold Cluster.stamps
  rw [← List.map_flatMap, ← map_replica_replicas, List.map_map]
  rfl

/-! ### Stamps of resolved replicas -/

namespace Outcome

variable {α β : Type} (step : Usage → α → Outcome β) (keys : α → List Fingerprint)

/-- A run of steps that count the uses of their items counts the uses of all. -/
theorem usage_each_of_addAll (husage : ∀ u item, (step u item).usage = u.addAll (keys item))
    (u : Usage) (items : List α) :
    (each step u items).usage = u.addAll (items.flatMap keys) := by
  induction items generalizing u with
  | nil => rfl
  | cons item items ih => rw [each_cons, List.flatMap_cons, Usage.addAll_append, ih, husage]

/-- A run of steps that stamp their items in order stamps all in order. -/
theorem flatMap_value_each_of_stamps (stampsOf : β → List (Option (Fingerprint × Nat)))
    (husage : ∀ u item, (step u item).usage = u.addAll (keys item))
    (hvalue : ∀ u item, stampsOf (step u item).value = (u.stamps (keys item)).map some)
    (u : Usage) (items : List α) :
    (each step u items).value.flatMap stampsOf = (u.stamps (items.flatMap keys)).map some := by
  induction items generalizing u with
  | nil => rfl
  | cons item items ih =>
    rw [each_cons, List.flatMap_cons, List.flatMap_cons, Usage.stamps_append, List.map_append, ih,
      hvalue, husage]

end Outcome

namespace Scope

variable (scope : Scope)

/-- The fingerprints of the replicas of a shard. -/
def shardFingerprints (shard : Shard) : List Fingerprint :=
  shard.replicas.map fun replica =>
    scope.fingerprint (replica.deployment.inherit shard.deployment)

/-- The fingerprints of the replicas of a cluster, shard by shard. -/
def fingerprints (cluster : Cluster) : List Fingerprint :=
  (scope.expandedShards cluster).flatMap scope.shardFingerprints

theorem usage_resolveShard (usage : Usage) (shard : Shard) :
    (scope.resolveShard usage shard).usage = usage.addAll (scope.shardFingerprints shard) := by
  unfold shardFingerprints
  rw [List.map_eq_flatMap]
  exact Outcome.usage_each_of_addAll (scope.resolveReplica shard.deployment) _
    (fun _ _ => rfl) usage shard.replicas

theorem stamps_resolveShard (usage : Usage) (shard : Shard) :
    (scope.resolveShard usage shard).value.replicas.map Replica.stamps? =
      (usage.stamps (scope.shardFingerprints shard)).map some := by
  have hrun := Outcome.flatMap_value_each_of_stamps (scope.resolveReplica shard.deployment)
    (fun replica => [scope.fingerprint (replica.deployment.inherit shard.deployment)])
    (fun replica => [replica.stamps?]) (fun _ _ => rfl) (fun _ _ => rfl) usage shard.replicas
  rw [← List.map_eq_flatMap, ← List.map_eq_flatMap] at hrun
  exact hrun

/-- Shards that are resolved one after the other have their replicas counted. -/
theorem usage_each_resolveShard (usage : Usage) (shards : List Shard) :
    (Outcome.each scope.resolveShard usage shards).usage =
      usage.addAll (shards.flatMap scope.shardFingerprints) :=
  Outcome.usage_each_of_addAll scope.resolveShard scope.shardFingerprints scope.usage_resolveShard
    usage shards

/-- Their replicas are stamped one after the other. -/
theorem stamps_each_resolveShard (usage : Usage) (shards : List Shard) :
    ((Outcome.each scope.resolveShard usage shards).value.flatMap (·.replicas)).map
        Replica.stamps? =
      (usage.stamps (shards.flatMap scope.shardFingerprints)).map some := by
  rw [List.map_flatMap]
  exact Outcome.flatMap_value_each_of_stamps scope.resolveShard scope.shardFingerprints
    (fun shard => shard.replicas.map Replica.stamps?) scope.usage_resolveShard
    scope.stamps_resolveShard usage shards

/-- The usage of a normalized cluster counts its replicas. -/
theorem usage_normalize_eq (cluster : Cluster) :
    (scope.normalize cluster).usage = Usage.empty.addAll (scope.fingerprints cluster) := by
  rw [usage_normalize]
  exact scope.usage_each_resolveShard .empty (scope.expandedShards cluster)

/-- The replicas of a normalized cluster are stamped one after the other, from a usage
that has counted nothing. -/
theorem stamps_normalize (cluster : Cluster) :
    (scope.normalize cluster).value.stamps =
      (Usage.empty.stamps (scope.fingerprints cluster)).map some := by
  rw [Cluster.stamps_eq_flatMap, shards_normalize, ← List.map_flatMap]
  exact scope.stamps_each_resolveShard .empty (scope.expandedShards cluster)

end Scope

end ClusterTopology
