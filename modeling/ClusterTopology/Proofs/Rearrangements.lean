import ClusterTopology.Proofs.Reordering
import ClusterTopology.Proofs.Settings
import ClusterTopology.Proofs.Stamps

/-!
# Rearranged installations

The clusters of an installation, the shards of a cluster that lists them and the replicas
of a shard that lists them may stand in another order.  Their order decides about the
indices of replicas and about nothing else: a replica takes its settings and its
fingerprint along to its new place, and the indices of a fingerprint in a cluster are dealt
out anew among the replicas that have it.  So the usage stays, and since clusters share
instances it also stays if a cluster is repeated.

## Main definitions

* `Rearrangement` — the places that clusters, shards and replicas come from.
* `Installation.Rearranged` — an installation in another order.
* `Scope.resolvedAt?` — what a replica is normalized to, but for its index.

## Main results

* `Cluster.Rearranged.usage_normalize`, `Cluster.Rearranged.perm_stamps` — a cluster in
  another order has the same usage, and the same stamps up to order.
* `Cluster.Rearranged.resolvedAt?` — a replica takes everything but its index along.
* `Installation.normalize_rearranged` — **order and repetition do not matter to the usage**,
  and order to nothing but the indices.
-/

namespace ClusterTopology

/-! ### Rearrangements -/

/-- The shard with its replicas in another order, if it lists them.  Replicas that are
counted keep their places, whatever stands beside the count. -/
structure Shard.Rearranged (ρ : Equiv.Perm Nat) (s t : Shard) : Prop where
  /-- All but the replicas stays. -/
  rest : t = { s with replicas := t.replicas }
  /-- Listed replicas are moved. -/
  listed : s.definitionType = .replicas → MovedBy ρ (fun _ => Eq) s.replicas t.replicas
  /-- Counted ones are not. -/
  counted : s.definitionType = .replicasCount → ρ = Equiv.refl Nat

/-- The cluster with its shards in another order, and each of them in another order, if it
lists them.  Shards that are counted keep their places, whatever stands beside the count. -/
structure Cluster.Rearranged (τ : Equiv.Perm Nat) (ρ : Nat → Equiv.Perm Nat) (c d : Cluster) :
    Prop where
  /-- All but the shards stays. -/
  rest : d = { c with layout := { c.layout with shards := d.layout.shards } }
  /-- Listed shards are moved. -/
  listed : c.layout.layoutType = .advanced →
    MovedBy τ (fun j => Shard.Rearranged (ρ j)) c.layout.shards d.layout.shards
  /-- Counted ones are not. -/
  counted : c.layout.layoutType = .standard →
    τ = Equiv.refl Nat ∧ ∀ j, ρ j = Equiv.refl Nat

/-- The places that clusters, shards and replicas come from. -/
structure Rearrangement where
  /-- Where the cluster at an index comes from. -/
  cluster : Equiv.Perm Nat
  /-- Where a shard of the cluster at index `i` comes from. -/
  shard (i : Nat) : Equiv.Perm Nat
  /-- Where a replica of shard `j` of the cluster at index `i` comes from. -/
  replica (i j : Nat) : Equiv.Perm Nat

/-- The installation with its clusters in another order, and each of them in another
order. -/
structure Installation.Rearranged (π : Rearrangement) (x y : Installation) : Prop where
  /-- All but the clusters stays. -/
  rest : y = x.withClusters y.clusters
  /-- The clusters are moved. -/
  moved : MovedBy π.cluster (fun i => Cluster.Rearranged (π.shard i) (π.replica i))
    x.clusters y.clusters

/-! ### Expanded shards -/

/-- Shards with the same deployment and the same replicas in another order. -/
structure Shard.SameReplicas (ρ : Equiv.Perm Nat) (s t : Shard) : Prop where
  /-- The replicas take open settings from the same deployment. -/
  deployment : t.deployment = s.deployment
  /-- The replicas are moved. -/
  replicas : MovedBy ρ (fun _ => Eq) s.replicas t.replicas

theorem Shard.SameReplicas.refl (s : Shard) : Shard.SameReplicas (Equiv.refl Nat) s s :=
  ⟨rfl, .refl (fun _ _ => rfl) s.replicas⟩

/-- A shard in another order is completed to one with the same replicas. -/
theorem Shard.Rearranged.completed {ρ : Equiv.Perm Nat} {s t : Shard} (h : s.Rearranged ρ t)
    (cluster : Deployment) :
    Shard.SameReplicas ρ (Shard.completed cluster s) (Shard.completed cluster t) := by
  obtain ⟨definitionType, replicasCount, internalReplication, deployment, replicas⟩ := s
  obtain ⟨rest, listed, counted⟩ := h
  rw [rest]
  cases definitionType with
  | replicas => exact ⟨rfl, listed rfl⟩
  | replicasCount =>
    rw [counted rfl]
    exact ⟨rfl, .refl (fun _ _ => rfl) _⟩

namespace Cluster.Rearranged

variable {τ : Equiv.Perm Nat} {ρ : Nat → Equiv.Perm Nat} {c d : Cluster}

/-- A cluster in another order has the same shards in another order. -/
theorem expandedShards (h : c.Rearranged τ ρ d) (scope : Scope) :
    MovedBy τ (fun j => Shard.SameReplicas (ρ j)) (scope.expandedShards c)
      (scope.expandedShards d) := by
  obtain ⟨rest, listed, counted⟩ := h
  obtain ⟨name, ⟨layoutType, shardsCount, replicasCount, shards⟩, deployment⟩ := c
  rw [rest]
  cases layoutType with
  | standard =>
    obtain ⟨rfl, hreplicas⟩ := counted rfl
    refine MovedBy.refl (fun j s => ?_) _
    rw [hreplicas]
    exact .refl s
  | advanced => exact (listed rfl).map fun j s t hst => hst.completed _

theorem perm_fingerprints (h : c.Rearranged τ ρ d) (scope : Scope) :
    (scope.fingerprints c).Perm (scope.fingerprints d) := by
  refine (h.expandedShards scope).perm_flatMap fun j s t hst => ?_
  unfold Scope.shardFingerprints
  rw [hst.deployment]
  exact (exists_movedBy_iff_perm.mp ⟨_, hst.replicas⟩).map _

/-- A cluster in another order has the same usage. -/
theorem usage_normalize (h : c.Rearranged τ ρ d) (scope : Scope) :
    (scope.normalize d).usage = (scope.normalize c).usage := by
  rw [Scope.usage_normalize_eq, Scope.usage_normalize_eq]
  exact (Usage.addAll_eq_of_perm (h.perm_fingerprints scope) .empty).symm

/-- A cluster in another order has the same stamps up to order. -/
theorem perm_stamps (h : c.Rearranged τ ρ d) (scope : Scope) :
    (scope.normalize c).value.stamps.Perm (scope.normalize d).value.stamps := by
  rw [Scope.stamps_normalize, Scope.stamps_normalize]
  exact (Usage.stamps_perm (h.perm_fingerprints scope) .empty).map some

end Cluster.Rearranged

/-! ### Replicas at their places -/

/-- The deployment without its index. -/
def Deployment.withoutIndex (d : Deployment) : Deployment := { d with index := none }

/-- The deployment that replica `k` of shard `j` is normalized to, but for its index: that
of the replica below that of its shard, with its fingerprint. -/
def Scope.resolvedAt? (scope : Scope) (cluster : Cluster) (j k : Nat) : Option Deployment := do
  let shard ← (scope.expandedShards cluster)[j]?
  let replica ← shard.replicas[k]?
  let resolved := replica.deployment.inherit shard.deployment
  some { resolved with fingerprint := some (scope.fingerprint resolved), index := none }

theorem Scope.replicaAt?_normalize (scope : Scope) (cluster : Cluster) (j k : Nat) :
    ((scope.normalize cluster).value.replicaAt? j k).map (·.deployment.withoutIndex) =
      scope.resolvedAt? cluster j k := by
  unfold Cluster.replicaAt? resolvedAt?
  obtain ⟨v, hv⟩ := Outcome.getElem?_value_each scope.resolveShard .empty
    (scope.expandedShards cluster) j
  rw [shards_normalize, hv]
  cases (scope.expandedShards cluster)[j]? with
  | none => rfl
  | some shard =>
    obtain ⟨w, hw⟩ := Outcome.getElem?_value_each (scope.resolveReplica shard.deployment) v
      shard.replicas k
    have hreplica : (scope.resolveShard v shard).value.replicas[k]? = _ := hw
    simp only [Option.map_some, Option.bind_eq_bind, Option.bind_some, hreplica]
    cases shard.replicas[k]? <;> rfl

/-- **A replica takes everything but its index along** to its new place. -/
theorem Cluster.Rearranged.resolvedAt? {τ : Equiv.Perm Nat} {ρ : Nat → Equiv.Perm Nat}
    {c d : Cluster} (h : c.Rearranged τ ρ d) (scope : Scope) (j k : Nat) :
    scope.resolvedAt? d j k = scope.resolvedAt? c (τ j) (ρ j k) := by
  unfold Scope.resolvedAt?
  rcases (h.expandedShards scope).none_or_some j with ⟨hs, ht⟩ | ⟨s, t, hs, ht, hst⟩
  · rw [hs, ht]
    rfl
  · have hreplica := MovedBy.eq_iff.mp hst.replicas k
    rw [hs, ht]
    simp only [Option.bind_eq_bind, Option.bind_some, hreplica, hst.deployment]

/-! ### Installations -/

namespace Installation

variable {π : Rearrangement} {x y : Installation}

/-- The clusters of a rearranged installation are normalized within the same scope. -/
theorem Rearranged.completedScope (h : x.Rearranged π y) :
    y.completedScope = x.completedScope := by
  rw [h.rest]
  rfl

theorem Rearranged.usage_normalize (h : x.Rearranged π y) :
    y.normalize.usage = x.normalize.usage := by
  rw [Installation.usage_normalize, Installation.usage_normalize, h.completedScope]
  apply Usage.foldl_sup_congr
  · intro d hd
    obtain ⟨i, c, hc, hcd⟩ := h.moved.exists_of_mem hd
    exact ⟨c, hc, (hcd.usage_normalize x.completedScope).symm⟩
  · intro c hc
    obtain ⟨i, d, hd, hcd⟩ := h.moved.exists_mem_of_mem hc
    exact ⟨d, hd, hcd.usage_normalize x.completedScope⟩

theorem Rearranged.replicaAt?_normalize (h : x.Rearranged π y) (i j k : Nat) :
    (y.normalize.value.replicaAt? i j k).map (·.deployment.withoutIndex) =
      (x.normalize.value.replicaAt? (π.cluster i) (π.shard i j) (π.replica i j k)).map
        (·.deployment.withoutIndex) := by
  rw [Installation.replicaAt?_normalize, Installation.replicaAt?_normalize, h.completedScope]
  rcases h.moved.none_or_some i with ⟨hc, hd⟩ | ⟨c, d, hc, hd, hcd⟩
  · rw [hc, hd]
    rfl
  · rw [hc, hd]
    calc ((x.completedScope.normalize d).value.replicaAt? j k).map (·.deployment.withoutIndex)
        = x.completedScope.resolvedAt? d j k := x.completedScope.replicaAt?_normalize d j k
      _ = x.completedScope.resolvedAt? c (π.shard i j) (π.replica i j k) :=
        hcd.resolvedAt? x.completedScope j k
      _ = ((x.completedScope.normalize c).value.replicaAt? (π.shard i j) (π.replica i j k)).map
          (·.deployment.withoutIndex) := (x.completedScope.replicaAt?_normalize c _ _).symm

theorem Rearranged.movedBy_stamps (h : x.Rearranged π y) :
    MovedBy π.cluster (fun _ c d => c.stamps.Perm d.stamps) x.normalize.value.clusters
      y.normalize.value.clusters := by
  rw [clusters_normalize, clusters_normalize, h.completedScope]
  exact h.moved.map fun i c d hcd => hcd.perm_stamps x.completedScope

/-- **Order and repetition do not matter to the usage, and order to nothing but indices.**
If clusters, listed shards and listed replicas are put in another order, the usage stays,
each replica takes its resolved deployment and its fingerprint along to its new place, and
within each cluster the stamps are dealt out in another order, so that the indices of a
fingerprint stay with the replicas that have it.  The usage also stays if the installation
has the same clusters in any order and any number of copies. -/
theorem normalize_rearranged (x : Installation) :
    (∀ (π : Rearrangement) (y : Installation), x.Rearranged π y →
      y.normalize.usage = x.normalize.usage ∧
        (∀ i j k, (y.normalize.value.replicaAt? i j k).map (·.deployment.withoutIndex) =
          (x.normalize.value.replicaAt? (π.cluster i) (π.shard i j) (π.replica i j k)).map
            (·.deployment.withoutIndex)) ∧
        MovedBy π.cluster (fun _ c d => c.stamps.Perm d.stamps) x.normalize.value.clusters
          y.normalize.value.clusters) ∧
      ∀ clusters : List Cluster, (∀ c, c ∈ clusters ↔ c ∈ x.clusters) →
        (x.withClusters clusters).normalize.usage = x.normalize.usage := by
  refine ⟨fun π y h => ⟨h.usage_normalize, h.replicaAt?_normalize, h.movedBy_stamps⟩, ?_⟩
  intro clusters hsame
  rw [Installation.usage_normalize, Installation.usage_normalize]
  apply Usage.foldl_sup_congr
  · intro c hc
    exact ⟨c, (hsame c).mp hc, rfl⟩
  · intro c hc
    exact ⟨c, (hsame c).mpr hc, rfl⟩

/-- A cluster that counts two shards, and one that lists a shard with the given replicas
and a shard that counts one; or clusters and shards the other way round. -/
def orderedSample (swapped : Bool) (replicas : List Replica) : Installation :=
  let counting : Cluster := { layout := { shardsCount := 2 } }
  let listed : Shard := { replicas }
  let counted : Shard := { definitionType := .replicasCount, replicasCount := 1 }
  let listing (shards : List Shard) : Cluster := { layout := { layoutType := .advanced, shards } }
  { spec := ⟨{}, ⟨if swapped then [listing [counted, listed], counting]
      else [counting, listing [listed, counted]]⟩⟩ }

/-- The first two clusters change places, and so do the first two shards of the one that is
first then, and the first two replicas of its second shard. -/
def swappedPlaces : Rearrangement where
  cluster := Equiv.swap 0 1
  shard
    | 0 => Equiv.swap 0 1
    | _ => Equiv.refl Nat
  replica
    | 0, 1 => Equiv.swap 0 1
    | _, _ => Equiv.refl Nat

theorem normalize_rearranged_orderedSample :
    let pinned : Replica := { deployment := { podTemplate := some "pod" } }
    let x := orderedSample false [pinned, {}]
    let y := orderedSample true [{}, pinned]
    x.Rearranged swappedPlaces y ∧
      (∃ r r', x.normalize.value.replicaAt? 1 0 0 = some r ∧
        y.normalize.value.replicaAt? 0 1 1 = some r' ∧
        r'.deployment.withoutIndex = r.deployment.withoutIndex ∧
        r.deployment.podTemplate = some "pod" ∧ r.deployment.fingerprint.isSome) ∧
      MovedBy swappedPlaces.cluster (fun _ c d => c.stamps.Perm d.stamps)
        x.normalize.value.clusters y.normalize.value.clusters ∧
      x.normalize.value.clusters.map (·.stamps.length) = [2, 3] ∧
      y.normalize.usage = x.normalize.usage ∧
      (x.withClusters (x.clusters ++ x.clusters)).normalize.usage = x.normalize.usage ∧
      x.normalize.usage.total = 3 := by
  intro pinned x y
  have hlisted : Shard.Rearranged (Equiv.swap 0 1) { replicas := [pinned, {}] }
      { replicas := [{}, pinned] } :=
    ⟨rfl, fun _ => .swap rfl rfl fun _ => .none, nofun⟩
  have hcounted : Shard.Rearranged (Equiv.refl Nat)
      { definitionType := .replicasCount, replicasCount := 1 }
      { definitionType := .replicasCount, replicasCount := 1 } :=
    ⟨rfl, nofun, fun _ => rfl⟩
  have hclusters : MovedBy swappedPlaces.cluster
      (fun i => Cluster.Rearranged (swappedPlaces.shard i) (swappedPlaces.replica i))
      x.clusters y.clusters := by
    refine .swap ?listing ?counting fun _ => .none
    case listing => exact ⟨rfl, fun _ => .swap hcounted hlisted fun _ => .none, nofun⟩
    case counting => exact ⟨rfl, nofun, fun _ => ⟨rfl, fun _ => rfl⟩⟩
  have hmoved : x.Rearranged swappedPlaces y := ⟨rfl, hclusters⟩
  obtain ⟨hrearranged, hcopied⟩ := normalize_rearranged x
  obtain ⟨husage, hreplica, hstamps⟩ := hrearranged swappedPlaces y hmoved
  have htotal : x.normalize.usage.total = 3 := by decide +kernel
  obtain ⟨r, hr, hpod, hfingerprint⟩ : ∃ r, x.normalize.value.replicaAt? 1 0 0 = some r ∧
      r.deployment.podTemplate = some "pod" ∧ r.deployment.fingerprint.isSome :=
    ⟨_, rfl, rfl, rfl⟩
  have hplace : (y.normalize.value.replicaAt? 0 1 1).map (·.deployment.withoutIndex) =
      some r.deployment.withoutIndex := (hreplica 0 1 1).trans (congrArg _ hr)
  obtain ⟨r', hr', hsame⟩ := Option.map_eq_some_iff.mp hplace
  refine ⟨hmoved, ⟨r, r', hr, hr', hsame, hpod, hfingerprint⟩, hstamps, rfl, husage,
    hcopied _ fun c => ?_, htotal⟩
  rw [List.mem_append, or_self]

end Installation

end ClusterTopology
