import ClusterTopology.Deployment
import ClusterTopology.Flag
import ClusterTopology.Json.Basic

/-!
# Installations

An installation has defaults and clusters.  A cluster is laid out in shards, and
a shard in replicas; every level has a deployment, and a level takes from the
one above it the settings that it leaves open.

## Main definitions

* `Replica`, `Shard`, `Layout`, `Cluster` — the levels of a cluster.
* `Defaults`, `Configuration`, `Spec`, `Metadata`, `Installation` — an
  installation and its parts.
* `Installation.namespaceOrEmpty`, `Installation.nameOrEmpty` — what identifies
  an installation.
* `Installation.replicas` — the replicas with their positions.
-/

namespace ClusterTopology

/-! ### Clusters -/

/-- One server of a shard. -/
@[ext] structure Replica where
  /-- The deployment of the replica. -/
  deployment : Deployment := {}
  deriving DecidableEq

instance : Inhabited Replica := ⟨{}⟩

/-- How the replicas of a listed shard are given. -/
inductive ShardDefinition
  /-- By their number; listed replicas do not count. -/
  | replicasCount
  /-- By a list. -/
  | replicas
  deriving DecidableEq, Repr

instance : Inhabited ShardDefinition := ⟨.replicas⟩

/-- A part of the data of a cluster, held by all its replicas. -/
@[ext] structure Shard where
  /-- How the replicas are given. -/
  definitionType : ShardDefinition := .replicas
  /-- The number of replicas. -/
  replicasCount : Nat := 0
  /-- Whether the shard leaves replication to its tables. -/
  internalReplication : Option InternalReplication := none
  /-- The deployment that the replicas take open settings from. -/
  deployment : Deployment := {}
  /-- The replicas. -/
  replicas : List Replica := []
  deriving DecidableEq

instance : Inhabited Shard := ⟨{}⟩

/-- How the shards of a cluster are given. -/
inductive LayoutType
  /-- By their number, all with the same number of replicas. -/
  | standard
  /-- By a list. -/
  | advanced
  deriving DecidableEq, Repr

instance : Inhabited LayoutType := ⟨.standard⟩

/-- The name of a layout type. -/
def LayoutType.name : LayoutType → String
  | standard => "Standard"
  | advanced => "Advanced"

/-- The shards of a cluster. -/
@[ext] structure Layout where
  /-- How the shards are given. -/
  layoutType : LayoutType := .standard
  /-- The number of shards of a standard layout. -/
  shardsCount : Nat := 0
  /-- The number of replicas in each shard of a standard layout. -/
  replicasCount : Nat := 0
  /-- The shards. -/
  shards : List Shard := []
  deriving DecidableEq

instance : Inhabited Layout := ⟨{}⟩

/-- Servers that hold the same tables. -/
@[ext] structure Cluster where
  /-- The name of the cluster. -/
  name : String := ""
  /-- The shards of the cluster. -/
  layout : Layout := {}
  /-- The deployment that the shards take open settings from. -/
  deployment : Deployment := {}
  deriving DecidableEq

instance : Inhabited Cluster := ⟨{}⟩

/-! ### Installations -/

/-- The settings for all clusters. -/
@[ext] structure Defaults where
  /-- Whether replicas address each other by their fully qualified domain names. -/
  replicasUseFqdn : Option ReplicasUseFqdn := none
  /-- The deployment that the clusters take open settings from. -/
  deployment : Deployment := {}
  deriving DecidableEq

instance : Inhabited Defaults := ⟨{}⟩

/-- The clusters of an installation. -/
@[ext] structure Configuration where
  /-- The clusters. -/
  clusters : List Cluster := []
  deriving DecidableEq

instance : Inhabited Configuration := ⟨{}⟩

/-- What an installation is to be. -/
@[ext] structure Spec where
  /-- The settings for all clusters. -/
  defaults : Defaults := {}
  /-- The clusters. -/
  configuration : Configuration := {}
  deriving DecidableEq

instance : Inhabited Spec := ⟨{}⟩

/-- What is known about an installation as a resource.  It is kept by the store of resources, and
only the name, the namespace and the beginning of a name are ever used.  The times and the
records of owners and of managed fields are the store's own types; they are carried as they
stand, and whether they have the form that the store gives them is not checked. -/
@[ext] structure Metadata where
  /-- The name. -/
  name : Option String := none
  /-- The namespace. -/
  namespaceName : Option String := none
  /-- The beginning of a name that is still to be generated. -/
  generateName : Option String := none
  /-- The unique identifier. -/
  uid : Option String := none
  /-- The version of the stored resource. -/
  resourceVersion : Option String := none
  /-- The labels. -/
  labels : Option Labels := none
  /-- The annotations. -/
  annotations : Option Labels := none
  /-- What must be done before the resource is removed. -/
  finalizers : Option (List String) := none
  /-- The number of the generation of the spec. -/
  generation : Option Int64 := none
  /-- The resources that it belongs to. -/
  ownerReferences : Option (List Json.Present) := none
  /-- When it was created. -/
  creationTimestamp : Option Json.Present := none
  /-- When its removal was asked for. -/
  deletionTimestamp : Option Json.Present := none
  /-- The seconds that it is left to be removed in. -/
  deletionGracePeriodSeconds : Option Int64 := none
  /-- Which fields are managed by whom. -/
  managedFields : Option (List Json.Present) := none
  /-- The address of the stored resource. -/
  selfLink : Option String := none
  deriving DecidableEq

instance : Inhabited Metadata := ⟨{}⟩

/-- An installation. -/
@[ext] structure Installation where
  /-- What is known about it as a resource. -/
  metadata : Metadata := {}
  /-- What it is to be. -/
  spec : Spec := {}
  deriving DecidableEq

instance : Inhabited Installation := ⟨{}⟩

namespace Installation

/-- The clusters of the installation. -/
def clusters (x : Installation) : List Cluster := x.spec.configuration.clusters

/-- The installation with other clusters. -/
def withClusters (x : Installation) (clusters : List Cluster) : Installation :=
  { x with spec := { x.spec with configuration := ⟨clusters⟩ } }

/-- The namespace of the installation, empty if it has none. -/
def namespaceOrEmpty (x : Installation) : String := x.metadata.namespaceName.getD ""

/-- The name of the installation, or else the beginning of the name that is still
to be generated, or else the empty text. -/
def nameOrEmpty (x : Installation) : String :=
  (x.metadata.name.or x.metadata.generateName).getD ""

end Installation

/-! ### Replicas and their positions -/

/-- A replica with its position in an installation. -/
structure PlacedReplica where
  /-- The cluster of the replica. -/
  cluster : Cluster
  /-- The index of its shard. -/
  shardIndex : Nat
  /-- Its index in the shard. -/
  replicaIndex : Nat
  /-- The replica. -/
  replica : Replica
  deriving DecidableEq

/-- The replicas of a cluster with their positions, shard by shard. -/
def Cluster.replicas (cluster : Cluster) : List PlacedReplica :=
  cluster.layout.shards.zipIdx.flatMap fun (shard, shardIndex) =>
    shard.replicas.zipIdx.map fun (replica, replicaIndex) =>
      ⟨cluster, shardIndex, replicaIndex, replica⟩

/-- The replicas of an installation with their positions, cluster by cluster and
shard by shard. -/
def Installation.replicas (x : Installation) : List PlacedReplica :=
  x.clusters.flatMap Cluster.replicas

/-! ### Basic properties -/

@[simp] theorem Installation.clusters_withClusters (x : Installation) (clusters : List Cluster) :
    (x.withClusters clusters).clusters = clusters := rfl

@[simp] theorem Installation.metadata_withClusters (x : Installation) (clusters : List Cluster) :
    (x.withClusters clusters).metadata = x.metadata := rfl

end ClusterTopology
