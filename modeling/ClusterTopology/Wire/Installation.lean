import ClusterTopology.Installation
import ClusterTopology.Wire.Record

/-!
# Installations on the wire

The written forms of flags, of deployments, of the parts of an installation and of
installations themselves.  An installation is written with its resource type, which
is not looked at when it is read.

## Main definitions

* `Resource.apiVersion`, `Resource.kind` — what every installation names as its
  type.
* `Resource.definitionName` — the name of the definition of the type.
* `readFlagLiteral`, `writeFlagLiteral` — flags.
* `LayoutType.ofName?`, `ShardDefinition.ofName` — the names of variants.
* `Zone.fields`, `Deployment.fields` — the fields of zones and deployments.
* `Replica.fields` to `Installation.fields` — the fields of each part.
-/

namespace ClusterTopology

/-! ### The resource type -/

namespace Resource

/-- The group of the type. -/
def group : String := "clickhouse.altinity.com"

/-- The version of the type. -/
def version : String := "v1"

/-- The group and version of the type. -/
def apiVersion : String := group ++ "/" ++ version

/-- The name of the type. -/
def kind : String := "ClickHouseInstallation"

/-- The name of a collection of installations. -/
def plural : String := "clickhouseinstallations"

/-- The name of the definition of the type. -/
def definitionName : String := plural ++ "." ++ group

/-- Where installations live. -/
def scope : String := "Namespaced"

/-- The short names of the type. -/
def shortNames : List String := ["chi"]

end Resource

/-! ### Flags -/

/-- A flag is a boolean, an integer of 64 bits or a string. -/
def readFlagLiteral : Json → Except Fault FlagLiteral
  | .bool b => .ok (.bool b)
  | .int n =>
    if n < Int64.minValue.toInt ∨ Int64.maxValue.toInt < n then .error .noMatchingVariant
    else .ok (.int (Int64.ofInt n))
  | .str s => .ok (.text s)
  | _ => .error .noMatchingVariant

/-- The JSON value of a flag. -/
def writeFlagLiteral : FlagLiteral → Json
  | .bool b => .bool b
  | .int n => .int n.toInt
  | .text s => .str s

instance : Wire FlagLiteral := ⟨fun _ => readFlagLiteral, writeFlagLiteral⟩

/-- The value that a flag stands for, for a type of two values. -/
def Flag.read {α : Type} [Flag α] (j : Json) : Except Fault α :=
  (readFlagLiteral j).map Flag.ofLiteral

/-- The JSON value of the flag that a value is written as. -/
def Flag.write {α : Type} [Flag α] (a : α) : Json := writeFlagLiteral (Flag.toLiteral a)

instance : Wire ReplicasUseFqdn := ⟨fun _ => Flag.read, Flag.write⟩

instance : Wire InternalReplication := ⟨fun _ => Flag.read, Flag.write⟩

/-! ### Variants -/

/-- The layout type of a name. -/
def LayoutType.ofName? : String → Option LayoutType
  | "Standard" => some standard
  | "Advanced" => some advanced
  | _ => none

instance : Wire LayoutType where
  read _ := readVariant LayoutType.ofName?
  write layoutType := .str layoutType.name

/-- The name of a shard definition. -/
def ShardDefinition.name : ShardDefinition → String
  | replicasCount => "ReplicasCount"
  | replicas => "Replicas"

/-- The shard definition of a name; any unknown name stands for a list. -/
def ShardDefinition.ofName (name : String) : ShardDefinition :=
  if name = "ReplicasCount" then replicasCount else replicas

instance : Wire ShardDefinition where
  read _ := readVariant fun name => some (ShardDefinition.ofName name)
  write definition := .str definition.name

/-! ### Deployments -/

/-- A fingerprint is any text. -/
instance : Wire Fingerprint where
  read empties j := (Wire.read empties j).map Fingerprint.mk
  write f := Wire.write f.text

/-- The fields of a zone. -/
def Zone.fields : Record Zone Zone :=
  Zone.mk <$> .field (.defaulted "matchLabels" .empty) Zone.matchLabels

instance : Wire Zone := ⟨Zone.fields.read, Zone.fields.write⟩

/-- The fields of a deployment. -/
def Deployment.fields : Record Deployment Deployment :=
  Deployment.mk
    <$> .field (.setting "podTemplate") Deployment.podTemplate
    <*> .field (.setting "volumeClaimTemplate") Deployment.volumeClaimTemplate
    <*> .field (.setting "scenario") Deployment.scenario
    <*> .field (.defaulted "zone" {}) Deployment.zone
    <*> .field (.optional "fingerprint") Deployment.fingerprint
    <*> .field (.optional "index") Deployment.index

instance : Wire Deployment := ⟨Deployment.fields.read, Deployment.fields.write⟩

/-! ### Clusters -/

/-- The fields of a replica. -/
def Replica.fields : Record Replica Replica :=
  Replica.mk <$> .field (.defaulted "deployment" {}) Replica.deployment

instance : Wire Replica := ⟨Replica.fields.read, Replica.fields.write⟩

/-- The fields of a shard. -/
def Shard.fields : Record Shard Shard :=
  Shard.mk
    <$> .field (.defaulted "definitionType" .replicas) Shard.definitionType
    <*> .field (.defaulted "replicasCount" 0) Shard.replicasCount
    <*> .field (.optional "internalReplication") Shard.internalReplication
    <*> .field (.defaulted "deployment" {}) Shard.deployment
    <*> .field (.defaulted "replicas" []) Shard.replicas

instance : Wire Shard := ⟨Shard.fields.read, Shard.fields.write⟩

/-- The fields of a layout. -/
def Layout.fields : Record Layout Layout :=
  Layout.mk
    <$> .field (.defaulted "type" .standard) Layout.layoutType
    <*> .field (.defaulted "shardsCount" 0) Layout.shardsCount
    <*> .field (.defaulted "replicasCount" 0) Layout.replicasCount
    <*> .field (.defaulted "shards" []) Layout.shards

instance : Wire Layout := ⟨Layout.fields.read, Layout.fields.write⟩

/-- The fields of a cluster. -/
def Cluster.fields : Record Cluster Cluster :=
  Cluster.mk
    <$> .field (.defaulted "name" "") Cluster.name
    <*> .field (.defaulted "layout" {}) Cluster.layout
    <*> .field (.defaulted "deployment" {}) Cluster.deployment

instance : Wire Cluster := ⟨Cluster.fields.read, Cluster.fields.write⟩

/-! ### Installations -/

/-- The fields of defaults. -/
def Defaults.fields : Record Defaults Defaults :=
  Defaults.mk
    <$> .field (.optional "replicasUseFQDN") Defaults.replicasUseFqdn
    <*> .field (.defaulted "deployment" {}) Defaults.deployment

instance : Wire Defaults := ⟨Defaults.fields.read, Defaults.fields.write⟩

/-- The fields of a configuration. -/
def Configuration.fields : Record Configuration Configuration :=
  Configuration.mk <$> .field (.defaulted "clusters" []) Configuration.clusters

instance : Wire Configuration := ⟨Configuration.fields.read, Configuration.fields.write⟩

/-- The fields of a spec. -/
def Spec.fields : Record Spec Spec :=
  Spec.mk
    <$> .field (.defaulted "defaults" {}) Spec.defaults
    <*> .field (.defaulted "configuration" {}) Spec.configuration

instance : Wire Spec := ⟨Spec.fields.read, Spec.fields.write⟩

/-- The fields of metadata. -/
def Metadata.fields : Record Metadata Metadata :=
  Metadata.mk
    <$> .field (.optional "name") Metadata.name
    <*> .field (.optional "namespace") Metadata.namespaceName
    <*> .field (.optional "generateName") Metadata.generateName
    <*> .field (.optional "uid") Metadata.uid
    <*> .field (.optional "resourceVersion") Metadata.resourceVersion
    <*> .field (.optional "labels") Metadata.labels
    <*> .field (.optional "annotations") Metadata.annotations
    <*> .field (.optional "finalizers") Metadata.finalizers
    <*> .field (.optional "generation") Metadata.generation
    <*> .field (.optional "ownerReferences") Metadata.ownerReferences
    <*> .field (.optional "creationTimestamp") Metadata.creationTimestamp
    <*> .field (.optional "deletionTimestamp") Metadata.deletionTimestamp
    <*> .field (.optional "deletionGracePeriodSeconds") Metadata.deletionGracePeriodSeconds
    <*> .field (.optional "managedFields") Metadata.managedFields
    <*> .field (.optional "selfLink") Metadata.selfLink

/-- Metadata is read from objects only. -/
instance : Wire Metadata := ⟨Metadata.fields.readObjectOnly, Metadata.fields.write⟩

/-- The fields of an installation. -/
def Installation.fields : Record Installation Installation :=
  .constant "apiVersion" (.str Resource.apiVersion) *>
    .constant "kind" (.str Resource.kind) *>
      (Installation.mk
        <$> .field (.required "metadata") Installation.metadata
        <*> .field (.required "spec") Installation.spec)

instance : Wire Installation := ⟨Installation.fields.read, Installation.fields.write⟩

end ClusterTopology
