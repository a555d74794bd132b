import ClusterTopology.Installation
import ClusterTopology.QuotedText
import ClusterTopology.Usage

/-!
# Deployment IDs

The resources of a replica are named after the short ID of its fingerprint and
its index.  These names tell replicas apart as long as no two fingerprints in use
have the same short ID.

## Main definitions

* `Replica.deploymentId` — the full deployment ID of a replica.
* `Clash`, `Usage.clashes` — fingerprints with the same short ID.
* `Usage.checkShortIds` — the check that there is no clash.
* `IdentityError` — why a replica has no ID, or the IDs cannot be trusted.
-/

namespace ClusterTopology

/-! ### Errors -/

/-- A stamp of a normalized replica. -/
inductive Stamp
  /-- The fingerprint. -/
  | fingerprint
  /-- The index. -/
  | index
  deriving DecidableEq, Repr

/-- The name of a stamp. -/
def Stamp.name : Stamp → String
  | fingerprint => "fingerprint"
  | index => "index"

/-- Two fingerprints with the same short ID. -/
@[ext] structure Clash where
  /-- The short ID of both. -/
  shortId : String
  /-- The smallest fingerprint with this short ID. -/
  first : Fingerprint
  /-- A larger one. -/
  second : Fingerprint
  deriving DecidableEq, Repr

/-- Why a replica has no ID, or why IDs cannot be trusted. -/
inductive IdentityError
  /-- The replica lacks a stamp. -/
  | notNormalized (missing : Stamp)
  /-- Two fingerprints have the same short ID. -/
  | shortIdClash (clash : Clash)
  deriving DecidableEq, Repr

/-- The text of an error. -/
def IdentityError.message : IdentityError → String
  | notNormalized missing =>
    "replica deployment has no " ++ missing.name ++ ", normalize the installation first"
  | shortIdClash clash =>
    "deployments " ++ clash.first.text ++ " and " ++ clash.second.text ++
      " share the short ID " ++ Text.quoted clash.shortId

/-! ### IDs -/

/-- The ID of the replica with a fingerprint and an index. -/
def deploymentIdOf (f : Fingerprint) (index : Nat) : String := f.shortId ++ "-" ++ toString index

/-- The full deployment ID of a normalized replica. -/
def Replica.deploymentId (r : Replica) : Except IdentityError String :=
  match r.deployment.fingerprint, r.deployment.index with
  | none, _ => .error (.notNormalized .fingerprint)
  | some _, none => .error (.notNormalized .index)
  | some f, some index => .ok (deploymentIdOf f index)

/-! ### Clashes -/

/-- The clashes of fingerprints with the ones before them, of which `seen` holds
the first of each short ID. -/
def clashesFrom (seen : List (String × Fingerprint)) : List Fingerprint → List Clash
  | [] => []
  | f :: fs =>
    match seen.lookup f.shortId with
    | some first => ⟨f.shortId, first, f⟩ :: clashesFrom seen fs
    | none => clashesFrom ((f.shortId, f) :: seen) fs

/-- The clashes in a usage, in the order of their second fingerprints. -/
def Usage.clashes (u : Usage) : List Clash := clashesFrom [] u.counts.keys

/-- The check that no two fingerprints have the same short ID; the first clash is
the error. -/
def Usage.checkShortIds (u : Usage) : Except IdentityError Unit :=
  match u.clashes with
  | [] => .ok ()
  | clash :: _ => .error (.shortIdClash clash)

end ClusterTopology
