import ClusterTopology.DeploymentId

/-!
# The log

What normalizations and checks report while they work.  A record of the log has a
level and named fields; the first one of a normalization opens a span that the
others belong to.

## Main definitions

* `Event` — what is reported.
* `Event.level`, `Event.spanName`, `Event.fields` — its record in the log.
* `Usage.clashEvents` — what the check of short IDs reports.
-/

namespace ClusterTopology

/-- The level of a record in the log. -/
inductive Level
  /-- Of interest for every step. -/
  | trace
  /-- Of interest while looking for a mistake. -/
  | debug
  /-- Of general interest. -/
  | info
  /-- Of concern. -/
  | warn
  deriving DecidableEq, Repr

/-- The name of a level. -/
def Level.name : Level → String
  | trace => "TRACE"
  | debug => "DEBUG"
  | info => "INFO"
  | warn => "WARN"

/-- What is reported. -/
inductive Event
  /-- The normalization of an installation begins. -/
  | normalizing (namespaceName name : Option String)
  /-- The deployment of a replica is resolved and stamped. -/
  | resolvedReplica (fingerprint : Fingerprint) (index : Nat)
  /-- A cluster is normalized, with its numbers of shards and of fingerprints. -/
  | normalizedCluster (name : String) (layoutType : LayoutType) (shards deployments : Nat)
  /-- An installation is normalized, with its numbers of fingerprints and of
  instances. -/
  | normalizedInstallation (deployments instances : Nat)
  /-- Two fingerprints have the same short ID. -/
  | shortIdClash (clash : Clash)
  deriving DecidableEq, Repr

/-- The value of a field in a record. -/
inductive FieldValue
  /-- A number. -/
  | number (n : Nat)
  /-- A text. -/
  | text (s : String)
  deriving DecidableEq, Repr

namespace Event

/-- The level of an event. -/
def level : Event → Level
  | normalizing .. => .info
  | resolvedReplica .. => .trace
  | normalizedCluster .. => .debug
  | normalizedInstallation .. => .debug
  | shortIdClash .. => .warn

/-- The name of the span that an event opens, if it opens one. -/
def spanName : Event → Option String
  | normalizing .. => some "normalize_installation"
  | _ => none

/-- The fields of an event; one that opens no span has a message among them. -/
def fields : Event → List (String × FieldValue)
  | normalizing namespaceName name =>
    [("chi.namespace", .text (Text.quotedOption namespaceName)),
      ("chi.name", .text (Text.quotedOption name))]
  | resolvedReplica fingerprint index =>
    [("message", .text "resolved replica deployment"),
      ("fingerprint", .text fingerprint.text),
      ("index", .number index)]
  | normalizedCluster name layoutType shards deployments =>
    [("message", .text "normalized cluster"),
      ("cluster.name", .text name),
      ("cluster.layout", .text layoutType.name),
      ("shards", .number shards),
      ("deployments", .number deployments)]
  | normalizedInstallation deployments instances =>
    [("message", .text "normalized installation"),
      ("deployments", .number deployments),
      ("instances", .number instances)]
  | shortIdClash clash =>
    [("message", .text "deployments share a short ID, resource names will clash"),
      ("short_id", .text clash.shortId),
      ("first", .text clash.first.text),
      ("second", .text clash.second.text)]

end Event

/-- What the check of short IDs reports: every clash. -/
def Usage.clashEvents (u : Usage) : List Event := u.clashes.map .shortIdClash

end ClusterTopology
