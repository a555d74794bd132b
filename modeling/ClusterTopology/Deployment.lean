import ClusterTopology.Fingerprint
import ClusterTopology.Layering
import ClusterTopology.Sha256

/-!
# Deployments

A deployment says where and how a server runs: which templates it is made from,
how it is placed and to which nodes it is pinned.  Two stamps, a fingerprint and
an index, record what a normalization found out about it; they are not settings,
and no level takes them from another.

The settings of a deployment are written as one canonical text.  The fingerprint
of a deployment within an installation is the hash of the namespace and the name
of the installation and this text, one after the other.  The stamps have no part
in it.

## Main definitions

* `Zone` — the labels of the nodes that a deployment is pinned to.
* `Deployment` — a deployment with its stamps.
* `Deployment.inherit` — a deployment that inherits open settings.
* `Deployment.canonical` — the canonical text of the settings.
* `Deployment.hashInput` — the bytes that are hashed.
* `Deployment.fingerprintIn` — the fingerprint within an installation.
-/

namespace ClusterTopology

/-- The labels of the nodes that a deployment is pinned to. -/
@[ext] structure Zone where
  /-- The labels that a node must have. -/
  matchLabels : Labels := .empty
  deriving DecidableEq

instance : Inhabited Zone := ⟨{}⟩

/-- Where and how a server runs. -/
@[ext] structure Deployment where
  /-- The name of the pod template. -/
  podTemplate : Option String := none
  /-- The name of the volume claim template. -/
  volumeClaimTemplate : Option String := none
  /-- The placement strategy. -/
  scenario : Option String := none
  /-- The zone. -/
  zone : Zone := {}
  /-- The stamp that identifies the settings within an installation. -/
  fingerprint : Option Fingerprint := none
  /-- The stamp that tells apart replicas of one fingerprint. -/
  index : Option Nat := none
  deriving DecidableEq

instance : Inhabited Deployment := ⟨{}⟩

/-- The scenario of an installation that sets none. -/
def defaultScenario : String := "Default"

/-- The scenario that places one server on each node. -/
def monopolyScenario : String := "NodeMonopoly"

/-- A zone without labels inherits all labels of the defaults. -/
def Zone.inherit (own defaults : Zone) : Zone :=
  ⟨Layered.inherit own.matchLabels defaults.matchLabels⟩

instance : Layered Zone := ⟨Zone.inherit⟩

/-- A deployment inherits setting by setting; the stamps stay its own. -/
def Deployment.inherit (own defaults : Deployment) : Deployment :=
  { own with
    podTemplate := Layered.inherit own.podTemplate defaults.podTemplate
    volumeClaimTemplate := Layered.inherit own.volumeClaimTemplate defaults.volumeClaimTemplate
    scenario := Layered.inherit own.scenario defaults.scenario
    zone := Layered.inherit own.zone defaults.zone }

instance : Layered Deployment := ⟨Deployment.inherit⟩

namespace Deployment

/-! ### Basic properties -/

@[simp] theorem podTemplate_inherit (own defaults : Deployment) :
    (own.inherit defaults).podTemplate = Layered.inherit own.podTemplate defaults.podTemplate := rfl

@[simp] theorem volumeClaimTemplate_inherit (own defaults : Deployment) :
    (own.inherit defaults).volumeClaimTemplate =
      Layered.inherit own.volumeClaimTemplate defaults.volumeClaimTemplate := rfl

@[simp] theorem scenario_inherit (own defaults : Deployment) :
    (own.inherit defaults).scenario = Layered.inherit own.scenario defaults.scenario := rfl

@[simp] theorem zone_inherit (own defaults : Deployment) :
    (own.inherit defaults).zone = Layered.inherit own.zone defaults.zone := rfl

@[simp] theorem fingerprint_inherit (own defaults : Deployment) :
    (own.inherit defaults).fingerprint = own.fingerprint := rfl

@[simp] theorem index_inherit (own defaults : Deployment) :
    (own.inherit defaults).index = own.index := rfl

/-! ### Identity -/

/-- The text between the parts of a canonical text. -/
def separator : String := "::"

/-- The text of a setting, empty if it is absent. -/
def settingText (setting : Option String) : String := setting.getD ""

/-- A zone label in a canonical text. -/
def labelText (label : String × String) : String := separator ++ label.1 ++ "=" ++ label.2

/-- The canonical text of the settings: the templates and the scenario, each
followed by a separator, and the zone labels in key order, each after a
separator. -/
def canonical (d : Deployment) : String :=
  settingText d.podTemplate ++ separator ++ settingText d.volumeClaimTemplate ++ separator ++
    settingText d.scenario ++ separator ++ String.join (d.zone.matchLabels.toList.map labelText)

/-- The bytes that are hashed for the fingerprint within an installation. -/
def hashInput (namespaceName name : String) (d : Deployment) : ByteArray :=
  (namespaceName ++ name ++ d.canonical).toUTF8

/-- The fingerprint of the settings within an installation. -/
def fingerprintIn (namespaceName name : String) (d : Deployment) : Fingerprint :=
  ⟨Sha256.hexDigest (d.hashInput namespaceName name).data.toList⟩

@[simp] theorem settingText_none : settingText none = "" := rfl

@[simp] theorem settingText_some (s : String) : settingText (some s) = s := rfl

end Deployment

end ClusterTopology
