import Secp.Python.Datetime
import Secp.Python.Json
import Secp.Python.Sha256

/-!
# Desired and observed state

The closed vocabularies of the reconciliation contract, content addressing, the state elements of
both sides, and the gate every reconciliation passes first. Desired and observed state have the same
element shape and are compared, never merged. A refusal carries one code and nothing else.
-/

namespace Secp.Reconciliation

open Secp.Python

/-! ## Vocabularies -/

inductive ElementKind where
  | network
  | node
  | edge
  deriving DecidableEq

def ElementKind.value : ElementKind → Str
  | .network => str "network"
  | .node => str "node"
  | .edge => str "edge"

/-- A comparable property of an element. -/
inductive FacetName where
  | name
  | addressSpace
  | isolation
  | teamBinding
  | nodeClass
  | role
  | image
  | networkAttachment
  | address
  | attributes
  deriving DecidableEq

def FacetName.value : FacetName → Str
  | .name => str "name"
  | .addressSpace => str "address_space"
  | .isolation => str "isolation"
  | .teamBinding => str "team_binding"
  | .nodeClass => str "node_class"
  | .role => str "role"
  | .image => str "image"
  | .networkAttachment => str "network_attachment"
  | .address => str "address"
  | .attributes => str "attributes"

/-- `FACETS_BY_ELEMENT_KIND`. -/
def ElementKind.facets : ElementKind → List FacetName
  | .network => [.name, .addressSpace, .isolation, .teamBinding]
  | .node => [.name, .nodeClass, .role, .image, .networkAttachment, .address, .attributes]
  | .edge => []

inductive ObservationFidelity where
  | complete
  | partialCoverage
  | unverified
  deriving DecidableEq

def ObservationFidelity.value : ObservationFidelity → Str
  | .complete => str "complete"
  | .partialCoverage => str "partial"
  | .unverified => str "unverified"

inductive RefusalCode where
  | contractVersionUnsupported
  | scopeInvalid
  | executionSurfaceSealed
  | desiredUnverified
  | desiredStateInconsistent
  | instanceMismatch
  | providerMismatch
  | observationUnverified
  | observationIncomplete
  | observationStale
  | observedStateInconsistent
  | verificationTokenInvalid
  | identityConflictUnresolvable
  | driftIndeterminate
  | changeBudgetExceeded
  | resetScopeUnsafe
  | resetWindowInvalid
  | planIntegrityInvalid
  | scopeMismatch
  | resetIntentPlanMismatch
  | resetIntentExpired
  | resetIntentNotYetValid
  | executionUnauthorized
  deriving DecidableEq

def RefusalCode.value : RefusalCode → Str
  | .contractVersionUnsupported => str "reconciliation_contract_version_unsupported"
  | .scopeInvalid => str "reconciliation_scope_invalid"
  | .executionSurfaceSealed => str "reconciliation_execution_surface_sealed"
  | .desiredUnverified => str "reconciliation_desired_unverified"
  | .desiredStateInconsistent => str "reconciliation_desired_state_inconsistent"
  | .instanceMismatch => str "reconciliation_instance_mismatch"
  | .providerMismatch => str "reconciliation_provider_mismatch"
  | .observationUnverified => str "reconciliation_observation_unverified"
  | .observationIncomplete => str "reconciliation_observation_incomplete"
  | .observationStale => str "reconciliation_observation_stale"
  | .observedStateInconsistent => str "reconciliation_observed_state_inconsistent"
  | .verificationTokenInvalid => str "reconciliation_verification_token_invalid"
  | .identityConflictUnresolvable => str "reconciliation_identity_conflict_unresolvable"
  | .driftIndeterminate => str "reconciliation_drift_indeterminate"
  | .changeBudgetExceeded => str "reconciliation_change_budget_exceeded"
  | .resetScopeUnsafe => str "reconciliation_reset_scope_unsafe"
  | .resetWindowInvalid => str "reconciliation_reset_window_invalid"
  | .planIntegrityInvalid => str "reconciliation_plan_integrity_invalid"
  | .scopeMismatch => str "reconciliation_scope_mismatch"
  | .resetIntentPlanMismatch => str "reconciliation_reset_intent_plan_mismatch"
  | .resetIntentExpired => str "reconciliation_reset_intent_expired"
  | .resetIntentNotYetValid => str "reconciliation_reset_intent_not_yet_valid"
  | .executionUnauthorized => str "reconciliation_execution_unauthorized"

/-- A computation that may refuse. -/
abbrev Guarded (α : Type) := Except RefusalCode α

/-- Refuse unless the condition holds. -/
def require (condition : Bool) (code : RefusalCode) : Guarded Unit :=
  if condition then .ok () else .error code

theorem require_eq_ok_iff {condition : Bool} {code : RefusalCode} :
    require condition code = .ok () ↔ condition = true := by
  unfold require
  cases condition <;> simp

def contractVersion : Str := str "secp-recon/v1"

/-- `ExecutionSurface.simulator`, the only surface there is. -/
def simulatorSurface : Str := str "simulator"

/-! ## Content addressing -/

/-- `document_digest`: the digest of a versioned document. -/
def documentDigest (schemaVersion : Str) (document : Json) : Str :=
  str "sha256:" ++ Sha256.hexdigest (Sha256.encode (schemaVersion ++ ['|'] ++ document.dumps true))

/-- `is_content_digest`: a well-formed content address. -/
def isContentDigest (value : Str) : Bool :=
  startsWith value (str "sha256:") && (value.drop 7).length = 64 &&
    (value.drop 7).all fun c => isAsciiDigit c || (97 ≤ c.toNat && c.toNat ≤ 102)

/-! ## Elements and states -/

/-- One element with the facet values compared for it. -/
structure StateElement where
  kind : ElementKind
  ref : Str
  facets : List (FacetName × Str) := []
  deriving DecidableEq

def StateElement.facetMap (e : StateElement) : Dict FacetName Str := Dict.ofPairs e.facets

structure DesiredState where
  instanceId : Str
  definitionDigest : Str
  elements : List StateElement
  deriving DecidableEq

structure ObservedState where
  instanceId : Str
  provider : Str
  collectorDigest : Str
  observedAt : Datetime
  fidelity : ObservationFidelity
  elements : List StateElement
  deriving DecidableEq

/-- The declared bounds of a reconciliation. -/
structure ReconciliationScope where
  instanceId : Str
  provider : Str
  executionSurface : Str
  maxActions : Int
  observationMaxAgeSeconds : Int
  version : Str := contractVersion
  deriving DecidableEq

/-- States that passed the gate, with the digest that binds them. -/
structure VerifiedStatePair where
  scope : ReconciliationScope
  desired : DesiredState
  observed : ObservedState
  evaluatedAt : Datetime
  verificationDigest : Str
  deriving DecidableEq

/-! ## Edge references -/

/-- `s.partition(sep)`: the text before the first occurrence and the text after it. -/
def partitionOn (sep : Str) : Str → Option (Str × Str)
  | [] => if sep.isEmpty then some ([], []) else none
  | c :: rest =>
      if sep.isPrefixOf (c :: rest) then some ([], (c :: rest).drop sep.length)
      else (partitionOn sep rest).map fun (before, after) => (c :: before, after)

def encodeEdgeRef (sourceRef targetRef edgeKind : Str) : Str :=
  sourceRef ++ str "->" ++ targetRef ++ str "|" ++ edgeKind

/-- The endpoints of an encoded edge reference. -/
def decodeEdgeRef (ref : Str) : Option (Str × Str) := do
  let (body, _) ← partitionOn (str "|") ref
  let (source, target) ← partitionOn (str "->") body
  if source.isEmpty || target.isEmpty then none else pure (source, target)

/-! ## Digests -/

def elementDocument (e : StateElement) : Json :=
  .obj [
    (str "kind", .str e.kind.value),
    (str "ref", .str e.ref),
    (str "facets", .arr (e.facets.map fun facet => .arr [.str facet.1.value, .str facet.2]))]

def desiredStateDigest (desired : DesiredState) : Str :=
  documentDigest (str "secp-recon/desired-state/v1") (.obj [
    (str "instance_id", .str desired.instanceId),
    (str "definition_digest", .str desired.definitionDigest),
    (str "elements", .arr (desired.elements.map elementDocument))])

def observedStateDigest (observed : ObservedState) : Str :=
  documentDigest (str "secp-recon/observed-state/v1") (.obj [
    (str "instance_id", .str observed.instanceId),
    (str "provider", .str observed.provider),
    (str "collector_digest", .str observed.collectorDigest),
    (str "observed_at", .str observed.observedAt.isoformat),
    (str "fidelity", .str observed.fidelity.value),
    (str "elements", .arr (observed.elements.map elementDocument))])

def scopeDigest (scope : ReconciliationScope) : Str :=
  documentDigest (str "secp-recon/reconciliation-scope/v1") (.obj [
    (str "instance_id", .str scope.instanceId),
    (str "provider", .str scope.provider),
    (str "execution_surface", .str scope.executionSurface),
    (str "max_actions", .int scope.maxActions),
    (str "observation_max_age_seconds", .int scope.observationMaxAgeSeconds),
    (str "contract_version", .str scope.version)])

def verificationDigest (scope : ReconciliationScope) (desired : DesiredState)
    (observed : ObservedState) (evaluatedAt : Datetime) : Str :=
  documentDigest (str "secp-recon/verified-state-pair/v1") (.obj [
    (str "scope_digest", .str (scopeDigest scope)),
    (str "desired_digest", .str (desiredStateDigest desired)),
    (str "observed_digest", .str (observedStateDigest observed)),
    (str "evaluated_at", .str evaluatedAt.isoformat)])

/-! ## The gate -/

/-- `_duplicate_refs`. -/
def duplicateRefs (elements : List StateElement) : Bool :=
  !decide (elements.map StateElement.ref).Nodup

/-- An element the contract can compare. -/
def StateElement.wellFormed (e : StateElement) : Bool :=
  !e.ref.isEmpty && decide (e.facets.map Prod.fst).Nodup &&
    e.facets.all fun facet => facet.1 ∈ e.kind.facets

/-- `_malformed_elements`. -/
def malformedElements (elements : List StateElement) : Bool :=
  !elements.all StateElement.wellFormed

/-- `_endpoint_present`. -/
def endpointPresent (elements : List StateElement) (endpoint : Str) : Bool :=
  elements.any fun e => (e.kind = .node || e.kind = .network) && e.ref = endpoint

/-- An edge whose endpoints are both present, or no edge. -/
def StateElement.attached (elements : List StateElement) (e : StateElement) : Bool :=
  if e.kind = .edge then
    match decodeEdgeRef e.ref with
    | none => false
    | some (source, target) => endpointPresent elements source && endpointPresent elements target
  else true

/-- `_dangling_edges`. -/
def danglingEdges (elements : List StateElement) : Bool :=
  !elements.all (StateElement.attached elements)

/-- The elements of one side can be compared: well formed, of distinct references, and with the
ends of every edge. -/
def consistent (elements : List StateElement) : Bool :=
  !malformedElements elements && !duplicateRefs elements && !danglingEdges elements

/-- How old an observation is, in microseconds. -/
def age (now observedAt : Datetime) : Int := (now.micros : Int) - observedAt.micros

/-- The clock skew an observation may have, in microseconds. -/
def maxClockSkew : Int := 60 * microsPerSecond

/-- `verify_inputs`. -/
def verifyInputs (scope : ReconciliationScope) (desired : DesiredState) (observed : ObservedState)
    (now : Datetime) : Guarded VerifiedStatePair := do
  require (scope.version = contractVersion) .contractVersionUnsupported
  require (!scope.instanceId.isEmpty && !scope.provider.isEmpty) .scopeInvalid
  require (0 ≤ scope.maxActions && 0 < scope.observationMaxAgeSeconds) .scopeInvalid
  require (scope.executionSurface = simulatorSurface) .executionSurfaceSealed
  require (!desired.instanceId.isEmpty && isContentDigest desired.definitionDigest)
    .desiredUnverified
  require (consistent desired.elements) .desiredStateInconsistent
  require (desired.instanceId = scope.instanceId && observed.instanceId = scope.instanceId)
    .instanceMismatch
  require (observed.provider = scope.provider) .providerMismatch
  require (isContentDigest observed.collectorDigest) .observationUnverified
  require (observed.fidelity ≠ .unverified) .observationUnverified
  require (-maxClockSkew ≤ age now observed.observedAt) .observationUnverified
  require (observed.fidelity = .complete) .observationIncomplete
  require (age now observed.observedAt ≤ scope.observationMaxAgeSeconds * microsPerSecond)
    .observationStale
  require (consistent observed.elements) .observedStateInconsistent
  pure ⟨scope, desired, observed, now, verificationDigest scope desired observed now⟩

/-- `require_verified`. -/
def requireVerified (pair : VerifiedStatePair) : Guarded Unit :=
  require (verificationDigest pair.scope pair.desired pair.observed pair.evaluatedAt =
    pair.verificationDigest) .verificationTokenInvalid

end Secp.Reconciliation
