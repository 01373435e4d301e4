import TaxLiability.Machinery.BigDecimal
import TaxLiability.Outbox.OutboxPublisher

/-!
# ReadModel/TaxpayerReadModel — a taxpayer's row, its event and its document

    computeLiability ──▸ Taxpayer ──toUpdatedEvent──▸ outbox row ──▸ … ──onEvent──▸ document
                             └─────────toReadModel (tenant)────────────────────────▸ document

One write makes the Postgres row, the outbox row and the document that goes through to Mongo at
once; the listener makes the document again from the event.  The constructors refuse what they
refuse in the source, so a value that exists is valid.
-/

open Outbox

namespace ReadModel

/-- What a call throws. -/
inductive ServiceException
  | illegalArgument (message : String)
  /-- no tax bracket resolved for the taxable amount -/
  | illegalState (taxableAmount : BigDecimal)
  /-- a `TaxLiabilityException` of the resolver -/
  | strategyFailed (message : String)
  deriving DecidableEq, Repr

/-- A computed liability, as Postgres stores it. -/
structure Liability where
  taxYear : ℤ
  bracketId : String
  taxableAmount : BigDecimal
  liabilityAmount : BigDecimal
  computedAt : Java.Instant
  deriving DecidableEq, Repr

/-- **A row of `taxpayer`**, with its liabilities. -/
@[ext]
structure Taxpayer where
  id : String
  displayName : String
  filingStatus : String
  homeJurisdiction : String
  createdAt : Java.Instant
  liabilities : List Liability
  id_notBlank : ¬ Java.IsBlank id
  displayName_notBlank : ¬ Java.IsBlank displayName
  filingStatus_notBlank : ¬ Java.IsBlank filingStatus
  homeJurisdiction_notBlank : ¬ Java.IsBlank homeJurisdiction

instance : DecidableEq Taxpayer := fun _ _ => decidable_of_iff' _ Taxpayer.ext_iff

/-- **The constructor of `Taxpayer`.** -/
def Taxpayer.create (id displayName filingStatus homeJurisdiction : String)
    (createdAt : Java.Instant) : Except ServiceException Taxpayer :=
  if h₁ : Java.IsBlank id then .error (.illegalArgument "id must not be blank")
  else if h₂ : Java.IsBlank displayName then
    .error (.illegalArgument "displayName must not be blank")
  else if h₃ : Java.IsBlank filingStatus then
    .error (.illegalArgument "filingStatus must not be blank")
  else if h₄ : Java.IsBlank homeJurisdiction then
    .error (.illegalArgument "homeJurisdiction must not be blank")
  else .ok ⟨id, displayName, filingStatus, homeJurisdiction, createdAt, [], h₁, h₂, h₃, h₄⟩

/-- A taxpayer made has the values it was made of, and no liabilities. -/
theorem Taxpayer.create_eq_ok {id displayName filingStatus homeJurisdiction : String}
    {createdAt : Java.Instant} {t : Taxpayer}
    (h : Taxpayer.create id displayName filingStatus homeJurisdiction createdAt = .ok t) :
    t.id = id ∧ t.displayName = displayName ∧ t.filingStatus = filingStatus
      ∧ t.homeJurisdiction = homeJurisdiction ∧ t.createdAt = createdAt ∧ t.liabilities = [] := by
  unfold Taxpayer.create at h
  split_ifs at h
  cases h
  exact ⟨rfl, rfl, rfl, rfl, rfl, rfl⟩

/-- **The event published for a write.** -/
structure TaxpayerUpdatedEvent where
  aggregateId : String
  displayName : String
  filingStatus : String
  homeJurisdiction : String
  createdAt : Java.Instant
  deriving DecidableEq, Repr

def toUpdatedEvent (taxpayer : Taxpayer) : TaxpayerUpdatedEvent :=
  ⟨taxpayer.id, taxpayer.displayName, taxpayer.filingStatus, taxpayer.homeJurisdiction,
    taxpayer.createdAt⟩

/-! ## The document -/

def TENANT_ID_PREFIX : String := "tenant-"

def DEFAULT_TENANT_ID : String := TENANT_ID_PREFIX ++ "shared"

/-- A liability embedded in a document. -/
structure EmbeddedLiability where
  taxYear : ℤ
  bracketId : String
  taxableAmount : BigDecimal
  liabilityAmount : BigDecimal
  computedAt : Java.Instant
  deriving DecidableEq, Repr

/-- **A document of `taxpayers`**: its id is not blank and its tenant carries the prefix. -/
@[ext]
structure TaxpayerReadModel where
  id : String
  displayName : String
  filingStatus : String
  homeJurisdiction : String
  createdAt : Java.Instant
  liabilities : List EmbeddedLiability
  tags : List String
  tenantId : String
  id_notBlank : ¬ Java.IsBlank id
  tenantId_prefixed : Java.StartsWith tenantId TENANT_ID_PREFIX

instance : DecidableEq TaxpayerReadModel := fun _ _ =>
  decidable_of_iff' _ TaxpayerReadModel.ext_iff

/-- **The constructor of the document.** -/
def TaxpayerReadModel.create (id displayName filingStatus homeJurisdiction : String)
    (createdAt : Java.Instant) (liabilities : List EmbeddedLiability) (tags : List String)
    (tenantId : String) : Except ServiceException TaxpayerReadModel :=
  if h₁ : Java.IsBlank id then .error (.illegalArgument "id must not be blank")
  else if h₂ : Java.StartsWith tenantId TENANT_ID_PREFIX then
    .ok ⟨id, displayName, filingStatus, homeJurisdiction, createdAt, liabilities, tags, tenantId,
      h₁, h₂⟩
  else .error (.illegalArgument ("tenantId must start with " ++ TENANT_ID_PREFIX))

/-- A document made has the values it was made of. -/
theorem TaxpayerReadModel.create_eq_ok {id displayName filingStatus homeJurisdiction : String}
    {createdAt : Java.Instant} {liabilities : List EmbeddedLiability} {tags : List String}
    {tenantId : String} {d : TaxpayerReadModel}
    (h : TaxpayerReadModel.create id displayName filingStatus homeJurisdiction createdAt liabilities
      tags tenantId = .ok d) :
    d.id = id ∧ d.displayName = displayName ∧ d.filingStatus = filingStatus
      ∧ d.homeJurisdiction = homeJurisdiction ∧ d.createdAt = createdAt
      ∧ d.liabilities = liabilities ∧ d.tags = tags ∧ d.tenantId = tenantId := by
  unfold TaxpayerReadModel.create at h
  split_ifs at h
  cases h
  exact ⟨rfl, rfl, rfl, rfl, rfl, rfl, rfl, rfl⟩

/-- The default tenant is a tenant. -/
theorem default_prefixed : Java.StartsWith DEFAULT_TENANT_ID TENANT_ID_PREFIX :=
  Java.startsWith_append _ _

def toEmbeddedLiability (liability : Liability) : EmbeddedLiability :=
  ⟨liability.taxYear, liability.bracketId, liability.taxableAmount, liability.liabilityAmount,
    liability.computedAt⟩

/-- **`toReadModel`**: the document of a row, for a tenant. -/
def toReadModel (taxpayer : Taxpayer) (tenantId : String) :
    Except ServiceException TaxpayerReadModel :=
  TaxpayerReadModel.create taxpayer.id taxpayer.displayName taxpayer.filingStatus
    taxpayer.homeJurisdiction taxpayer.createdAt (taxpayer.liabilities.map toEmbeddedLiability) []
    tenantId

/-- **`applyEvent`**: the scalar fields are overwritten, the rest is kept. -/
def TaxpayerReadModel.applyEvent (d : TaxpayerReadModel)
    (displayName filingStatus homeJurisdiction : String) (createdAt : Java.Instant) :
    TaxpayerReadModel :=
  { d with displayName, filingStatus, homeJurisdiction, createdAt }

/-- **`onEvent`**: the document to save for an event, given the one found. -/
def onEvent (found : Option TaxpayerReadModel) (event : TaxpayerUpdatedEvent) :
    Except ServiceException TaxpayerReadModel := do
  let document ← match found with
    | some document => pure document
    | none =>
      TaxpayerReadModel.create event.aggregateId event.displayName event.filingStatus
        event.homeJurisdiction event.createdAt [] [] DEFAULT_TENANT_ID
  return document.applyEvent event.displayName event.filingStatus event.homeJurisdiction
    event.createdAt

/-- **The scalar fields of an event**, in a document. -/
def TaxpayerReadModel.Shows (d : TaxpayerReadModel) (event : TaxpayerUpdatedEvent) : Prop :=
  d.displayName = event.displayName ∧ d.filingStatus = event.filingStatus
    ∧ d.homeJurisdiction = event.homeJurisdiction ∧ d.createdAt = event.createdAt

/-- The document of a row shows its event. -/
theorem shows_of_toReadModel {taxpayer : Taxpayer} {tenantId : String} {d : TaxpayerReadModel}
    (h : toReadModel taxpayer tenantId = .ok d) : d.Shows (toUpdatedEvent taxpayer) := by
  obtain ⟨-, h₁, h₂, h₃, h₄, -⟩ := TaxpayerReadModel.create_eq_ok h
  exact ⟨h₁, h₂, h₃, h₄⟩

/-- **What the listener saves**: the document found, or one of the default tenant, under the
event's scalar fields. -/
theorem onEvent_eq_ok {found : Option TaxpayerReadModel} {event : TaxpayerUpdatedEvent}
    {d : TaxpayerReadModel} (h : onEvent found event = .ok d) :
    d.Shows event
      ∧ (∀ document, found = some document →
          d.id = document.id ∧ d.tenantId = document.tenantId)
      ∧ (found = none → d.id = event.aggregateId ∧ d.tenantId = DEFAULT_TENANT_ID) := by
  cases found with
  | some document =>
    cases h
    refine ⟨⟨rfl, rfl, rfl, rfl⟩, fun document' h => ?_, nofun⟩
    cases h
    exact ⟨rfl, rfl⟩
  | none =>
    simp only [onEvent, bind, Except.bind] at h
    split at h
    · cases h
    · next hd =>
      cases h
      obtain ⟨hid, -, -, -, -, -, -, htenant⟩ := TaxpayerReadModel.create_eq_ok hd
      exact ⟨⟨rfl, rfl, rfl, rfl⟩, nofun, fun _ => ⟨hid, htenant⟩⟩

/-- The listener throws on no event of an id that is not blank. -/
theorem onEvent_ne_error {found : Option TaxpayerReadModel} {event : TaxpayerUpdatedEvent}
    (hid : ¬ Java.IsBlank event.aggregateId) (e : ServiceException) :
    onEvent found event ≠ .error e := by
  cases found with
  | some document => exact nofun
  | none =>
    simp [onEvent, TaxpayerReadModel.create, hid, default_prefixed, bind, Except.bind, pure,
      Except.pure]

/-! ## The write -/

/-- The arguments of `computeLiability`. -/
structure ComputeLiability where
  id : String
  displayName : String
  filingStatus : String
  taxableAmount : BigDecimal
  tenantId : String
  deriving DecidableEq, Repr

/-- The four-argument form writes for the default tenant. -/
def ComputeLiability.ofShared (id displayName filingStatus : String) (taxableAmount : BigDecimal) :
    ComputeLiability := ⟨id, displayName, filingStatus, taxableAmount, DEFAULT_TENANT_ID⟩

/-- What a call of `computeLiability` saves: the entity, its outbox row and its document. -/
structure Write where
  entity : Taxpayer
  row : EventOutboxEntity TaxpayerUpdatedEvent
  document : TaxpayerReadModel
  deriving DecidableEq

def TAXPAYER_EVENTS : String := "taxpayers.events"

/-- The bracket strategy: the jurisdiction of the bracket it resolves, if it resolves one. -/
abbrev BracketResolver : Type := BigDecimal → Except ServiceException (Option String)

/-- The strategy of a single bracket. -/
def federal : BracketResolver := fun _ => .ok (some "federal")

/-- **`computeLiability`**, up to its saves: what it will save, or what it throws. -/
def computeLiability (bracketResolver : BracketResolver) (call : ComputeLiability)
    (createdAt : Java.Instant) (rowId : String) (occurredAt : Java.Instant) :
    Except ServiceException Write := do
  match ← bracketResolver call.taxableAmount with
  | none => throw (.illegalState call.taxableAmount)
  | some jurisdiction =>
    let entity ← Taxpayer.create call.id call.displayName call.filingStatus jurisdiction createdAt
    let document ← toReadModel entity call.tenantId
    return ⟨entity, ⟨rowId, entity.id, TAXPAYER_EVENTS, toUpdatedEvent entity, occurredAt⟩,
      document⟩

/-- **What a write consists of.** -/
theorem computeLiability_eq_ok {bracketResolver : BracketResolver} {call : ComputeLiability}
    {createdAt occurredAt : Java.Instant} {rowId : String} {w : Write}
    (h : computeLiability bracketResolver call createdAt rowId occurredAt = .ok w) :
    w.entity.id = call.id ∧ w.row.id = rowId ∧ w.row.aggregateId = call.id
      ∧ w.row.payload = toUpdatedEvent w.entity
      ∧ toReadModel w.entity call.tenantId = .ok w.document := by
  simp only [computeLiability, bind, Except.bind] at h
  split at h
  · cases h
  · split at h
    · cases h
    · split at h
      · cases h
      · next hentity =>
        split at h
        · cases h
        · next hdocument =>
          cases h
          have hid := (Taxpayer.create_eq_ok hentity).1
          exact ⟨hid, rfl, hid, rfl, hdocument⟩

/-- **The document of a write** is of the taxpayer and the tenant of the call. -/
theorem document_of_computeLiability {bracketResolver : BracketResolver} {call : ComputeLiability}
    {createdAt occurredAt : Java.Instant} {rowId : String} {w : Write}
    (h : computeLiability bracketResolver call createdAt rowId occurredAt = .ok w) :
    w.document.id = call.id ∧ w.document.tenantId = call.tenantId := by
  obtain ⟨hentity, -, -, -, hdocument⟩ := computeLiability_eq_ok h
  obtain ⟨hid, -, -, -, -, -, -, htenant⟩ := TaxpayerReadModel.create_eq_ok hdocument
  exact ⟨hid.trans hentity, htenant⟩

end ReadModel
