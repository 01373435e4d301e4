import TaxLiability.Machinery.Machine
import TaxLiability.Service.TaxLiabilityService

/-!
# ReadModel/Tenancy — which tenant a taxpayer's document carries

Four paths make the document of a taxpayer, and each takes its tenant from elsewhere:

    create              the caller's claim, whoever owns the id
    computeLiability    the default tenant (four arguments)
    onEvent             the document found, else the default tenant
    findById            the cache, else Mongo, else the default tenant

The tenant of an id's first creation is kept exactly along the runs that avoid the odd ones out
(`tenantKept_iff`): another tenant's write, be it rolled back later, a cached document of another
tenant, and a read or an event that finds the document gone.
-/

open Machine Outbox Service

namespace ReadModel

/-- **`owningTenantOf`**: the `tenant` claim under the prefix, or the default tenant. -/
def owningTenantOf (claim : Option String) : String :=
  match claim with
  | none => DEFAULT_TENANT_ID
  | some claim =>
    if Java.IsBlank claim then DEFAULT_TENANT_ID
    else if Java.StartsWith claim TENANT_ID_PREFIX then claim
    else TENANT_ID_PREFIX ++ claim

/-- The owning tenant is a tenant, whatever the claim. -/
theorem owningTenantOf_prefixed (claim : Option String) :
    Java.StartsWith (owningTenantOf claim) TENANT_ID_PREFIX := by
  unfold owningTenantOf
  split
  · exact default_prefixed
  · split_ifs with hblank hstarts
    · exact default_prefixed
    · exact hstarts
    · exact Java.startsWith_append _ _

/-- The body of `POST /api/v1/taxpayers`. -/
structure CreateTaxpayerRequest where
  id : String
  displayName : String
  filingStatus : String
  taxableAmount : BigDecimal
  deriving DecidableEq, Repr

/-- The call a request makes for a caller. -/
def CreateTaxpayerRequest.call (request : CreateTaxpayerRequest) (claim : Option String) :
    ComputeLiability :=
  ⟨request.id, request.displayName, request.filingStatus, request.taxableAmount,
    owningTenantOf claim⟩

/-- **The stores**: Postgres, Mongo, the Redis cache and the events published; the tenant each id
was first created for, and every document stored or returned for a created id since, with that
tenant. -/
structure Stores where
  taxpayers : String → Option Taxpayer
  mongo : String → Option TaxpayerReadModel
  cache : String → Option TaxpayerReadModel
  events : List TaxpayerUpdatedEvent
  owner : String → Option String
  shown : List (String × TaxpayerReadModel)

/-- What happens next, and where a call breaks. -/
inductive Op
  | create (claim : Option String) (request : CreateTaxpayerRequest) (createdAt : Java.Instant)
      (rowId : String) (occurredAt : Java.Instant) (breaks : Breaks)
  /-- the four-argument `computeLiability` -/
  | computeLiability (id displayName filingStatus : String) (taxableAmount : BigDecimal)
      (createdAt : Java.Instant) (rowId : String) (occurredAt : Java.Instant) (breaks : Breaks)
  /-- the listener handles an event, for the first time or again -/
  | deliver (event : TaxpayerUpdatedEvent)
  | findById (id : String)
  /-- Mongo loses a document -/
  | lose (id : String)
  /-- a cache entry expires -/
  | expire (id : String)
  deriving DecidableEq

namespace Stores

/-- Nothing written yet. -/
def start : Stores := ⟨fun _ => none, fun _ => none, fun _ => none, [], fun _ => none, []⟩

/-! ## The step -/

variable (bracketResolver : BracketResolver)

/-- A document of `id` comes to light. -/
def showDocument (s : Stores) (id : String) (d : TaxpayerReadModel) : Stores :=
  match s.owner id with
  | some t => { s with shown := (t, d) :: s.shown }
  | none => s

/-- **A document is saved to Mongo.** -/
def save (s : Stores) (d : TaxpayerReadModel) : Stores :=
  ({ s with mongo := Function.update s.mongo d.id (some d) } : Stores).showDocument d.id d

/-- **The saves of a write**: the entity and its event, committed with the document. -/
def write (s : Stores) (w : Write) : Stores :=
  ({ s with
    taxpayers := Function.update s.taxpayers w.entity.id (some w.entity)
    events := s.events ++ [w.row.payload] } : Stores).save w.document

/-- **`findById`**: Redis, then Mongo, then a document rebuilt from Postgres. -/
def findById (s : Stores) (id : String) : Except ServiceException (Option TaxpayerReadModel) :=
  match s.cache id with
  | some d => .ok (some d)
  | none =>
    match s.mongo id with
    | some d => .ok (some d)
    | none =>
      match s.taxpayers id with
      | some taxpayer => (toReadModel taxpayer DEFAULT_TENANT_ID).map some
      | none => .ok none

/-- A read, and what it leaves in the cache. -/
def read (s : Stores) (id : String) : Stores :=
  match s.findById id with
  | .ok (some d) =>
    ({ s with cache := Function.update s.cache id (some d) } : Stores).showDocument id d
  | _ => s

/-- **The saves of a write that does not commit**: its document, if it comes to that. -/
def fail (s : Stores) (w : Write) (breaks : Breaks) : Stores :=
  if breaks.BeforeDocument then s else s.save w.document

/-- The first creation of an id settles its owner. -/
def claimFor (s : Stores) (id tenantId : String) : Stores :=
  { s with owner := Function.update s.owner id (some ((s.owner id).getD tenantId)) }

/-- **One operation.**  A call that does not commit throws, and `create` then reads nothing. -/
def step (s : Stores) : Op → Option Stores
  | .create claim request createdAt rowId occurredAt breaks =>
    match ReadModel.computeLiability bracketResolver (request.call claim) createdAt rowId
        occurredAt with
    | .ok w =>
      if Commits (request.call claim) breaks then
        some (((s.claimFor request.id (owningTenantOf claim)).write w).read request.id)
      else some (s.fail w breaks)
    | .error _ => some s
  | .computeLiability id displayName filingStatus taxableAmount createdAt rowId occurredAt
      breaks =>
    match ReadModel.computeLiability bracketResolver
        (.ofShared id displayName filingStatus taxableAmount) createdAt rowId occurredAt with
    | .ok w =>
      if Commits (.ofShared id displayName filingStatus taxableAmount) breaks then
        some ((s.claimFor id DEFAULT_TENANT_ID).write w)
      else some (s.fail w breaks)
    | .error _ => some s
  | .deliver event =>
    if event ∈ s.events then
      match onEvent (s.mongo event.aggregateId) event with
      | .ok d => some (s.save d)
      | .error _ => some s
    else none
  | .findById id => some (s.read id)
  | .lose id => some { s with mongo := Function.update s.mongo id none }
  | .expire id => some { s with cache := Function.update s.cache id none }

/-! ## The property and the condition -/

/-- **The tenant is kept**: every document that came to light for a created id carries the tenant it
was first created for. -/
def TenantKept (s : Stores) : Prop := ∀ x ∈ s.shown, x.2.tenantId = x.1

instance (s : Stores) : Decidable s.TenantKept := inferInstanceAs (Decidable (∀ x ∈ s.shown, _))

/-- The owner of `id`, if it has one, is the default tenant. -/
def OwnedByDefault (s : Stores) (id : String) : Prop := ∀ t ∈ s.owner id, t = DEFAULT_TENANT_ID

instance (s : Stores) (id : String) : Decidable (s.OwnedByDefault id) :=
  inferInstanceAs (Decidable (∀ t ∈ s.owner id, _))

/-- **The operations that keep the tenant.**  A `create` that saves its document is by the owner,
and if it commits over no cached document of another tenant; a four-argument write that saves its
document, an event that finds no document and a read that finds neither a cached nor a stored one
are of ids the default tenant owns; and what a read finds cached, which may be from before the id
was created, is of the owner. -/
def Keeps (s : Stores) : Op → Prop
  | .create claim request createdAt rowId occurredAt breaks =>
    (ReadModel.computeLiability bracketResolver (request.call claim) createdAt rowId
        occurredAt).isOk = true → ¬ breaks.BeforeDocument →
      (∀ t ∈ s.owner request.id, owningTenantOf claim = t)
        ∧ (Commits (request.call claim) breaks →
          ∀ d ∈ s.cache request.id, d.tenantId = owningTenantOf claim)
  | .computeLiability id displayName filingStatus taxableAmount createdAt rowId occurredAt
      breaks =>
    (ReadModel.computeLiability bracketResolver
        (.ofShared id displayName filingStatus taxableAmount) createdAt rowId
        occurredAt).isOk = true → ¬ breaks.BeforeDocument → s.OwnedByDefault id
  | .deliver event => s.mongo event.aggregateId = none → s.OwnedByDefault event.aggregateId
  | .findById id =>
    (∀ d ∈ s.cache id, ∀ t ∈ s.owner id, d.tenantId = t)
      ∧ (s.cache id = none → s.mongo id = none → s.OwnedByDefault id)
  | .lose _ | .expire _ => True

instance (s : Stores) : ∀ op, Decidable (s.Keeps bracketResolver op)
  | .create .. => inferInstanceAs (Decidable (_ = true → ¬ _ → _ ∧ (_ → _)))
  | .computeLiability .. => inferInstanceAs (Decidable (_ = true → ¬ _ → _))
  | .deliver _ => inferInstanceAs (Decidable (_ = none → _))
  | .findById id => inferInstanceAs (Decidable ((∀ d ∈ s.cache id, ∀ t ∈ s.owner id, _) ∧
      (_ = none → _ = none → _)))
  | .lose _ | .expire _ => inferInstanceAs (Decidable True)

/-! ## A document that comes to light -/

section Show

variable (s : Stores) (id : String) (d : TaxpayerReadModel)

@[simp] theorem showDocument_taxpayers : (s.showDocument id d).taxpayers = s.taxpayers := by
  unfold showDocument; split <;> rfl

@[simp] theorem showDocument_mongo : (s.showDocument id d).mongo = s.mongo := by
  unfold showDocument; split <;> rfl

@[simp] theorem showDocument_cache : (s.showDocument id d).cache = s.cache := by
  unfold showDocument; split <;> rfl

@[simp] theorem showDocument_events : (s.showDocument id d).events = s.events := by
  unfold showDocument; split <;> rfl

@[simp] theorem showDocument_owner : (s.showDocument id d).owner = s.owner := by
  unfold showDocument; split <;> rfl

end Show

/-- What has come to light stays there… -/
theorem mem_showDocument {s : Stores} {id : String} {d : TaxpayerReadModel}
    {x : String × TaxpayerReadModel} (h : x ∈ s.shown) : x ∈ (s.showDocument id d).shown := by
  unfold showDocument
  split
  · exact List.mem_cons_of_mem _ h
  · exact h

/-- …and a document of an owned id does, under its owner. -/
theorem mem_showDocument_self {s : Stores} {id t : String} (d : TaxpayerReadModel)
    (h : s.owner id = some t) : (t, d) ∈ (s.showDocument id d).shown := by
  simp [showDocument, h]

/-- **The tenant is kept by a document that comes to light** if it carries the owner. -/
theorem tenantKept_showDocument {s : Stores} {id : String} {d : TaxpayerReadModel} :
    (s.showDocument id d).TenantKept ↔ s.TenantKept ∧ ∀ t ∈ s.owner id, d.tenantId = t := by
  unfold showDocument
  split
  · next t h => simp [TenantKept, h, and_comm]
  · next h => simp [h]

/-- A write keeps the tenant if its document carries the owner. -/
theorem tenantKept_write {s : Stores} {w : Write} :
    (s.write w).TenantKept
      ↔ s.TenantKept ∧ ∀ t ∈ s.owner w.document.id, w.document.tenantId = t :=
  tenantKept_showDocument

/-- A read keeps the tenant if the document it answers with carries the owner. -/
theorem tenantKept_read {s : Stores} {id : String} :
    (s.read id).TenantKept ↔ s.TenantKept
      ∧ ∀ d, s.findById id = .ok (some d) → ∀ t ∈ s.owner id, d.tenantId = t := by
  unfold read
  split
  · next d h =>
    refine tenantKept_showDocument.trans
      (and_congr_right fun _ => ⟨fun ht d' hd' => ?_, fun ht => ?_⟩)
    · cases h.symm.trans hd'
      exact ht
    · exact ht d h
  · next h => exact (and_iff_left fun d hd => absurd hd (h d)).symm

variable {bracketResolver}

/-! ## Where the documents come from -/

/-- **The documents are those of the databases**, whether a call commits or where it breaks. -/
theorem mongo_of_databases {s : Stores} {databases : Databases} (h : databases.mongo = s.mongo)
    {call : ComputeLiability} {createdAt occurredAt : Java.Instant} {rowId : String} {w : Write}
    (hw : ReadModel.computeLiability bracketResolver call createdAt rowId occurredAt = .ok w)
    (breaks : Breaks) :
    ((databases.save w breaks).2.isSome ↔ Commits call breaks)
      ∧ (databases.save w breaks).1.mongo
        = (if Commits call breaks then s.write w else s.fail w breaks).mongo := by
  obtain ⟨jurisdiction, -, hwrite⟩ := writeOf_of_eq_ok hw
  obtain ⟨hreturns, hmongo⟩ := hwrite.save_mongo databases breaks
  have hsaved : (databases.saveDocument w.document).mongo
      = Function.update s.mongo w.document.id (some w.document) := by
    rw [← h]
    rfl
  refine ⟨hreturns, hmongo.trans ?_⟩
  rw [hsaved, h]
  by_cases hcommits : Commits call breaks
  · rw [if_neg hcommits.not_beforeDocument, if_pos hcommits, Stores.write, Stores.save,
      showDocument_mongo]
  · rw [if_neg hcommits, Stores.fail]
    split
    · rfl
    · rw [Stores.save, showDocument_mongo]

/-- **The trace of the documents**: what Mongo holds is under its own id and, for an owned id, has
come to light; an owned id is stored, and events are of ids that are not blank. -/
structure Traced (s : Stores) : Prop where
  mongo_id : ∀ id d, s.mongo id = some d → d.id = id
  mongo_shown : ∀ id t d, s.owner id = some t → s.mongo id = some d → (t, d) ∈ s.shown
  stored : ∀ id t, s.owner id = some t → s.taxpayers id ≠ none
  events_notBlank : ∀ event ∈ s.events, ¬ Java.IsBlank event.aggregateId

theorem traced_start : start.Traced :=
  ⟨by simp [start], by simp [start], by simp [start], by simp [start]⟩

/-- **A document saved** has come to light. -/
theorem Traced.save {s : Stores} (hs : s.Traced) (d : TaxpayerReadModel) : (s.save d).Traced where
  mongo_id := by
    intro id d' hd'
    rw [Stores.save, showDocument_mongo] at hd'
    obtain ⟨rfl, h⟩ | ⟨-, h⟩ := update_eq_some_iff.mp hd'
    · cases h
      rfl
    · exact hs.mongo_id id d' h
  mongo_shown := by
    intro id t d' ht hd'
    rw [Stores.save, showDocument_owner] at ht
    rw [Stores.save, showDocument_mongo] at hd'
    obtain ⟨rfl, h⟩ | ⟨-, h⟩ := update_eq_some_iff.mp hd'
    · cases h
      exact mem_showDocument_self d ht
    · exact mem_showDocument (hs.mongo_shown id t d' ht h)
  stored := by
    intro id t ht
    rw [Stores.save, showDocument_owner] at ht
    rw [Stores.save, showDocument_taxpayers]
    exact hs.stored id t ht
  events_notBlank := by
    intro event hevent
    rw [Stores.save, showDocument_events] at hevent
    exact hs.events_notBlank event hevent

/-- …and so it is if its write does not commit. -/
theorem Traced.fail {s : Stores} (hs : s.Traced) (w : Write) (breaks : Breaks) :
    (s.fail w breaks).Traced := by
  unfold Stores.fail
  split
  · exact hs
  · exact hs.save w.document

/-- **A write** of an id, whether it is owned already or by this write. -/
theorem Traced.write {s : Stores} (hs : s.Traced) {w : Write}
    (hid : w.document.id = w.entity.id) (hevent : w.row.payload = toUpdatedEvent w.entity)
    {owner : String → Option String} (howner : ∀ id t, owner id = some t →
      s.owner id = some t ∨ id = w.entity.id) :
    (({ s with owner } : Stores).write w).Traced := by
  have hshown : ∀ x ∈ s.shown, x ∈ (({ s with owner } : Stores).write w).shown :=
    fun x hx => mem_showDocument hx
  refine ⟨?_, ?_, ?_, ?_⟩
  · intro id d hd
    rw [Stores.write, Stores.save, showDocument_mongo] at hd
    obtain ⟨rfl, h⟩ | ⟨-, h⟩ := update_eq_some_iff.mp hd
    · cases h
      rfl
    · exact hs.mongo_id id d h
  · intro id t d ht hd
    rw [Stores.write, Stores.save, showDocument_owner] at ht
    rw [Stores.write, Stores.save, showDocument_mongo] at hd
    obtain ⟨rfl, h⟩ | ⟨hne, h⟩ := update_eq_some_iff.mp hd
    · cases h
      exact mem_showDocument_self _ ht
    · obtain ht | rfl := howner id t ht
      · exact hshown _ (hs.mongo_shown id t d ht h)
      · exact absurd hid.symm hne
  · intro id t ht
    rw [Stores.write, Stores.save, showDocument_owner] at ht
    rw [Stores.write, Stores.save, showDocument_taxpayers]
    by_cases h : id = w.entity.id
    · subst h
      simp
    · simpa [Function.update_of_ne h] using hs.stored id t ((howner id t ht).resolve_right h)
  · intro event hmem
    rw [Stores.write, Stores.save, showDocument_events, List.mem_append, List.mem_singleton] at hmem
    obtain hmem | rfl := hmem
    · exact hs.events_notBlank event hmem
    · rw [hevent]
      exact w.entity.id_notBlank

/-- **A read** shows a document, and stores none. -/
theorem Traced.read {s : Stores} (hs : s.Traced) (id : String) : (s.read id).Traced := by
  unfold Stores.read
  split
  · next d h =>
    refine ⟨?_, ?_, ?_, ?_⟩
    · simpa using hs.mongo_id
    · intro j t d' ht hd'
      rw [showDocument_owner] at ht
      rw [showDocument_mongo] at hd'
      exact mem_showDocument (hs.mongo_shown j t d' ht hd')
    · simpa using hs.stored
    · simpa using hs.events_notBlank
  · exact hs

/-! ## One operation -/

/-- What `findById` rebuilds from Postgres always can be, for the default tenant. -/
theorem toReadModel_default (taxpayer : Taxpayer) :
    ∃ d, toReadModel taxpayer DEFAULT_TENANT_ID = .ok d ∧ d.tenantId = DEFAULT_TENANT_ID := by
  have h : ∃ d, toReadModel taxpayer DEFAULT_TENANT_ID = .ok d := by
    simp [toReadModel, TaxpayerReadModel.create, taxpayer.id_notBlank, default_prefixed]
  obtain ⟨d, hd⟩ := h
  obtain ⟨-, -, -, -, -, -, -, htenant⟩ := TaxpayerReadModel.create_eq_ok hd
  exact ⟨d, hd, htenant⟩

/-- **A read keeps the tenant** unless what it finds cached is of another, or it rebuilds the
document of an id another tenant owns. -/
theorem Traced.tenantKept_read {s : Stores} (hs : s.Traced) {id : String} :
    (s.read id).TenantKept ↔ s.TenantKept
      ∧ (∀ d ∈ s.cache id, ∀ t ∈ s.owner id, d.tenantId = t)
      ∧ (s.cache id = none → s.mongo id = none → s.OwnedByDefault id) := by
  rw [Stores.tenantKept_read]
  refine and_congr_right fun hkept => ?_
  cases hc : s.cache id with
  | some d => simp [findById, hc]
  | none =>
    cases hm : s.mongo id with
    | some d =>
      refine iff_of_true (fun d' hd' t ht => ?_) (by simp)
      simp only [findById, hc, hm, Except.ok.injEq, Option.some.injEq] at hd'
      exact hd' ▸ hkept (t, d) (hs.mongo_shown id t d ht hm)
    | none =>
      cases ht : s.taxpayers id with
      | some taxpayer =>
        obtain ⟨d, hd, htenant⟩ := toReadModel_default taxpayer
        have hfound : s.findById id = .ok (some d) := by simp [findById, hc, hm, ht, hd, Except.map]
        constructor
        · intro h
          exact ⟨by simp, fun _ _ t howner => (h d hfound t howner).symm.trans htenant⟩
        · intro h d' hd' t howner
          cases hfound.symm.trans hd'
          exact htenant.trans (h.2 rfl rfl t howner).symm
      | none =>
        have hnone : s.owner id = none :=
          Option.eq_none_iff_forall_ne_some.mpr fun t howner => hs.stored id t howner ht
        simp [OwnedByDefault, hnone]

/-- The document the listener saves is of the event's taxpayer, and carries the tenant of the
document found or the default one. -/
theorem Traced.tenantKept_deliver {s : Stores} (hs : s.Traced) {event : TaxpayerUpdatedEvent}
    {d : TaxpayerReadModel} (hd : onEvent (s.mongo event.aggregateId) event = .ok d) :
    (s.save d).TenantKept ↔ s.TenantKept
      ∧ (s.mongo event.aggregateId = none → s.OwnedByDefault event.aggregateId) := by
  obtain ⟨-, hsome, hnone⟩ := onEvent_eq_ok hd
  refine tenantKept_showDocument.trans (and_congr_right fun hkept => ?_)
  cases hm : s.mongo event.aggregateId with
  | some document =>
    obtain ⟨hid, htenant⟩ := hsome document hm
    rw [hs.mongo_id _ _ hm] at hid
    refine iff_of_true (fun t ht => ?_) nofun
    rw [hid] at ht
    exact htenant.trans (hkept (t, document) (hs.mongo_shown _ t document ht hm))
  | none =>
    obtain ⟨hid, htenant⟩ := hnone hm
    constructor
    · exact fun h _ t ht => (h t (by rw [hid]; exact ht)).symm.trans htenant
    · exact fun h t ht => htenant.trans (h rfl t (by rw [← hid]; exact ht)).symm

/-- The owner, once a creation has claimed the id. -/
theorem claimFor_owner_self (s : Stores) (id tenantId : String) :
    (s.claimFor id tenantId).owner id = some ((s.owner id).getD tenantId) :=
  Function.update_self _ _ _

/-- **A write that commits** settles the owner if there is none, and has to be its tenant's. -/
theorem Traced.claimed {s : Stores} (hs : s.Traced) {call : ComputeLiability}
    {createdAt occurredAt : Java.Instant} {rowId : String} {w : Write}
    (hw : ReadModel.computeLiability bracketResolver call createdAt rowId occurredAt = .ok w) :
    ((s.claimFor call.id call.tenantId).write w).Traced
      ∧ (((s.claimFor call.id call.tenantId).write w).TenantKept
        ↔ s.TenantKept ∧ ∀ t ∈ s.owner call.id, call.tenantId = t) := by
  obtain ⟨hentity, -, -, hpayload, -⟩ := computeLiability_eq_ok hw
  obtain ⟨hid, htenant⟩ := document_of_computeLiability hw
  refine ⟨hs.write (hid.trans hentity.symm) hpayload fun j t hj => ?_, ?_⟩
  · by_cases h : j = call.id
    · exact .inr (h.trans hentity.symm)
    · have hsame : (s.claimFor call.id call.tenantId).owner j = s.owner j :=
        Function.update_of_ne h _ _
      exact .inl (hsame ▸ hj)
  · rw [tenantKept_write, hid, htenant, claimFor_owner_self]
    refine and_congr_right fun _ => ?_
    cases s.owner call.id <;> simp

/-- **A write that does not commit** has to be the owner's too, if it comes to its document. -/
theorem tenantKept_fail {s : Stores} {call : ComputeLiability}
    {createdAt occurredAt : Java.Instant} {rowId : String} {w : Write}
    (hw : ReadModel.computeLiability bracketResolver call createdAt rowId occurredAt = .ok w)
    (breaks : Breaks) : (s.fail w breaks).TenantKept ↔ s.TenantKept
      ∧ (¬ breaks.BeforeDocument → ∀ t ∈ s.owner call.id, call.tenantId = t) := by
  obtain ⟨hid, htenant⟩ := document_of_computeLiability hw
  unfold fail
  split
  · next hbefore => exact (and_iff_left fun h => absurd hbefore h).symm
  · next hbefore =>
    rw [Stores.save, tenantKept_showDocument, hid, htenant]
    exact and_congr_right fun _ => ⟨fun h _ => h, fun h => h hbefore⟩

/-- **A creation** answers with what is cached before what it wrote. -/
theorem Traced.create {s : Stores} (hs : s.Traced) {call : ComputeLiability}
    {createdAt occurredAt : Java.Instant} {rowId : String} {w : Write}
    (hw : ReadModel.computeLiability bracketResolver call createdAt rowId occurredAt = .ok w) :
    let t := ((s.claimFor call.id call.tenantId).write w).read call.id
    t.Traced ∧ (t.TenantKept ↔ s.TenantKept ∧ (∀ t ∈ s.owner call.id, call.tenantId = t)
      ∧ ∀ d ∈ s.cache call.id, d.tenantId = call.tenantId) := by
  obtain ⟨hid, htenant⟩ := document_of_computeLiability hw
  obtain ⟨htraced, hkept⟩ := hs.claimed hw
  refine ⟨htraced.read call.id, ?_⟩
  rw [Stores.tenantKept_read, hkept, and_assoc]
  refine and_congr_right fun _ => and_congr_right fun hown => ?_
  have hread : ((s.claimFor call.id call.tenantId).write w).findById call.id
      = .ok (some ((s.cache call.id).getD w.document)) := by
    rw [findById, Stores.write, Stores.save, showDocument_cache, showDocument_mongo, hid]
    cases hc : s.cache call.id <;> simp [claimFor, hc]
  have hsame : (s.owner call.id).getD call.tenantId = call.tenantId := by
    cases ht : s.owner call.id with
    | none => rfl
    | some t => exact (hown t ht).symm
  have howner : ((s.claimFor call.id call.tenantId).write w).owner call.id
      = some call.tenantId := by
    rw [Stores.write, Stores.save, showDocument_owner]
    exact (s.claimFor_owner_self _ _).trans (congrArg some hsame)
  rw [hread, howner]
  cases s.cache call.id with
  | none => simpa using htenant
  | some d => simp

/-- **A document lost** leaves the others where they are. -/
theorem Traced.lose {s : Stores} (hs : s.Traced) (id : String) :
    ({ s with mongo := Function.update s.mongo id none } : Stores).Traced := by
  have hstill : ∀ j d, Function.update s.mongo id none j = some d → s.mongo j = some d := by
    intro j d hd
    obtain ⟨-, hd⟩ | ⟨-, hd⟩ := update_eq_some_iff.mp hd
    · cases hd
    · exact hd
  exact ⟨fun j d hd => hs.mongo_id j d (hstill j d hd),
    fun j t d ht hd => hs.mongo_shown j t d ht (hstill j d hd), hs.stored, hs.events_notBlank⟩

/-- **What one operation makes of the tenant** is what it was, and the condition met. -/
theorem tenantKept_step {s t : Stores} {op : Op} (hs : s.Traced)
    (h : s.step bracketResolver op = some t) :
    t.Traced ∧ (t.TenantKept ↔ s.TenantKept ∧ s.Keeps bracketResolver op) := by
  cases op with
  | create claim request createdAt rowId occurredAt breaks =>
    simp only [step] at h
    split at h
    · next w hw =>
      split at h
      · next hcommits =>
        cases h
        obtain ⟨htraced, hkept⟩ := hs.create hw
        exact ⟨htraced, hkept.trans (and_congr_right fun _ =>
          ⟨fun h _ _ => ⟨h.1, fun _ => h.2⟩, fun h =>
            (h (hw ▸ rfl) hcommits.not_beforeDocument).imp_right fun h => h hcommits⟩)⟩
      · next hcommits =>
        cases h
        exact ⟨hs.fail w breaks, (tenantKept_fail hw breaks).trans (and_congr_right fun _ =>
          ⟨fun h _ hdocument => ⟨h hdocument, fun hc => absurd hc hcommits⟩,
            fun h hdocument => (h (hw ▸ rfl) hdocument).1⟩)⟩
    · next hw =>
      cases h
      exact ⟨hs, (and_iff_left fun hok => absurd (hw ▸ hok) nofun).symm⟩
  | computeLiability id displayName filingStatus taxableAmount createdAt rowId occurredAt breaks =>
    simp only [step] at h
    split at h
    · next w hw =>
      split at h
      · next hcommits =>
        cases h
        obtain ⟨htraced, hkept⟩ := hs.claimed hw
        exact ⟨htraced, hkept.trans (and_congr_right fun _ =>
          ⟨fun h _ _ t ht => (h t ht).symm, fun h t ht =>
            (h (hw ▸ rfl) hcommits.not_beforeDocument t ht).symm⟩)⟩
      · next hcommits =>
        cases h
        exact ⟨hs.fail w breaks, (tenantKept_fail hw breaks).trans (and_congr_right fun _ =>
          ⟨fun h _ hdocument t ht => (h hdocument t ht).symm, fun h hdocument t ht =>
            (h (hw ▸ rfl) hdocument t ht).symm⟩)⟩
    · next hw =>
      cases h
      exact ⟨hs, (and_iff_left fun hok => absurd (hw ▸ hok) nofun).symm⟩
  | deliver event =>
    simp only [step] at h
    split at h
    · next hmem =>
      split at h
      · next d hd =>
        cases h
        exact ⟨hs.save d, hs.tenantKept_deliver hd⟩
      · next hd =>
        cases h
        exact absurd hd (onEvent_ne_error (hs.events_notBlank event hmem) _)
    · cases h
  | findById id =>
    cases h
    exact ⟨hs.read id, hs.tenantKept_read⟩
  | lose id =>
    cases h
    exact ⟨hs.lose id, (and_iff_left trivial).symm⟩
  | expire id =>
    cases h
    exact ⟨⟨hs.mongo_id, hs.mongo_shown, hs.stored, hs.events_notBlank⟩,
      (and_iff_left trivial).symm⟩

variable (bracketResolver) in
/-- **The tenant of a taxpayer's document is kept exactly along the runs that keep to it.** -/
theorem tenantKept_iff {ops : List Op} {s : Stores}
    (h : exec (step bracketResolver) start ops = some s) :
    s.TenantKept ↔ Throughout (step bracketResolver) (Keeps bracketResolver) start ops := by
  have hrun := exec_iff_throughout (Q := TenantKept) (I := Traced)
    (fun hs hstep => (tenantKept_step hs hstep).1) (fun hs hstep => (tenantKept_step hs hstep).2)
    traced_start h
  exact hrun.trans (and_iff_right (by simp [TenantKept, start]))

/-- A taxpayer to be created. -/
def docsRequest : CreateTaxpayerRequest := ⟨"tp-1", "Ada", "SINGLE", ⟨5000000, 2⟩⟩

/-- Its tenant creates it, reads it, fails to write it, and writes it once the document is lost. -/
def docsOps : List Op :=
  [.create (some "a") docsRequest 1 "e-1" 2 .nowhere, .findById "tp-1",
   .deliver ⟨"tp-1", "Ada", "SINGLE", "federal", 1⟩,
   .create (some "a") { docsRequest with filingStatus := "WIDOWED" } 3 "e-2" 4 .nowhere,
   .lose "tp-1", .findById "tp-1", .expire "tp-1",
   .create (some "tenant-a") { docsRequest with filingStatus := "HEAD_OF_HOUSEHOLD" } 5 "e-3" 6
    .nowhere,
   .deliver ⟨"tp-1", "Ada", "HEAD_OF_HOUSEHOLD", "federal", 5⟩, .findById "tp-1",
   .computeLiability "tp-2" "Bob" "SINGLE" ⟨5000000, 2⟩ 7 "e-4" 8 .nowhere]

theorem tenantKept_docsOps : ∃ s, exec (step federal) start docsOps = some s
    ∧ s.owner "tp-1" = some "tenant-a" ∧ s.shown.length = 11 ∧ s.TenantKept := by
  have hrun : (exec (step federal) start docsOps).map (fun s => (s.owner "tp-1", s.shown.length))
      = some (some "tenant-a", 11) := by decide
  obtain ⟨s, hs, hvals⟩ := Option.map_eq_some_iff.mp hrun
  obtain ⟨howner, hshown⟩ := Prod.mk.inj hvals
  exact ⟨s, hs, howner, hshown, (tenantKept_iff federal hs).mpr (by decide)⟩

/-- Another tenant creates the same id. -/
def takeoverOps : List Op :=
  [.create (some "a") docsRequest 1 "e-1" 2 .nowhere,
   .create (some "b") docsRequest 3 "e-2" 4 .nowhere]

/-- **The document is taken over.** -/
theorem tenant_taken_over : ¬ ∀ (bracketResolver : BracketResolver) (ops : List Op) (s : Stores),
    exec (step bracketResolver) start ops = some s → s.TenantKept := by
  intro hall
  have hrun : (exec (step federal) start takeoverOps).map (fun s => decide s.TenantKept)
      = some false := by decide
  obtain ⟨s, hs, hlost⟩ := Option.map_eq_some_iff.mp hrun
  exact of_decide_eq_false hlost (hall federal takeoverOps s hs)

end Stores

end ReadModel
