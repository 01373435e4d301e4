import TaxLiability.Machinery.Machine
import TaxLiability.ReadModel.TaxpayerReadModel

/-!
# Service/TaxLiabilityService — a write, statement by statement, over Postgres and Mongo

    arguments, bracket ─▸ save entity ─▸ save row ─▸ save document ─▸ flush ─▸ commit
                              └── statements ──┘          ▾             ▾
                                                        Mongo        Postgres

The entity and the outbox row wait in the session as statements; the document goes to Mongo at
once.  What breaks after that takes the statements back and leaves the document.
-/

open Machine Outbox ReadModel

namespace Service

/-! ## The databases -/

/-- A row of `taxcalc.taxpayer`, under its id. -/
structure TaxpayerRow where
  displayName : String
  filingStatus : String
  homeJurisdiction : String
  createdAt : Java.Instant
  deriving DecidableEq, Repr

def toRow (taxpayer : Taxpayer) : TaxpayerRow :=
  ⟨taxpayer.displayName, taxpayer.filingStatus, taxpayer.homeJurisdiction, taxpayer.createdAt⟩

/-- **The databases**: `taxcalc.taxpayer`, `taxcalc.liability` by its `taxpayer_id`,
`taxcalc.event_outbox`, and the documents of Mongo. -/
@[ext]
structure Databases where
  taxpayer : String → Option TaxpayerRow
  liability : String → List Liability
  eventOutbox : List (EventOutboxEntity TaxpayerUpdatedEvent)
  mongo : String → Option TaxpayerReadModel

/-- The filing statuses of the check on `filing_status`. -/
def FILING_STATUSES : List String :=
  ["SINGLE", "MARRIED_FILING_JOINTLY", "MARRIED_FILING_SEPARATELY", "HEAD_OF_HOUSEHOLD"]

/-- **The checks of `taxcalc.taxpayer`.** -/
def TaxpayerRow.Checks (row : TaxpayerRow) : Prop :=
  0 < row.displayName.length ∧ row.filingStatus ∈ FILING_STATUSES ∧ 0 < row.homeJurisdiction.length

instance (row : TaxpayerRow) : Decidable row.Checks := inferInstanceAs (Decidable (_ ∧ _))

/-- A statement the session holds back until the flush. -/
inductive Statement
  | saveTaxpayer (id : String) (row : TaxpayerRow)
  | deleteLiability (taxpayerId : String) (taxYear : ℤ)
  /-- the row's id is a random UUID, new to the table -/
  | insertEventOutbox (row : EventOutboxEntity TaxpayerUpdatedEvent)
  deriving DecidableEq

namespace Databases

/-- **`readModelRepository.save`.** -/
def saveDocument (s : Databases) (d : TaxpayerReadModel) : Databases :=
  { s with mongo := Function.update s.mongo d.id (some d) }

theorem saveDocument_mongo (s : Databases) {d : TaxpayerReadModel} {id : String} (h : d.id = id) :
    (s.saveDocument d).mongo id = some d := by
  subst h
  exact Function.update_self _ _ _

/-- **A statement executed**: `none` if a check fails. -/
def execute (s : Databases) : Statement → Option Databases
  | .saveTaxpayer id row =>
    if row.Checks then
      some { s with taxpayer := Function.update s.taxpayer id (some row) }
    else none
  | .deleteLiability id taxYear => some { s with
      liability := Function.update s.liability id
        ((s.liability id).filter fun l => l.taxYear ≠ taxYear) }
  | .insertEventOutbox row =>
    if 0 < row.aggregateId.length ∧ 0 < row.topic.length then
      some { s with eventOutbox := s.eventOutbox ++ [row] }
    else none

/-- **The children an entity lost**, by their tax years: what `orphanRemoval` deletes. -/
def orphans (stored merged : List Liability) : List ℤ :=
  (stored.map (·.taxYear)).filter fun taxYear => taxYear ∉ merged.map (·.taxYear)

/-- **`repository.save`**, a merge: the stored row takes the state of the entity, and the stored
children the entity lacks are deleted.  The entity of a write has no children of its own. -/
def merge (s : Databases) (entity : Taxpayer) : List Statement :=
  .saveTaxpayer entity.id (toRow entity)
    :: (orphans (s.liability entity.id) entity.liabilities).map (.deleteLiability entity.id)

/-- The statements of a write. -/
def statements (s : Databases) (w : Write) : List Statement :=
  s.merge w.entity ++ [.insertEventOutbox w.row]

end Databases

/-! ## The call -/

/-- Where a call breaks, through no fault of its arguments. -/
inductive Breaks
  | nowhere
  | entitySave
  | serialisation
  | outboxSave
  /-- Mongo answers with an error or not at all, and may have stored the document even so -/
  | mongoSave (stored : Bool)
  | flush
  | commit
  deriving DecidableEq, Repr

/-- **The saves of a write**: the databases it leaves, and the entity if its transaction commits. -/
def Databases.save (s : Databases) (w : Write) : Breaks → Databases × Option Taxpayer
  | .entitySave | .serialisation | .outboxSave | .mongoSave false => (s, none)
  | .mongoSave true => (s.saveDocument w.document, none)
  | .flush | .commit => (s.saveDocument w.document, none)
  | .nowhere =>
    match exec Databases.execute (s.saveDocument w.document) (s.statements w) with
    | some t => (t, some w.entity)
    | none => (s.saveDocument w.document, none)

/-- **`computeLiability`.** -/
def computeLiability (bracketResolver : BracketResolver) (s : Databases) (call : ComputeLiability)
    (createdAt : Java.Instant) (rowId : String) (occurredAt : Java.Instant) (breaks : Breaks) :
    Databases × Option Taxpayer :=
  match ReadModel.computeLiability bracketResolver call createdAt rowId occurredAt with
  | .ok w => s.save w breaks
  | .error _ => (s, none)

/-! ## What a flush does -/

theorem length_pos {s : String} (h : ¬ Java.IsBlank s) : 0 < s.length := by
  refine Nat.pos_of_ne_zero fun hlength => h ?_
  rw [String.length_eq_zero_iff.mp hlength]
  rfl

namespace Databases

/-- **Deletes in a row** leave the liabilities of the other years. -/
theorem exec_deleteLiability (s : Databases) (id : String) (taxYears : List ℤ) :
    exec execute s (taxYears.map (.deleteLiability id))
      = some { s with
          liability := Function.update s.liability id
            ((s.liability id).filter fun l => l.taxYear ∉ taxYears) } := by
  induction taxYears generalizing s with
  | nil => simp
  | cons taxYear taxYears ih =>
    rw [List.map_cons, exec_cons]
    simp only [execute, Option.bind_some, ih, Function.update_self, Function.update_idem,
      List.filter_filter, List.mem_cons, not_or, Bool.decide_and, Bool.and_comm]

/-- Of the children an entity without any lost, none is left. -/
theorem filter_orphans (stored : List Liability) :
    (stored.filter fun l => l.taxYear ∉ orphans stored []) = [] := by
  rw [List.filter_eq_nil_iff]
  intro l hl
  have horphan : l.taxYear ∈ orphans stored [] :=
    List.mem_filter.mpr ⟨List.mem_map_of_mem hl, decide_eq_true List.not_mem_nil⟩
  simpa using horphan

/-- **What a write leaves once it commits.** -/
def committed (s : Databases) (w : Write) : Databases where
  taxpayer := Function.update s.taxpayer w.entity.id (some (toRow w.entity))
  liability := Function.update s.liability w.entity.id []
  eventOutbox := s.eventOutbox ++ [w.row]
  mongo := (s.saveDocument w.document).mongo

/-- **The flush of a write** goes through exactly for a filing status of the list. -/
theorem exec_statements (s : Databases) {w : Write} (hchildren : w.entity.liabilities = [])
    (hrow : 0 < w.row.aggregateId.length ∧ 0 < w.row.topic.length) :
    exec execute (s.saveDocument w.document) (s.statements w)
      = if w.entity.filingStatus ∈ FILING_STATUSES then some (s.committed w) else none := by
  have hchecks : (toRow w.entity).Checks ↔ w.entity.filingStatus ∈ FILING_STATUSES :=
    ⟨fun h => h.2.1, fun h => ⟨length_pos w.entity.displayName_notBlank, h,
      length_pos w.entity.homeJurisdiction_notBlank⟩⟩
  rw [statements, merge, List.cons_append, exec_cons, execute]
  split_ifs with h₁ h₂ h₂
  · rw [Option.bind_some]
    refine exec_append_eq_some.mpr ⟨_, exec_deleteLiability _ _ _, ?_⟩
    rw [exec_cons, execute, if_pos hrow, hchildren]
    simp only [saveDocument, filter_orphans, Option.bind_some, exec_nil, committed]
  · exact absurd (hchecks.mp h₁) h₂
  · exact absurd (hchecks.mpr h₂) h₁
  · rfl

end Databases

/-! ## What a call writes -/

/-- **A write, field by field**, for the bracket's jurisdiction. -/
structure WriteOf (call : ComputeLiability) (jurisdiction : String) (createdAt : Java.Instant)
    (rowId : String) (occurredAt : Java.Instant) (w : Write) : Prop where
  entity_id : w.entity.id = call.id
  entity_row : toRow w.entity
    = ⟨call.displayName, call.filingStatus, jurisdiction, createdAt⟩
  entity_liabilities : w.entity.liabilities = []
  row : w.row = ⟨rowId, call.id, TAXPAYER_EVENTS, toUpdatedEvent w.entity, occurredAt⟩
  document : toReadModel w.entity call.tenantId = .ok w.document

/-- **The calls that come to their saves**: no argument is blank, the tenant is one, and the
strategy resolves a bracket of a jurisdiction. -/
def Accepts (bracketResolver : BracketResolver) (call : ComputeLiability) (jurisdiction : String) :
    Prop :=
  bracketResolver call.taxableAmount = .ok (some jurisdiction)
    ∧ ¬ Java.IsBlank call.id ∧ ¬ Java.IsBlank call.displayName ∧ ¬ Java.IsBlank call.filingStatus
    ∧ ¬ Java.IsBlank jurisdiction ∧ Java.StartsWith call.tenantId TENANT_ID_PREFIX

variable {bracketResolver : BracketResolver} {call : ComputeLiability} {jurisdiction : String}
  {createdAt : Java.Instant} {rowId : String} {occurredAt : Java.Instant} {w : Write}

/-- **An accepted call** writes what its arguments say. -/
theorem writeOf_of_accepts (h : Accepts bracketResolver call jurisdiction) :
    ∃ w, ReadModel.computeLiability bracketResolver call createdAt rowId occurredAt = .ok w
      ∧ WriteOf call jurisdiction createdAt rowId occurredAt w := by
  obtain ⟨hbracket, hid, hname, hstatus, hjurisdiction, htenant⟩ := h
  refine ⟨⟨⟨call.id, call.displayName, call.filingStatus, jurisdiction, createdAt, [], hid, hname,
      hstatus, hjurisdiction⟩, ⟨rowId, call.id, TAXPAYER_EVENTS, ⟨call.id, call.displayName,
      call.filingStatus, jurisdiction, createdAt⟩, occurredAt⟩, ⟨call.id, call.displayName,
      call.filingStatus, jurisdiction, createdAt, [], [], call.tenantId, hid, htenant⟩⟩, ?_, ?_⟩
  · simp [ReadModel.computeLiability, hbracket, Taxpayer.create, hid, hname, hstatus,
      hjurisdiction, toReadModel, TaxpayerReadModel.create, htenant, bind, Except.bind, pure,
      Except.pure, toUpdatedEvent]
  · exact ⟨rfl, rfl, rfl, rfl, by simp [toReadModel, TaxpayerReadModel.create, hid, htenant]⟩

/-- A call that comes to its saves is accepted. -/
theorem accepts_of_eq_ok
    (h : ReadModel.computeLiability bracketResolver call createdAt rowId occurredAt = .ok w) :
    ∃ jurisdiction, Accepts bracketResolver call jurisdiction := by
  simp only [ReadModel.computeLiability, bind, Except.bind] at h
  split at h
  · cases h
  · next hbracket =>
    split at h
    · cases h
    · next jurisdiction =>
      split at h
      · cases h
      · next entity hentity =>
        split at h
        · cases h
        · next hdocument =>
          obtain ⟨hid, hname, hstatus, hjurisdiction, -, -⟩ := Taxpayer.create_eq_ok hentity
          obtain ⟨-, -, -, -, -, -, -, htenant⟩ := TaxpayerReadModel.create_eq_ok hdocument
          exact ⟨jurisdiction, hbracket, hid ▸ entity.id_notBlank,
            hname ▸ entity.displayName_notBlank, hstatus ▸ entity.filingStatus_notBlank,
            hjurisdiction ▸ entity.homeJurisdiction_notBlank,
            htenant ▸ TaxpayerReadModel.tenantId_prefixed _⟩

/-- **What a call that comes to its saves writes.** -/
theorem writeOf_of_eq_ok
    (h : ReadModel.computeLiability bracketResolver call createdAt rowId occurredAt = .ok w) :
    ∃ jurisdiction, Accepts bracketResolver call jurisdiction
      ∧ WriteOf call jurisdiction createdAt rowId occurredAt w := by
  obtain ⟨jurisdiction, haccepts⟩ := accepts_of_eq_ok h
  obtain ⟨w', hw', hwrite⟩ :=
    @writeOf_of_accepts bracketResolver call jurisdiction createdAt rowId occurredAt haccepts
  cases h.symm.trans hw'
  exact ⟨jurisdiction, haccepts, hwrite⟩

/-- A document with the fields of a write. -/
def Documents (d : TaxpayerReadModel) (call : ComputeLiability) (jurisdiction : String)
    (createdAt : Java.Instant) : Prop :=
  d.id = call.id ∧ d.displayName = call.displayName ∧ d.filingStatus = call.filingStatus
    ∧ d.homeJurisdiction = jurisdiction ∧ d.createdAt = createdAt ∧ d.liabilities = []
    ∧ d.tags = [] ∧ d.tenantId = call.tenantId

namespace WriteOf

variable (hw : WriteOf call jurisdiction createdAt rowId occurredAt w)

include hw

/-- **The document of a write**: no liabilities, no tags, the tenant of the call. -/
theorem documents : Documents w.document call jurisdiction createdAt := by
  obtain ⟨hid, hname, hstatus, hjurisdiction, hcreated, hliabilities, htags, htenant⟩ :=
    TaxpayerReadModel.create_eq_ok hw.document
  obtain ⟨hname', hstatus', hjurisdiction', hcreated'⟩ := TaxpayerRow.mk.inj hw.entity_row
  rw [hw.entity_liabilities] at hliabilities
  exact ⟨hid.trans hw.entity_id, hname.trans hname', hstatus.trans hstatus',
    hjurisdiction.trans hjurisdiction', hcreated.trans hcreated', hliabilities, htags, htenant⟩

/-- It is the one document with these fields. -/
theorem eq_document_iff {d : TaxpayerReadModel} :
    d = w.document ↔ Documents d call jurisdiction createdAt := by
  constructor
  · rintro rfl
    exact hw.documents
  · rintro ⟨h₁, h₂, h₃, h₄, h₅, h₆, h₇, h₈⟩
    obtain ⟨h₁', h₂', h₃', h₄', h₅', h₆', h₇', h₈'⟩ := hw.documents
    exact TaxpayerReadModel.ext (h₁.trans h₁'.symm) (h₂.trans h₂'.symm) (h₃.trans h₃'.symm)
      (h₄.trans h₄'.symm) (h₅.trans h₅'.symm) (h₆.trans h₆'.symm) (h₇.trans h₇'.symm)
      (h₈.trans h₈'.symm)

/-- **The saves of a write**, unless something breaks. -/
theorem save_nowhere (s : Databases) : s.save w .nowhere
    = if call.filingStatus ∈ FILING_STATUSES then (s.committed w, some w.entity)
      else (s.saveDocument w.document, none) := by
  have hrow : 0 < w.row.aggregateId.length ∧ 0 < w.row.topic.length := by
    rw [hw.row, ← hw.entity_id]
    exact ⟨length_pos w.entity.id_notBlank, show 0 < TAXPAYER_EVENTS.length by decide⟩
  have hstatus : w.entity.filingStatus = call.filingStatus :=
    congrArg TaxpayerRow.filingStatus hw.entity_row
  rw [Databases.save, Databases.exec_statements s hw.entity_liabilities hrow, hstatus]
  by_cases h : call.filingStatus ∈ FILING_STATUSES
  · rw [if_pos h, if_pos h]
  · rw [if_neg h, if_neg h]

end WriteOf

/-! ## The two projections -/

/-- **The listener's projection** of an event: the document it looks up, under the event. -/
def Databases.consume (s : Databases) (event : TaxpayerUpdatedEvent) : Databases :=
  match onEvent (s.mongo event.aggregateId) event with
  | .ok d => s.saveDocument d
  | .error _ => s

/-- The event of a write. -/
theorem WriteOf.payload (hw : WriteOf call jurisdiction createdAt rowId occurredAt w) :
    w.row.payload = ⟨call.id, call.displayName, call.filingStatus, jurisdiction, createdAt⟩ := by
  obtain ⟨h₁, h₂, h₃, h₄⟩ := TaxpayerRow.mk.inj hw.entity_row
  rw [hw.row, toUpdatedEvent, hw.entity_id, h₁, h₂, h₃, h₄]

/-- The listener saves one document of the id, and the projections agree if it is the write's. -/
theorem WriteOf.consume_agrees_iff (hw : WriteOf call jurisdiction createdAt rowId occurredAt w)
    (s : Databases) {d : TaxpayerReadModel}
    (hd : onEvent (s.mongo call.id) w.row.payload = .ok d) (hid : d.id = call.id) :
    (s.consume w.row.payload).mongo call.id = (s.saveDocument w.document).mongo call.id
      ↔ Documents d call jurisdiction createdAt := by
  rw [hw.payload] at hd
  rw [← hw.eq_document_iff, s.saveDocument_mongo hw.documents.1, Databases.consume, hw.payload]
  simp only [hd, s.saveDocument_mongo hid, Option.some.injEq]

/-- **The projections agree** exactly where the document there before has the tenant of the call and
neither tags nor liabilities, or there is none and the tenant is the default one. -/
theorem projections_agree_iff (s : Databases)
    (h : ReadModel.computeLiability bracketResolver call createdAt rowId occurredAt = .ok w)
    (hid : ∀ d ∈ s.mongo call.id, d.id = call.id) :
    (s.consume w.row.payload).mongo call.id = (s.saveDocument w.document).mongo call.id
      ↔ match s.mongo call.id with
        | some d => d.tenantId = call.tenantId ∧ d.tags = [] ∧ d.liabilities = []
        | none => call.tenantId = DEFAULT_TENANT_ID := by
  obtain ⟨jurisdiction, haccepts, hw⟩ := writeOf_of_eq_ok h
  cases hm : s.mongo call.id with
  | some d =>
    have hd : d.id = call.id := hid d hm
    rw [hw.consume_agrees_iff s
      (d := d.applyEvent call.displayName call.filingStatus jurisdiction createdAt)
      (by rw [hm, hw.payload]; rfl) hd]
    simp only [Documents, TaxpayerReadModel.applyEvent, hd, true_and]
    constructor
    · rintro ⟨hl, ht, htenant⟩
      exact ⟨htenant, ht, hl⟩
    · rintro ⟨htenant, ht, hl⟩
      exact ⟨hl, ht, htenant⟩
  | none =>
    rw [hw.consume_agrees_iff s (d := ⟨call.id, call.displayName, call.filingStatus, jurisdiction,
      createdAt, [], [], DEFAULT_TENANT_ID, haccepts.2.1, default_prefixed⟩) ?_ rfl]
    · simp only [Documents, true_and]
      exact eq_comm
    · rw [hm, hw.payload]
      simp [onEvent, TaxpayerReadModel.create, haccepts.2.1, default_prefixed, bind, Except.bind,
        pure, Except.pure, TaxpayerReadModel.applyEvent]

/-- Nothing stored. -/
def Databases.empty : Databases := ⟨fun _ => none, fun _ => [], [], fun _ => none⟩

/-- A write of tenant `a`. -/
def docsCall : ComputeLiability := ⟨"tp-1", "Ada", "SINGLE", ⟨5000000, 2⟩, "tenant-a"⟩

theorem docsCall_notBlank : ¬ Java.IsBlank "tp-1" := by decide

theorem docsCall_prefixed : Java.StartsWith "tenant-a" TENANT_ID_PREFIX := by decide

/-- The document of an earlier one. -/
def docsDocument : TaxpayerReadModel :=
  ⟨"tp-1", "Ada", "SINGLE", "federal", 1, [], [], "tenant-a", docsCall_notBlank,
    docsCall_prefixed⟩

theorem projections_agree_docsDocument :
    ∃ w, ReadModel.computeLiability federal docsCall 3 "e-2" 4 = .ok w
      ∧ ((Databases.empty.saveDocument docsDocument).consume w.row.payload).mongo "tp-1"
        = ((Databases.empty.saveDocument docsDocument).saveDocument w.document).mongo "tp-1" := by
  obtain ⟨w, hw, -⟩ := @writeOf_of_accepts federal docsCall "federal" 3 "e-2" 4
    ⟨rfl, by decide, by decide, by decide, by decide, by decide⟩
  have hfound : (Databases.empty.saveDocument docsDocument).mongo docsCall.id = some docsDocument :=
    Databases.empty.saveDocument_mongo rfl
  refine ⟨w, hw, (projections_agree_iff _ hw fun d hd => ?_).mpr ?_⟩
  · cases hfound.symm.trans hd
    rfl
  · rw [hfound]
    exact ⟨rfl, rfl, rfl⟩

/-- **The projections differ**: the first event of a tenant's taxpayer makes a document of the
default tenant. -/
theorem projections_differ :
    ¬ ∀ (bracketResolver : BracketResolver) (call : ComputeLiability)
      (createdAt : Java.Instant) (rowId : String) (occurredAt : Java.Instant) (w : Write)
      (s : Databases),
      ReadModel.computeLiability bracketResolver call createdAt rowId occurredAt = .ok w →
      (∀ d ∈ s.mongo call.id, d.id = call.id) →
      (s.consume w.row.payload).mongo call.id = (s.saveDocument w.document).mongo call.id := by
  intro hall
  have hrun : (ReadModel.computeLiability federal docsCall 1 "e-1" 2).toOption.map (fun w =>
      (((Databases.empty.consume w.row.payload).mongo "tp-1").map (·.tenantId),
        ((Databases.empty.saveDocument w.document).mongo "tp-1").map (·.tenantId)))
      = some (some "tenant-shared", some "tenant-a") := by decide
  obtain ⟨w, hw, htenants⟩ := Option.map_eq_some_iff.mp hrun
  obtain ⟨hconsumed, hsaved⟩ := Prod.mk.inj htenants
  have hagree := hall federal docsCall 1 "e-1" 2 w .empty (toOption_eq_some_iff.mp hw) nofun
  exact absurd (hconsumed.symm.trans ((congrArg _ hagree).trans hsaved)) (by decide)

/-! ## The history of a taxpayer -/

/-- **What a write is to leave as it is**: all but the name, the status and the jurisdiction, of the
row and its liabilities in Postgres and of the document in Mongo. -/
structure HistoryKept (s t : Databases) (id : String) : Prop where
  liability : t.liability id = s.liability id
  createdAt : ∀ row ∈ s.taxpayer id, ∃ row' ∈ t.taxpayer id, row'.createdAt = row.createdAt
  document : ∀ d ∈ s.mongo id, ∃ d' ∈ t.mongo id, d'.createdAt = d.createdAt
    ∧ d'.liabilities = d.liabilities ∧ d'.tags = d.tags ∧ d'.tenantId = d.tenantId

/-- **A call that returns** has committed what it wrote. -/
theorem computeLiability_eq_some {s t : Databases} {breaks : Breaks} {saved : Taxpayer}
    (h : computeLiability bracketResolver s call createdAt rowId occurredAt breaks
      = (t, some saved)) :
    ∃ jurisdiction w, WriteOf call jurisdiction createdAt rowId occurredAt w
      ∧ call.filingStatus ∈ FILING_STATUSES ∧ t = s.committed w ∧ saved = w.entity := by
  unfold computeLiability at h
  split at h
  · next w hok =>
    obtain ⟨jurisdiction, -, hw⟩ := writeOf_of_eq_ok hok
    cases breaks with
    | nowhere =>
      rw [hw.save_nowhere] at h
      by_cases hstatus : call.filingStatus ∈ FILING_STATUSES
      · rw [if_pos hstatus] at h
        cases h
        exact ⟨jurisdiction, w, hw, hstatus, rfl, rfl⟩
      · rw [if_neg hstatus] at h
        cases h
    | mongoSave stored => cases stored <;> cases h
    | _ => cases h
  · cases h

/-- **A write touches one taxpayer.** -/
theorem computeLiability_other {s t : Databases} {breaks : Breaks} {saved : Taxpayer}
    (h : computeLiability bracketResolver s call createdAt rowId occurredAt breaks
      = (t, some saved)) {id : String} (hid : id ≠ call.id) :
    t.taxpayer id = s.taxpayer id ∧ t.liability id = s.liability id ∧ t.mongo id = s.mongo id := by
  obtain ⟨jurisdiction, w, hw, -, rfl, -⟩ := computeLiability_eq_some h
  have hentity : id ≠ w.entity.id := by rwa [hw.entity_id]
  have hdocument : id ≠ w.document.id := by rwa [hw.documents.1]
  exact ⟨Function.update_of_ne hentity _ _, Function.update_of_ne hentity _ _,
    Function.update_of_ne hdocument _ _⟩

/-- **The history is kept** exactly if there is none: no liability rows, no liabilities and tags in
the document, days of creation that are the instant of the call, and the tenant of the call. -/
theorem historyKept_iff {s t : Databases} {breaks : Breaks} {saved : Taxpayer} {row : TaxpayerRow}
    (h : computeLiability bracketResolver s call createdAt rowId occurredAt breaks
      = (t, some saved)) (hrow : s.taxpayer call.id = some row) :
    HistoryKept s t call.id ↔ s.liability call.id = [] ∧ row.createdAt = createdAt
      ∧ ∀ d ∈ s.mongo call.id, d.createdAt = createdAt ∧ d.liabilities = [] ∧ d.tags = []
        ∧ d.tenantId = call.tenantId := by
  obtain ⟨jurisdiction, w, hw, -, rfl, -⟩ := computeLiability_eq_some h
  have hliability : (s.committed w).liability call.id = [] := by
    rw [← hw.entity_id]
    exact Function.update_self _ _ _
  have htaxpayer : (s.committed w).taxpayer call.id = some (toRow w.entity) := by
    rw [← hw.entity_id]
    exact Function.update_self _ _ _
  have hcreated : (toRow w.entity).createdAt = createdAt :=
    congrArg TaxpayerRow.createdAt hw.entity_row
  have hmongo : (s.committed w).mongo call.id = some w.document :=
    s.saveDocument_mongo hw.documents.1
  obtain ⟨-, -, -, -, hcreation, hliabilities, htags, htenant⟩ := hw.documents
  constructor
  · intro hkept
    obtain ⟨row', hrow', hsame⟩ := hkept.createdAt row hrow
    cases htaxpayer.symm.trans hrow'
    refine ⟨hkept.liability.symm.trans hliability, hsame.symm.trans hcreated, fun d hd => ?_⟩
    obtain ⟨d', hd', hc, hl, ht, htid⟩ := hkept.document d hd
    cases hmongo.symm.trans hd'
    exact ⟨hc.symm.trans hcreation, hl.symm.trans hliabilities, ht.symm.trans htags,
      htid.symm.trans htenant⟩
  · rintro ⟨hnone, hsame, hd⟩
    refine ⟨hliability.trans hnone.symm, fun row' hrow' => ?_, fun d hmem => ?_⟩
    · cases hrow.symm.trans hrow'
      exact ⟨toRow w.entity, htaxpayer, hcreated.trans hsame.symm⟩
    · obtain ⟨hc, hl, ht, htid⟩ := hd d hmem
      exact ⟨w.document, hmongo, hcreation.trans hc.symm, hliabilities.trans hl.symm,
        htags.trans ht.symm, htenant.trans htid.symm⟩

/-- A stored taxpayer, computed and tagged. -/
def docsStored : Databases where
  taxpayer := Function.update (fun _ => none) "tp-1" (some ⟨"Ada", "SINGLE", "federal", 1⟩)
  liability := Function.update (fun _ => []) "tp-1"
    [⟨2026, "fed-2026-10pct", ⟨950000, 2⟩, ⟨95000, 2⟩, 1⟩]
  eventOutbox := []
  mongo := Function.update (fun _ => none) "tp-1" (some { docsDocument with
    liabilities := [⟨2026, "fed-2026-10pct", ⟨950000, 2⟩, ⟨95000, 2⟩, 1⟩]
    tags := ["vip"] })

/-- …and one with nothing yet to lose. -/
def docsFresh : Databases :=
  { docsStored with
    liability := fun _ => []
    mongo := Function.update (fun _ => none) "tp-1" (some docsDocument) }

theorem historyKept_docsCall : ∃ t saved,
    computeLiability federal docsFresh docsCall 1 "e-1" 2 .nowhere = (t, some saved)
      ∧ HistoryKept docsFresh t docsCall.id := by
  have hrun : (computeLiability federal docsFresh docsCall 1 "e-1" 2 .nowhere).2.isSome = true := by
    decide
  obtain ⟨saved, hsaved⟩ := Option.isSome_iff_exists.mp hrun
  refine ⟨_, saved, Prod.ext rfl hsaved, (historyKept_iff (Prod.ext rfl hsaved) rfl).mpr
    ⟨rfl, rfl, fun d hd => ?_⟩⟩
  obtain rfl : docsDocument = d := Option.some.inj hd
  exact ⟨rfl, rfl, rfl, rfl⟩

/-- **The history is lost**: the second write of a taxpayer deletes its liability row. -/
theorem history_lost :
    ¬ ∀ (bracketResolver : BracketResolver) (call : ComputeLiability)
      (createdAt : Java.Instant) (rowId : String) (occurredAt : Java.Instant) (breaks : Breaks)
      (s t : Databases) (saved : Taxpayer) (row : TaxpayerRow),
      computeLiability bracketResolver s call createdAt rowId occurredAt breaks = (t, some saved) →
      s.taxpayer call.id = some row → HistoryKept s t call.id := by
  intro hall
  have hrun : ((computeLiability federal docsStored docsCall 3 "e-2" 4 .nowhere).2.isSome,
      ((computeLiability federal docsStored docsCall 3 "e-2" 4 .nowhere).1.liability "tp-1").length)
        = (true, 0) := by decide
  obtain ⟨hreturns, hlength⟩ := Prod.mk.inj hrun
  obtain ⟨saved, hsaved⟩ := Option.isSome_iff_exists.mp hreturns
  have hkept := hall federal docsCall 3 "e-2" 4 .nowhere docsStored _ saved _
    (Prod.ext rfl hsaved) rfl
  exact absurd ((congrArg List.length hkept.liability).symm.trans hlength) (by decide)

/-! ## A write that fails -/

/-- What breaks before the document is in Mongo. -/
def Breaks.BeforeDocument : Breaks → Prop
  | .entitySave | .serialisation | .outboxSave | .mongoSave false => True
  | .nowhere | .mongoSave true | .flush | .commit => False

instance : DecidablePred Breaks.BeforeDocument
  | .entitySave | .serialisation | .outboxSave | .mongoSave false => isTrue trivial
  | .nowhere | .mongoSave true | .flush | .commit => isFalse id

/-- **The saves of a write that do not commit** leave its document, unless they break before. -/
theorem WriteOf.save_fails (hw : WriteOf call jurisdiction createdAt rowId occurredAt w)
    (s : Databases) (breaks : Breaks) :
    ((s.save w breaks).2 = none
        ↔ ¬ (breaks = .nowhere ∧ call.filingStatus ∈ FILING_STATUSES))
      ∧ ((s.save w breaks).2 = none → (s.save w breaks).1
        = if breaks.BeforeDocument then s else s.saveDocument w.document) := by
  cases breaks with
  | nowhere =>
    rw [hw.save_nowhere]
    by_cases h : call.filingStatus ∈ FILING_STATUSES
    · rw [if_pos h]
      exact ⟨iff_of_false nofun fun hn => hn ⟨rfl, h⟩, nofun⟩
    · rw [if_neg h]
      exact ⟨iff_of_true rfl fun hn => h hn.2, fun _ => rfl⟩
  | mongoSave stored =>
    cases stored <;> exact ⟨iff_of_true rfl (fun h => nomatch h.1), fun _ => rfl⟩
  | _ => exact ⟨iff_of_true rfl (fun h => nomatch h.1), fun _ => rfl⟩

/-- **A call that comes to its saves commits** if nothing breaks and its filing status is one of the
list. -/
def Commits (call : ComputeLiability) (breaks : Breaks) : Prop :=
  breaks = .nowhere ∧ call.filingStatus ∈ FILING_STATUSES

instance (call : ComputeLiability) (breaks : Breaks) : Decidable (Commits call breaks) :=
  inferInstanceAs (Decidable (_ ∧ _))

theorem Commits.not_beforeDocument {breaks : Breaks} (h : Commits call breaks) :
    ¬ breaks.BeforeDocument := by
  rw [h.1]
  exact not_false

/-- **What a call leaves in Mongo**: its document, unless it breaks before. -/
theorem WriteOf.save_mongo (hw : WriteOf call jurisdiction createdAt rowId occurredAt w)
    (s : Databases) (breaks : Breaks) :
    ((s.save w breaks).2.isSome ↔ Commits call breaks)
      ∧ (s.save w breaks).1.mongo
        = if breaks.BeforeDocument then s.mongo else (s.saveDocument w.document).mongo := by
  obtain ⟨hnone, hleft⟩ := hw.save_fails s breaks
  have hsome : (s.save w breaks).2.isSome ↔ Commits call breaks := by
    rw [Option.isSome_iff_ne_none, ne_eq, hnone, not_not, Commits]
  refine ⟨hsome, ?_⟩
  by_cases hcommits : Commits call breaks
  · rw [if_neg hcommits.not_beforeDocument, hcommits.1, hw.save_nowhere, if_pos hcommits.2]
    rfl
  · rw [hleft (hnone.mpr hcommits)]
    split <;> rfl

/-- **Where a failed call leaves no trace**: its arguments or its bracket are refused, it breaks
before its document is in Mongo, it does not fail after all, or Mongo held the very document. -/
def LeavesNoTrace (bracketResolver : BracketResolver) (s : Databases) (call : ComputeLiability)
    (createdAt : Java.Instant) (breaks : Breaks) : Prop :=
  ∀ jurisdiction, Accepts bracketResolver call jurisdiction →
    breaks.BeforeDocument ∨ (breaks = .nowhere ∧ call.filingStatus ∈ FILING_STATUSES)
      ∨ ∃ d ∈ s.mongo call.id, Documents d call jurisdiction createdAt

/-- A write's document is saved unseen where Mongo holds it. -/
theorem WriteOf.saveDocument_eq_self_iff
    (hw : WriteOf call jurisdiction createdAt rowId occurredAt w) (s : Databases) :
    s.saveDocument w.document = s
      ↔ ∃ d ∈ s.mongo call.id, Documents d call jurisdiction createdAt := by
  rw [Databases.ext_iff, ← hw.documents.1]
  simp only [Databases.saveDocument, true_and, Function.update_eq_self_iff]
  exact ⟨fun h => ⟨w.document, h.symm, hw.documents⟩, fun ⟨d, hd, hdoc⟩ =>
    (hw.eq_document_iff.mpr hdoc) ▸ hd.symm⟩

/-- **A failed write is not visible** exactly where it leaves no trace. -/
theorem failed_write_hidden_iff (bracketResolver : BracketResolver) (s : Databases)
    (call : ComputeLiability) (createdAt : Java.Instant) (rowId : String)
    (occurredAt : Java.Instant) (breaks : Breaks) :
    ((computeLiability bracketResolver s call createdAt rowId occurredAt breaks).2 = none →
        (computeLiability bracketResolver s call createdAt rowId occurredAt breaks).1 = s)
      ↔ LeavesNoTrace bracketResolver s call createdAt breaks := by
  unfold computeLiability
  split
  · next w hok =>
    obtain ⟨jurisdiction, haccepts, hw⟩ := writeOf_of_eq_ok hok
    obtain ⟨hnone, hleft⟩ := hw.save_fails s breaks
    constructor
    · intro hhidden jurisdiction' haccepts'
      obtain rfl : jurisdiction = jurisdiction' := by
        simpa using haccepts.1.symm.trans haccepts'.1
      by_cases hbefore : breaks.BeforeDocument
      · exact .inl hbefore
      · refine .inr (or_iff_not_imp_left.mpr fun hfails =>
          (hw.saveDocument_eq_self_iff s).mp ?_)
        have hs := hleft (hnone.mpr hfails)
        rw [if_neg hbefore] at hs
        exact hs.symm.trans (hhidden (hnone.mpr hfails))
    · intro htrace hfails
      rw [hleft hfails]
      obtain hbefore | hcommits | hheld := htrace jurisdiction haccepts
      · exact if_pos hbefore
      · exact absurd hcommits (hnone.mp hfails)
      · split
        · rfl
        · exact (hw.saveDocument_eq_self_iff s).mpr hheld
  · next hrefused =>
    refine iff_of_true (fun _ => rfl) fun jurisdiction haccepts => ?_
    obtain ⟨w, hw, -⟩ := writeOf_of_accepts haccepts
    cases hrefused.symm.trans hw

/-- **A refused filing status shows**: the check fails at the flush, and Mongo has the document. -/
theorem failed_write_shows :
    ¬ ∀ (bracketResolver : BracketResolver) (s : Databases) (call : ComputeLiability)
      (createdAt : Java.Instant) (rowId : String) (occurredAt : Java.Instant) (breaks : Breaks),
      (computeLiability bracketResolver s call createdAt rowId occurredAt breaks).2 = none →
      (computeLiability bracketResolver s call createdAt rowId occurredAt breaks).1 = s := by
  intro hall
  have hrun : ((computeLiability federal .empty { docsCall with filingStatus := "WIDOWED" } 1 "e-1"
      2 .nowhere).2.isNone, ((computeLiability federal .empty
        { docsCall with filingStatus := "WIDOWED" } 1 "e-1" 2 .nowhere).1.mongo "tp-1").isSome)
      = (true, true) := by decide
  obtain ⟨hfails, hshown⟩ := Prod.mk.inj hrun
  rw [hall federal .empty _ 1 "e-1" 2 .nowhere (Option.isNone_iff_eq_none.mp hfails)] at hshown
  exact absurd hshown (by decide)

end Service
