import TaxLiability.Outbox.LastSent
import TaxLiability.ReadModel.TaxpayerReadModel

/-!
# ReadModel/Projection — the writers and the listener at work on one read model

    compute k ──▸ writeThrough k ──▸ commit k          (rollback k at any time)
                      ▾                  ▾
                    mongo              outbox ──publishers──▸ sent = the partitions' logs
                      ▴──────save p ◂── find p ◂────────────────┘

Writes of any taxpayers are open side by side; a write saves its document before its transaction
commits its row.  The listener takes a partition's records one at a time, in two steps between which
anything else may happen, and starts over from any offset it has passed.
-/

open Machine Outbox

namespace ReadModel

/-- A call of `computeLiability` whose transaction is open, and whether its document is saved. -/
structure OpenWrite where
  write : Write
  saved : Bool
  deriving DecidableEq

/-- **The system**: the committed taxpayers, the outbox, the row ids handed out, the open writes,
the Mongo documents, and of each partition how many records the listener is past and, while it
handles one, the document it found. -/
structure System where
  taxpayers : String → Option Taxpayer
  outbox : EventOutbox TaxpayerUpdatedEvent
  rowIds : List String
  writes : ℕ → Option OpenWrite
  mongo : String → Option TaxpayerReadModel
  offset : ℕ → ℕ
  reading : ℕ → Option (Option TaxpayerReadModel)

/-- Nothing written yet. -/
def System.start : System :=
  ⟨fun _ => none, .start, [], fun _ => none, fun _ => none, fun _ => 0, fun _ => none⟩

/-- What happens next. -/
inductive Event
  /-- call `k` comes to its saves -/
  | compute (k : ℕ) (call : ComputeLiability) (createdAt : Java.Instant) (rowId : String)
      (occurredAt : Java.Instant)
  /-- call `k` saves its document -/
  | writeThrough (k : ℕ)
  | commit (k : ℕ)
  | rollback (k : ℕ)
  /-- the publishers go on; rows come from the calls' commits alone -/
  | publisher (action : Action TaxpayerUpdatedEvent)
  /-- the listener takes the next record of partition `p` and looks its document up -/
  | find (p : ℕ)
  /-- the listener saves what it made of it, and is past the record -/
  | save (p : ℕ)
  /-- the listener starts over from an offset it has reached -/
  | redeliver (p n : ℕ)
  /-- the record is given up after its retries -/
  | deadLetter (p : ℕ)
  deriving DecidableEq

namespace System

variable (bracketResolver : BracketResolver) (partition : String → ℕ)

/-- **The log of partition `p`**: the records are keyed by their aggregate. -/
def log (s : System) (p : ℕ) : List (EventOutboxEntity TaxpayerUpdatedEvent) :=
  s.outbox.sent.filter fun row => partition row.aggregateId = p

/-- The record the listener handles next on partition `p`. -/
def record? (s : System) (p : ℕ) : Option (EventOutboxEntity TaxpayerUpdatedEvent) :=
  (s.log partition p)[s.offset p]?

/-- Write the slot of call `k`. -/
def setWrite (s : System) (k : ℕ) (o : Option OpenWrite) : System :=
  { s with writes := Function.update s.writes k o }

/-- Save a document under its id. -/
def saveDocument (s : System) (d : TaxpayerReadModel) : System :=
  { s with mongo := Function.update s.mongo d.id (some d) }

/-- The listener stands at offset `n` of partition `p` and handles nothing there. -/
def seek (s : System) (p n : ℕ) : System :=
  { s with offset := Function.update s.offset p n, reading := Function.update s.reading p none }

/-- **One step.** -/
def step (s : System) : Event → Option System
  | .compute k call createdAt rowId occurredAt =>
    if s.writes k = none ∧ rowId ∉ s.rowIds then
      match computeLiability bracketResolver call createdAt rowId occurredAt with
      | .ok w => some { s.setWrite k (some ⟨w, false⟩) with rowIds := rowId :: s.rowIds }
      | .error _ => some s
    else none
  | .writeThrough k =>
    match s.writes k with
    | some ⟨w, false⟩ => some ((s.saveDocument w.document).setWrite k (some ⟨w, true⟩))
    | _ => none
  | .commit k =>
    match s.writes k with
    | some ⟨w, true⟩ => (s.outbox.step (.insert w.row)).map fun outbox =>
      { s.setWrite k none with
        taxpayers := Function.update s.taxpayers w.entity.id (some w.entity), outbox }
    | _ => none
  | .rollback k =>
    match s.writes k with
    | some _ => some (s.setWrite k none)
    | none => none
  | .publisher (.insert _) => none
  | .publisher action => (s.outbox.step action).map fun outbox => { s with outbox }
  | .find p =>
    match s.record? partition p, s.reading p with
    | some record, none => some { s with
        reading := Function.update s.reading p (some (s.mongo record.payload.aggregateId)) }
    | _, _ => none
  | .save p =>
    match s.record? partition p, s.reading p with
    | some record, some found =>
      match onEvent found record.payload with
      | .ok d => some ((s.saveDocument d).seek p (s.offset p + 1))
      | .error _ => none
    | _, _ => none
  | .redeliver p n => if n ≤ s.offset p then some (s.seek p n) else none
  | .deadLetter p =>
    match s.record? partition p with
    | some _ => some (s.seek p (s.offset p + 1))
    | none => none

/-- **What a step does**, by its event, with what it needs. -/
inductive Does (s : System) : Event → System → Prop
  | compute {k : ℕ} {call : ComputeLiability} {createdAt occurredAt : Java.Instant}
      {rowId : String} {w : Write} (hk : s.writes k = none) (hid : rowId ∉ s.rowIds)
      (hw : computeLiability bracketResolver call createdAt rowId occurredAt = .ok w) :
      Does s (.compute k call createdAt rowId occurredAt)
        { s.setWrite k (some ⟨w, false⟩) with rowIds := rowId :: s.rowIds }
  | throws {k : ℕ} {call : ComputeLiability} {createdAt occurredAt : Java.Instant}
      {rowId : String} : Does s (.compute k call createdAt rowId occurredAt) s
  | writeThrough {k : ℕ} {w : Write} (hk : s.writes k = some ⟨w, false⟩) :
      Does s (.writeThrough k) ((s.saveDocument w.document).setWrite k (some ⟨w, true⟩))
  | commit {k : ℕ} {w : Write} {outbox : EventOutbox TaxpayerUpdatedEvent}
      (hk : s.writes k = some ⟨w, true⟩) (hrow : s.outbox.step (.insert w.row) = some outbox) :
      Does s (.commit k) { s.setWrite k none with
        taxpayers := Function.update s.taxpayers w.entity.id (some w.entity), outbox }
  | rollback {k : ℕ} {o : OpenWrite} (hk : s.writes k = some o) :
      Does s (.rollback k) (s.setWrite k none)
  | publisher {action : Action TaxpayerUpdatedEvent} {outbox : EventOutbox TaxpayerUpdatedEvent}
      (hinsert : ∀ row, action ≠ .insert row) (ha : s.outbox.step action = some outbox) :
      Does s (.publisher action) { s with outbox }
  | find {p : ℕ} {record : EventOutboxEntity TaxpayerUpdatedEvent}
      (hrecord : s.record? partition p = some record) :
      Does s (.find p) { s with
        reading := Function.update s.reading p (some (s.mongo record.payload.aggregateId)) }
  | save {p : ℕ} {record : EventOutboxEntity TaxpayerUpdatedEvent}
      {found : Option TaxpayerReadModel} {d : TaxpayerReadModel}
      (hrecord : s.record? partition p = some record) (hfound : s.reading p = some found)
      (hd : onEvent found record.payload = .ok d) :
      Does s (.save p) ((s.saveDocument d).seek p (s.offset p + 1))
  | redeliver {p n : ℕ} (hn : n ≤ s.offset p) : Does s (.redeliver p n) (s.seek p n)
  | deadLetter {p : ℕ} {record : EventOutboxEntity TaxpayerUpdatedEvent}
      (hrecord : s.record? partition p = some record) :
      Does s (.deadLetter p) (s.seek p (s.offset p + 1))

variable {bracketResolver partition}

/-- **The step, taken apart.** -/
theorem does_of_step {s t : System} {e : Event} (h : step bracketResolver partition s e = some t) :
    Does bracketResolver partition s e t := by
  cases e with
  | compute k call createdAt rowId occurredAt =>
    simp only [step] at h
    split at h
    · next hfree =>
      split at h
      · next hw =>
        cases h
        exact .compute hfree.1 hfree.2 hw
      · cases h
        exact .throws
    · cases h
  | writeThrough k =>
    simp only [step] at h
    split at h
    · next hk =>
      cases h
      exact .writeThrough hk
    · cases h
  | commit k =>
    simp only [step] at h
    split at h
    · next hk =>
      obtain ⟨outbox, hrow, rfl⟩ := Option.map_eq_some_iff.mp h
      exact .commit hk hrow
    · cases h
  | rollback k =>
    simp only [step] at h
    split at h
    · next hk =>
      cases h
      exact .rollback hk
    · cases h
  | publisher action =>
    cases action with
    | insert row => cases h
    | _ =>
      obtain ⟨outbox, ha, rfl⟩ := Option.map_eq_some_iff.mp h
      exact .publisher nofun ha
  | find p =>
    simp only [step] at h
    split at h
    · next hrecord _ =>
      cases h
      exact .find hrecord
    · cases h
  | save p =>
    simp only [step] at h
    split at h
    · next hrecord hfound =>
      split at h
      · next hd =>
        cases h
        exact .save hrecord hfound hd
      · cases h
    · cases h
  | redeliver p n =>
    simp only [step, ite_eq_iff, reduceCtorEq, and_false, or_false, Option.some.injEq] at h
    obtain ⟨hn, rfl⟩ := h
    exact .redeliver hn
  | deadLetter p =>
    simp only [step] at h
    split at h
    · next hrecord =>
      cases h
      exact .deadLetter hrecord
    · cases h

end System

end ReadModel
