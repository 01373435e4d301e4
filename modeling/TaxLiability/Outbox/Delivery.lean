import TaxLiability.Outbox.OutboxPublisher
import TaxLiability.Service.TaxLiabilityService

/-!
# Outbox/Delivery — one row for each committed write, and no row lost before Kafka has it

    compute k ─▸ saveRow k ─▸ saveDocument k ─▸ commit k      (rollback k at any time)
                                                   ▾
                                                 rows ─publishers─▸ acked ─▸ published

A transaction's row is in the table from its commit on.  A sweep's marks are in the table from its
own commit on, and a row is marked only once its send has been acknowledged (`acked`); whatever
fails before leaves it to be found again.
-/

open Machine ReadModel

namespace Outbox

/-! ## What a sweep can count on -/

namespace EventOutbox

variable {P : Type}

/-- A lock is held by a sweep under way. -/
def LocksHeld (s : EventOutbox P) : Prop :=
  ∀ row ∈ s.locked, ∃ p w, s.publishers p = some w ∧ row ∈ w.batch

/-- What is published or marked has been acknowledged. -/
structure Acknowledged (acked : List (EventOutboxEntity P)) (s : EventOutbox P) : Prop where
  published : ∀ row ∈ s.published, row ∈ acked
  marked : ∀ p w, s.publishers p = some w → ∀ row ∈ w.marked, row ∈ acked

/-- The row whose send an action acknowledges. -/
def ackedBy (s : EventOutbox P) : Action P → List (EventOutboxEntity P)
  | .send p .acked =>
    match s.publishers p with
    | some ⟨_, row :: _, _, _⟩ => [row]
    | _ => []
  | _ => []

section Step

variable [DecidableEq P]

omit [DecidableEq P] in
/-- A sweep that moves on keeps its batch. -/
theorem LocksHeld.moved {s : EventOutbox P} (hs : s.LocksHeld) {p : ℕ} {v w : Sweep P}
    (hp : s.publishers p = some v) (hbatch : w.batch = v.batch) :
    (s.setPublisher p (some w)).LocksHeld := by
  intro row hrow
  obtain ⟨q, u, hq, hu⟩ := hs row hrow
  by_cases hqp : q = p
  · subst hqp
    cases hp.symm.trans hq
    exact ⟨q, w, Function.update_self _ _ _, hbatch ▸ hu⟩
  · exact ⟨q, u, (Function.update_of_ne hqp _ _).trans hq, hu⟩

/-- The locks of a sweep that ends are its own. -/
theorem LocksHeld.released {s : EventOutbox P} (hs : s.LocksHeld) {p : ℕ} {w : Sweep P}
    (hp : s.publishers p = some w) : (s.release p w).LocksHeld := by
  intro row hrow
  obtain ⟨hlocked, hnot⟩ := List.mem_filter.mp hrow
  obtain ⟨q, u, hq, hu⟩ := hs row hlocked
  refine ⟨q, u, (Function.update_of_ne ?_ _ _).trans hq, hu⟩
  rintro rfl
  cases hp.symm.trans hq
  exact of_decide_eq_true hnot hu

theorem LocksHeld.step {s t : EventOutbox P} {a : Action P} (hs : s.LocksHeld)
    (h : s.step a = some t) : t.LocksHeld := by
  cases does_of_step h with
  | insert hid => exact hs
  | @sweep p ordered hp hfinds =>
    intro row hrow
    obtain hrow | hrow := List.mem_append.mp hrow
    · obtain ⟨q, u, hq, hu⟩ := hs row hrow
      refine ⟨q, u, (Function.update_of_ne ?_ _ _).trans hq, hu⟩
      rintro rfl
      cases hp.symm.trans hq
    · exact ⟨p, _, Function.update_self _ _ _, hrow⟩
  | @send p w row rest outcome hp hrest =>
    cases outcome with
    | acked => exact hs.moved hp rfl
    | failed => exact hs.moved hp rfl
    | timedOut => exact hs.moved hp rfl
  | lateAck hrow => exact hs
  | commit hp hrest => exact hs.released hp
  | rollback hp => exact hs.released hp

theorem Acknowledged.step {acked : List (EventOutboxEntity P)} {s t : EventOutbox P} {a : Action P}
    (hs : s.Acknowledged acked) (h : s.step a = some t) :
    t.Acknowledged (s.ackedBy a ++ acked) := by
  have hmore : ∀ row ∈ acked, row ∈ s.ackedBy a ++ acked := fun row => List.mem_append_right _
  have hpublished : ∀ row ∈ s.published, row ∈ s.ackedBy a ++ acked :=
    fun row hrow => hmore row (hs.published row hrow)
  -- the slot of one publisher is written, the others have the marks they had
  have hslot : ∀ {p : ℕ} {o : Option (Sweep P)},
      (∀ w, o = some w → ∀ row ∈ w.marked, row ∈ s.ackedBy a ++ acked) →
      ∀ q w, Function.update s.publishers p o q = some w → ∀ row ∈ w.marked,
        row ∈ s.ackedBy a ++ acked := by
    intro p o ho q w hq row hrow
    obtain ⟨-, hw⟩ | ⟨-, hw⟩ := update_eq_some_iff.mp hq
    · exact ho w hw row hrow
    · exact hmore row (hs.marked q w hw row hrow)
  cases does_of_step h with
  | insert hid => exact ⟨hpublished, fun q w hq row hrow => hmore row (hs.marked q w hq row hrow)⟩
  | sweep hp hfinds => exact ⟨hpublished, hslot (by rintro w ⟨⟩ row ⟨⟩)⟩
  | @send p w row rest outcome hp hrest =>
    obtain ⟨batch, rest', marked, failed⟩ := w
    cases hrest
    cases outcome with
    | acked =>
      refine ⟨hpublished, hslot ?_⟩
      rintro w ⟨⟩
      have hacked : s.ackedBy (.send p .acked) = [row] := by simp [ackedBy, hp]
      exact List.forall_mem_cons.mpr ⟨by simp [hacked], fun r hr => hmore r (hs.marked p _ hp r hr)⟩
    | failed =>
      exact ⟨hpublished, hslot (by rintro w ⟨⟩; exact fun r hr => hmore r (hs.marked p _ hp r hr))⟩
    | timedOut =>
      exact ⟨hpublished, hslot (by rintro w ⟨⟩; exact fun r hr => hmore r (hs.marked p _ hp r hr))⟩
  | lateAck hrow =>
    exact ⟨hpublished, fun q w hq row hrow => hmore row (hs.marked q w hq row hrow)⟩
  | @commit p w hp hrest =>
    refine ⟨fun row hrow => ?_, hslot (by rintro w ⟨⟩)⟩
    obtain hrow | hrow := List.mem_append.mp hrow
    · exact hpublished row hrow
    · exact hmore row (hs.marked p w hp row hrow)
  | rollback hp => exact ⟨hpublished, hslot (by rintro w ⟨⟩)⟩

/-- The unpublished unlocked rows the query may put before `row`. -/
def before (s : EventOutbox P) (row : EventOutboxEntity P) : List (EventOutboxEntity P) :=
  s.unpublishedUnlocked.filter fun r => r ≠ row ∧ r.occurredAt ≤ row.occurredAt

/-- **A row with less than a batch before it** is in the batch. -/
theorem FindsUnpublished.mem_batch {s : EventOutbox P} {ordered : List (EventOutboxEntity P)}
    (h : s.FindsUnpublished ordered) {row : EventOutboxEntity P}
    (hrow : row ∈ s.unpublishedUnlocked) (hbefore : (s.before row).length < BATCH_SIZE) :
    row ∈ ordered.take BATCH_SIZE := by
  obtain ⟨l₁, l₂, rfl, hfirst⟩ := List.eq_append_cons_of_mem (h.1.mem_iff.mpr hrow)
  have hl₁ : ∀ r ∈ l₁, r ≠ row ∧ r.occurredAt ≤ row.occurredAt := fun r hr =>
    ⟨fun heq => hfirst (heq ▸ hr), (List.pairwise_append.mp h.2).2.2 r hr row List.mem_cons_self⟩
  have hlength : l₁.length ≤ (s.before row).length := calc
    l₁.length = (l₁.filter fun r => r ≠ row ∧ r.occurredAt ≤ row.occurredAt).length := by
      rw [List.filter_eq_self.mpr fun r hr => decide_eq_true (hl₁ r hr)]
    _ ≤ ((l₁ ++ row :: l₂).filter fun r => r ≠ row ∧ r.occurredAt ≤ row.occurredAt).length := by
      rw [List.filter_append, List.length_append]
      exact Nat.le_add_right _ _
    _ = (s.before row).length := (h.1.filter _).length_eq
  rw [List.take_append]
  refine List.mem_append_right _ ?_
  obtain ⟨n, hn⟩ := Nat.exists_eq_add_of_lt (hlength.trans_lt hbefore)
  rw [hn, show l₁.length + n + 1 - l₁.length = n + 1 by omega, List.take_succ_cons]
  exact List.mem_cons_self

/-- The query has an answer in every state. -/
theorem exists_findsUnpublished (s : EventOutbox P) : ∃ ordered, s.FindsUnpublished ordered := by
  refine ⟨s.unpublishedUnlocked.mergeSort fun x y => decide (x.occurredAt ≤ y.occurredAt),
    List.mergeSort_perm _ _, (List.pairwise_mergeSort ?_ ?_ _).imp of_decide_eq_true⟩
  · intro x y z hxy hyz
    exact decide_eq_true ((of_decide_eq_true hxy).trans (of_decide_eq_true hyz))
  · intro x y
    simpa using Int.le_total _ _

end Step

end EventOutbox

/-! ## The writes and the sweeps -/

/-- How far the transaction of a call is. -/
inductive Phase
  | entitySaved
  | rowSaved
  | documentSaved
  deriving DecidableEq, Repr

/-- A call of `computeLiability`. -/
inductive Call
  | idle
  | running (call : ComputeLiability) (w : Write) (phase : Phase)
  | committed (call : ComputeLiability) (w : Write)
  /-- its transaction ended without a commit; no write if the call threw before its saves -/
  | rolledBack (w : Option Write)
  deriving DecidableEq

/-- The write of a call. -/
def Call.write? : Call → Option Write
  | .idle => none
  | .running _ w _ | .committed _ w => some w
  | .rolledBack w => w

/-- **The writes and the sweeps**: the outbox, the row ids handed out, the calls, and the rows whose
send has been acknowledged to its sender. -/
structure Delivery where
  outbox : EventOutbox TaxpayerUpdatedEvent
  rowIds : List String
  calls : ℕ → Call
  acked : List (EventOutboxEntity TaxpayerUpdatedEvent)

/-- What happens next. -/
inductive Delivery.Event
  /-- call `k` comes to its saves, and saves its entity; or throws before -/
  | compute (k : ℕ) (call : ComputeLiability) (createdAt : Java.Instant) (rowId : String)
      (occurredAt : Java.Instant)
  | saveRow (k : ℕ)
  | saveDocument (k : ℕ)
  | commit (k : ℕ)
  /-- call `k` throws, is refused by a database, or dies with its process -/
  | rollback (k : ℕ)
  /-- the publishers go on; rows come from the calls' commits alone -/
  | publisher (action : Action TaxpayerUpdatedEvent)
  deriving DecidableEq

namespace Delivery

def start : Delivery := ⟨.start, [], fun _ => .idle, []⟩

def setCall (s : Delivery) (k : ℕ) (c : Call) : Delivery :=
  { s with calls := Function.update s.calls k c }

variable (bracketResolver : BracketResolver)

/-- **One step.** -/
def step (s : Delivery) : Event → Option Delivery
  | .compute k call createdAt rowId occurredAt =>
    if s.calls k = .idle ∧ rowId ∉ s.rowIds then
      match ReadModel.computeLiability bracketResolver call createdAt rowId occurredAt with
      | .ok w =>
        some { s.setCall k (.running call w .entitySaved) with rowIds := rowId :: s.rowIds }
      | .error _ => some (s.setCall k (.rolledBack none))
    else none
  | .saveRow k =>
    match s.calls k with
    | .running call w .entitySaved => some (s.setCall k (.running call w .rowSaved))
    | _ => none
  | .saveDocument k =>
    match s.calls k with
    | .running call w .rowSaved => some (s.setCall k (.running call w .documentSaved))
    | _ => none
  | .commit k =>
    match s.calls k with
    | .running call w .documentSaved =>
      if call.filingStatus ∈ Service.FILING_STATUSES then
        (s.outbox.step (.insert w.row)).map fun outbox =>
          { s.setCall k (.committed call w) with outbox }
      else none
    | _ => none
  | .rollback k =>
    match s.calls k with
    | .running _ w _ => some (s.setCall k (.rolledBack (some w)))
    | _ => none
  | .publisher (.insert _) => none
  | .publisher action => (s.outbox.step action).map fun outbox =>
    { s with outbox, acked := s.outbox.ackedBy action ++ s.acked }

/-- **What a step does.** -/
inductive Does (s : Delivery) : Event → Delivery → Prop
  | compute {k : ℕ} {call : ComputeLiability} {createdAt occurredAt : Java.Instant}
      {rowId : String} {w : Write} (hk : s.calls k = .idle) (hid : rowId ∉ s.rowIds)
      (hw : ReadModel.computeLiability bracketResolver call createdAt rowId occurredAt = .ok w) :
      Does s (.compute k call createdAt rowId occurredAt)
        { s.setCall k (.running call w .entitySaved) with rowIds := rowId :: s.rowIds }
  | throws {k : ℕ} {call : ComputeLiability} {createdAt occurredAt : Java.Instant}
      {rowId : String} (hk : s.calls k = .idle) :
      Does s (.compute k call createdAt rowId occurredAt) (s.setCall k (.rolledBack none))
  | save {k : ℕ} {e : Event} {call : ComputeLiability} {w : Write} {phase phase' : Phase}
      (hk : s.calls k = .running call w phase) : Does s e (s.setCall k (.running call w phase'))
  | commit {k : ℕ} {call : ComputeLiability} {w : Write}
      {outbox : EventOutbox TaxpayerUpdatedEvent} (hk : s.calls k = .running call w .documentSaved)
      (hrow : s.outbox.step (.insert w.row) = some outbox) :
      Does s (.commit k) { s.setCall k (.committed call w) with outbox }
  | rollback {k : ℕ} {call : ComputeLiability} {w : Write} {phase : Phase}
      (hk : s.calls k = .running call w phase) :
      Does s (.rollback k) (s.setCall k (.rolledBack (some w)))
  | publisher {action : Action TaxpayerUpdatedEvent} {outbox : EventOutbox TaxpayerUpdatedEvent}
      (hinsert : ∀ row, action ≠ .insert row) (ha : s.outbox.step action = some outbox) :
      Does s (.publisher action) { s with outbox, acked := s.outbox.ackedBy action ++ s.acked }

variable {bracketResolver}

/-- **The step, taken apart.** -/
theorem does_of_step {s t : Delivery} {e : Event} (h : step bracketResolver s e = some t) :
    Does bracketResolver s e t := by
  cases e with
  | compute k call createdAt rowId occurredAt =>
    simp only [step] at h
    split at h
    · next hfree =>
      split at h
      · next hw =>
        cases h
        exact .compute hfree.1 hfree.2 hw
      · cases h
        exact .throws hfree.1
    · cases h
  | saveRow k =>
    simp only [step] at h
    split at h
    · next hk =>
      cases h
      exact .save hk
    · cases h
  | saveDocument k =>
    simp only [step] at h
    split at h
    · next hk =>
      cases h
      exact .save hk
    · cases h
  | commit k =>
    simp only [step] at h
    split at h
    · next hk =>
      split at h
      · obtain ⟨outbox, hrow, rfl⟩ := Option.map_eq_some_iff.mp h
        exact .commit hk hrow
      · cases h
    · cases h
  | rollback k =>
    simp only [step] at h
    split at h
    · next hk =>
      cases h
      exact .rollback hk
    · cases h
  | publisher action =>
    cases action with
    | insert row => cases h
    | _ =>
      obtain ⟨outbox, ha, rfl⟩ := Option.map_eq_some_iff.mp h
      exact .publisher (by rintro row ⟨⟩) ha

/-! ## The invariant -/

/-- **Rows are what committed calls wrote**, one for each. -/
structure Inv (s : Delivery) : Prop where
  sound : s.outbox.Sound
  held : s.outbox.LocksHeld
  acknowledged : s.outbox.Acknowledged s.acked
  issued : ∀ k w, (s.calls k).write? = some w → w.row.id ∈ s.rowIds
  /-- no two calls have a row id in common -/
  apart : ∀ j k v w, (s.calls j).write? = some v → (s.calls k).write? = some w →
    v.row.id = w.row.id → j = k
  running_aggregate : ∀ k call w phase, s.calls k = .running call w phase →
    w.row.aggregateId = call.id
  committed_aggregate : ∀ k call w, s.calls k = .committed call w → w.row.aggregateId = call.id
  mem_rows_iff : ∀ row, row ∈ s.outbox.rows
    ↔ ∃ k call w, s.calls k = .committed call w ∧ w.row = row
  nodup : (s.outbox.rows.map (·.id)).Nodup

theorem inv_start : start.Inv where
  sound := EventOutbox.sound_start
  held := by rintro row ⟨⟩
  acknowledged := ⟨by rintro row ⟨⟩, by rintro p w ⟨⟩⟩
  issued := by rintro k w ⟨⟩
  apart := by rintro j k v w ⟨⟩
  running_aggregate := by rintro k call w phase ⟨⟩
  committed_aggregate := by rintro k call w ⟨⟩
  mem_rows_iff := fun row => ⟨by rintro ⟨⟩, by rintro ⟨k, call, w, ⟨⟩, -⟩⟩
  nodup := List.nodup_nil

/-- A slot written is the slot of the call moved, or another as it was. -/
theorem setCall_eq_iff {s : Delivery} {k j : ℕ} {c d : Call} :
    (s.setCall k c).calls j = d ↔ (j = k ∧ c = d) ∨ (j ≠ k ∧ s.calls j = d) := by
  by_cases h : j = k
  · subst h
    simp [setCall]
  · simp [setCall, h]

/-- A write after a call moved is that call's, or another's and as it was. -/
theorem write_setCall {s : Delivery} {k j : ℕ} {c : Call} {w : Write}
    (h : ((s.setCall k c).calls j).write? = some w) :
    (j = k ∧ c.write? = some w) ∨ (j ≠ k ∧ (s.calls j).write? = some w) := by
  obtain ⟨hj, hc⟩ | ⟨hj, hc⟩ := setCall_eq_iff.mp (rfl : _ = (s.setCall k c).calls j)
  · exact .inl ⟨hj, hc ▸ h⟩
  · exact .inr ⟨hj, hc ▸ h⟩

/-- The committed calls after one that was not committed has moved. -/
theorem committed_setCall {s : Delivery} {k : ℕ} {c : Call}
    (hold : ∀ call w, s.calls k ≠ .committed call w) (j : ℕ) (call : ComputeLiability) (w : Write) :
    (s.setCall k c).calls j = .committed call w
      ↔ (j = k ∧ c = .committed call w) ∨ s.calls j = .committed call w := by
  rw [setCall_eq_iff]
  refine or_congr_right ⟨fun h => h.2, fun h => ⟨?_, h⟩⟩
  rintro rfl
  exact hold call w h

/-- **A call that moves on or back** short of a commit, with the write it has. -/
theorem Inv.setCall {s : Delivery} (hs : s.Inv) {k : ℕ} {c : Call}
    (hwrite : ∀ w, c.write? = some w → (s.calls k).write? = some w)
    (hrunning : ∀ call w phase, c = .running call w phase → w.row.aggregateId = call.id)
    (hold : ∀ call w, s.calls k ≠ .committed call w) (hnew : ∀ call w, c ≠ .committed call w) :
    (s.setCall k c).Inv := by
  have hwrites : ∀ j w, ((s.setCall k c).calls j).write? = some w →
      (s.calls j).write? = some w := by
    intro j w hw
    obtain ⟨rfl, h⟩ | ⟨-, h⟩ := write_setCall hw
    · exact hwrite w h
    · exact h
  have hcommitted : ∀ j call w, (s.setCall k c).calls j = .committed call w
      ↔ s.calls j = .committed call w := fun j call w =>
    (committed_setCall hold j call w).trans (or_iff_right fun h => hnew call w h.2)
  exact
    { sound := hs.sound
      held := hs.held
      acknowledged := hs.acknowledged
      issued := fun j w hw => hs.issued j w (hwrites j w hw)
      apart := fun i j v w hv hw => hs.apart i j v w (hwrites i v hv) (hwrites j w hw)
      running_aggregate := fun j call w phase h => by
        obtain ⟨-, h⟩ | ⟨-, h⟩ := setCall_eq_iff.mp h
        · exact hrunning call w phase h
        · exact hs.running_aggregate j call w phase h
      committed_aggregate := fun j call w h =>
        hs.committed_aggregate j call w ((hcommitted j call w).mp h)
      mem_rows_iff := fun row => by simp only [hcommitted]; exact hs.mem_rows_iff row
      nodup := hs.nodup }

/-- **A call that comes to its saves**, with a row id never handed out before. -/
theorem Inv.compute {s : Delivery} (hs : s.Inv) {k : ℕ} {call : ComputeLiability}
    {createdAt occurredAt : Java.Instant} {rowId : String} {w : Write} (hk : s.calls k = .idle)
    (hid : rowId ∉ s.rowIds)
    (hw : ReadModel.computeLiability bracketResolver call createdAt rowId occurredAt = .ok w) :
    ({ s.setCall k (.running call w .entitySaved) with rowIds := rowId :: s.rowIds } :
      Delivery).Inv := by
  obtain ⟨-, hrow, haggregate, -, -⟩ := computeLiability_eq_ok hw
  have hold : ∀ call w, s.calls k ≠ .committed call w := by
    rw [hk]
    rintro call w ⟨⟩
  -- a write after the step is the new one or an old one
  have hwrites : ∀ j v, ((s.setCall k (.running call w .entitySaved)).calls j).write? = some v →
      (j = k ∧ v = w) ∨ (j ≠ k ∧ (s.calls j).write? = some v) := by
    intro j v hv
    exact (write_setCall hv).imp_left fun h => ⟨h.1, (Option.some.inj h.2).symm⟩
  have hfresh : ∀ j v, (s.calls j).write? = some v → v.row.id ≠ rowId :=
    fun j v hv heq => hid (heq ▸ hs.issued j v hv)
  have hcommitted : ∀ j call' w', (s.setCall k (.running call w .entitySaved)).calls j
      = .committed call' w' ↔ s.calls j = .committed call' w' := fun j call' w' =>
    (committed_setCall hold j call' w').trans (or_iff_right (by rintro ⟨-, ⟨⟩⟩))
  exact
    { sound := hs.sound
      held := hs.held
      acknowledged := hs.acknowledged
      issued := fun j v hv => by
        obtain ⟨-, rfl⟩ | ⟨-, hv⟩ := hwrites j v hv
        · rw [hrow]
          exact List.mem_cons_self
        · exact List.mem_cons_of_mem _ (hs.issued j v hv)
      apart := fun i j u v hu hv heq => by
        obtain ⟨rfl, rfl⟩ | ⟨-, hu'⟩ := hwrites i u hu <;>
          obtain ⟨rfl, rfl⟩ | ⟨-, hv'⟩ := hwrites j v hv
        · rfl
        · exact absurd (heq.symm.trans hrow) (hfresh j v hv')
        · exact absurd (heq.trans hrow) (hfresh i u hu')
        · exact hs.apart i j u v hu' hv' heq
      running_aggregate := fun j call' w' phase h => by
        obtain ⟨-, ⟨⟩⟩ | ⟨-, h⟩ := setCall_eq_iff.mp h
        · exact haggregate
        · exact hs.running_aggregate j call' w' phase h
      committed_aggregate := fun j call' w' h =>
        hs.committed_aggregate j call' w' ((hcommitted j call' w').mp h)
      mem_rows_iff := fun row => by simp only [hcommitted]; exact hs.mem_rows_iff row
      nodup := hs.nodup }

/-- **A commit** adds the row of the call to the table. -/
theorem Inv.commit {s : Delivery} (hs : s.Inv) {k : ℕ} {call : ComputeLiability} {w : Write}
    {outbox : EventOutbox TaxpayerUpdatedEvent} (hk : s.calls k = .running call w .documentSaved)
    (hrow : s.outbox.step (.insert w.row) = some outbox) :
    ({ s.setCall k (.committed call w) with outbox } : Delivery).Inv := by
  have hacked := hs.acknowledged.step hrow
  have hwrites : ∀ j v, ((s.setCall k (.committed call w)).calls j).write? = some v →
      (s.calls j).write? = some v := by
    intro j v hv
    obtain ⟨rfl, h⟩ | ⟨-, h⟩ := write_setCall hv
    · rw [hk]
      exact h
    · exact h
  have hcommitted : ∀ j call' w', (s.setCall k (.committed call w)).calls j = .committed call' w'
      ↔ (j = k ∧ call = call' ∧ w = w') ∨ s.calls j = .committed call' w' := by
    intro j call' w'
    rw [committed_setCall (by rw [hk]; rintro call w ⟨⟩), Call.committed.injEq]
  have hsound := hs.sound.step hrow
  have hheld := hs.held.step hrow
  cases EventOutbox.does_of_step hrow with
  | insert hid =>
    exact
      { sound := hsound
        held := hheld
        acknowledged := hacked
        issued := fun j v hv => hs.issued j v (hwrites j v hv)
        apart := fun i j u v hu hv => hs.apart i j u v (hwrites i u hu) (hwrites j v hv)
        running_aggregate := fun j call' w' phase h => by
          obtain ⟨-, ⟨⟩⟩ | ⟨-, h⟩ := setCall_eq_iff.mp h
          exact hs.running_aggregate j call' w' phase h
        committed_aggregate := fun j call' w' h => by
          obtain ⟨-, rfl, rfl⟩ | h := (hcommitted j call' w').mp h
          · exact hs.running_aggregate k _ _ _ hk
          · exact hs.committed_aggregate j call' w' h
        mem_rows_iff := fun row => by
          rw [List.mem_append, hs.mem_rows_iff, List.mem_singleton]
          constructor
          · rintro (⟨j, call', w', h, rfl⟩ | rfl)
            · exact ⟨j, call', w', (hcommitted j call' w').mpr (.inr h), rfl⟩
            · exact ⟨k, call, w, (hcommitted k call w).mpr (.inl ⟨rfl, rfl, rfl⟩), rfl⟩
          · rintro ⟨j, call', w', h, rfl⟩
            obtain ⟨-, -, rfl⟩ | h := (hcommitted j call' w').mp h
            · exact .inr rfl
            · exact .inl ⟨j, call', w', h, rfl⟩
        nodup := by
          rw [List.map_append, List.map_singleton]
          refine List.nodup_append.mpr ⟨hs.nodup, List.pairwise_singleton _ _, ?_⟩
          rintro a ha b hb rfl
          exact hid (List.mem_singleton.mp hb ▸ ha) }

/-- **Every step keeps the invariant.** -/
theorem Inv.step {s t : Delivery} {e : Event} (hs : s.Inv)
    (h : step bracketResolver s e = some t) : t.Inv := by
  cases does_of_step h with
  | compute hk hid hw => exact hs.compute hk hid hw
  | throws hk =>
    exact hs.setCall (by rintro w ⟨⟩) (by rintro call w phase ⟨⟩) (by rw [hk]; rintro call w ⟨⟩)
      (by rintro call w ⟨⟩)
  | save hk =>
    refine hs.setCall (by rw [hk]; exact fun w hw => hw) ?_ (by rw [hk]; rintro call w ⟨⟩)
      (by rintro call w ⟨⟩)
    rintro call w phase ⟨⟩
    exact hs.running_aggregate _ _ _ _ hk
  | commit hk hrow => exact hs.commit hk hrow
  | rollback hk =>
    exact hs.setCall (by rw [hk]; exact fun w hw => hw) (by rintro call w phase ⟨⟩)
      (by rw [hk]; rintro call w ⟨⟩) (by rintro call w ⟨⟩)
  | publisher hinsert ha =>
    have hrows := (EventOutbox.does_of_step ha).rows_eq hinsert
    exact { hs with
      sound := hs.sound.step ha
      held := hs.held.step ha
      acknowledged := hs.acknowledged.step ha
      mem_rows_iff := fun row => by simp only [hrows]; exact hs.mem_rows_iff row
      nodup := by simp only [hrows]; exact hs.nodup }

/-- **No row is ever lost.** -/
theorem mem_rows_of_step {s t : Delivery} {e : Event} (h : step bracketResolver s e = some t)
    {row : EventOutboxEntity TaxpayerUpdatedEvent} (hrow : row ∈ s.outbox.rows) :
    row ∈ t.outbox.rows := by
  cases does_of_step h with
  | commit hk hinsert =>
    cases EventOutbox.does_of_step hinsert with
    | insert hid => exact List.mem_append_left _ hrow
  | publisher hinsert ha =>
    rw [(EventOutbox.does_of_step ha).rows_eq hinsert]
    exact hrow
  | _ => exact hrow

/-! ## At least once -/

/-- A row is the only one with its id. -/
theorem filter_eq_singleton {rows : List (EventOutboxEntity TaxpayerUpdatedEvent)}
    (h : (rows.map (·.id)).Nodup) {row : EventOutboxEntity TaxpayerUpdatedEvent}
    (hrow : row ∈ rows) : rows.filter (fun r => r.id = row.id) = [row] := by
  induction rows with
  | nil => cases hrow
  | cons r rows ih =>
    obtain ⟨hr, hnodup⟩ := List.nodup_cons.mp h
    have hne : ∀ r' ∈ rows, r'.id ≠ r.id := fun r' hr' heq => hr (List.mem_map.mpr ⟨r', hr', heq⟩)
    obtain rfl | hrow := List.mem_cons.mp hrow
    · simpa [List.filter_eq_nil_iff] using hne
    · rw [List.filter_cons_of_neg (by simpa using (hne row hrow).symm), ih hnodup hrow]

/-- **What the outbox promises**, in any state. -/
structure AtLeastOnce (bracketResolver : BracketResolver) (s : Delivery) : Prop where
  /-- a committed call has left one row, for its aggregate… -/
  committed : ∀ k call w, s.calls k = .committed call w →
    s.outbox.rows.filter (fun row => row.id = w.row.id) = [w.row] ∧ w.row.aggregateId = call.id
  /-- …its own… -/
  own : ∀ j k call call' v w, s.calls j = .committed call v → s.calls k = .committed call' w →
    v.row.id = w.row.id → j = k
  /-- …one rolled back has left none… -/
  rolledBack : ∀ k w, s.calls k = .rolledBack (some w) → ∀ row ∈ s.outbox.rows, row.id ≠ w.row.id
  /-- …and there are no others -/
  only : ∀ row ∈ s.outbox.rows, ∃ k call w, s.calls k = .committed call w ∧ w.row = row
  /-- a published row has been acknowledged -/
  published : ∀ row ∈ s.outbox.published, row ∈ s.acked
  /-- a row never acknowledged is unpublished… -/
  unpublished : ∀ row ∈ s.outbox.rows, row ∉ s.acked → row ∉ s.outbox.published
  /-- …and, once fewer than a batch come before it, in the hands of a sweep or found by the next -/
  found : ∀ row ∈ s.outbox.rows, row ∉ s.acked → (s.outbox.before row).length < BATCH_SIZE →
    (∃ p w, s.outbox.publishers p = some w ∧ row ∈ w.batch)
      ∨ ∀ p, s.outbox.publishers p = none →
        (∃ ordered t, step bracketResolver s (.publisher (.sweep p ordered)) = some t)
          ∧ ∀ ordered t, step bracketResolver s (.publisher (.sweep p ordered)) = some t →
            ∃ w, t.outbox.publishers p = some w ∧ row ∈ w.batch

theorem Inv.atLeastOnce {s : Delivery} (hs : s.Inv) : s.AtLeastOnce bracketResolver where
  committed := by
    intro k call w hk
    have hmem : w.row ∈ s.outbox.rows := (hs.mem_rows_iff w.row).mpr ⟨k, call, w, hk, rfl⟩
    exact ⟨filter_eq_singleton hs.nodup hmem, hs.committed_aggregate k call w hk⟩
  own := by
    intro j k call call' v w hj hk heq
    exact hs.apart j k v w (by rw [hj]; rfl) (by rw [hk]; rfl) heq
  rolledBack := by
    intro k w hk row hrow heq
    obtain ⟨j, call, v, hj, rfl⟩ := (hs.mem_rows_iff row).mp hrow
    obtain rfl := hs.apart j k v w (by rw [hj]; rfl) (by rw [hk]; rfl) heq
    cases hj.symm.trans hk
  only := fun row hrow => (hs.mem_rows_iff row).mp hrow
  published := hs.acknowledged.published
  unpublished := fun row _ hnot hpub => hnot (hs.acknowledged.published row hpub)
  found := by
    intro row hrow hnot hbefore
    by_cases hlocked : row ∈ s.outbox.locked
    · exact .inl (hs.held row hlocked)
    · refine .inr fun p hp => ⟨?_, fun ordered t ht => ?_⟩
      · obtain ⟨ordered, hfinds⟩ := s.outbox.exists_findsUnpublished
        refine ⟨ordered, { s with outbox := s.outbox.lock p (ordered.take BATCH_SIZE) }, ?_⟩
        simp [Delivery.step, EventOutbox.step, hp, hfinds, EventOutbox.ackedBy]
      · obtain ⟨outbox, hsweep, rfl⟩ := Option.map_eq_some_iff.mp ht
        cases EventOutbox.does_of_step hsweep with
        | sweep hp hfinds =>
          refine ⟨_, Function.update_self _ _ _, hfinds.mem_batch ?_ hbefore⟩
          exact EventOutbox.mem_unpublishedUnlocked.mpr
            ⟨hrow, fun hpub => hnot (hs.acknowledged.published row hpub), hlocked⟩

variable (bracketResolver) in
/-- **The outbox is transactional and delivers at least once**, in every state of every run, and
what a state has in its outbox stays there. -/
theorem atLeastOnce_run {es₁ es₂ : List Event} {s t : Delivery}
    (h₁ : exec (step bracketResolver) start es₁ = some s)
    (h₂ : exec (step bracketResolver) s es₂ = some t) :
    t.AtLeastOnce bracketResolver ∧ ∀ row ∈ s.outbox.rows, row ∈ t.outbox.rows := by
  have hs : s.Inv := exec_invariant Inv.step inv_start h₁
  refine ⟨(exec_invariant Inv.step hs h₂).atLeastOnce, fun row hrow => ?_⟩
  exact exec_invariant (I := fun s => row ∈ s.outbox.rows)
    (fun hmem hstep => mem_rows_of_step hstep hmem) hrow h₂

/-- The row of a write. -/
def docsRow : EventOutboxEntity TaxpayerUpdatedEvent :=
  ⟨"e-1", "tp-1", TAXPAYER_EVENTS, ⟨"tp-1", "Ada", "SINGLE", "federal", 1⟩, 2⟩

/-- One write, a sweep that times out and crashes, and a sweep that goes through. -/
def docsRun : List Event :=
  [.compute 0 Service.docsCall 1 "e-1" 2, .saveRow 0, .saveDocument 0, .commit 0,
   .compute 1 Service.docsCall 3 "e-2" 4, .rollback 1,
   .publisher (.sweep 0 [docsRow]),
   .publisher (.send 0 .timedOut), .publisher (.rollback 0),
   .publisher (.sweep 0 [docsRow]),
   .publisher (.send 0 .acked), .publisher (.commit 0)]

theorem atLeastOnce_docsRun : ∃ s t, exec (step federal) start (docsRun.take 4) = some s
    ∧ exec (step federal) s (docsRun.drop 4) = some t ∧ t.AtLeastOnce federal
    ∧ t.outbox.published.length = 1 := by
  have hrun : (exec (step federal) start (docsRun.take 4)).bind (fun s =>
      (exec (step federal) s (docsRun.drop 4)).map fun t => t.outbox.published.length)
      = some 1 := by decide
  obtain ⟨s, hs, hrest⟩ := Option.bind_eq_some_iff.mp hrun
  obtain ⟨t, ht, hpublished⟩ := Option.map_eq_some_iff.mp hrest
  exact ⟨s, t, hs, ht, (atLeastOnce_run federal hs ht).1, hpublished⟩

end Delivery

end Outbox
