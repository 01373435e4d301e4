import Mathlib.Data.List.Perm.Basic
import TaxLiability.Machinery.Java
import TaxLiability.Machinery.Machine

/-!
# Outbox/OutboxPublisher — the outbox table, the publishers that sweep it, and what they send

    insert ──▸ rows ──sweep p──▸ batch of p ──send p──▸ sent, marked       ──commit p──▸ published
                                               └──────▸ failed (± pending) └rollback p

Any number of publishers sweep one table side by side.  A sweep is one transaction: it locks up to
`BATCH_SIZE` unpublished rows that nobody else has locked, oldest first, sends them one after
another, and publishes the marked ones at its commit.  A step is one statement of
`publishPending`, or the commit of a row by the writer's transaction, or the broker taking a record
whose sender has stopped waiting for it.
-/

open Machine

namespace Outbox

/-- **A row of `event_outbox`**, but for `published_at`; the payload is whatever its reader reads
it as. -/
structure EventOutboxEntity (P : Type) where
  id : String
  aggregateId : String
  topic : String
  payload : P
  occurredAt : Java.Instant
  deriving DecidableEq, Repr

/-- **`w` happened before `x`** on the same aggregate. -/
def Earlier {P : Type} (w x : EventOutboxEntity P) : Prop :=
  w.aggregateId = x.aggregateId ∧ w.occurredAt < x.occurredAt

instance {P : Type} (w x : EventOutboxEntity P) : Decidable (Earlier w x) :=
  inferInstanceAs (Decidable (_ ∧ _))

theorem Earlier.irrefl {P : Type} (x : EventOutboxEntity P) : ¬ Earlier x x :=
  fun h => Int.lt_irrefl _ h.2

/-- How many rows a sweep takes. -/
def BATCH_SIZE : ℕ := 50

/-- What the wait for one send ends with.  A send that timed out may still reach the log. -/
inductive SendOutcome
  | acked
  | failed
  | timedOut
  deriving DecidableEq, Repr

/-- **One run of `publishPending`**: the rows it holds, those its loop has not come to, those it has
marked published and those whose send threw. -/
structure Sweep (P : Type) where
  batch : List (EventOutboxEntity P)
  rest : List (EventOutboxEntity P)
  marked : List (EventOutboxEntity P)
  failed : List (EventOutboxEntity P)

/-- **The outbox**: the committed rows in the order of their commits, those whose `published_at` is
set, those under a row lock, the publishers at work, the sends nobody waits for any more, and the
records of the Kafka log, oldest first. -/
structure EventOutbox (P : Type) where
  rows : List (EventOutboxEntity P)
  published : List (EventOutboxEntity P)
  locked : List (EventOutboxEntity P)
  publishers : ℕ → Option (Sweep P)
  pending : List (EventOutboxEntity P)
  sent : List (EventOutboxEntity P)

/-- Nothing written yet. -/
def EventOutbox.start {P : Type} : EventOutbox P := ⟨[], [], [], fun _ => none, [], []⟩

/-- What happens next. -/
inductive Action (P : Type)
  /-- a writer's transaction commits its row -/
  | insert (row : EventOutboxEntity P)
  /-- publisher `p` runs its query; the unpublished unlocked rows come in this order -/
  | sweep (p : ℕ) (ordered : List (EventOutboxEntity P))
  /-- publisher `p` sends its next row -/
  | send (p : ℕ) (outcome : SendOutcome)
  /-- a send that timed out reaches the log -/
  | lateAck (row : EventOutboxEntity P)
  | commit (p : ℕ)
  | rollback (p : ℕ)
  deriving DecidableEq, Repr

namespace EventOutbox

variable {P : Type}

/-! ## What a sweep does -/

/-- Write the slot of publisher `p`. -/
def setPublisher (s : EventOutbox P) (p : ℕ) (w : Option (Sweep P)) : EventOutbox P :=
  { s with publishers := Function.update s.publishers p w }

/-- A batch is locked and its sweep begins. -/
def lock (s : EventOutbox P) (p : ℕ) (batch : List (EventOutboxEntity P)) : EventOutbox P :=
  { s.setPublisher p (some ⟨batch, batch, [], []⟩) with locked := s.locked ++ batch }

/-- **The body of the loop** on `row`: an acknowledged send marks the row, anything else is caught
and the loop goes on. -/
def attempt (s : EventOutbox P) (p : ℕ) (w : Sweep P) (row : EventOutboxEntity P)
    (rest : List (EventOutboxEntity P)) : SendOutcome → EventOutbox P
  | .acked => { s.setPublisher p (some ⟨w.batch, rest, row :: w.marked, w.failed⟩) with
      sent := s.sent ++ [row] }
  | .failed => s.setPublisher p (some ⟨w.batch, rest, w.marked, row :: w.failed⟩)
  | .timedOut => { s.setPublisher p (some ⟨w.batch, rest, w.marked, row :: w.failed⟩) with
      pending := row :: s.pending }

/-! ## What holds of any run -/

/-- What a sweep under way can rely on. -/
structure SweepSound (s : EventOutbox P) (w : Sweep P) : Prop where
  rest_batch : ∀ row ∈ w.rest, row ∈ w.batch
  marked_batch : ∀ row ∈ w.marked, row ∈ w.batch
  marked_sent : ∀ row ∈ w.marked, row ∈ s.sent
  batch_locked : ∀ row ∈ w.batch, row ∈ s.locked

/-- **What holds whatever fails**: what is published has been sent, a locked row is not published,
and no row is in two sweeps. -/
structure Sound (s : EventOutbox P) : Prop where
  sent_rows : ∀ row ∈ s.sent, row ∈ s.rows
  pending_rows : ∀ row ∈ s.pending, row ∈ s.rows
  locked_rows : ∀ row ∈ s.locked, row ∈ s.rows
  published_sent : ∀ row ∈ s.published, row ∈ s.sent
  locked_unpublished : ∀ row ∈ s.locked, row ∉ s.published
  sweeps : ∀ p w, s.publishers p = some w → s.SweepSound w
  disjoint : ∀ p q v w row, s.publishers p = some v → s.publishers q = some w →
    row ∈ v.batch → row ∈ w.batch → p = q

theorem sound_start : (start : EventOutbox P).Sound where
  sent_rows := by simp [start]
  pending_rows := by simp [start]
  locked_rows := by simp [start]
  published_sent := by simp [start]
  locked_unpublished := by simp [start]
  sweeps := by simp [start]
  disjoint := by simp [start]

/-- What a sweep relies on outlives the steps that keep its locks and shorten no log. -/
theorem SweepSound.mono {s t : EventOutbox P} {w : Sweep P} (h : s.SweepSound w)
    (hsent : ∀ row ∈ s.sent, row ∈ t.sent) (hlocked : ∀ row ∈ w.batch, row ∈ t.locked) :
    t.SweepSound w :=
  ⟨h.rest_batch, h.marked_batch, fun row hrow => hsent row (h.marked_sent row hrow), hlocked⟩

/-- The batches stay apart if the one that is put is apart from the others'. -/
theorem Sound.disjoint_setPublisher {s : EventOutbox P} (hs : s.Sound) {p : ℕ} {w : Sweep P}
    (hw : ∀ q v, q ≠ p → s.publishers q = some v → ∀ row ∈ v.batch, row ∉ w.batch) :
    ∀ q q' u u' row, (s.setPublisher p (some w)).publishers q = some u →
      (s.setPublisher p (some w)).publishers q' = some u' → row ∈ u.batch → row ∈ u'.batch →
      q = q' := by
  intro q q' u u' row hq hq' hr hr'
  obtain ⟨rfl, hu⟩ | ⟨hne, hu⟩ := update_eq_some_iff.mp hq <;>
    obtain ⟨rfl, hu'⟩ | ⟨hne', hu'⟩ := update_eq_some_iff.mp hq'
  · rfl
  · cases hu
    exact absurd hr (hw q' u' hne' hu' row hr')
  · cases hu'
    exact absurd hr' (hw q u hne hu row hr)
  · exact hs.disjoint q q' u u' row hu hu' hr hr'

/-- **Soundness survives a row more in the log**, whoever else changed nothing. -/
theorem Sound.sent_append {s : EventOutbox P} (hs : s.Sound) {row : EventOutboxEntity P}
    (hrow : row ∈ s.rows) : ({ s with sent := s.sent ++ [row] } : EventOutbox P).Sound where
  sent_rows := by
    intro r hr
    obtain hr | hr := List.mem_append.mp hr
    · exact hs.sent_rows r hr
    · rwa [List.mem_singleton.mp hr]
  pending_rows := hs.pending_rows
  locked_rows := hs.locked_rows
  published_sent := fun r hr => List.mem_append_left _ (hs.published_sent r hr)
  locked_unpublished := hs.locked_unpublished
  sweeps := fun q w hq => (hs.sweeps q w hq).mono (fun r => List.mem_append_left _)
    (hs.sweeps q w hq).batch_locked
  disjoint := hs.disjoint

/-- …and **a sweep that moves on** with the batch it has. -/
theorem Sound.setPublisher {s : EventOutbox P} (hs : s.Sound) {p : ℕ} {v : Sweep P}
    (hp : s.publishers p = some v) {w : Sweep P} (hw : s.SweepSound w)
    (hbatch : w.batch = v.batch) :
    (s.setPublisher p (some w)).Sound where
  sent_rows := hs.sent_rows
  pending_rows := hs.pending_rows
  locked_rows := hs.locked_rows
  published_sent := hs.published_sent
  locked_unpublished := hs.locked_unpublished
  sweeps := by
    intro q u hq
    obtain ⟨rfl, hu⟩ | ⟨-, hu⟩ := update_eq_some_iff.mp hq
    · cases hu
      exact ⟨hw.rest_batch, hw.marked_batch, hw.marked_sent, hw.batch_locked⟩
    · exact ⟨(hs.sweeps q u hu).rest_batch, (hs.sweeps q u hu).marked_batch,
        (hs.sweeps q u hu).marked_sent, (hs.sweeps q u hu).batch_locked⟩
  disjoint := hs.disjoint_setPublisher fun q u hne hu row hrow hmem =>
    hne (hs.disjoint q p u v row hu hp hrow (hbatch ▸ hmem))

/-- …and **a sweep that begins** with unpublished rows nobody has locked. -/
theorem Sound.lock {s : EventOutbox P} (hs : s.Sound) {p : ℕ} {batch : List (EventOutboxEntity P)}
    (hbatch : ∀ row ∈ batch, row ∈ s.rows ∧ row ∉ s.published ∧ row ∉ s.locked) :
    (s.lock p batch).Sound where
  sent_rows := hs.sent_rows
  pending_rows := hs.pending_rows
  locked_rows := by
    intro r hr
    obtain hr | hr := List.mem_append.mp hr
    · exact hs.locked_rows r hr
    · exact (hbatch r hr).1
  published_sent := hs.published_sent
  locked_unpublished := by
    intro r hr
    obtain hr | hr := List.mem_append.mp hr
    · exact hs.locked_unpublished r hr
    · exact (hbatch r hr).2.1
  sweeps := by
    intro q u hq
    obtain ⟨-, hu⟩ | ⟨-, hu⟩ := update_eq_some_iff.mp hq
    · cases hu
      exact ⟨fun _ => id, by simp, by simp, fun r => List.mem_append_right _⟩
    · exact (hs.sweeps q u hu).mono (fun _ => id)
        fun r hr => List.mem_append_left _ ((hs.sweeps q u hu).batch_locked r hr)
  disjoint := hs.disjoint_setPublisher fun q u _ hu row hrow hmem =>
    (hbatch row hmem).2.2 ((hs.sweeps q u hu).batch_locked row hrow)

/-- The next row of a sweep is a row under its lock. -/
theorem Sound.next {s : EventOutbox P} (hs : s.Sound) {p : ℕ} {w : Sweep P}
    (hp : s.publishers p = some w) {row : EventOutboxEntity P}
    {rest : List (EventOutboxEntity P)} (hrest : w.rest = row :: rest) :
    row ∈ w.batch ∧ row ∈ s.locked ∧ row ∈ s.rows := by
  have hbatch := (hs.sweeps p w hp).rest_batch row (by rw [hrest]; exact List.mem_cons_self)
  have hlocked := (hs.sweeps p w hp).batch_locked row hbatch
  exact ⟨hbatch, hlocked, hs.locked_rows row hlocked⟩

/-! ## The step -/

section Step

variable [DecidableEq P]

/-- **What `findUnpublishedForUpdate` may lock**: `published_at is null`, `SKIP LOCKED`. -/
def unpublishedUnlocked (s : EventOutbox P) : List (EventOutboxEntity P) :=
  s.rows.filter fun row => row ∉ s.published ∧ row ∉ s.locked

/-- **What the query may answer** — those rows, `order by occurred_at asc`; rows of one instant
come in any order. -/
def FindsUnpublished (s : EventOutbox P) (ordered : List (EventOutboxEntity P)) : Prop :=
  ordered.Perm s.unpublishedUnlocked ∧ ordered.Pairwise fun x y => x.occurredAt ≤ y.occurredAt

instance (s : EventOutbox P) (ordered : List (EventOutboxEntity P)) :
    Decidable (s.FindsUnpublished ordered) := inferInstanceAs (Decidable (_ ∧ _))

/-- The transaction of publisher `p` ends and its locks with it. -/
def release (s : EventOutbox P) (p : ℕ) (w : Sweep P) : EventOutbox P :=
  { s.setPublisher p none with locked := s.locked.filter fun row => row ∉ w.batch }

/-- **One step.** -/
def step (s : EventOutbox P) : Action P → Option (EventOutbox P)
  | .insert row =>
    if row.id ∈ s.rows.map (·.id) then none else some { s with rows := s.rows ++ [row] }
  | .sweep p ordered =>
    if s.publishers p = none ∧ s.FindsUnpublished ordered then
      some (s.lock p (ordered.take BATCH_SIZE))
    else none
  | .send p outcome =>
    match s.publishers p with
    | some ⟨batch, row :: rest, marked, failed⟩ =>
      some (s.attempt p ⟨batch, row :: rest, marked, failed⟩ row rest outcome)
    | _ => none
  | .lateAck row =>
    if row ∈ s.pending then
      some { s with pending := s.pending.erase row, sent := s.sent ++ [row] }
    else none
  | .commit p =>
    match s.publishers p with
    | some ⟨batch, [], marked, failed⟩ =>
      some { s.release p ⟨batch, [], marked, failed⟩ with published := s.published ++ marked }
    | _ => none
  | .rollback p =>
    match s.publishers p with
    | some w => some (s.release p w)
    | none => none

/-- **What a step does**, by its action, with what it needs. -/
inductive Does (s : EventOutbox P) : Action P → EventOutbox P → Prop
  | insert {row : EventOutboxEntity P} (hid : row.id ∉ s.rows.map (·.id)) :
      Does s (.insert row) { s with rows := s.rows ++ [row] }
  | sweep {p : ℕ} {ordered : List (EventOutboxEntity P)} (hp : s.publishers p = none)
      (hfinds : s.FindsUnpublished ordered) :
      Does s (.sweep p ordered) (s.lock p (ordered.take BATCH_SIZE))
  | send {p : ℕ} {w : Sweep P} {row : EventOutboxEntity P} {rest : List (EventOutboxEntity P)}
      {outcome : SendOutcome} (hp : s.publishers p = some w) (hrest : w.rest = row :: rest) :
      Does s (.send p outcome) (s.attempt p w row rest outcome)
  | lateAck {row : EventOutboxEntity P} (hrow : row ∈ s.pending) :
      Does s (.lateAck row) { s with pending := s.pending.erase row, sent := s.sent ++ [row] }
  | commit {p : ℕ} {w : Sweep P} (hp : s.publishers p = some w) (hrest : w.rest = []) :
      Does s (.commit p) { s.release p w with published := s.published ++ w.marked }
  | rollback {p : ℕ} {w : Sweep P} (hp : s.publishers p = some w) :
      Does s (.rollback p) (s.release p w)

/-- **The step, taken apart.** -/
theorem does_of_step {s t : EventOutbox P} {a : Action P} (h : s.step a = some t) :
    s.Does a t := by
  cases a with
  | insert row =>
    simp only [step, ite_eq_iff, reduceCtorEq, and_false, false_or, Option.some.injEq] at h
    obtain ⟨hid, rfl⟩ := h
    exact .insert hid
  | sweep p ordered =>
    simp only [step, ite_eq_iff, reduceCtorEq, and_false, or_false, Option.some.injEq] at h
    obtain ⟨⟨hp, hfinds⟩, rfl⟩ := h
    exact .sweep hp hfinds
  | send p outcome =>
    simp only [step] at h
    split at h
    · next hp =>
      cases h
      exact .send hp rfl
    · cases h
  | lateAck row =>
    simp only [step, ite_eq_iff, reduceCtorEq, and_false, or_false, Option.some.injEq] at h
    obtain ⟨hrow, rfl⟩ := h
    exact .lateAck hrow
  | commit p =>
    simp only [step] at h
    split at h
    · next hp =>
      cases h
      exact .commit hp rfl
    · cases h
  | rollback p =>
    simp only [step] at h
    split at h
    · next hp =>
      cases h
      exact .rollback hp
    · cases h

/-- Rows come from writers alone. -/
theorem Does.rows_eq {s t : EventOutbox P} {a : Action P} (h : s.Does a t)
    (ha : ∀ row, a ≠ .insert row) : t.rows = s.rows := by
  cases h with
  | insert hid => exact absurd rfl (ha _)
  | @send p w row rest outcome hp hrest => cases outcome <;> rfl
  | _ => rfl

/-- **The log only grows.** -/
theorem Does.sent_eq_append {s t : EventOutbox P} {a : Action P} (h : s.Does a t) :
    ∃ l, t.sent = s.sent ++ l := by
  cases h with
  | @send p w row rest outcome hp hrest =>
    cases outcome with
    | acked => exact ⟨[row], rfl⟩
    | _ => exact ⟨[], (List.append_nil _).symm⟩
  | @lateAck row hrow => exact ⟨[row], rfl⟩
  | _ => exact ⟨[], (List.append_nil _).symm⟩

/-! ## Every step is sound -/

/-- A row the query may lock. -/
theorem mem_unpublishedUnlocked {s : EventOutbox P} {row : EventOutboxEntity P} :
    row ∈ s.unpublishedUnlocked ↔ row ∈ s.rows ∧ row ∉ s.published ∧ row ∉ s.locked := by
  simp [unpublishedUnlocked]

theorem FindsUnpublished.mem_iff {s : EventOutbox P} {ordered : List (EventOutboxEntity P)}
    (h : s.FindsUnpublished ordered) {row : EventOutboxEntity P} :
    row ∈ ordered ↔ row ∈ s.rows ∧ row ∉ s.published ∧ row ∉ s.locked :=
  h.1.mem_iff.trans mem_unpublishedUnlocked

/-- A batch holds rows the query may lock. -/
theorem FindsUnpublished.of_mem_batch {s : EventOutbox P} {ordered : List (EventOutboxEntity P)}
    (h : s.FindsUnpublished ordered) {row : EventOutboxEntity P}
    (hrow : row ∈ ordered.take BATCH_SIZE) :
    row ∈ s.rows ∧ row ∉ s.published ∧ row ∉ s.locked :=
  h.mem_iff.mp (List.mem_of_mem_take hrow)

/-- **A batch cuts off the latest rows only**: with a row it holds every unpublished unlocked row
that is strictly older. -/
theorem FindsUnpublished.older_mem_batch {s : EventOutbox P}
    {ordered : List (EventOutboxEntity P)} (h : s.FindsUnpublished ordered)
    {row older : EventOutboxEntity P} (hrow : row ∈ ordered.take BATCH_SIZE)
    (holder : older ∈ s.rows ∧ older ∉ s.published ∧ older ∉ s.locked)
    (hlt : older.occurredAt < row.occurredAt) : older ∈ ordered.take BATCH_SIZE := by
  have hmem := h.mem_iff.mpr holder
  have hsorted := h.2
  rw [← List.take_append_drop BATCH_SIZE ordered] at hmem hsorted
  obtain hin | hout := List.mem_append.mp hmem
  · exact hin
  · exact absurd hlt (Int.not_lt.mpr ((List.pairwise_append.mp hsorted).2.2 row hrow older hout))

/-- A batch is ordered by age. -/
theorem FindsUnpublished.batch_sorted {s : EventOutbox P} {ordered : List (EventOutboxEntity P)}
    (h : s.FindsUnpublished ordered) :
    (ordered.take BATCH_SIZE).Pairwise fun x y => x.occurredAt ≤ y.occurredAt :=
  h.2.sublist (List.take_sublist _ _)

/-- **Soundness survives a sweep that ends**, whose marked rows are published or not. -/
theorem Sound.release {s : EventOutbox P} (hs : s.Sound) {p : ℕ} {w : Sweep P}
    (hp : s.publishers p = some w) {published : List (EventOutboxEntity P)}
    (hpublished : ∀ row ∈ published, row ∈ s.published ∨ row ∈ w.marked) :
    ({ s.release p w with published := published } : EventOutbox P).Sound where
  sent_rows := hs.sent_rows
  pending_rows := hs.pending_rows
  locked_rows := fun r hr => hs.locked_rows r (List.mem_of_mem_filter hr)
  published_sent := by
    intro r hr
    obtain hr | hr := hpublished r hr
    · exact hs.published_sent r hr
    · exact (hs.sweeps p w hp).marked_sent r hr
  locked_unpublished := by
    intro r hr hr'
    obtain ⟨hlocked, hbatch⟩ := List.mem_filter.mp hr
    obtain hr' | hr' := hpublished r hr'
    · exact hs.locked_unpublished r hlocked hr'
    · exact of_decide_eq_true hbatch ((hs.sweeps p w hp).marked_batch r hr')
  sweeps := by
    intro q u hq
    obtain ⟨-, hu⟩ | ⟨hqp, hu⟩ := update_eq_some_iff.mp hq
    · cases hu
    · refine (hs.sweeps q u hu).mono (fun _ => id) fun r hr => ?_
      refine List.mem_filter.mpr
        ⟨(hs.sweeps q u hu).batch_locked r hr, decide_eq_true fun hr' => ?_⟩
      exact hqp (hs.disjoint q p u w r hu hp hr hr')
  disjoint := by
    intro q q' u u' r hq hq' hr hr'
    obtain ⟨-, hu⟩ | ⟨-, hu⟩ := update_eq_some_iff.mp hq
    · cases hu
    · obtain ⟨-, hu'⟩ | ⟨-, hu'⟩ := update_eq_some_iff.mp hq'
      · cases hu'
      · exact hs.disjoint q q' u u' r hu hu' hr hr'

/-- **Every step keeps soundness.** -/
theorem Sound.step {s t : EventOutbox P} {a : Action P} (hs : s.Sound) (h : s.step a = some t) :
    t.Sound := by
  cases does_of_step h with
  | insert hid =>
    exact { hs with
      sent_rows := fun r hr => List.mem_append_left _ (hs.sent_rows r hr)
      pending_rows := fun r hr => List.mem_append_left _ (hs.pending_rows r hr)
      locked_rows := fun r hr => List.mem_append_left _ (hs.locked_rows r hr)
      sweeps := fun q w hq => (hs.sweeps q w hq).mono (fun _ => id)
        (hs.sweeps q w hq).batch_locked }
  | sweep _ hfinds => exact hs.lock fun r => hfinds.of_mem_batch
  | @send p w row rest outcome hp hrest =>
    obtain ⟨hbatch, -, hrow⟩ := hs.next hp hrest
    have hw := hs.sweeps p w hp
    have hsub : ∀ r ∈ rest, r ∈ w.batch := fun r hr =>
      hw.rest_batch r (by rw [hrest]; exact List.mem_cons_of_mem row hr)
    have hleft : s.SweepSound ⟨w.batch, rest, w.marked, row :: w.failed⟩ :=
      ⟨hsub, hw.marked_batch, hw.marked_sent, hw.batch_locked⟩
    cases outcome with
    | acked =>
      refine (hs.sent_append hrow).setPublisher hp ⟨hsub, ?_, ?_, hw.batch_locked⟩ rfl
      · exact List.forall_mem_cons.mpr ⟨hbatch, hw.marked_batch⟩
      · exact List.forall_mem_cons.mpr ⟨List.mem_append_right _ (List.mem_singleton_self row),
          fun r hr => List.mem_append_left _ (hw.marked_sent r hr)⟩
    | failed => exact hs.setPublisher hp hleft rfl
    | timedOut =>
      have h' := hs.setPublisher hp hleft rfl
      exact { h' with
        pending_rows := List.forall_mem_cons.mpr ⟨hrow, hs.pending_rows⟩
        sweeps := fun q u hq => (h'.sweeps q u hq).mono (fun _ => id)
          (h'.sweeps q u hq).batch_locked }
  | lateAck hrow =>
    have h' := hs.sent_append (hs.pending_rows _ hrow)
    exact { h' with
      pending_rows := fun r hr => hs.pending_rows r (List.mem_of_mem_erase hr)
      sweeps := fun q w hq => (h'.sweeps q w hq).mono (fun _ => id)
        (h'.sweeps q w hq).batch_locked }
  | commit hp hrest => exact hs.release hp fun r => List.mem_append.mp
  | rollback hp => exact hs.release hp fun r => .inl

end Step

end EventOutbox

end Outbox
