import TaxLiability.Machinery.Causal
import TaxLiability.Outbox.OutboxPublisher

/-!
# Outbox/Order — in which order the rows of one aggregate are sent

The publisher promises per-aggregate order, and one partition per aggregate carries it from the log
on.  Up to the log nothing enforces it: the loop goes on after a row it could not send, a second
publisher skips the rows the first has locked, and `occurred_at` is taken before the commit.  Away
from these three (`InOrder`) the log is causal (`sentInOrder_of_inOrder`).
-/

open Machine

namespace Outbox

namespace EventOutbox

variable {P : Type}

/-- **Per-aggregate order**: wherever a row stands in the log, every earlier row of its aggregate
has been sent by then. -/
def SentInOrder (s : EventOutbox P) : Prop :=
  Causal (fun x y => x ∈ s.rows ∧ Earlier x y) s.sent

/-! ## What an orderly run keeps -/

/-- **The rows that hold back the rest of sweep `w`**: the earlier ones that are neither sent nor
failed in it. -/
def HoldsBack (s : EventOutbox P) (w : Sweep P) (x y : EventOutboxEntity P) : Prop :=
  x ∈ s.rows ∧ Earlier x y ∧ x ∉ s.sent ∧ x ∉ w.failed

/-- **The order, as an invariant**: the log is causal, a sweep meets what holds a row back before
the row, and a send nobody waits for was in its turn. -/
structure Orderly (s : EventOutbox P) : Prop where
  sent : s.SentInOrder
  sweeps : ∀ p w, s.publishers p = some w → Causal (s.HoldsBack w) w.rest
  pending : ∀ y ∈ s.pending, ∀ x ∈ s.rows, Earlier x y → x ∈ s.sent

theorem orderly_start : (start : EventOutbox P).Orderly where
  sent := causal_nil
  sweeps := by simp [start]
  pending := by simp [start]

/-- What holds back the rest of a sweep when the log has grown held it back before. -/
theorem Orderly.sent_append {s : EventOutbox P} (ho : s.Orderly) {row : EventOutboxEntity P}
    (hrow : ∀ x ∈ s.rows, Earlier x row → x ∈ s.sent) :
    ({ s with sent := s.sent ++ [row] } : EventOutbox P).Orderly where
  sent := causal_concat.mpr ⟨ho.sent, fun x hx => hrow x hx.1 hx.2⟩
  sweeps := fun p w hp => (ho.sweeps p w hp).mono fun _ _ _ hx =>
    ⟨hx.1, hx.2.1, fun h => hx.2.2.1 (List.mem_append_left _ h), hx.2.2.2⟩
  pending := fun y hy x hx hxy => List.mem_append_left _ (ho.pending y hy x hx hxy)

/-- A sweep moves on in order when what holds back its new rest comes before it there. -/
theorem Orderly.setPublisher {s : EventOutbox P} (ho : s.Orderly) {p : ℕ} {w : Option (Sweep P)}
    (hw : ∀ v, w = some v → Causal (s.HoldsBack v) v.rest) : (s.setPublisher p w).Orderly where
  sent := ho.sent
  sweeps := by
    intro q u hq
    obtain ⟨rfl, hu⟩ | ⟨-, hu⟩ := update_eq_some_iff.mp hq
    · exact hw u hu
    · exact ho.sweeps q u hu
  pending := ho.pending

/-- **The next row of a sweep is in its turn** when the earlier rows that failed are sent. -/
theorem Orderly.next {s : EventOutbox P} (ho : s.Orderly) {p : ℕ} {w : Sweep P}
    (hp : s.publishers p = some w) {row : EventOutboxEntity P}
    {rest : List (EventOutboxEntity P)} (hrest : w.rest = row :: rest)
    (hfailed : ∀ x ∈ w.failed, Earlier x row → x ∈ s.sent) :
    ∀ x ∈ s.rows, Earlier x row → x ∈ s.sent := by
  have hcausal := ho.sweeps p w hp
  rw [hrest] at hcausal
  intro x hx hxy
  by_contra hsent
  exact (causal_cons.mp hcausal).1 x ⟨hx, hxy, hsent, fun h => hsent (hfailed x h hxy)⟩

/-- What is left of a sweep after a row that failed waits for nothing new. -/
theorem Orderly.rest_of_failed {s : EventOutbox P} (ho : s.Orderly) {p : ℕ} {w : Sweep P}
    (hp : s.publishers p = some w) {row : EventOutboxEntity P}
    {rest : List (EventOutboxEntity P)} (hrest : w.rest = row :: rest) :
    Causal (s.HoldsBack ⟨w.batch, rest, w.marked, row :: w.failed⟩) rest := by
  have hcausal := ho.sweeps p w hp
  rw [hrest] at hcausal
  refine (causal_cons.mp hcausal).2.mono fun y _ x hx => ?_
  have hne : x ≠ row ∧ x ∉ w.failed := by simpa only [List.mem_cons, not_or] using hx.2.2.2
  exact ⟨⟨hx.1, hx.2.1, hx.2.2.1, hne.2⟩, hne.1⟩

/-- …nor after one that was sent. -/
theorem Orderly.rest_of_acked {s : EventOutbox P} (ho : s.Orderly) {p : ℕ} {w : Sweep P}
    (hp : s.publishers p = some w) {row : EventOutboxEntity P}
    {rest : List (EventOutboxEntity P)} (hrest : w.rest = row :: rest) :
    Causal (({ s with sent := s.sent ++ [row] } : EventOutbox P).HoldsBack
      ⟨w.batch, rest, row :: w.marked, w.failed⟩) rest := by
  have hcausal := ho.sweeps p w hp
  rw [hrest] at hcausal
  refine (causal_cons.mp hcausal).2.mono fun y _ x hx => ?_
  obtain ⟨hmem, hxy, hsent, hfailed⟩ := hx
  have hne : x ∉ s.sent ∧ x ≠ row := by
    simpa only [List.mem_append, List.mem_singleton, not_or] using hsent
  exact ⟨⟨hmem, hxy, hne.1, hfailed⟩, hne.2⟩

/-! ## The steps that keep it -/

variable [DecidableEq P]

/-- **The steps that keep the order**, on the state before the step:

* a row is committed before any later row of its aggregate is taken up by a sweep;
* a sweep takes no row past an earlier unsent one of its aggregate that another sweep has locked;
* no row is handed to Kafka after an earlier one of its aggregate failed in the same sweep and is
  still unsent. -/
def InOrder (s : EventOutbox P) : Action P → Prop
  | .insert row => ∀ y ∈ s.sent ++ s.locked ++ s.pending, ¬ Earlier row y
  | .sweep _ ordered =>
    ∀ y ∈ ordered.take BATCH_SIZE, ∀ x ∈ s.locked, Earlier x y → x ∈ s.sent
  | .send p outcome => outcome ≠ .failed → ∀ w ∈ s.publishers p, ∀ y ∈ w.rest.head?,
      ∀ x ∈ w.failed, Earlier x y → x ∈ s.sent
  | .lateAck _ | .commit _ | .rollback _ => True

instance (s : EventOutbox P) : ∀ a, Decidable (s.InOrder a)
  | .insert _ => inferInstanceAs (Decidable (∀ y ∈ s.sent ++ s.locked ++ s.pending, _))
  | .sweep _ ordered => inferInstanceAs (Decidable (∀ y ∈ ordered.take BATCH_SIZE, _))
  | .send p outcome => inferInstanceAs (Decidable (outcome ≠ .failed → ∀ w ∈ s.publishers p, _))
  | .lateAck _ | .commit _ | .rollback _ => inferInstanceAs (Decidable True)

/-- **A batch is in order** if no earlier unsent row is locked elsewhere: it is sorted, and it cuts
off only rows that are no older than its own. -/
theorem Sound.batch_causal {s : EventOutbox P} (hs : s.Sound)
    {ordered : List (EventOutboxEntity P)} (hfinds : s.FindsUnpublished ordered)
    (hlocked : ∀ y ∈ ordered.take BATCH_SIZE, ∀ x ∈ s.locked, Earlier x y → x ∈ s.sent) :
    Causal (s.HoldsBack ⟨ordered.take BATCH_SIZE, ordered.take BATCH_SIZE, [], []⟩)
      (ordered.take BATCH_SIZE) := by
  refine Causal.of_pairwise ?_ (fun x hx => Earlier.irrefl x hx.2.1) fun y hy x hx => ?_
  · exact hfinds.batch_sorted.imp fun {x y} hle (hx : s.HoldsBack _ y x) =>
      Int.not_lt.mpr hle hx.2.1.2
  · obtain ⟨hrow, hxy, hsent, -⟩ := hx
    have hunpublished : x ∉ s.published := fun h => hsent (hs.published_sent x h)
    have hunlocked : x ∉ s.locked := fun h => hsent (hlocked y hy x h hxy)
    exact hfinds.older_mem_batch hy ⟨hrow, hunpublished, hunlocked⟩ hxy.2

/-- **A step in order keeps the order.** -/
theorem Orderly.step {s t : EventOutbox P} {a : Action P} (hs : s.Sound) (ho : s.Orderly)
    (ha : s.InOrder a) (h : s.step a = some t) : t.Orderly := by
  cases does_of_step h with
  | @insert row hid =>
    -- the new row is earlier than no row that a log, a batch or a late send holds
    have hnew : ∀ y ∈ s.sent ++ s.locked ++ s.pending, ∀ x ∈ s.rows ++ [row], Earlier x y →
        x ∈ s.rows := by
      intro y hy x hx hxy
      obtain hx | hx := List.mem_append.mp hx
      · exact hx
      · exact absurd (List.mem_singleton.mp hx ▸ hxy) (ha y hy)
    refine ⟨ho.sent.mono ?_, fun p w hp => (ho.sweeps p w hp).mono ?_, fun y hy x hx hxy => ?_⟩
    · exact fun y hy x hx => ⟨hnew y (by simp [hy]) x hx.1 hx.2, hx.2⟩
    · intro y hy x hx
      have hlocked := (hs.sweeps p w hp).batch_locked y ((hs.sweeps p w hp).rest_batch y hy)
      exact ⟨hnew y (by simp [hlocked]) x hx.1 hx.2.1, hx.2⟩
    · exact ho.pending y hy x (hnew y (by simp [hy]) x hx hxy) hxy
  | @sweep p ordered hp hfinds =>
    have h' := ho.setPublisher (p := p) (w := some ⟨ordered.take BATCH_SIZE,
      ordered.take BATCH_SIZE, [], []⟩) fun v hv => Option.some.inj hv ▸ hs.batch_causal hfinds ha
    exact ⟨h'.sent, h'.sweeps, h'.pending⟩
  | @send p w row rest outcome hp hrest =>
    have hturn : outcome ≠ .failed → ∀ x ∈ s.rows, Earlier x row → x ∈ s.sent := fun hne =>
      ho.next hp hrest (ha hne w hp row (by rw [hrest]; rfl))
    cases outcome with
    | acked =>
      exact (ho.sent_append (hturn nofun)).setPublisher fun v hv =>
        Option.some.inj hv ▸ ho.rest_of_acked hp hrest
    | failed =>
      exact ho.setPublisher fun v hv => Option.some.inj hv ▸ ho.rest_of_failed hp hrest
    | timedOut =>
      have h' := ho.setPublisher (p := p) fun v hv =>
        Option.some.inj hv ▸ ho.rest_of_failed hp hrest
      exact ⟨h'.sent, h'.sweeps, List.forall_mem_cons.mpr ⟨hturn nofun, ho.pending⟩⟩
  | lateAck hrow =>
    have h' := ho.sent_append (ho.pending _ hrow)
    exact ⟨h'.sent, h'.sweeps, fun y hy => h'.pending y (List.mem_of_mem_erase hy)⟩
  | @commit p w hp hrest =>
    have h' := ho.setPublisher (p := p) (w := none) nofun
    exact ⟨h'.sent, h'.sweeps, h'.pending⟩
  | @rollback p w hp =>
    have h' := ho.setPublisher (p := p) (w := none) nofun
    exact ⟨h'.sent, h'.sweeps, h'.pending⟩

/-- **The rows of an aggregate are sent in the order they occurred**, in every run whose steps are
all in order. -/
theorem sentInOrder_of_inOrder {actions : List (Action P)} {t : EventOutbox P}
    (hin : Throughout step InOrder start actions) (h : exec step start actions = some t) :
    t.SentInOrder := by
  have hkeeps : ∀ {s s' : EventOutbox P} {a : Action P}, s.InOrder a → s.Sound ∧ s.Orderly →
      s.step a = some s' → s'.Sound ∧ s'.Orderly := fun ha hs hstep =>
    ⟨hs.1.step hstep, hs.2.step hs.1 ha hstep⟩
  have ht := exec_invariant_of_throughout (I := fun s : EventOutbox P => s.Sound ∧ s.Orderly)
    hkeeps hin ⟨sound_start, orderly_start⟩ h
  exact ht.2.sent

/-- Two updates of one taxpayer and one of another. -/
def docsRows : List (EventOutboxEntity String) :=
  [⟨"e-1", "tp-1", "taxpayers.events", "SINGLE", 1⟩,
   ⟨"e-2", "tp-2", "taxpayers.events", "SINGLE", 2⟩,
   ⟨"e-3", "tp-1", "taxpayers.events", "HEAD_OF_HOUSEHOLD", 3⟩]

/-- Two publishers: the first sends one row, fails on another and times out on the third; what is
left the second sends after the late record. -/
def docsRun : List (Action String) :=
  docsRows.map .insert ++
  [.sweep 0 docsRows, .send 0 .acked, .send 0 .failed, .sweep 1 [], .commit 1, .send 0 .timedOut,
   .commit 0, .sweep 1 (docsRows.drop 1), .send 1 .acked] ++
  (docsRows.drop 2).map .lateAck ++ [.send 1 .acked, .commit 1]

theorem sentInOrder_docsRun : ∃ t, exec step start docsRun = some t
    ∧ t.sent = docsRows ++ docsRows.drop 2 ∧ t.SentInOrder := by
  have hrun : (exec step start docsRun).map (·.sent) = some (docsRows ++ docsRows.drop 2) := by
    decide
  obtain ⟨t, ht, hsent⟩ := Option.map_eq_some_iff.mp hrun
  exact ⟨t, ht, hsent, sentInOrder_of_inOrder (by decide) ht⟩

/-- The send of the taxpayer's first update fails, and the sweep sends the second. -/
def skippingRun : List (Action String) :=
  docsRows.map .insert ++ [.sweep 0 docsRows, .send 0 .failed, .send 0 .acked, .send 0 .acked]

/-- **A later row is sent first.** -/
theorem later_sent_first : ¬ ∀ (actions : List (Action String)) (t : EventOutbox String),
    exec step start actions = some t → t.SentInOrder := by
  intro hall
  have hrun : (exec step start skippingRun).map (fun t => (t.rows, t.sent))
      = some (docsRows, docsRows.drop 1) := by decide
  obtain ⟨t, ht, hlog⟩ := Option.map_eq_some_iff.mp hrun
  obtain ⟨hrows, hsent⟩ := Prod.mk.inj hlog
  have hcausal := hall skippingRun t ht (docsRows.take 2 |>.drop 1) (docsRows.getLast nofun) []
    hsent (docsRows.head nofun) ⟨by rw [hrows]; decide, by decide⟩
  exact absurd hcausal (by decide)

end EventOutbox

end Outbox
