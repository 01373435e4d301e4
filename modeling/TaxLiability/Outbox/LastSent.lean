import TaxLiability.Outbox.OutboxPublisher

/-!
# Outbox/LastSent — what the log ends with

A consumer that overwrites keeps what the log says last.  Sending each row once in order is not
enough for it: rows are sent again after a rollback, and late.  Under a sharper discipline
(`InSequence`) the last record of an aggregate is followed by no published row, so once all rows are
published the log and the table end with the same row of each aggregate
(`Sequenced.latest_sent_eq`).
-/

open Machine

namespace Outbox

variable {P : Type}

/-! ## The last row of an aggregate -/

/-- **The last row of aggregate `a`** in a table or a log. -/
def latest (a : String) (l : List (EventOutboxEntity P)) : Option (EventOutboxEntity P) :=
  (l.filter fun row => row.aggregateId = a).getLast?

@[simp] theorem latest_nil (a : String) : latest a ([] : List (EventOutboxEntity P)) = none := rfl

theorem latest_append (a : String) (l₁ l₂ : List (EventOutboxEntity P)) :
    latest a (l₁ ++ l₂) = (latest a l₂).or (latest a l₁) := by
  rw [latest, List.filter_append, List.getLast?_append]
  rfl

/-- What a list ends with is the last row of its aggregate… -/
theorem latest_concat_self (l : List (EventOutboxEntity P)) (row : EventOutboxEntity P) :
    latest row.aggregateId (l ++ [row]) = some row := by
  rw [latest_append]
  simp [latest]

/-- …and of no other. -/
theorem latest_concat_ne {a : String} (l : List (EventOutboxEntity P)) {row : EventOutboxEntity P}
    (h : row.aggregateId ≠ a) : latest a (l ++ [row]) = latest a l := by
  rw [latest_append]
  simp [latest, h]

theorem mem_of_latest {a : String} {l : List (EventOutboxEntity P)} {row : EventOutboxEntity P}
    (h : latest a l = some row) : row ∈ l ∧ row.aggregateId = a := by
  simpa using List.mem_filter.mp (List.mem_of_getLast? h)

/-- What a list ends with is no later than the last row of any aggregate. -/
theorem not_earlier_of_latest_concat {a : String} {l : List (EventOutboxEntity P)}
    {row r : EventOutboxEntity P} (h : latest a (l ++ [row]) = some r) : ¬ Earlier r row := by
  intro hearlier
  by_cases ha : row.aggregateId = a
  · subst ha
    rw [latest_concat_self] at h
    exact Earlier.irrefl row (Option.some.inj h ▸ hearlier)
  · rw [latest_concat_ne l ha] at h
    exact ha (hearlier.1.symm.trans (mem_of_latest h).2)

/-- An aggregate with a row has a last one. -/
theorem exists_latest {a : String} {l : List (EventOutboxEntity P)} {row : EventOutboxEntity P}
    (hrow : row ∈ l) (ha : row.aggregateId = a) : ∃ last, latest a l = some last := by
  refine Option.ne_none_iff_exists'.mp fun hnone => ?_
  have hnil := List.getLast?_eq_none_iff.mp hnone
  exact List.not_mem_nil (hnil ▸ List.mem_filter.mpr ⟨hrow, decide_eq_true ha⟩)

/-- In a table whose rows of one aggregate come in the order they occurred, the last one is later
than every other. -/
theorem eq_or_earlier_of_latest {a : String} {l : List (EventOutboxEntity P)}
    (hl : l.Pairwise fun x y => x.aggregateId = y.aggregateId → x.occurredAt < y.occurredAt)
    {row last : EventOutboxEntity P} (hlast : latest a l = some last) (hrow : row ∈ l)
    (ha : row.aggregateId = a) : row = last ∨ Earlier row last := by
  have hmem := (mem_of_latest hlast).2
  obtain ⟨init, hinit⟩ := List.getLast?_eq_some_iff.mp hlast
  have hl' := hl.filter fun row => row.aggregateId = a
  rw [hinit] at hl'
  have hrow' : row ∈ init ++ [last] := hinit ▸ List.mem_filter.mpr ⟨hrow, decide_eq_true ha⟩
  obtain h | h := List.mem_append.mp hrow'
  · have hsame : row.aggregateId = last.aggregateId := ha.trans hmem.symm
    exact .inr ⟨hsame,
      (List.pairwise_append.mp hl').2.2 row h last (List.mem_singleton_self _) hsame⟩
  · exact .inl (List.mem_singleton.mp h)

namespace EventOutbox

/-! ## The discipline -/

/-- **The steps that keep the end of the log**, on the state before the step:

* rows of one aggregate are committed in the order they occurred;
* a sweep takes no row past an earlier one of its aggregate that another sweep has locked;
* no row is acknowledged in a sweep in which an earlier one of its aggregate failed;
* a send nobody waits for reaches the log before any later row of its aggregate does. -/
def InSequence (s : EventOutbox P) : Action P → Prop
  | .insert row => ∀ y ∈ s.rows, y.aggregateId = row.aggregateId → y.occurredAt < row.occurredAt
  | .sweep _ ordered => ∀ y ∈ ordered.take BATCH_SIZE, ∀ x ∈ s.locked, ¬ Earlier x y
  | .send p outcome => outcome = .acked → ∀ w ∈ s.publishers p, ∀ y ∈ w.rest.head?,
      ∀ x ∈ w.failed, ¬ Earlier x y
  | .lateAck row => ∀ y ∈ s.sent, ¬ Earlier row y
  | .commit _ | .rollback _ => True

instance (s : EventOutbox P) : ∀ a, Decidable (s.InSequence a)
  | .insert _ => inferInstanceAs (Decidable (∀ y ∈ s.rows, _))
  | .sweep _ ordered => inferInstanceAs (Decidable (∀ y ∈ ordered.take BATCH_SIZE, _))
  | .send p outcome => inferInstanceAs (Decidable (outcome = .acked → ∀ w ∈ s.publishers p, _))
  | .lateAck _ => inferInstanceAs (Decidable (∀ y ∈ s.sent, _))
  | .commit _ | .rollback _ => inferInstanceAs (Decidable True)

/-! ## What the discipline keeps -/

/-- **A sweep in sequence**: what it has left is sorted and no earlier than what it has marked, it
loses no row, and nothing it has marked comes after a failure. -/
structure SweepSequenced (w : Sweep P) : Prop where
  rest_sorted : w.rest.Pairwise fun x y => x.occurredAt ≤ y.occurredAt
  marked_rest : ∀ y ∈ w.marked, ∀ x ∈ w.rest, ¬ Earlier x y
  marked_failed : ∀ y ∈ w.marked, ∀ x ∈ w.failed, ¬ Earlier x y
  covered : ∀ x ∈ w.batch, x ∈ w.rest ∨ x ∈ w.marked ∨ x ∈ w.failed

/-- Published, or marked by a sweep that may still publish it. -/
def Taken (s : EventOutbox P) (y : EventOutboxEntity P) : Prop :=
  y ∈ s.published ∨ ∃ p w, s.publishers p = some w ∧ y ∈ w.marked

/-- **The sequence, as an invariant**: with a row a batch holds, and the table has published, all
earlier ones of its aggregate, and nothing published is later than the log's last record. -/
structure Sequenced (s : EventOutbox P) : Prop where
  rows_sorted : s.rows.Pairwise fun x y =>
    x.aggregateId = y.aggregateId → x.occurredAt < y.occurredAt
  sweeps : ∀ p w, s.publishers p = some w → SweepSequenced w
  batch_closed : ∀ p w, s.publishers p = some w → ∀ y ∈ w.batch, ∀ x ∈ s.rows, Earlier x y →
    x ∉ s.published → x ∈ w.batch
  published_closed : ∀ y ∈ s.published, ∀ x ∈ s.rows, Earlier x y → x ∈ s.published
  last : ∀ a r, latest a s.sent = some r → ∀ y, Earlier r y → ¬ s.Taken y

theorem sequenced_start : (start : EventOutbox P).Sequenced where
  rows_sorted := List.Pairwise.nil
  sweeps := by simp [start]
  batch_closed := by simp [start]
  published_closed := by simp [start]
  last := by simp [start]

/-- What is published or marked has been sent. -/
theorem Sound.taken_sent {s : EventOutbox P} (hs : s.Sound) {y : EventOutboxEntity P}
    (hy : s.Taken y) : y ∈ s.sent := by
  obtain h | ⟨p, w, hp, hw⟩ := hy
  · exact hs.published_sent y h
  · exact (hs.sweeps p w hp).marked_sent y hw

/-- **Nothing later is taken than the row a sweep is about to send** — it is neither published, for
this row is not, nor marked, by this sweep or by another. -/
theorem Sequenced.next {s : EventOutbox P} (hs : s.Sound) (hq : s.Sequenced) {p : ℕ} {w : Sweep P}
    (hp : s.publishers p = some w) {row : EventOutboxEntity P}
    {rest : List (EventOutboxEntity P)} (hrest : w.rest = row :: rest) {y : EventOutboxEntity P}
    (hy : Earlier row y) : ¬ s.Taken y := by
  obtain ⟨hbatch, hlocked, hrow⟩ := hs.next hp hrest
  have hunpublished := hs.locked_unpublished row hlocked
  rintro (hpub | ⟨q, u, hu, hmarked⟩)
  · exact hunpublished (hq.published_closed y hpub row hrow hy)
  · have hin : row ∈ u.batch := hq.batch_closed q u hu y ((hs.sweeps q u hu).marked_batch y hmarked)
      row hrow hy hunpublished
    obtain rfl := hs.disjoint q p u w row hu hp hin hbatch
    obtain rfl := Option.some.inj (hu.symm.trans hp)
    exact (hq.sweeps q u hu).marked_rest y hmarked row (by rw [hrest]; exact List.mem_cons_self) hy

/-- The sequence survives a sweep that is put, with a batch closed downwards and marks that were
taken before. -/
theorem Sequenced.put {s : EventOutbox P} (hq : s.Sequenced) {p : ℕ} {w : Sweep P}
    (hw : SweepSequenced w)
    (hbatch : ∀ y ∈ w.batch, ∀ x ∈ s.rows, Earlier x y → x ∉ s.published → x ∈ w.batch)
    (hmarked : ∀ y ∈ w.marked, s.Taken y) : (s.setPublisher p (some w)).Sequenced where
  rows_sorted := hq.rows_sorted
  sweeps := by
    intro q u hu
    obtain ⟨-, hu⟩ | ⟨-, hu⟩ := update_eq_some_iff.mp hu
    · exact Option.some.inj hu ▸ hw
    · exact hq.sweeps q u hu
  batch_closed := by
    intro q u hu
    obtain ⟨-, hu⟩ | ⟨-, hu⟩ := update_eq_some_iff.mp hu
    · exact Option.some.inj hu ▸ hbatch
    · exact hq.batch_closed q u hu
  published_closed := hq.published_closed
  last := by
    rintro a r hr y hy (hpub | ⟨q, u, hu, hy'⟩)
    · exact hq.last a r hr y hy (.inl hpub)
    · obtain ⟨-, hu⟩ | ⟨-, hu⟩ := update_eq_some_iff.mp hu
      · obtain rfl := Option.some.inj hu
        exact hq.last a r hr y hy (hmarked y hy')
      · exact hq.last a r hr y hy (.inr ⟨q, u, hu, hy'⟩)

/-- …a sweep that moves on with the batch and the marks it has… -/
theorem Sequenced.setPublisher {s : EventOutbox P} (hq : s.Sequenced) {p : ℕ} {v w : Sweep P}
    (hp : s.publishers p = some v) (hw : SweepSequenced w) (hbatch : w.batch = v.batch)
    (hmarked : w.marked = v.marked) : (s.setPublisher p (some w)).Sequenced :=
  hq.put hw (hbatch ▸ hq.batch_closed p v hp) fun _ hy => .inr ⟨p, v, hp, hmarked ▸ hy⟩

/-- …a sweep that ends with what it publishes below what was marked and closed downwards… -/
theorem Sequenced.release [DecidableEq P] {s : EventOutbox P} (hq : s.Sequenced) {p : ℕ}
    {w : Sweep P} {published : List (EventOutboxEntity P)}
    (htaken : ∀ y ∈ published, s.Taken y) (hkept : ∀ y ∈ s.published, y ∈ published)
    (hclosed : ∀ y ∈ published, ∀ x ∈ s.rows, Earlier x y → x ∈ published) :
    ({ s.release p w with published := published } : EventOutbox P).Sequenced where
  rows_sorted := hq.rows_sorted
  sweeps := by
    intro q u hu
    obtain ⟨-, hu⟩ | ⟨-, hu⟩ := update_eq_some_iff.mp hu
    · cases hu
    · exact hq.sweeps q u hu
  batch_closed := by
    intro q u hu y hy x hx hxy hpub
    obtain ⟨-, hu⟩ | ⟨-, hu⟩ := update_eq_some_iff.mp hu
    · cases hu
    · exact hq.batch_closed q u hu y hy x hx hxy fun h => hpub (hkept x h)
  published_closed := hclosed
  last := by
    rintro a r hr y hy (hpub | ⟨q, u, hu, hy'⟩)
    · exact hq.last a r hr y hy (htaken y hpub)
    · obtain ⟨-, hu⟩ | ⟨-, hu⟩ := update_eq_some_iff.mp hu
      · cases hu
      · exact hq.last a r hr y hy (.inr ⟨q, u, hu, hy'⟩)

/-- …and a record that nothing taken is later than. -/
theorem Sequenced.sent_append {s : EventOutbox P} (hq : s.Sequenced) {row : EventOutboxEntity P}
    (hrow : ∀ y, Earlier row y → ¬ s.Taken y) :
    ({ s with sent := s.sent ++ [row] } : EventOutbox P).Sequenced where
  rows_sorted := hq.rows_sorted
  sweeps := hq.sweeps
  batch_closed := hq.batch_closed
  published_closed := hq.published_closed
  last := by
    intro a r hr y hy htaken
    by_cases ha : row.aggregateId = a
    · subst ha
      rw [latest_concat_self] at hr
      exact hrow y (Option.some.inj hr ▸ hy) htaken
    · rw [latest_concat_ne s.sent ha] at hr
      exact hq.last a r hr y hy htaken

/-- A sweep in sequence that goes past its next row: what is left is as before. -/
theorem SweepSequenced.past {w : Sweep P} (hw : SweepSequenced w) {row : EventOutboxEntity P}
    {rest : List (EventOutboxEntity P)} (hrest : w.rest = row :: rest) :
    rest.Pairwise (fun x y => x.occurredAt ≤ y.occurredAt)
      ∧ (∀ x ∈ rest, ¬ Earlier x row)
      ∧ (∀ y ∈ w.marked, ¬ Earlier row y)
      ∧ (∀ y ∈ w.marked, ∀ x ∈ rest, ¬ Earlier x y) := by
  have hsorted := hw.rest_sorted
  have hmarked := hw.marked_rest
  rw [hrest] at hsorted hmarked
  refine ⟨hsorted.of_cons, fun x hx h => ?_, fun y hy => hmarked y hy row List.mem_cons_self,
    fun y hy x hx => hmarked y hy x (List.mem_cons_of_mem row hx)⟩
  exact absurd h.2 (Int.not_lt.mpr (List.rel_of_pairwise_cons hsorted hx))

/-- **Marking the next row** keeps a sweep in sequence when nothing earlier has failed in it. -/
theorem SweepSequenced.acked {w : Sweep P} (hw : SweepSequenced w) {row : EventOutboxEntity P}
    {rest : List (EventOutboxEntity P)} (hrest : w.rest = row :: rest)
    (hfailed : ∀ x ∈ w.failed, ¬ Earlier x row) :
    SweepSequenced ⟨w.batch, rest, row :: w.marked, w.failed⟩ := by
  obtain ⟨hsorted, hrow, -, hmarked⟩ := hw.past hrest
  refine ⟨hsorted, List.forall_mem_cons.mpr ⟨hrow, hmarked⟩,
    List.forall_mem_cons.mpr ⟨hfailed, hw.marked_failed⟩, fun x hx => ?_⟩
  have hx' := hw.covered x hx
  rw [hrest, List.mem_cons] at hx'
  rw [List.mem_cons]
  tauto

/-- **Failing the next row** always does. -/
theorem SweepSequenced.failed {w : Sweep P} (hw : SweepSequenced w) {row : EventOutboxEntity P}
    {rest : List (EventOutboxEntity P)} (hrest : w.rest = row :: rest) :
    SweepSequenced ⟨w.batch, rest, w.marked, row :: w.failed⟩ := by
  obtain ⟨hsorted, -, hrow, hmarked⟩ := hw.past hrest
  refine ⟨hsorted, hmarked, fun y hy => List.forall_mem_cons.mpr ⟨hrow y hy, hw.marked_failed y hy⟩,
    fun x hx => ?_⟩
  have hx' := hw.covered x hx
  rw [hrest, List.mem_cons] at hx'
  rw [List.mem_cons]
  tauto

/-- **The sequence survives a row that is acknowledged** when nothing earlier has failed in its
sweep: it is marked and ends the log in one step. -/
theorem Sequenced.acked {s : EventOutbox P} (hs : s.Sound) (hq : s.Sequenced) {p : ℕ} {w : Sweep P}
    (hp : s.publishers p = some w) {row : EventOutboxEntity P}
    {rest : List (EventOutboxEntity P)} (hrest : w.rest = row :: rest)
    (hfailed : ∀ x ∈ w.failed, ¬ Earlier x row) :
    (s.attempt p w row rest .acked).Sequenced where
  rows_sorted := hq.rows_sorted
  sweeps := by
    intro q u hu
    obtain ⟨-, hu⟩ | ⟨-, hu⟩ := update_eq_some_iff.mp hu
    · exact Option.some.inj hu ▸ (hq.sweeps p w hp).acked hrest hfailed
    · exact hq.sweeps q u hu
  batch_closed := by
    intro q u hu
    obtain ⟨-, hu⟩ | ⟨-, hu⟩ := update_eq_some_iff.mp hu
    · exact Option.some.inj hu ▸ hq.batch_closed p w hp
    · exact hq.batch_closed q u hu
  published_closed := hq.published_closed
  last := by
    intro a r hr y hy
    have hbefore := (hq.sent_append fun y hy => hq.next hs hp hrest hy).last a r hr y hy
    rintro (hpub | ⟨q, u, hu, hy'⟩)
    · exact hbefore (.inl hpub)
    · obtain ⟨-, hu⟩ | ⟨-, hu⟩ := update_eq_some_iff.mp hu
      · obtain rfl := Option.some.inj hu
        obtain rfl | hy' := List.mem_cons.mp hy'
        · exact not_earlier_of_latest_concat hr hy
        · exact hbefore (.inr ⟨p, w, hp, hy'⟩)
      · exact hbefore (.inr ⟨q, u, hu, hy'⟩)

/-! ## Runs in sequence -/

variable [DecidableEq P]

/-- A batch holds every unpublished earlier row, if none of them is locked elsewhere. -/
theorem FindsUnpublished.batch_closed {s : EventOutbox P} {ordered : List (EventOutboxEntity P)}
    (hfinds : s.FindsUnpublished ordered)
    (hlocked : ∀ y ∈ ordered.take BATCH_SIZE, ∀ x ∈ s.locked, ¬ Earlier x y) :
    ∀ y ∈ ordered.take BATCH_SIZE, ∀ x ∈ s.rows, Earlier x y → x ∉ s.published →
      x ∈ ordered.take BATCH_SIZE := fun y hy x hx hxy hpub =>
  hfinds.older_mem_batch hy ⟨hx, hpub, fun h => hlocked y hy x h hxy⟩ hxy.2

/-- The sequence survives a sweep that begins. -/
theorem Sequenced.lock {s : EventOutbox P} (hq : s.Sequenced) {p : ℕ}
    {ordered : List (EventOutboxEntity P)} (hfinds : s.FindsUnpublished ordered)
    (hlocked : ∀ y ∈ ordered.take BATCH_SIZE, ∀ x ∈ s.locked, ¬ Earlier x y) :
    (s.lock p (ordered.take BATCH_SIZE)).Sequenced := by
  have hw : SweepSequenced ⟨ordered.take BATCH_SIZE, ordered.take BATCH_SIZE, [], []⟩ :=
    ⟨hfinds.batch_sorted, by simp, by simp, fun x => .inl⟩
  have h := hq.put (p := p) hw (hfinds.batch_closed hlocked) (List.forall_mem_nil _)
  exact ⟨h.rows_sorted, h.sweeps, h.batch_closed, h.published_closed, h.last⟩

omit [DecidableEq P] in
/-- …and a row that is committed after all earlier ones of its aggregate. -/
theorem Sequenced.insert {s : EventOutbox P} (hs : s.Sound) (hq : s.Sequenced)
    {row : EventOutboxEntity P}
    (hrow : ∀ y ∈ s.rows, y.aggregateId = row.aggregateId → y.occurredAt < row.occurredAt) :
    ({ s with rows := s.rows ++ [row] } : EventOutbox P).Sequenced := by
  have hold : ∀ y ∈ s.rows, ∀ x ∈ s.rows ++ [row], Earlier x y → x ∈ s.rows := by
    intro y hy x hx hxy
    obtain hx | hx := List.mem_append.mp hx
    · exact hx
    · rw [List.mem_singleton.mp hx] at hxy
      exact absurd hxy.2 (Int.lt_asymm (hrow y hy hxy.1.symm))
  refine { hq with
    rows_sorted := ?_
    batch_closed := fun p w hp y hy x hx hxy hpub => ?_
    published_closed := fun y hy x hx hxy => ?_ }
  · refine List.pairwise_append.mpr ⟨hq.rows_sorted, List.pairwise_singleton _ _, ?_⟩
    intro y hy x hx
    rw [List.mem_singleton.mp hx]
    exact hrow y hy
  · have hy' := hs.locked_rows y ((hs.sweeps p w hp).batch_locked y hy)
    exact hq.batch_closed p w hp y hy x (hold y hy' x hx hxy) hxy hpub
  · have hy' := hs.sent_rows y (hs.published_sent y hy)
    exact hq.published_closed y hy x (hold y hy' x hx hxy) hxy

/-- A sweep at its end has marked every earlier row of its batch with a row it has marked. -/
theorem Sequenced.commit_closed {s : EventOutbox P} (hs : s.Sound) (hq : s.Sequenced) {p : ℕ}
    {w : Sweep P} (hp : s.publishers p = some w) (hrest : w.rest = []) :
    ∀ y ∈ s.published ++ w.marked, ∀ x ∈ s.rows, Earlier x y → x ∈ s.published ++ w.marked := by
  intro y hy x hx hxy
  obtain hy | hy := List.mem_append.mp hy
  · exact List.mem_append_left _ (hq.published_closed y hy x hx hxy)
  · by_cases hpub : x ∈ s.published
    · exact List.mem_append_left _ hpub
    · have hbatch := hq.batch_closed p w hp y ((hs.sweeps p w hp).marked_batch y hy) x hx hxy hpub
      obtain h | h | h := (hq.sweeps p w hp).covered x hbatch
      · exact absurd h (by rw [hrest]; exact List.not_mem_nil)
      · exact List.mem_append_right _ h
      · exact absurd hxy ((hq.sweeps p w hp).marked_failed y hy x h)

/-- **A step in sequence keeps the sequence.** -/
theorem Sequenced.step {s t : EventOutbox P} {a : Action P} (hs : s.Sound) (hq : s.Sequenced)
    (ha : s.InSequence a) (h : s.step a = some t) : t.Sequenced := by
  cases does_of_step h with
  | insert hid => exact hq.insert hs ha
  | sweep hp hfinds => exact hq.lock hfinds ha
  | @send p w row rest outcome hp hrest =>
    have hw := hq.sweeps p w hp
    cases outcome with
    | acked => exact hq.acked hs hp hrest (ha rfl w hp row (by rw [hrest]; rfl))
    | failed => exact hq.setPublisher hp (hw.failed hrest) rfl rfl
    | timedOut =>
      have h' := hq.setPublisher hp (hw.failed hrest) rfl rfl
      exact ⟨h'.rows_sorted, h'.sweeps, h'.batch_closed, h'.published_closed, h'.last⟩
  | lateAck hrow =>
    have h' := hq.sent_append fun y hy htaken => ha y (hs.taken_sent htaken) hy
    exact ⟨h'.rows_sorted, h'.sweeps, h'.batch_closed, h'.published_closed, h'.last⟩
  | @commit p w hp hrest =>
    refine hq.release (fun y hy => ?_) (fun y => List.mem_append_left _)
      (hq.commit_closed hs hp hrest)
    exact (List.mem_append.mp hy).imp id fun hy => ⟨p, w, hp, hy⟩
  | rollback hp => exact hq.release (fun y => .inl) (fun y => id) hq.published_closed

omit [DecidableEq P] in
/-- **Once all rows are published the log ends as the table does**, aggregate by aggregate. -/
theorem Sequenced.latest_sent_eq {s : EventOutbox P} (hs : s.Sound) (hq : s.Sequenced)
    (hall : ∀ row ∈ s.rows, row ∈ s.published) (a : String) :
    latest a s.sent = latest a s.rows := by
  cases hlast : latest a s.rows with
  | none =>
    by_contra hne
    obtain ⟨r, hr⟩ := Option.ne_none_iff_exists'.mp hne
    have hrow := hs.sent_rows r (mem_of_latest hr).1
    obtain ⟨last, hlast'⟩ := exists_latest hrow (mem_of_latest hr).2
    exact absurd (hlast.symm.trans hlast') nofun
  | some last =>
    obtain ⟨hrow, ha⟩ := mem_of_latest hlast
    obtain ⟨r, hr⟩ := exists_latest (hs.published_sent last (hall last hrow)) ha
    obtain ⟨hsent, ha'⟩ := mem_of_latest hr
    obtain rfl | hearlier := eq_or_earlier_of_latest hq.rows_sorted hlast (hs.sent_rows r hsent) ha'
    · exact hr
    · exact absurd (.inl (hall last hrow)) (hq.last a r hr last hearlier)

end EventOutbox

end Outbox
