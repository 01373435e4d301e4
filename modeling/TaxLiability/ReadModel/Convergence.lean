import TaxLiability.ReadModel.Projection

/-!
# ReadModel/Convergence — when the documents end up at the last committed writes

Whoever saves a document last decides what it shows, and the event carries no version: a record
handled late overwrites whatever is there.  What saves the day is that a write's record comes after
its write-through, so a document is never *behind* the log (`Ahead`): it shows the last record
handled, or one still to be handled, or one not sent yet.  With the log ending as the table does
(`Outbox/LastSent`), the documents converge (`converges_of_converging`); rows out of sequence, a
rollback after the save and a record given up each break it.
-/

open Machine Outbox

namespace ReadModel

/-! ## A consumer that overwrites -/

section Ahead

variable {P : Type} {a : String} {log : List (EventOutboxEntity P)} {n : ℕ}
  {r x : EventOutboxEntity P}

/-- **Not behind the log**: past `n` records, what aggregate `a` shows is the last of them, or is
still to come in the log, or not in it yet. -/
def Ahead (a : String) (log : List (EventOutboxEntity P)) (n : ℕ) (r : EventOutboxEntity P) :
    Prop := latest a (log.take n) = some r ∨ r ∈ log.drop n ∨ r ∉ log

/-- A log that grows leaves no one behind. -/
theorem Ahead.append (h : Ahead a log n r) (hn : n ≤ log.length) (l : List (EventOutboxEntity P)) :
    Ahead a (log ++ l) n r := by
  rw [Ahead, List.take_append_of_le_length hn, List.drop_append_of_le_length hn]
  obtain h | h | h := h
  · exact .inl h
  · exact .inr (.inl (List.mem_append_left l h))
  · by_cases hl : r ∈ l
    · exact .inr (.inl (List.mem_append_right _ hl))
    · exact .inr (.inr fun hr => (List.mem_append.mp hr).elim h hl)

/-- Nor does a consumer that starts over. -/
theorem Ahead.rewind (h : Ahead a log n r) {m : ℕ} (hm : m ≤ n) : Ahead a log m r := by
  obtain h | h | h := h
  · have hsplit : log.take n = log.take m ++ (log.drop m).take (n - m) := by
      rw [← List.take_add, Nat.add_sub_cancel' hm]
    rw [hsplit, latest_append, Option.or_eq_some_iff] at h
    obtain h | ⟨-, h⟩ := h
    · exact .inr (.inl (List.mem_of_mem_take (mem_of_latest h).1))
    · exact .inl h
  · exact .inr (.inl ((List.drop_sublist_drop_left log hm).subset h))
  · exact .inr (.inr h)

/-- A record handled is what its aggregate shows… -/
theorem ahead_handled (hx : log[n]? = some x) : Ahead x.aggregateId log (n + 1) x := by
  refine .inl ?_
  rw [List.take_add_one, hx]
  exact latest_concat_self _ x

/-- …and another aggregate stays where it is. -/
theorem Ahead.advance (h : Ahead a log n r) (hx : log[n]? = some x) (hne : x.aggregateId ≠ a)
    (hr : r.aggregateId = a) : Ahead a log (n + 1) r := by
  obtain h | h | h := h
  · refine .inl ?_
    rw [List.take_add_one, hx]
    exact (latest_concat_ne _ hne).trans h
  · obtain ⟨hn, hx⟩ := List.getElem?_eq_some_iff.mp hx
    rw [List.drop_eq_getElem_cons hn, hx] at h
    obtain rfl | h := List.mem_cons.mp h
    · exact absurd hr hne
    · exact .inr (.inl h)
  · exact .inr (.inr h)

/-- **At the end of the log** an aggregate that shows a record of it shows its last. -/
theorem Ahead.latest (h : Ahead a log log.length r) (hr : r ∈ log) :
    Outbox.latest a log = some r := by
  obtain h | h | h := h
  · rwa [List.take_length] at h
  · rw [List.drop_length] at h
    exact absurd h List.not_mem_nil
  · exact absurd hr h

end Ahead

namespace System

variable {bracketResolver : BracketResolver} {partition : String → ℕ}

/-! ## The property and the condition -/

/-- **Everything is done**: no write is open, every row is published and every record handled. -/
structure Quiescent (partition : String → ℕ) (s : System) : Prop where
  closed : ∀ k, s.writes k = none
  published : ∀ row ∈ s.outbox.rows, row ∈ s.outbox.published
  handled : ∀ p, s.offset p = (s.log partition p).length

/-- **The read model shows the last committed write** of each taxpayer. -/
def Converged (s : System) : Prop :=
  ∀ id taxpayer, s.taxpayers id = some taxpayer →
    ∃ d, s.mongo id = some d ∧ d.Shows (toUpdatedEvent taxpayer)

/-- **The steps that let the read model converge**: rows are committed and sent in sequence, a write
whose document is saved commits, and no record is given up. -/
def Converging (s : System) : Event → Prop
  | .commit k => ∀ o ∈ s.writes k, s.outbox.InSequence (.insert o.write.row)
  | .rollback k => ∀ o ∈ s.writes k, o.saved = false
  | .publisher action => s.outbox.InSequence action
  | .deadLetter _ => False
  | .compute .. | .writeThrough _ | .find _ | .save _ | .redeliver .. => True

instance (s : System) : ∀ e, Decidable (s.Converging e)
  | .commit k => inferInstanceAs (Decidable (∀ o ∈ s.writes k, _))
  | .rollback k => inferInstanceAs (Decidable (∀ o ∈ s.writes k, _))
  | .publisher action => inferInstanceAs (Decidable (s.outbox.InSequence action))
  | .deadLetter _ => inferInstanceAs (Decidable False)
  | .compute .. | .writeThrough _ | .find _ | .save _ | .redeliver .. =>
    inferInstanceAs (Decidable True)

/-! ## The writes -/

/-- What an open write can rely on. -/
structure WriteSound (s : System) (o : OpenWrite) : Prop where
  row_id : o.write.row.id ∈ s.rowIds
  fresh : o.write.row.id ∉ s.outbox.rows.map (·.id)
  aggregate : o.write.row.aggregateId = o.write.entity.id
  payload : o.write.row.payload = toUpdatedEvent o.write.entity
  document_id : o.write.document.id = o.write.entity.id
  shows : o.write.document.Shows o.write.row.payload
  saved : o.saved = true → s.mongo o.write.entity.id ≠ none

/-- **The write side**: rows have ids of their own and are keyed as their payload, the table's
current rows are those of the last commits, and each committed taxpayer has a document. -/
structure Written (s : System) : Prop where
  row_ids : ∀ row ∈ s.outbox.rows, row.id ∈ s.rowIds
  keyed : ∀ row ∈ s.outbox.rows, row.payload.aggregateId = row.aggregateId
  writes : ∀ k o, s.writes k = some o → s.WriteSound o
  distinct : ∀ j k o o', s.writes j = some o → s.writes k = some o' →
    o.write.row.id = o'.write.row.id → j = k
  current : ∀ id taxpayer, s.taxpayers id = some taxpayer → s.mongo id ≠ none
    ∧ ∃ row, latest id s.outbox.rows = some row ∧ row.payload = toUpdatedEvent taxpayer

theorem written_start : start.Written where
  row_ids := by simp [start, EventOutbox.start]
  keyed := by simp [start, EventOutbox.start]
  writes := by simp [start]
  distinct := by simp [start]
  current := by simp [start]

/-- What an open write relies on is not taken back. -/
theorem WriteSound.mono {s t : System} {o : OpenWrite} (h : s.WriteSound o)
    (hids : ∀ id ∈ s.rowIds, id ∈ t.rowIds)
    (hfresh : o.write.row.id ∉ t.outbox.rows.map (·.id))
    (hmongo : ∀ id, s.mongo id ≠ none → t.mongo id ≠ none) : t.WriteSound o :=
  { h with
    row_id := hids _ h.row_id
    fresh := hfresh
    saved := fun hs => hmongo _ (h.saved hs) }

/-- A document saved is there, and no other is gone. -/
theorem saveDocument_ne_none {s : System} {d : TaxpayerReadModel} {id : String}
    (h : s.mongo id ≠ none ∨ id = d.id) : (s.saveDocument d).mongo id ≠ none := by
  by_cases hid : id = d.id
  · subst hid
    simp [saveDocument]
  · simp only [saveDocument, Function.update_of_ne hid]
    exact h.resolve_right hid

/-- **A new call** takes a row id of its own. -/
theorem Written.compute {s : System} (hs : s.Written) {k : ℕ} {call : ComputeLiability}
    {createdAt occurredAt : Java.Instant} {rowId : String} {w : Write} (hid : rowId ∉ s.rowIds)
    (hw : computeLiability bracketResolver call createdAt rowId occurredAt = .ok w) :
    ({ s.setWrite k (some ⟨w, false⟩) with rowIds := rowId :: s.rowIds } : System).Written := by
  obtain ⟨hentity, hrow, haggregate, hpayload, hdocument⟩ := computeLiability_eq_ok hw
  have hfresh : w.row.id ∉ s.outbox.rows.map (·.id) := by
    rintro hmem
    obtain ⟨row, hmem, hrowid⟩ := List.mem_map.mp hmem
    exact hid (hrow ▸ hrowid ▸ hs.row_ids row hmem)
  have hnew : ∀ j o, s.writes j = some o → o.write.row.id ≠ w.row.id := fun j o hj heq =>
    hid (hrow ▸ heq ▸ (hs.writes j o hj).row_id)
  refine ⟨fun row hmem => List.mem_cons_of_mem _ (hs.row_ids row hmem), hs.keyed, ?_, ?_,
    hs.current⟩
  · intro j o hj
    obtain ⟨-, hj⟩ | ⟨-, hj⟩ := update_eq_some_iff.mp hj
    · cases hj
      refine ⟨hrow ▸ List.mem_cons_self, hfresh, haggregate.trans hentity.symm, hpayload, ?_, ?_,
        nofun⟩
      · exact (TaxpayerReadModel.create_eq_ok hdocument).1
      · exact hpayload ▸ shows_of_toReadModel hdocument
    · exact (hs.writes j o hj).mono (fun _ => List.mem_cons_of_mem _) (hs.writes j o hj).fresh
        fun _ => id
  · intro i j o o' hi hj heq
    obtain ⟨rfl, hio⟩ | ⟨-, hio⟩ := update_eq_some_iff.mp hi <;>
      obtain ⟨rfl, hjo⟩ | ⟨-, hjo⟩ := update_eq_some_iff.mp hj
    · rfl
    · cases hio
      exact absurd heq.symm (hnew j o' hjo)
    · cases hjo
      exact absurd heq (hnew i o hio)
    · exact hs.distinct i j o o' hio hjo heq

/-- A call that ends leaves the others as they are. -/
theorem Written.close {s : System} (hs : s.Written) (k : ℕ) : (s.setWrite k none).Written where
  row_ids := hs.row_ids
  keyed := hs.keyed
  writes := by
    intro j o hj
    obtain ⟨-, hj⟩ | ⟨-, hj⟩ := update_eq_some_iff.mp hj
    · cases hj
    · exact (hs.writes j o hj).mono (fun _ => id) (hs.writes j o hj).fresh fun _ => id
  distinct := by
    intro i j o o' hi hj
    obtain ⟨-, hi⟩ | ⟨-, hi⟩ := update_eq_some_iff.mp hi
    · cases hi
    · obtain ⟨-, hj⟩ | ⟨-, hj⟩ := update_eq_some_iff.mp hj
      · cases hj
      · exact hs.distinct i j o o' hi hj
  current := hs.current

/-- A document saved disturbs no write. -/
theorem Written.saveDocument {s : System} (hs : s.Written) (d : TaxpayerReadModel) :
    (s.saveDocument d).Written where
  row_ids := hs.row_ids
  keyed := hs.keyed
  writes := fun j o hj => (hs.writes j o hj).mono (fun _ => id) (hs.writes j o hj).fresh
    fun _ h => saveDocument_ne_none (.inl h)
  distinct := hs.distinct
  current := fun id taxpayer h =>
    ⟨saveDocument_ne_none (.inl (hs.current id taxpayer h).1), (hs.current id taxpayer h).2⟩

/-- A call whose document is saved is marked so. -/
theorem Written.markSaved {s : System} (hs : s.Written) {k : ℕ} {w : Write}
    (hk : s.writes k = some ⟨w, false⟩) (hmongo : s.mongo w.entity.id ≠ none) :
    (s.setWrite k (some ⟨w, true⟩)).Written where
  row_ids := hs.row_ids
  keyed := hs.keyed
  writes := by
    intro j o hj
    obtain ⟨-, hj⟩ | ⟨-, hj⟩ := update_eq_some_iff.mp hj
    · cases hj
      exact { hs.writes k ⟨w, false⟩ hk with saved := fun _ => hmongo }
    · exact (hs.writes j o hj).mono (fun _ => id) (hs.writes j o hj).fresh fun _ => id
  distinct := by
    intro i j o o' hi hj heq
    obtain ⟨rfl, hio⟩ | ⟨-, hio⟩ := update_eq_some_iff.mp hi <;>
      obtain ⟨rfl, hjo⟩ | ⟨-, hjo⟩ := update_eq_some_iff.mp hj
    · rfl
    · cases hio
      exact hs.distinct i j _ o' hk hjo heq
    · cases hjo
      exact hs.distinct i j o _ hio hk heq
    · exact hs.distinct i j o o' hio hjo heq
  current := hs.current

/-- **A commit**: the row joins the table and the taxpayer is what its row says. -/
theorem Written.commit {s : System} (hs : s.Written) {k : ℕ} {w : Write}
    (hk : s.writes k = some ⟨w, true⟩) :
    ({ s.setWrite k none with
        taxpayers := Function.update s.taxpayers w.entity.id (some w.entity)
        outbox := { s.outbox with rows := s.outbox.rows ++ [w.row] } } : System).Written := by
  have hw := hs.writes k _ hk
  refine ⟨?_, ?_, fun j o hj => ?_, (hs.close k).distinct, fun id taxpayer ht => ?_⟩
  · exact List.forall_mem_append.mpr ⟨hs.row_ids, List.forall_mem_singleton.mpr hw.row_id⟩
  · refine List.forall_mem_append.mpr ⟨hs.keyed, List.forall_mem_singleton.mpr ?_⟩
    exact (congrArg TaxpayerUpdatedEvent.aggregateId hw.payload).trans hw.aggregate.symm
  · obtain ⟨-, hj⟩ | ⟨hjk, hj⟩ := update_eq_some_iff.mp hj
    · cases hj
    · refine (hs.writes j o hj).mono (fun _ h => h) ?_ fun _ h => h
      rw [List.map_append, List.mem_append, not_or]
      refine ⟨(hs.writes j o hj).fresh, fun h => hjk (hs.distinct j k o _ hj hk ?_)⟩
      exact List.mem_singleton.mp h
  · obtain ⟨rfl, ht'⟩ | ⟨hid, ht'⟩ := update_eq_some_iff.mp ht
    · cases ht'
      exact ⟨hw.saved rfl, w.row, hw.aggregate ▸ latest_concat_self _ _, hw.payload⟩
    · obtain ⟨hmongo, row, hrow, hpayload⟩ := hs.current id taxpayer ht'
      refine ⟨hmongo, row, (latest_concat_ne _ ?_).trans hrow, hpayload⟩
      exact fun h => hid (h.symm.trans hw.aggregate)

/-- What a publisher does touches no row. -/
theorem Written.publisher {s : System} (hs : s.Written)
    {outbox : EventOutbox TaxpayerUpdatedEvent} (hrows : outbox.rows = s.outbox.rows) :
    ({ s with outbox } : System).Written where
  row_ids := by simpa only [hrows] using hs.row_ids
  keyed := by simpa only [hrows] using hs.keyed
  writes := fun j o hj => (hs.writes j o hj).mono (fun _ => id)
    (by simpa only [hrows] using (hs.writes j o hj).fresh) fun _ => id
  distinct := hs.distinct
  current := by simpa only [hrows] using hs.current

/-- Nor does what the listener does. -/
theorem Written.listen {s : System} (hs : s.Written) (offset : ℕ → ℕ)
    (reading : ℕ → Option (Option TaxpayerReadModel)) :
    ({ s with offset, reading } : System).Written where
  row_ids := hs.row_ids
  keyed := hs.keyed
  writes := fun j o hj => (hs.writes j o hj).mono (fun _ => id) (hs.writes j o hj).fresh fun _ => id
  distinct := hs.distinct
  current := hs.current

/-! ## The documents -/

/-- A row that is committed, or will be if its call's transaction commits. -/
def WrittenRow (s : System) (r : EventOutboxEntity TaxpayerUpdatedEvent) : Prop :=
  r ∈ s.outbox.rows ∨ ∃ k w, s.writes k = some ⟨w, true⟩ ∧ w.row = r

/-- **What a document shows** is a written row of its taxpayer that is not behind the log. -/
structure Source (partition : String → ℕ) (s : System) (id : String)
    (r : EventOutboxEntity TaxpayerUpdatedEvent) : Prop where
  aggregate : r.aggregateId = id
  written : s.WrittenRow r
  ahead : Ahead id (s.log partition (partition id)) (s.offset (partition id)) r

/-- **Every document has its source.** -/
def Documented (partition : String → ℕ) (s : System) : Prop :=
  ∀ id d, s.mongo id = some d → d.id = id ∧ ∃ r, Source partition s id r ∧ d.Shows r.payload

/-- **The listener**: it is within the log, and the document it has found is the record's. -/
structure Listening (partition : String → ℕ) (s : System) : Prop where
  offset_le : ∀ p, s.offset p ≤ (s.log partition p).length
  reading : ∀ p found, s.reading p = some found → ∃ record, s.record? partition p = some record
    ∧ ∀ d ∈ found, d.id = record.payload.aggregateId

/-- **The read side**, with the write side it rests on. -/
structure Projected (partition : String → ℕ) (s : System) : Prop where
  sound : s.outbox.Sound
  sequenced : s.outbox.Sequenced
  written : s.Written
  documented : Documented partition s
  listening : Listening partition s

theorem projected_start : Projected partition start where
  sound := EventOutbox.sound_start
  sequenced := EventOutbox.sequenced_start
  written := written_start
  documented := by simp [Documented, start]
  listening := ⟨fun _ => Nat.zero_le _, by simp [start]⟩

/-- The record handled next is a committed row of its partition. -/
theorem Projected.record {s : System} (hs : Projected partition s) {p : ℕ}
    {record : EventOutboxEntity TaxpayerUpdatedEvent}
    (h : s.record? partition p = some record) :
    record ∈ s.outbox.rows ∧ partition record.aggregateId = p
      ∧ record.payload.aggregateId = record.aggregateId
      ∧ s.offset p < (s.log partition p).length := by
  obtain ⟨hsent, hp⟩ := List.mem_filter.mp (List.mem_of_getElem? h)
  have hrow := hs.sound.sent_rows record hsent
  exact ⟨hrow, of_decide_eq_true hp, hs.written.keyed record hrow,
    (List.getElem?_eq_some_iff.mp h).1⟩

/-- The last record of an aggregate is on its partition. -/
theorem latest_log (s : System) (id : String) :
    latest id (s.log partition (partition id)) = latest id s.outbox.sent := by
  rw [latest, log, List.filter_filter, latest]
  congr 1
  refine List.filter_congr fun row _ => ?_
  by_cases h : row.aggregateId = id <;> simp [h]

/-- **The documents keep their sources** when the log grows at its end and no row is lost. -/
theorem Documented.mono {s t : System} (hs : Documented partition s)
    (hlistening : Listening partition s) {l : List (EventOutboxEntity TaxpayerUpdatedEvent)}
    (hsent : t.outbox.sent = s.outbox.sent ++ l) (hoffset : t.offset = s.offset)
    (hmongo : t.mongo = s.mongo) (hwritten : ∀ r, s.WrittenRow r → t.WrittenRow r) :
    Documented partition t := by
  intro id d hd
  rw [hmongo] at hd
  obtain ⟨hid, r, hr, hshows⟩ := hs id d hd
  refine ⟨hid, r, ⟨hr.aggregate, hwritten r hr.written, ?_⟩, hshows⟩
  rw [log, hsent, List.filter_append, hoffset]
  exact hr.ahead.append (hlistening.offset_le _) _

/-- **The listener stays in the log** when it grows at its end. -/
theorem Listening.mono {s t : System} (hs : Listening partition s)
    {l : List (EventOutboxEntity TaxpayerUpdatedEvent)}
    (hsent : t.outbox.sent = s.outbox.sent ++ l) (hoffset : t.offset = s.offset)
    (hreading : t.reading = s.reading) : Listening partition t := by
  have hlog : ∀ p, t.log partition p
      = s.log partition p ++ l.filter fun row => partition row.aggregateId = p := by
    intro p
    rw [log, hsent, List.filter_append]
    rfl
  refine ⟨fun p => ?_, fun p found hp => ?_⟩
  · rw [hlog, hoffset, List.length_append]
    exact Nat.le_add_right_of_le (hs.offset_le p)
  · rw [hreading] at hp
    obtain ⟨record, hrecord, hd⟩ := hs.reading p found hp
    refine ⟨record, ?_, hd⟩
    rw [record?, hlog, hoffset, List.getElem?_append_left (List.getElem?_eq_some_iff.mp hrecord).1]
    exact hrecord

/-- **The listener moves** to an offset within the log. -/
theorem Listening.seek {s : System} (hs : Listening partition s) {p n : ℕ}
    (hn : n ≤ (s.log partition p).length) : Listening partition (s.seek p n) := by
  refine ⟨fun q => ?_, fun q found hq => ?_⟩
  · by_cases hqp : q = p
    · subst hqp
      simpa [System.seek, log] using hn
    · simpa [System.seek, log, hqp] using hs.offset_le q
  · obtain ⟨-, hq⟩ | ⟨hqp, hq⟩ := update_eq_some_iff.mp hq
    · cases hq
    · obtain ⟨record, hrecord, hd⟩ := hs.reading q found hq
      refine ⟨record, ?_, hd⟩
      simpa [record?, System.seek, log, hqp] using hrecord

/-- **A document saved** from a source replaces what its taxpayer shows. -/
theorem Documented.saveDocument {s : System} (hs : Documented partition s) {d : TaxpayerReadModel}
    {r : EventOutboxEntity TaxpayerUpdatedEvent} (hr : Source partition s d.id r)
    (hshows : d.Shows r.payload) : Documented partition (s.saveDocument d) := by
  intro id d' hd'
  obtain ⟨rfl, h⟩ | ⟨-, h⟩ := update_eq_some_iff.mp hd'
  · cases h
    exact ⟨rfl, r, ⟨hr.aggregate, hr.written, hr.ahead⟩, hshows⟩
  · obtain ⟨hid, r', hr', hshows'⟩ := hs id d' h
    exact ⟨hid, r', ⟨hr'.aggregate, hr'.written, hr'.ahead⟩, hshows'⟩

/-- **Starting over** leaves no document behind. -/
theorem Documented.rewind {s : System} (hs : Documented partition s) {p n : ℕ}
    (hn : n ≤ s.offset p) : Documented partition (s.seek p n) := by
  intro id d hd
  obtain ⟨hid, r, hr, hshows⟩ := hs id d hd
  refine ⟨hid, r, ⟨hr.aggregate, hr.written, hr.ahead.rewind ?_⟩, hshows⟩
  by_cases hp : partition id = p
  · simpa [System.seek, hp] using hn
  · simp [System.seek, hp]

/-- **A record handled** is the source of its taxpayer's document, and the others keep theirs. -/
theorem Projected.handle {s : System} (hs : Projected partition s) {p : ℕ}
    {record : EventOutboxEntity TaxpayerUpdatedEvent}
    (hrecord : s.record? partition p = some record) {d : TaxpayerReadModel}
    (hid : d.id = record.aggregateId) (hshows : d.Shows record.payload) :
    Documented partition ((s.saveDocument d).seek p (s.offset p + 1)) := by
  obtain ⟨hrow, hp, -, -⟩ := hs.record hrecord
  have hoffset : ((s.saveDocument d).seek p (s.offset p + 1)).offset p = s.offset p + 1 :=
    Function.update_self _ _ _
  intro id d' hd'
  obtain ⟨rfl, h⟩ | ⟨hne, h⟩ := update_eq_some_iff.mp hd'
  · cases h
    refine ⟨rfl, record, ⟨hid.symm, .inl hrow, ?_⟩, hshows⟩
    rw [hid, hp, hoffset]
    exact ahead_handled hrecord
  · obtain ⟨hid', r, hr, hshows'⟩ := hs.documented id d' h
    refine ⟨hid', r, ⟨hr.aggregate, hr.written, ?_⟩, hshows'⟩
    by_cases hpart : partition id = p
    · have hahead := hr.ahead
      rw [hpart] at hahead ⊢
      rw [hoffset]
      exact hahead.advance hrecord (fun h => hne (h.symm.trans hid.symm)) hr.aggregate
    · have hkeep : ((s.saveDocument d).seek p (s.offset p + 1)).offset (partition id)
          = s.offset (partition id) := Function.update_of_ne hpart _ _
      rw [hkeep]
      exact hr.ahead

/-- A written row stays written while the slot of its call does. -/
theorem WrittenRow.setWrite {s : System} {k : ℕ} {o : Option OpenWrite}
    {r : EventOutboxEntity TaxpayerUpdatedEvent} (h : s.WrittenRow r)
    (hk : ∀ w, s.writes k = some ⟨w, true⟩ → w.row ≠ r) : (s.setWrite k o).WrittenRow r := by
  obtain h | ⟨j, w, hj, hr⟩ := h
  · exact .inl h
  · refine .inr ⟨j, w, update_eq_some_iff.mpr (.inr ⟨?_, hj⟩), hr⟩
    rintro rfl
    exact hk w hj hr

/-- **The write-through** saves the document of a row that is not in the log yet. -/
theorem Projected.writeThrough {s : System} (hs : Projected partition s) {k : ℕ} {w : Write}
    (hk : s.writes k = some ⟨w, false⟩) :
    Projected partition ((s.saveDocument w.document).setWrite k (some ⟨w, true⟩)) := by
  have hnil : s.outbox.sent = s.outbox.sent ++ [] := (List.append_nil _).symm
  have hw := hs.written.writes k _ hk
  have hdocs := hs.documented.mono (t := s.setWrite k (some ⟨w, true⟩)) hs.listening hnil rfl rfl
    fun r hr => hr.setWrite fun w' hw' => absurd (hk.symm.trans hw') (by simp)
  refine ⟨hs.sound, hs.sequenced, ?_, hdocs.saveDocument ?_ hw.shows,
    hs.listening.mono hnil rfl rfl⟩
  · refine (hs.written.saveDocument w.document).markSaved hk (saveDocument_ne_none (.inr ?_))
    exact hw.document_id.symm
  · refine ⟨hw.aggregate.trans hw.document_id.symm, .inr ⟨k, w, Function.update_self .., rfl⟩, ?_⟩
    refine .inr (.inr fun hmem => hw.fresh (List.mem_map_of_mem ?_))
    exact hs.sound.sent_rows _ (List.mem_filter.mp hmem).1

/-- A row committed is written as it was while its call was open. -/
theorem WrittenRow.commit {s t : System} {k : ℕ} {w : Write}
    {r : EventOutboxEntity TaxpayerUpdatedEvent} (h : s.WrittenRow r)
    (hk : s.writes k = some ⟨w, true⟩) (hrows : t.outbox.rows = s.outbox.rows ++ [w.row])
    (hwrites : t.writes = Function.update s.writes k none) : t.WrittenRow r := by
  rw [WrittenRow, hrows, hwrites]
  by_cases hr : w.row = r
  · exact .inl (List.mem_append_right _ (List.mem_singleton.mpr hr.symm))
  · obtain h | ⟨j, w', hj, hw'⟩ := h
    · exact .inl (List.mem_append_left _ h)
    · refine .inr ⟨j, w', update_eq_some_iff.mpr (.inr ⟨?_, hj⟩), hw'⟩
      rintro rfl
      cases hk.symm.trans hj
      exact hr hw'

/-- **A save** makes the record handled the source of its document. -/
theorem Projected.save {s : System} (hs : Projected partition s) {p : ℕ}
    {record : EventOutboxEntity TaxpayerUpdatedEvent} {found : Option TaxpayerReadModel}
    {d : TaxpayerReadModel} (hrecord : s.record? partition p = some record)
    (hfound : s.reading p = some found) (hd : onEvent found record.payload = .ok d) :
    Projected partition ((s.saveDocument d).seek p (s.offset p + 1)) := by
  obtain ⟨-, -, hkeyed, hlt⟩ := hs.record hrecord
  obtain ⟨hshows, hsome, hnone⟩ := onEvent_eq_ok hd
  have hid : d.id = record.payload.aggregateId := by
    obtain ⟨record', hrecord', hids⟩ := hs.listening.reading p found hfound
    obtain rfl := Option.some.inj (hrecord.symm.trans hrecord')
    cases found with
    | none => exact (hnone rfl).1
    | some document => exact (hsome document rfl).1.trans (hids document rfl)
  refine ⟨hs.sound, hs.sequenced, (hs.written.saveDocument d).listen _ _,
    hs.handle hrecord (hid.trans hkeyed) hshows, ?_⟩
  exact (hs.listening.mono (t := s.saveDocument d) (List.append_nil _).symm rfl rfl).seek hlt

/-- **A step of a converging run keeps the documents at their sources.** -/
theorem Projected.step {s t : System} {e : Event} (hs : Projected partition s)
    (hc : s.Converging e) (h : step bracketResolver partition s e = some t) :
    Projected partition t := by
  have hnil : s.outbox.sent = s.outbox.sent ++ [] := (List.append_nil _).symm
  cases does_of_step h with
  | @compute k call createdAt occurredAt rowId w hk hid hw =>
    refine ⟨hs.sound, hs.sequenced, hs.written.compute hid hw, ?_, hs.listening.mono hnil rfl rfl⟩
    exact hs.documented.mono hs.listening hnil rfl rfl fun r hr =>
      hr.setWrite fun w hw => absurd (hk.symm.trans hw) nofun
  | throws => exact hs
  | writeThrough hk => exact hs.writeThrough hk
  | @commit k w outbox hk hrow =>
    have hsound := hs.sound.step hrow
    have hsequenced := hs.sequenced.step hs.sound (hc _ hk) hrow
    cases EventOutbox.does_of_step hrow with
    | insert hid =>
      refine ⟨hsound, hsequenced, hs.written.commit hk, ?_, hs.listening.mono hnil rfl rfl⟩
      exact hs.documented.mono hs.listening hnil rfl rfl fun r hr => hr.commit hk rfl rfl
  | @rollback k o hk =>
    refine ⟨hs.sound, hs.sequenced, hs.written.close k, ?_, hs.listening.mono hnil rfl rfl⟩
    refine hs.documented.mono hs.listening hnil rfl rfl fun r hr => hr.setWrite fun w hw => ?_
    obtain rfl := Option.some.inj (hk.symm.trans hw)
    exact absurd (hc _ hk) nofun
  | @publisher action outbox hinsert ha =>
    have hdoes := EventOutbox.does_of_step ha
    obtain ⟨l, hl⟩ := hdoes.sent_eq_append
    have hrows := hdoes.rows_eq hinsert
    refine ⟨hs.sound.step ha, hs.sequenced.step hs.sound hc ha, hs.written.publisher hrows, ?_,
      hs.listening.mono hl rfl rfl⟩
    exact hs.documented.mono hs.listening hl rfl rfl fun r hr => hr.imp (hrows ▸ ·) id
  | @find p record hrecord =>
    refine ⟨hs.sound, hs.sequenced, hs.written.listen _ _, ?_, hs.listening.offset_le,
      fun q found hq => ?_⟩
    · exact hs.documented.mono hs.listening hnil rfl rfl fun _ => id
    · obtain ⟨rfl, hfound⟩ | ⟨-, hq'⟩ := update_eq_some_iff.mp hq
      · obtain rfl := Option.some.inj hfound
        exact ⟨record, hrecord, fun d hd => (hs.documented _ d hd).1⟩
      · exact hs.listening.reading q found hq'
  | save hrecord hfound hd => exact hs.save hrecord hfound hd
  | @redeliver p n hn =>
    refine ⟨hs.sound, hs.sequenced, hs.written.listen _ _, hs.documented.rewind hn, ?_⟩
    exact hs.listening.seek (hn.trans (hs.listening.offset_le p))
  | deadLetter hrecord => exact hc.elim

/-- **At the end every document shows the last committed write.** -/
theorem Projected.converged {s : System} (hs : Projected partition s)
    (hq : Quiescent partition s) : s.Converged := by
  intro id taxpayer htaxpayer
  obtain ⟨hmongo, row, hrow, hpayload⟩ := hs.written.current id taxpayer htaxpayer
  obtain ⟨d, hd⟩ := Option.ne_none_iff_exists'.mp hmongo
  obtain ⟨-, r, hr, hshows⟩ := hs.documented id d hd
  have hmem : r ∈ s.outbox.rows := by
    obtain h | ⟨k, w, hk, -⟩ := hr.written
    · exact h
    · exact absurd ((hq.closed k).symm.trans hk) nofun
  have hlog : r ∈ s.log partition (partition id) := by
    refine List.mem_filter.mpr ⟨hs.sound.published_sent r (hq.published r hmem), ?_⟩
    rw [hr.aggregate, decide_eq_true_eq]
  have hahead := hr.ahead
  rw [hq.handled] at hahead
  have hlast := hahead.latest hlog
  rw [latest_log, hs.sequenced.latest_sent_eq hs.sound hq.published, hrow] at hlast
  obtain rfl := Option.some.inj hlast
  exact ⟨d, hd, hpayload ▸ hshows⟩

variable (bracketResolver partition) in
/-- **The read model converges to the last committed writes** in every run whose steps let it. -/
theorem converges_of_converging {events : List Event} {s : System}
    (h : exec (step bracketResolver partition) start events = some s)
    (hc : Throughout (step bracketResolver partition) Converging start events)
    (hq : Quiescent partition s) : s.Converged :=
  (exec_invariant_of_throughout (fun hc hs => Projected.step hs hc) hc projected_start h).converged
    hq

/-! ## A run that converges and one that does not -/

/-- One partition. -/
def single (_ : String) : ℕ := 0

/-- On one partition everything is done when the listener is past the log. -/
theorem quiescent_single {s : System} (hclosed : ∀ k, s.writes k = none)
    (hpublished : ∀ row ∈ s.outbox.rows, row ∈ s.outbox.published)
    (hhandled : s.offset 0 = s.outbox.sent.length) (hunused : ∀ p, s.offset (p + 1) = 0) :
    Quiescent single s := by
  refine ⟨hclosed, hpublished, fun p => ?_⟩
  cases p with
  | zero => simpa [log, single] using hhandled
  | succ p => simpa [log, single] using hunused p

/-- A taxpayer files, and files again. -/
def docsCall : ComputeLiability := ⟨"tp-1", "Ada", "SINGLE", ⟨5000000, 2⟩, "tenant-a"⟩

def docsRows : List (EventOutboxEntity TaxpayerUpdatedEvent) :=
  [⟨"e-1", "tp-1", TAXPAYER_EVENTS, ⟨"tp-1", "Ada", "SINGLE", "federal", 1⟩, 2⟩,
   ⟨"e-2", "tp-1", TAXPAYER_EVENTS, ⟨"tp-1", "Ada", "HEAD_OF_HOUSEHOLD", "federal", 3⟩, 4⟩]

/-- The second write goes through while the listener is at work on the first, its first send times
out and arrives late, and the listener starts over. -/
def docsRun : List Event :=
  [.compute 0 docsCall 1 "e-1" 2, .writeThrough 0, .commit 0,
   .compute 1 { docsCall with filingStatus := "HEAD_OF_HOUSEHOLD" } 3 "e-2" 4,
   .publisher (.sweep 0 (docsRows.take 1)), .publisher (.send 0 .acked), .find 0, .writeThrough 1,
   .save 0, .commit 1, .publisher (.commit 0),
   .publisher (.sweep 0 (docsRows.drop 1)), .publisher (.send 0 .timedOut), .publisher (.commit 0),
   .publisher (.sweep 0 (docsRows.drop 1)), .publisher (.send 0 .acked)] ++
  (docsRows.drop 1).map (fun row => .publisher (.lateAck row)) ++
  [.publisher (.commit 0), .find 0, .save 0, .redeliver 0 0, .find 0, .save 0, .find 0, .save 0,
   .find 0, .save 0]

theorem converges_docsRun : ∃ s, exec (step federal single) start docsRun = some s
    ∧ Quiescent single s ∧ s.Converged := by
  have hrun : (exec (step federal single) start docsRun).map (fun s =>
      ((s.writes 0, s.writes 1), (s.outbox.rows, s.outbox.published),
        s.offset 0, s.outbox.sent.length))
      = some ((none, none), (docsRows, docsRows), 3, 3) := by decide +kernel
  have hwrites (k : ℕ) : (exec (step federal single) start docsRun).map (·.writes (k + 2))
      = some none := rfl
  have hoffset (p : ℕ) : (exec (step federal single) start docsRun).map (·.offset (p + 1))
      = some 0 := rfl
  obtain ⟨s, hs, hvals⟩ := Option.map_eq_some_iff.mp hrun
  simp only [Prod.mk.injEq] at hvals
  obtain ⟨⟨h₀, h₁⟩, ⟨hrows, hpublished⟩, hpast, hlength⟩ := hvals
  simp only [hs, Option.map_some, Option.some.injEq] at hwrites hoffset
  have hclosed : ∀ k, s.writes k = none
    | 0 => h₀
    | 1 => h₁
    | k + 2 => hwrites k
  have hq := quiescent_single hclosed (by rw [hrows, hpublished]; exact fun _ => id)
    (hpast.trans hlength.symm) hoffset
  exact ⟨s, hs, hq, converges_of_converging federal single hs (by decide) hq⟩

/-- The first send of the first write fails, and the sweep sends the second before it. -/
def staleRun : List Event :=
  [.compute 0 docsCall 1 "e-1" 2, .writeThrough 0, .commit 0,
   .compute 1 { docsCall with filingStatus := "HEAD_OF_HOUSEHOLD" } 3 "e-2" 4, .writeThrough 1,
   .commit 1,
   .publisher (.sweep 0 docsRows), .publisher (.send 0 .failed), .publisher (.send 0 .acked),
   .publisher (.commit 0), .publisher (.sweep 0 (docsRows.take 1)), .publisher (.send 0 .acked),
   .publisher (.commit 0), .find 0, .save 0, .find 0, .save 0]

/-- **The last write is lost**: everything is done, and the document shows the first. -/
theorem last_write_lost : ¬ ∀ (bracketResolver : BracketResolver) (partition : String → ℕ)
    (events : List Event) (s : System),
    exec (step bracketResolver partition) start events = some s → Quiescent partition s →
      s.Converged := by
  intro hall
  have hrun : (exec (step federal single) start staleRun).map (fun s =>
      ((s.writes 0, s.writes 1), (s.offset 0, s.outbox.sent.length),
        (s.taxpayers "tp-1").map (·.filingStatus), (s.mongo "tp-1").map (·.filingStatus)))
      = some ((none, none), (2, 2), some "HEAD_OF_HOUSEHOLD", some "SINGLE") := by decide
  have hpublished : (exec (step federal single) start staleRun).map (fun s =>
      decide (∀ row ∈ s.outbox.rows, row ∈ s.outbox.published)) = some true := by decide
  have hwrites (k : ℕ) : (exec (step federal single) start staleRun).map (·.writes (k + 2))
      = some none := rfl
  have hoffset (p : ℕ) : (exec (step federal single) start staleRun).map (·.offset (p + 1))
      = some 0 := rfl
  obtain ⟨s, hs, hvals⟩ := Option.map_eq_some_iff.mp hrun
  simp only [Prod.mk.injEq] at hvals
  obtain ⟨⟨h₀, h₁⟩, ⟨hpast, hlength⟩, htaxpayer, hdocument⟩ := hvals
  simp only [hs, Option.map_some, Option.some.injEq, decide_eq_true_eq]
    at hwrites hoffset hpublished
  have hclosed : ∀ k, s.writes k = none
    | 0 => h₀
    | 1 => h₁
    | k + 2 => hwrites k
  have hq := quiescent_single hclosed hpublished (hpast.trans hlength.symm) hoffset
  obtain ⟨taxpayer, ht, hstatus⟩ := Option.map_eq_some_iff.mp htaxpayer
  obtain ⟨d, hd, hshown⟩ := Option.map_eq_some_iff.mp hdocument
  obtain ⟨d', hd', hshows⟩ := hall federal single staleRun s hs hq "tp-1" taxpayer ht
  obtain rfl := Option.some.inj (hd.symm.trans hd')
  have hsame : d.filingStatus = taxpayer.filingStatus := hshows.2.1
  rw [hstatus, hshown] at hsame
  exact absurd hsame (by decide)

end System

end ReadModel
