import TaxLiability.Machinery.Machine
import TaxLiability.ReadModel.TaxpayerReadModel

/-!
# ReadModel/KafkaErrorHandling — what becomes of a record that fails

    log p ──position──▸ listener ──▸ document                   past it
                           ├─ no event: no retry ──▸ dead letter   past it
                           └─ throws: three retries ──▸ dead letter?  the value is no bytes: again

Records of a partition are delivered one at a time.  The dead-letter template writes bytes.  What
does not deserialize is put aside as the bytes it is; an event that is refused cannot be, and is
delivered again.  So no event is ever passed over, and
the one the listener always refuses, of a blank id, holds its partition up for good
(`consumed_exec`).
-/

open Machine

namespace ReadModel

/-- **What the container and the serializers do** with a record that fails: which are tried again,
and which values the dead-letter template writes. -/
structure SpringKafka where
  retries : Option TaxpayerUpdatedEvent → Bool
  writes : Option TaxpayerUpdatedEvent → Bool
  /-- what does not deserialize is not tried again -/
  not_retries : retries none = false
  /-- the bytes it came as are written -/
  writes_bytes : writes none = true
  /-- an event is no bytes -/
  not_writes : ∀ event, writes (some event) = false

/-- **The consumer group**: of each partition its records, by the event each stands for, if one
comes of it, the offset that is committed, the one that is delivered next, and how often that has
failed; the documents; and the dead letters, by partition and offset. -/
structure Consumer where
  log : ℕ → List (Option TaxpayerUpdatedEvent)
  committed : ℕ → ℕ
  position : ℕ → ℕ
  failures : ℕ → ℕ
  documents : String → Option TaxpayerReadModel
  deadLetters : List (ℕ × ℕ)

namespace Consumer

def start : Consumer := ⟨fun _ => [], fun _ => 0, fun _ => 0, fun _ => 0, fun _ => none, []⟩

/-- What the store does with a document that is saved. -/
inductive Store
  | up
  | down
  /-- it is saved, and the call throws -/
  | lost
  deriving DecidableEq

/-- What happens next. -/
inductive Event
  | publish (p : ℕ) (value : Option TaxpayerUpdatedEvent)
  /-- a record is delivered; whether the broker takes a dead letter, if there is one -/
  | deliver (p : ℕ) (store : Store) (broker : Bool)
  | commit (p : ℕ)
  /-- a new consumer takes the partition up -/
  | restart (p : ℕ)
  deriving DecidableEq

/-- The retries of `FixedBackOff`. -/
def MAX_RETRIES : ℕ := 3

/-- Save a document under its id. -/
def save (s : Consumer) (d : TaxpayerReadModel) : Consumer :=
  { s with documents := Function.update s.documents d.id (some d) }

/-- The record is done with. -/
def past (s : Consumer) (p : ℕ) : Consumer :=
  { s with
    position := Function.update s.position p (s.position p + 1)
    failures := Function.update s.failures p 0 }

def setFailures (s : Consumer) (p n : ℕ) : Consumer :=
  { s with failures := Function.update s.failures p n }

/-- **`onEvent`**, as far as the document it comes to. -/
def listen (s : Consumer) (value : Option TaxpayerUpdatedEvent) : Option TaxpayerReadModel :=
  value.bind fun event => (onEvent (s.documents event.aggregateId) event).toOption

variable (K : SpringKafka)

/-- **`DefaultErrorHandler`** with `DeadLetterPublishingRecoverer` and `deadLetterKafkaTemplate`:
where recovery fails the retries begin anew. -/
def handleError (s : Consumer) (p : ℕ) (value : Option TaxpayerUpdatedEvent) (broker : Bool) :
    Consumer :=
  if K.retries value ∧ s.failures p < MAX_RETRIES then s.setFailures p (s.failures p + 1)
  else if K.writes value && broker then
    { s.past p with deadLetters := (p, s.position p) :: s.deadLetters }
  else s.setFailures p 0

/-- **One step.**  Records are keyed by their aggregate, whose partition is always the same. -/
def step (partition : String → ℕ) (s : Consumer) : Event → Option Consumer
  | .publish p value =>
    if ∀ event ∈ value, partition event.aggregateId = p then
      some { s with log := Function.update s.log p (s.log p ++ [value]) }
    else none
  | .deliver p store broker =>
    match (s.log p)[s.position p]? with
    | none => none
    | some value =>
      match s.listen value, store with
      | some d, .up => some ((s.save d).past p)
      | some d, .lost => some ((s.save d).handleError K p value broker)
      | _, _ => some (s.handleError K p value broker)
  | .commit p => some { s with committed := Function.update s.committed p (s.position p) }
  | .restart p => some { s with
      position := Function.update s.position p (s.committed p)
      failures := Function.update s.failures p 0 }

/-- **What a step does**, by its event, with what it needs. -/
inductive Does (partition : String → ℕ) (s : Consumer) : Event → Consumer → Prop
  | publish {p : ℕ} {value : Option TaxpayerUpdatedEvent}
      (hkey : ∀ event ∈ value, partition event.aggregateId = p) :
      Does partition s (.publish p value)
        { s with log := Function.update s.log p (s.log p ++ [value]) }
  | applied {p : ℕ} {event : TaxpayerUpdatedEvent} {broker : Bool} {d : TaxpayerReadModel}
      (hrecord : (s.log p)[s.position p]? = some (some event))
      (hd : onEvent (s.documents event.aggregateId) event = .ok d) :
      Does partition s (.deliver p .up broker) ((s.save d).past p)
  | saved {p n : ℕ} {event : TaxpayerUpdatedEvent} {broker : Bool} {d : TaxpayerReadModel}
      (hrecord : (s.log p)[s.position p]? = some (some event))
      (hd : onEvent (s.documents event.aggregateId) event = .ok d) :
      Does partition s (.deliver p .lost broker) ((s.save d).setFailures p n)
  | failed {p n : ℕ} {store : Store} {broker : Bool} :
      Does partition s (.deliver p store broker) (s.setFailures p n)
  | deadLettered {p : ℕ} {store : Store} {broker : Bool}
      (hrecord : (s.log p)[s.position p]? = some none) :
      Does partition s (.deliver p store broker)
        { s.past p with deadLetters := (p, s.position p) :: s.deadLetters }
  | commit {p : ℕ} : Does partition s (.commit p)
      { s with committed := Function.update s.committed p (s.position p) }
  | restart {p : ℕ} : Does partition s (.restart p)
      { s with
        position := Function.update s.position p (s.committed p)
        failures := Function.update s.failures p 0 }

variable {K} {partition : String → ℕ} {s t : Consumer} {p : ℕ}

/-- An event that fails is delivered again. -/
theorem handleError_some (s : Consumer) (p : ℕ) (event : TaxpayerUpdatedEvent) (broker : Bool) :
    ∃ n, s.handleError K p (some event) broker = s.setFailures p n := by
  unfold handleError
  split_ifs with hretry hwrites
  · exact ⟨_, rfl⟩
  · rw [K.not_writes] at hwrites
    cases hwrites
  · exact ⟨_, rfl⟩

/-- What no event comes of is put aside, or delivered again. -/
theorem handleError_none (s : Consumer) (p : ℕ) (broker : Bool) :
    s.handleError K p none broker = if broker then
        { s.past p with deadLetters := (p, s.position p) :: s.deadLetters }
      else s.setFailures p 0 := by
  have hretries : ¬ (K.retries none = true ∧ s.failures p < MAX_RETRIES) := fun h => by
    rw [K.not_retries] at h
    cases h.1
  rw [handleError, if_neg hretries, K.writes_bytes, Bool.true_and]

theorem listen_eq_some {value : Option TaxpayerUpdatedEvent} {d : TaxpayerReadModel} :
    s.listen value = some d
      ↔ ∃ event, value = some event ∧ onEvent (s.documents event.aggregateId) event = .ok d := by
  rw [listen, Option.bind_eq_some_iff]
  simp only [toOption_eq_some_iff]

theorem does_of_step {e : Event} (h : step K partition s e = some t) : Does partition s e t := by
  cases e with
  | publish p value =>
    rw [step] at h
    split_ifs at h with hkey
    obtain rfl := Option.some.inj h
    exact .publish hkey
  | deliver p store broker =>
    rw [step] at h
    split at h
    · cases h
    · rename_i value hrecord
      have hfailed :
          Does partition s (.deliver p store broker) (s.handleError K p value broker) := by
        cases value with
        | some event =>
          obtain ⟨n, hn⟩ := s.handleError_some (K := K) p event broker
          rw [hn]
          exact .failed
        | none =>
          rw [handleError_none]
          split_ifs
          · exact .deadLettered hrecord
          · exact .failed
      split at h
      · rename_i d hd
        obtain rfl := Option.some.inj h
        obtain ⟨event, rfl, hevent⟩ := listen_eq_some.mp hd
        exact .applied hrecord hevent
      · rename_i d hd
        obtain rfl := Option.some.inj h
        obtain ⟨event, rfl, hevent⟩ := listen_eq_some.mp hd
        obtain ⟨n, hn⟩ := (s.save d).handleError_some (K := K) p event broker
        rw [hn]
        exact .saved hrecord hevent
      · obtain rfl := Option.some.inj h
        exact hfailed
  | commit p =>
    obtain rfl := Option.some.inj h
    exact .commit
  | restart p =>
    obtain rfl := Option.some.inj h
    exact .restart

/-! ## What the group has done -/

/-- **What a group has done**, of each partition, below the offset it delivers next. -/
structure Consumed (partition : String → ℕ) (s : Consumer) : Prop where
  keyed : ∀ p event, some event ∈ s.log p → partition event.aggregateId = p
  within : ∀ p, s.committed p ≤ s.position p ∧ s.position p ≤ (s.log p).length
  /-- a dead letter is no event -/
  dead : ∀ p i, (p, i) ∈ s.deadLetters → (s.log p)[i]? = some none
  /-- what is no event is a dead letter -/
  aside : ∀ p i, i < s.position p → (s.log p)[i]? = some none → (p, i) ∈ s.deadLetters
  /-- an event has its document -/
  accepted : ∀ p i event, i < s.position p → (s.log p)[i]? = some (some event) →
    ¬ Java.IsBlank event.aggregateId ∧ (s.documents event.aggregateId).isSome
  /-- a document shows an event of its taxpayer, and the group is past none after it -/
  shows : ∀ id d, s.documents id = some d → d.id = id ∧ ∃ k event,
    (s.log (partition id))[k]? = some (some event) ∧ event.aggregateId = id ∧ d.Shows event
      ∧ ∀ j event', k < j → j < s.position (partition id) →
        (s.log (partition id))[j]? = some (some event') → event'.aggregateId ≠ id

theorem consumed_start : start.Consumed partition where
  keyed _ _ h := by cases h
  within _ := ⟨le_rfl, le_rfl⟩
  dead _ _ h := by cases h
  aside _ _ h := absurd h (Nat.not_lt_zero _)
  accepted _ _ _ h := absurd h (Nat.not_lt_zero _)
  shows _ _ h := by cases h

theorem documents_save (s : Consumer) (d : TaxpayerReadModel) (id : String) :
    (s.save d).documents id = if id = d.id then some d else s.documents id :=
  Function.update_apply ..

theorem position_past (s : Consumer) (p q : ℕ) :
    (s.past p).position q = if q = p then s.position p + 1 else s.position q :=
  Function.update_apply ..

theorem lt_position_past {q i : ℕ} :
    i < (s.past p).position q ↔ i < s.position q ∨ (q = p ∧ i = s.position p) := by
  rw [position_past]
  split_ifs with hq
  · subst hq
    rw [Nat.lt_succ_iff_lt_or_eq, and_iff_right rfl]
  · simp [hq]

/-- What is published comes after everything else. -/
theorem getElem?_publish (s : Consumer) (p : ℕ) (value : Option TaxpayerUpdatedEvent) {q i : ℕ}
    (hi : i < (s.log q).length) :
    (Function.update s.log p (s.log p ++ [value]) q)[i]? = (s.log q)[i]? := by
  by_cases hq : q = p
  · subst hq
    rw [Function.update_self, List.getElem?_append_left hi]
  · rw [Function.update_of_ne hq]

/-- **The document of an event** is its aggregate's. -/
theorem Consumed.id_eq (hs : s.Consumed partition) {event : TaxpayerUpdatedEvent}
    {d : TaxpayerReadModel} (hd : onEvent (s.documents event.aggregateId) event = .ok d) :
    d.id = event.aggregateId := by
  obtain ⟨-, hfound, hnone⟩ := onEvent_eq_ok hd
  cases hdocument : s.documents event.aggregateId with
  | none => exact (hnone hdocument).1
  | some document => exact (hfound document hdocument).1.trans (hs.shows _ _ hdocument).1

theorem Consumed.publish (hs : s.Consumed partition) {value : Option TaxpayerUpdatedEvent}
    (hkey : ∀ event ∈ value, partition event.aggregateId = p) :
    Consumed partition { s with log := Function.update s.log p (s.log p ++ [value]) } where
  keyed q event h := by
    by_cases hq : q = p
    · subst hq
      dsimp only at h
      rw [Function.update_self, List.mem_append, List.mem_singleton] at h
      exact h.elim (hs.keyed q event) fun h => hkey event h.symm
    · dsimp only at h
      rw [Function.update_of_ne hq] at h
      exact hs.keyed q event h
  within q := by
    refine ⟨(hs.within q).1, (hs.within q).2.trans ?_⟩
    by_cases hq : q = p
    · subst hq
      simp
    · simp [Function.update_of_ne hq]
  dead q i h := by
    have hrecord := hs.dead q i h
    rwa [← s.getElem?_publish p value (List.getElem?_eq_some_iff.mp hrecord).1] at hrecord
  aside q i hi h := by
    dsimp only at h
    rw [s.getElem?_publish p value (hi.trans_le (hs.within q).2)] at h
    exact hs.aside q i hi h
  accepted q i event hi h := by
    dsimp only at h
    rw [s.getElem?_publish p value (hi.trans_le (hs.within q).2)] at h
    exact hs.accepted q i event hi h
  shows id d h := by
    obtain ⟨hid, k, event, hk, hevent, hshows, hlast⟩ := hs.shows id d h
    refine ⟨hid, k, event, ?_, hevent, hshows, fun j event' hkj hj h' => ?_⟩
    · rwa [← s.getElem?_publish p value (List.getElem?_eq_some_iff.mp hk).1] at hk
    · dsimp only at h'
      rw [s.getElem?_publish p value (hj.trans_le (hs.within _).2)] at h'
      exact hlast j event' hkj hj h'

/-- **A document is saved** of the event that is delivered. -/
theorem Consumed.save (hs : s.Consumed partition) {event : TaxpayerUpdatedEvent}
    {d : TaxpayerReadModel} (hrecord : (s.log p)[s.position p]? = some (some event))
    (hd : onEvent (s.documents event.aggregateId) event = .ok d) :
    (s.save d).Consumed partition where
  keyed := hs.keyed
  within := hs.within
  dead := hs.dead
  aside := hs.aside
  accepted q i event' hi h := by
    obtain ⟨hblank, hsome⟩ := hs.accepted q i event' hi h
    refine ⟨hblank, ?_⟩
    rw [documents_save]
    split_ifs
    · rfl
    · exact hsome
  shows id d' h := by
    rw [documents_save] at h
    split_ifs at h with hid
    · obtain rfl := Option.some.inj h
      obtain rfl := hid
      have hown := hs.id_eq hd
      have hp : partition d.id = p := by
        rw [hown]
        exact hs.keyed p event (List.mem_of_getElem? hrecord)
      refine ⟨rfl, s.position p, event, ?_, hown.symm, (onEvent_eq_ok hd).1,
        fun j event' hkj hj => ?_⟩
      · rw [hp]
        exact hrecord
      · rw [hp] at hj
        exact absurd hj hkj.not_gt
    · exact hs.shows id d' h

/-- **The group moves past a record**: a dead letter, or an event whose document is saved. -/
theorem Consumed.past (hs : s.Consumed partition) {value : Option TaxpayerUpdatedEvent}
    (hrecord : (s.log p)[s.position p]? = some value)
    (hnone : value = none → (p, s.position p) ∈ s.deadLetters)
    (hsome : ∀ event, value = some event → ∃ d, s.documents event.aggregateId = some d
      ∧ d.Shows event) : (s.past p).Consumed partition where
  keyed := hs.keyed
  within q := by
    rw [position_past]
    split_ifs with hq
    · subst hq
      exact ⟨(hs.within q).1.trans (Nat.le_succ _), (List.getElem?_eq_some_iff.mp hrecord).1⟩
    · exact hs.within q
  dead := hs.dead
  aside q i hi h := by
    rcases lt_position_past.mp hi with hi | ⟨rfl, rfl⟩
    · exact hs.aside q i hi h
    · exact hnone (Option.some.inj (hrecord.symm.trans h))
  accepted q i event hi h := by
    rcases lt_position_past.mp hi with hi | ⟨rfl, rfl⟩
    · exact hs.accepted q i event hi h
    · obtain ⟨d, hd, -⟩ := hsome event (Option.some.inj (hrecord.symm.trans h))
      refine ⟨?_, hd ▸ rfl⟩
      rw [← (hs.shows _ d hd).1]
      exact d.id_notBlank
  shows id d hd := by
    obtain ⟨hid, k, event, hk, hevent, hshows, hlast⟩ := hs.shows id d hd
    by_cases hpast : ∃ event', value = some event' ∧ event'.aggregateId = id
    · obtain ⟨event', rfl, rfl⟩ := hpast
      obtain ⟨d', hd', hshows'⟩ := hsome event' rfl
      obtain rfl := Option.some.inj (hd.symm.trans hd')
      have hp := hs.keyed p event' (List.mem_of_getElem? hrecord)
      refine ⟨hid, s.position p, event', ?_, rfl, hshows', fun j event'' hkj hj => ?_⟩
      · rw [hp]
        exact hrecord
      · rw [hp] at hj
        rcases lt_position_past.mp hj with hj | ⟨-, rfl⟩
        · exact absurd hj hkj.not_gt
        · exact absurd hkj (lt_irrefl _)
    · refine ⟨hid, k, event, hk, hevent, hshows, fun j event' hkj hj h => ?_⟩
      rcases lt_position_past.mp hj with hj | ⟨hp, rfl⟩
      · exact hlast j event' hkj hj h
      · intro hown
        have hrecord' : (s.log (partition id))[s.position p]? = some (some event') := h
        rw [hp] at hrecord'
        exact hpast ⟨event', Option.some.inj (hrecord.symm.trans hrecord'), hown⟩

theorem Consumed.step (hs : s.Consumed partition) {e : Event}
    (h : step K partition s e = some t) : t.Consumed partition := by
  cases does_of_step h with
  | publish hkey => exact hs.publish hkey
  | applied hrecord hd =>
    refine (hs.save hrecord hd).past hrecord (fun h => by cases h) fun event' heq => ?_
    obtain rfl := Option.some.inj heq
    refine ⟨_, ?_, (onEvent_eq_ok hd).1⟩
    rw [documents_save, if_pos (hs.id_eq hd).symm]
  | saved hrecord hd =>
    have hsaved := hs.save hrecord hd
    exact ⟨hsaved.keyed, hsaved.within, hsaved.dead, hsaved.aside, hsaved.accepted, hsaved.shows⟩
  | failed => exact ⟨hs.keyed, hs.within, hs.dead, hs.aside, hs.accepted, hs.shows⟩
  | @deadLettered p _ _ hrecord =>
    have hdead : Consumed partition { s with deadLetters := (p, s.position p) :: s.deadLetters } :=
      ⟨hs.keyed, hs.within, fun q i hmem => by
        rcases List.mem_cons.mp hmem with heq | hmem
        · obtain ⟨rfl, rfl⟩ := Prod.mk.inj heq
          exact hrecord
        · exact hs.dead q i hmem,
        fun q i hi hnone => List.mem_cons_of_mem _ (hs.aside q i hi hnone), hs.accepted, hs.shows⟩
    exact hdead.past hrecord (fun _ => List.mem_cons_self) fun event h => by cases h
  | @commit p =>
    refine ⟨hs.keyed, fun q => ⟨?_, (hs.within q).2⟩, hs.dead, hs.aside, hs.accepted, hs.shows⟩
    dsimp only
    rw [Function.update_apply]
    split_ifs with hq
    · rw [hq]
    · exact (hs.within q).1
  | @restart p =>
    have hle : ∀ q, Function.update s.position p (s.committed p) q ≤ s.position q := by
      intro q
      rw [Function.update_apply]
      split_ifs with hq
      · rw [hq]
        exact (hs.within p).1
      · exact le_rfl
    refine ⟨hs.keyed, fun q => ⟨?_, (hle q).trans (hs.within q).2⟩, hs.dead,
      fun q i hi => hs.aside q i (hi.trans_le (hle q)),
      fun q i event hi => hs.accepted q i event (hi.trans_le (hle q)), fun id d hd => ?_⟩
    · dsimp only
      rw [Function.update_apply]
      split_ifs with hq
      · rw [hq]
      · exact (hs.within q).1
    · obtain ⟨hid, k, event, hk, hevent, hshows, hlast⟩ := hs.shows id d hd
      exact ⟨hid, k, event, hk, hevent, hshows, fun j event' hkj hj =>
        hlast j event' hkj (hj.trans_le (hle _))⟩

/-! ## Whether it catches up -/

/-- **A record that is delivered** while all is well is done with. -/
theorem deliver_up {value : Option TaxpayerUpdatedEvent}
    (hrecord : (s.log p)[s.position p]? = some value)
    (hblank : ∀ event ∈ value, ¬ Java.IsBlank event.aggregateId) :
    ∃ t, step K partition s (.deliver p .up true) = some t ∧ t.log = s.log
      ∧ t.position p = s.position p + 1 := by
  cases value with
  | none =>
    refine ⟨{ s.past p with deadLetters := (p, s.position p) :: s.deadLetters }, ?_, rfl,
      Function.update_self ..⟩
    rw [step, hrecord]
    exact congrArg some (s.handleError_none p true)
  | some event =>
    cases hd : onEvent (s.documents event.aggregateId) event with
    | error e => exact absurd hd (onEvent_ne_error (hblank event rfl) e)
    | ok d =>
      have hlisten : s.listen (some event) = some d := listen_eq_some.mpr ⟨event, rfl, hd⟩
      refine ⟨(s.save d).past p, ?_, rfl, Function.update_self ..⟩
      rw [step, hrecord]
      simp only [hlisten]

theorem catches_up (hblank : ∀ event, some event ∈ s.log p → ¬ Java.IsBlank event.aggregateId)
    {n : ℕ} (hn : s.position p + n = (s.log p).length) :
    ∃ t, exec (step K partition) s (List.replicate n (.deliver p .up true)) = some t
      ∧ t.log = s.log ∧ t.position p = (s.log p).length := by
  induction n generalizing s with
  | zero => exact ⟨s, rfl, rfl, hn⟩
  | succ n ih =>
    have hlt : s.position p < (s.log p).length := by omega
    have hrecord := List.getElem?_eq_getElem hlt
    have hdelivered : ∃ t, step K partition s (.deliver p .up true) = some t ∧ t.log = s.log
        ∧ t.position p = s.position p + 1 :=
      deliver_up hrecord fun event hevent => hblank event
        (List.mem_of_getElem? (hrecord.trans (congrArg some (Option.mem_def.mp hevent))))
    obtain ⟨t, ht, hlog, hposition⟩ := hdelivered
    obtain ⟨r, hr, hrlog, hrposition⟩ := ih (s := t) (by rwa [hlog]) (by rw [hlog]; omega)
    refine ⟨r, exec_cons_eq_some.mpr ⟨t, ht, hr⟩, hrlog.trans hlog, ?_⟩
    rw [hrposition, hlog]

/-- **No event is passed over, and nothing but an event of a blank id holds a partition up**: in
every run the documents show what the group is past, what is put aside is no event, and, all being
well, a partition is caught up with exactly if no event on it is of a blank id. -/
theorem consumed_exec {events : List Event}
    (h : exec (step K partition) start events = some s) :
    s.Consumed partition ∧ ∀ p,
      (∃ t, exec (step K partition) s
          (List.replicate ((s.log p).length - s.position p) (.deliver p .up true)) = some t
        ∧ t.log = s.log ∧ t.position p = (s.log p).length)
        ↔ ∀ event, some event ∈ s.log p → ¬ Java.IsBlank event.aggregateId := by
  have hstep {s t : Consumer} {e : Event} (hs : s.Consumed partition)
      (h : step K partition s e = some t) : t.Consumed partition := hs.step h
  have hs : s.Consumed partition := exec_invariant hstep consumed_start h
  refine ⟨hs, fun p => ⟨?_, fun hblank => ?_⟩⟩
  · rintro ⟨t, ht, hlog, hposition⟩ event hevent
    have hsound : t.Consumed partition := exec_invariant hstep hs ht
    obtain ⟨i, hi, hrecord⟩ := List.getElem_of_mem hevent
    refine (hsound.accepted p i event (hposition ▸ hi) ?_).1
    rw [hlog, List.getElem?_eq_getElem hi, hrecord]
  · exact catches_up hblank (Nat.add_sub_cancel' (hs.within p).2)

/-- What is no event is not tried again, and is all that is written. -/
def docsKafka : SpringKafka := ⟨Option.isSome, Option.isNone, rfl, rfl, fun _ => rfl⟩

/-- An event, then what does not deserialize, then an event of a blank id. -/
def docsEvents : List Event :=
  [.publish 0 (some ⟨"tp-1", "Ada", "SINGLE", "federal", 0⟩), .publish 0 none,
    .publish 0 (some ⟨"", "Bob", "SINGLE", "federal", 0⟩), .deliver 0 .lost true,
    .deliver 0 .up true, .deliver 0 .up false, .restart 0, .deliver 0 .up true,
    .deliver 0 .up true, .commit 0, .deliver 0 .up true]

/-- It is past the first two, and stays at the third. -/
theorem consumed_docsEvents : ∃ s, exec (step docsKafka fun _ => 0) start docsEvents = some s
    ∧ s.position 0 = 2 ∧ s.deadLetters = [(0, 1)] ∧ s.Consumed (fun _ => 0)
    ∧ ¬ ∃ t, exec (step docsKafka fun _ => 0) s
        (List.replicate ((s.log 0).length - s.position 0) (.deliver 0 .up true)) = some t
      ∧ t.log = s.log ∧ t.position 0 = (s.log 0).length := by
  have hrun : (exec (step docsKafka fun _ => 0) start docsEvents).isSome := by decide
  obtain ⟨s, hs⟩ := Option.isSome_iff_exists.mp hrun
  have hlook : (exec (step docsKafka fun _ => 0) start docsEvents).map
      (fun s => (s.position 0, s.deadLetters, s.log 0)) = some (2, [(0, 1)],
        [some ⟨"tp-1", "Ada", "SINGLE", "federal", 0⟩, none,
          some ⟨"", "Bob", "SINGLE", "federal", 0⟩]) := by decide
  rw [hs, Option.map_some, Option.some.injEq, Prod.mk.injEq, Prod.mk.injEq] at hlook
  obtain ⟨hposition, hdead, hlog⟩ := hlook
  have hsound := consumed_exec hs
  refine ⟨s, hs, hposition, hdead, hsound.1, fun hcaught => ?_⟩
  have hblank := (hsound.2 0).mp hcaught
  rw [hlog] at hblank
  exact hblank ⟨"", "Bob", "SINGLE", "federal", 0⟩ (by decide) (by decide)

end Consumer

end ReadModel
