import TaxLiability.ReadModel.Tenancy

/-!
# ReadModel/ReadThrough — what a read answers after a write

    create, computeLiability, onEvent ──▸ Mongo ──findById──▸ cache ──▸ answer

Writes go past the cache, and no write evicts.  Reads follow the writes exactly along the runs in
which no write meets an entry of its taxpayer that shows other values, and no call leaves a document
in Mongo that its transaction takes back (`follows_iff`).
-/

open Machine Service

namespace ReadModel

/-- **Two documents show the same** name, filing status, jurisdiction and tenant. -/
def TaxpayerReadModel.Agrees (d e : TaxpayerReadModel) : Prop :=
  d.displayName = e.displayName ∧ d.filingStatus = e.filingStatus
    ∧ d.homeJurisdiction = e.homeJurisdiction ∧ d.tenantId = e.tenantId

instance (d e : TaxpayerReadModel) : Decidable (d.Agrees e) := inferInstanceAs (Decidable (_ ∧ _))

theorem TaxpayerReadModel.Agrees.refl (d : TaxpayerReadModel) : d.Agrees d := ⟨rfl, rfl, rfl, rfl⟩

/-- **The stores under reads**, with the document of each taxpayer's latest write that has
returned, and the bodies `create` has answered with, each with the document it wrote. -/
structure ReadThrough where
  stores : Stores
  latest : String → Option TaxpayerReadModel
  created : List (TaxpayerReadModel × TaxpayerReadModel)

namespace ReadThrough

/-- What happens next, and where a call breaks. -/
inductive Op
  | create (claim : Option String) (request : CreateTaxpayerRequest) (createdAt : Java.Instant)
      (rowId : String) (occurredAt : Java.Instant) (breaks : Breaks)
  | computeLiability (call : ComputeLiability) (createdAt : Java.Instant) (rowId : String)
      (occurredAt : Java.Instant) (breaks : Breaks)
  /-- the listener handles an event, for the first time or again -/
  | onEvent (event : TaxpayerUpdatedEvent)
  | findById (id : String)
  /-- the entry of `id` comes to the end of its time -/
  | expire (id : String)
  deriving DecidableEq

def start : ReadThrough := ⟨.start, fun _ => none, []⟩

/-! ## The step -/

/-- A write that returns. -/
def wrote (s : ReadThrough) (w : Write) : ReadThrough :=
  { s with
    stores := s.stores.write w
    latest := Function.update s.latest w.document.id (some w.document) }

/-- The listener's save. -/
def projected (s : ReadThrough) (d : TaxpayerReadModel) : ReadThrough :=
  { s with stores := s.stores.save d, latest := Function.update s.latest d.id (some d) }

/-- **`create`** answers with what `findById` finds after the write. -/
def answer (s : ReadThrough) (w : Write) (id : String) : ReadThrough :=
  match s.stores.findById id with
  | .ok (some body) =>
    { s with stores := s.stores.read id, created := (body, w.document) :: s.created }
  | _ => s

variable (bracketResolver : BracketResolver)

/-- **One operation.**  A call that does not commit throws, and is answered with no document. -/
def step (s : ReadThrough) : Op → Option ReadThrough
  | .create claim request createdAt rowId occurredAt breaks =>
    match ReadModel.computeLiability bracketResolver (request.call claim) createdAt rowId
        occurredAt with
    | .ok w =>
      if Commits (request.call claim) breaks then some ((s.wrote w).answer w request.id)
      else some { s with stores := s.stores.fail w breaks }
    | .error _ => some s
  | .computeLiability call createdAt rowId occurredAt breaks =>
    match ReadModel.computeLiability bracketResolver call createdAt rowId occurredAt with
    | .ok w =>
      if Commits call breaks then some (s.wrote w)
      else some { s with stores := s.stores.fail w breaks }
    | .error _ => some s
  | .onEvent event =>
    if event ∈ s.stores.events then
      match ReadModel.onEvent (s.stores.mongo event.aggregateId) event with
      | .ok d => some (s.projected d)
      | .error _ => some s
    else none
  | .findById id => some { s with stores := s.stores.read id }
  | .expire id => some { s with
      stores := { s.stores with cache := Function.update s.stores.cache id none } }

/-! ## The property and the condition -/

/-- A `findById` that starts now answers with a document that shows what `d` does. -/
def Answers (s : Stores) (id : String) (d : TaxpayerReadModel) : Prop :=
  ∃ d', s.findById id = .ok (some d') ∧ d'.Agrees d

/-- **Reads follow writes**: a `findById` that starts now answers with the latest write, be it
before the entry of the cache expires or after, and so has every `create`. -/
structure Follows (s : ReadThrough) : Prop where
  cached : ∀ id d, s.latest id = some d → Answers s.stores id d
  expired : ∀ id d, s.latest id = some d →
    Answers { s.stores with cache := Function.update s.stores.cache id none } id d
  created : ∀ x ∈ s.created, x.1.Agrees x.2

/-- The cache has no entry of the document's taxpayer, or one that shows the same. -/
def Meets (s : ReadThrough) (d : TaxpayerReadModel) : Prop := ∀ c ∈ s.stores.cache d.id, c.Agrees d

instance (s : ReadThrough) (d : TaxpayerReadModel) : Decidable (s.Meets d) :=
  inferInstanceAs (Decidable (∀ c ∈ s.stores.cache d.id, _))

/-- **The document of a call can be followed**: the call commits and meets no cache entry of its
taxpayer that shows anything else, or it breaks before its document is in Mongo, or the document
shows what the latest write did. -/
def Lets (s : ReadThrough) (call : ComputeLiability) (breaks : Breaks) (d : TaxpayerReadModel) :
    Prop :=
  if Commits call breaks then s.Meets d
  else ¬ breaks.BeforeDocument → ∀ e ∈ s.latest call.id, d.Agrees e

instance (s : ReadThrough) (call : ComputeLiability) (breaks : Breaks) (d : TaxpayerReadModel) :
    Decidable (s.Lets call breaks d) :=
  inferInstanceAs (Decidable (if Commits call breaks then s.Meets d
    else ¬ breaks.BeforeDocument → ∀ e ∈ s.latest call.id, _))

/-- **The operations reads can follow.** -/
def Keeps (s : ReadThrough) : Op → Prop
  | .create claim request createdAt rowId occurredAt breaks =>
    ∀ w, ReadModel.computeLiability bracketResolver (request.call claim) createdAt rowId
      occurredAt = .ok w → s.Lets (request.call claim) breaks w.document
  | .computeLiability call createdAt rowId occurredAt breaks =>
    ∀ w, ReadModel.computeLiability bracketResolver call createdAt rowId occurredAt = .ok w →
      s.Lets call breaks w.document
  | .onEvent event =>
    ∀ d, ReadModel.onEvent (s.stores.mongo event.aggregateId) event = .ok d → s.Meets d
  | .findById _ | .expire _ => True

instance (s : ReadThrough) : (op : Op) → Decidable (s.Keeps bracketResolver op)
  | .create .. => decidableForallEqOk _ _
  | .computeLiability .. => decidableForallEqOk _ _
  | .onEvent _ => decidableForallEqOk _ _
  | .findById _ | .expire _ => isTrue trivial

/-! ## What a read finds -/

theorem findById_of_cached {s : Stores} {id : String} {c : TaxpayerReadModel}
    (h : s.cache id = some c) : s.findById id = .ok (some c) := by
  simp [Stores.findById, h]

theorem findById_of_stored {s : Stores} {id : String} {m : TaxpayerReadModel}
    (hc : s.cache id = none) (hm : s.mongo id = some m) : s.findById id = .ok (some m) := by
  simp [Stores.findById, hc, hm]

theorem answers_iff {s : Stores} {id : String} {d e : TaxpayerReadModel}
    (h : s.findById id = .ok (some e)) : Answers s id d ↔ e.Agrees d := by
  constructor
  · rintro ⟨d', hd', hagrees⟩
    cases h.symm.trans hd'
    exact hagrees
  · exact fun hagrees => ⟨e, h, hagrees⟩

/-- A read changes the cache alone. -/
theorem read_mongo (s : Stores) (id : String) : (s.read id).mongo = s.mongo := by
  unfold Stores.read
  split
  · exact Stores.showDocument_mongo _ _ _
  · rfl

theorem read_cache {s : Stores} {id : String} {d : TaxpayerReadModel}
    (h : s.findById id = .ok (some d)) :
    (s.read id).cache = Function.update s.cache id (some d) := by
  simp only [Stores.read, h]
  exact Stores.showDocument_cache _ _ _

theorem read_of_notFound {s : Stores} {id : String} (h : ∀ d, s.findById id ≠ .ok (some d)) :
    s.read id = s := by
  unfold Stores.read
  split
  · next d hd => exact absurd hd (h d)
  · rfl

/-! ## The invariant -/

/-- A document is under its id, and a taxpayer written has one. -/
structure Tidy (s : ReadThrough) : Prop where
  mongo_id : ∀ id m, s.stores.mongo id = some m → m.id = id
  written : ∀ id d, s.latest id = some d → ∃ m, s.stores.mongo id = some m

/-- **What the cache and Mongo hold shows the latest write.** -/
def Shows (s : ReadThrough) : Prop :=
  ∀ id d, s.latest id = some d →
    (∀ c ∈ s.stores.cache id, c.Agrees d) ∧ ∀ m ∈ s.stores.mongo id, m.Agrees d

theorem tidy_start : start.Tidy := ⟨by rintro id m ⟨⟩, by rintro id d ⟨⟩⟩

theorem follows_start : start.Follows :=
  ⟨by rintro id d ⟨⟩, by rintro id d ⟨⟩, by rintro x ⟨⟩⟩

/-- **Reads follow** exactly if what they can come upon shows the latest write. -/
theorem Tidy.iff_shows {s : ReadThrough} (hs : s.Tidy) :
    s.Follows ↔ s.Shows ∧ ∀ x ∈ s.created, x.1.Agrees x.2 := by
  have hexpired : ∀ {id : String} {d m : TaxpayerReadModel}, s.stores.mongo id = some m →
      (Answers { s.stores with cache := Function.update s.stores.cache id none } id d
        ↔ m.Agrees d) :=
    fun hm => answers_iff (findById_of_stored (Function.update_self _ _ _) hm)
  constructor
  · intro hf
    refine ⟨fun id d hd => ⟨fun c hc => ?_, fun m hm => ?_⟩, hf.created⟩
    · exact (answers_iff (findById_of_cached hc)).mp (hf.cached id d hd)
    · exact (hexpired hm).mp (hf.expired id d hd)
  · rintro ⟨hshows, hcreated⟩
    refine ⟨fun id d hd => ?_, fun id d hd => ?_, hcreated⟩
    · obtain ⟨m, hm⟩ := hs.written id d hd
      cases hc : s.stores.cache id with
      | some c => exact (answers_iff (findById_of_cached hc)).mpr ((hshows id d hd).1 c hc)
      | none => exact (answers_iff (findById_of_stored hc hm)).mpr ((hshows id d hd).2 m hm)
    · obtain ⟨m, hm⟩ := hs.written id d hd
      exact (hexpired hm).mpr ((hshows id d hd).2 m hm)

section Write

variable {s t : ReadThrough} {d : TaxpayerReadModel}
  (hm : t.stores.mongo = Function.update s.stores.mongo d.id (some d))

include hm

/-- **A document saved** leaves the stores tidy, be it of the latest write or not. -/
theorem Tidy.saved (hs : s.Tidy)
    (hl : ∀ id e, t.latest id = some e → id = d.id ∨ s.latest id = some e) : t.Tidy where
  mongo_id := by
    intro id m h
    rw [hm] at h
    obtain ⟨hid, hd⟩ | ⟨-, hmongo⟩ := update_eq_some_iff.mp h
    · cases hd
      exact hid.symm
    · exact hs.mongo_id id m hmongo
  written := by
    intro id e h
    rw [hm]
    by_cases hid : id = d.id
    · subst hid
      exact ⟨d, Function.update_self _ _ _⟩
    · rw [Function.update_of_ne hid]
      exact hs.written id e ((hl id e h).resolve_left hid)

/-- **A write that returns** is shown exactly if it meets no entry that shows anything else. -/
theorem Shows.wrote_iff (hs : s.Shows) (hl : t.latest = Function.update s.latest d.id (some d))
    (hc : t.stores.cache = s.stores.cache) : t.Shows ↔ s.Meets d := by
  constructor
  · intro ht c hcached
    exact (ht d.id d (by rw [hl, Function.update_self])).1 c (hc ▸ hcached)
  · intro hmeets id e h
    rw [hl] at h
    rw [hc, hm]
    obtain ⟨hid, he⟩ | ⟨hid, hlatest⟩ := update_eq_some_iff.mp h
    · cases he
      rw [hid, Function.update_self]
      exact ⟨hmeets, by rintro m ⟨⟩; exact .refl d⟩
    · rw [Function.update_of_ne hid]
      exact hs id e hlatest

/-- **A write taken back** does not show exactly if its document shows what the latest write
did. -/
theorem Shows.left_iff (hs : s.Shows) (hl : t.latest = s.latest)
    (hc : t.stores.cache = s.stores.cache) : t.Shows ↔ ∀ e ∈ s.latest d.id, d.Agrees e := by
  constructor
  · intro ht e he
    exact (ht d.id e (hl ▸ he)).2 d (by rw [hm]; exact Function.update_self _ _ _)
  · intro hd id e h
    rw [hl] at h
    rw [hc, hm]
    refine ⟨(hs id e h).1, fun m hmem => ?_⟩
    obtain ⟨hid, hdm⟩ | ⟨-, hmongo⟩ := update_eq_some_iff.mp hmem
    · cases hdm
      exact hd e (hid ▸ h)
    · exact (hs id e h).2 m hmongo

/-- **After a write that returns** reads follow exactly if it met no entry that shows anything
else. -/
theorem Tidy.wrote_follows (hs : s.Tidy) (hl : t.latest = Function.update s.latest d.id (some d))
    (hc : t.stores.cache = s.stores.cache) (hcreated : t.created = s.created) :
    t.Tidy ∧ (s.Follows → (t.Follows ↔ s.Meets d)) := by
  have ht : t.Tidy := Tidy.saved hm hs fun id e h => by
    rw [hl] at h
    exact (update_eq_some_iff.mp h).imp And.left And.right
  refine ⟨ht, fun hf => ?_⟩
  obtain ⟨hshows, hbodies⟩ := hs.iff_shows.mp hf
  rw [ht.iff_shows, hcreated, Shows.wrote_iff hm hshows hl hc]
  exact and_iff_left hbodies

/-- **After a write taken back** reads follow exactly if its document shows what the latest write
did. -/
theorem Tidy.left_follows (hs : s.Tidy) (hl : t.latest = s.latest)
    (hc : t.stores.cache = s.stores.cache) (hcreated : t.created = s.created) :
    t.Tidy ∧ (s.Follows → (t.Follows ↔ ∀ e ∈ s.latest d.id, d.Agrees e)) := by
  have ht : t.Tidy := Tidy.saved hm hs fun id e h => .inr (hl ▸ h)
  refine ⟨ht, fun hf => ?_⟩
  obtain ⟨hshows, hbodies⟩ := hs.iff_shows.mp hf
  rw [ht.iff_shows, hcreated, Shows.left_iff hm hshows hl hc]
  exact and_iff_left hbodies

end Write

/-- **A read changes nothing of what is shown.** -/
theorem Tidy.shows_read {s t : ReadThrough} (hs : s.Tidy) {id : String} (hl : t.latest = s.latest)
    (ht : t.stores = s.stores.read id) : t.Tidy ∧ (t.Shows ↔ s.Shows) := by
  have htidy : t.Tidy := by
    refine ⟨fun j m h => ?_, fun j d h => ?_⟩
    · rw [ht, read_mongo] at h
      exact hs.mongo_id j m h
    · rw [hl] at h
      rw [ht, read_mongo]
      exact hs.written j d h
  refine ⟨htidy, ?_⟩
  by_cases hfound : ∃ d, s.stores.findById id = .ok (some d)
  · obtain ⟨d, hd⟩ := hfound
    unfold Shows
    rw [hl, ht, read_mongo, read_cache hd]
    refine forall_congr' fun j => forall_congr' fun e => imp_congr_right fun he => ?_
    by_cases hj : j = id
    · subst hj
      rw [Function.update_self]
      obtain ⟨m, hm⟩ := hs.written j e he
      cases hc : s.stores.cache j with
      | some c =>
        cases (findById_of_cached hc).symm.trans hd
        rfl
      | none =>
        cases (findById_of_stored hc hm).symm.trans hd
        simp [hm]
    · rw [Function.update_of_ne hj]
  · rw [read_of_notFound (not_exists.mp hfound)] at ht
    unfold Shows
    rw [hl, ht]

/-- **An entry that expires** takes nothing from what reads follow. -/
theorem Tidy.expired {s : ReadThrough} (hs : s.Tidy) (id : String) :
    let t : ReadThrough := { s with stores := { s.stores with
      cache := Function.update s.stores.cache id none } }
    t.Tidy ∧ (s.Follows → t.Follows) := by
  intro t
  have ht : t.Tidy := ⟨hs.mongo_id, hs.written⟩
  refine ⟨ht, fun hf => ?_⟩
  obtain ⟨hshows, hbodies⟩ := hs.iff_shows.mp hf
  refine ht.iff_shows.mpr ⟨fun j d hd => ⟨fun c hc => ?_, (hshows j d hd).2⟩, hbodies⟩
  obtain ⟨-, hc⟩ | ⟨-, hc⟩ := update_eq_some_iff.mp hc
  · cases hc
  · exact (hshows j d hd).1 c hc

/-! ## One operation -/

@[simp] theorem wrote_mongo (s : ReadThrough) (w : Write) : (s.wrote w).stores.mongo
    = Function.update s.stores.mongo w.document.id (some w.document) :=
  Stores.showDocument_mongo _ _ _

@[simp] theorem wrote_cache (s : ReadThrough) (w : Write) :
    (s.wrote w).stores.cache = s.stores.cache := Stores.showDocument_cache _ _ _

@[simp] theorem projected_mongo (s : ReadThrough) (d : TaxpayerReadModel) :
    (s.projected d).stores.mongo = Function.update s.stores.mongo d.id (some d) :=
  Stores.showDocument_mongo _ _ _

@[simp] theorem projected_cache (s : ReadThrough) (d : TaxpayerReadModel) :
    (s.projected d).stores.cache = s.stores.cache := Stores.showDocument_cache _ _ _

theorem Tidy.wrote {s : ReadThrough} (hs : s.Tidy) (w : Write) : (s.wrote w).Tidy :=
  Tidy.saved (s.wrote_mongo w) hs fun _ _ h => (update_eq_some_iff.mp h).imp And.left And.right

/-- **What `create` answers with**: the entry of the cache if there is one, else what it wrote. -/
theorem findById_wrote (s : ReadThrough) (w : Write) :
    (s.wrote w).stores.findById w.document.id
      = .ok (some ((s.stores.cache w.document.id).getD w.document)) := by
  cases hc : s.stores.cache w.document.id with
  | some c =>
    rw [Option.getD_some]
    exact findById_of_cached (by rw [wrote_cache, hc])
  | none =>
    rw [Option.getD_none]
    exact findById_of_stored (by rw [wrote_cache, hc])
      (by rw [wrote_mongo, Function.update_self])

theorem answer_wrote (s : ReadThrough) (w : Write) :
    (s.wrote w).answer w w.document.id = { s.wrote w with
      stores := (s.wrote w).stores.read w.document.id
      created := ((s.stores.cache w.document.id).getD w.document, w.document) :: s.created } := by
  simp only [answer, findById_wrote]
  rfl

theorem Tidy.answer {s : ReadThrough} (hs : s.Tidy) (w : Write) :
    ((s.wrote w).answer w w.document.id).Tidy
      ∧ (((s.wrote w).answer w w.document.id).Shows ↔ (s.wrote w).Shows) := by
  rw [answer_wrote]
  exact (hs.wrote w).shows_read rfl rfl

/-- **A creation is followed** exactly if its write meets no entry that shows anything else: the
entry would be its answer. -/
theorem Tidy.follows_create {s : ReadThrough} (hs : s.Tidy) (hf : s.Follows) (w : Write) :
    ((s.wrote w).answer w w.document.id).Follows ↔ s.Meets w.document := by
  obtain ⟨hshows, hcreated⟩ := hs.iff_shows.mp hf
  obtain ⟨htidy, hread⟩ := hs.answer w
  have hbody : ((s.stores.cache w.document.id).getD w.document).Agrees w.document
      ↔ s.Meets w.document := by
    unfold Meets
    cases s.stores.cache w.document.id with
    | some c => simp
    | none => simp [TaxpayerReadModel.Agrees.refl]
  rw [htidy.iff_shows, hread, Shows.wrote_iff (s.wrote_mongo w) hshows rfl (s.wrote_cache w),
    answer_wrote, List.forall_mem_cons, hbody]
  exact ⟨And.left, fun h => ⟨h, h, hcreated⟩⟩

variable {bracketResolver}

/-- **A call that does not commit is followed** exactly if its document, where it is left, can
be. -/
theorem Tidy.follows_fail {s : ReadThrough} (hs : s.Tidy) {call : ComputeLiability}
    {createdAt occurredAt : Java.Instant} {rowId : String} {w : Write} {breaks : Breaks}
    (hw : ReadModel.computeLiability bracketResolver call createdAt rowId occurredAt = .ok w)
    (hcommits : ¬ Commits call breaks) :
    let t : ReadThrough := { s with stores := s.stores.fail w breaks }
    t.Tidy ∧ (s.Follows → (t.Follows ↔ s.Lets call breaks w.document)) := by
  intro t
  rw [Lets, if_neg hcommits]
  by_cases hbefore : breaks.BeforeDocument
  · have hsame : t = s := by
      simp only [t, Stores.fail, if_pos hbefore]
    rw [hsame]
    exact ⟨hs, fun hf => iff_of_true hf fun h => absurd hbefore h⟩
  · have hsave : t.stores = s.stores.save w.document := if_neg hbefore
    obtain ⟨htidy, hfollows⟩ := hs.left_follows (t := t) (d := w.document)
      (by rw [hsave]; exact Stores.showDocument_mongo _ _ _) rfl
      (by rw [hsave]; exact Stores.showDocument_cache _ _ _) rfl
    rw [(document_of_computeLiability hw).1] at hfollows
    exact ⟨htidy, fun hf => (hfollows hf).trans ⟨fun h _ => h, fun h => h hbefore⟩⟩

/-- **A call is followed** as its document can be, whatever its write comes to if it commits. -/
theorem Tidy.follows_call {s t u : ReadThrough} (hs : s.Tidy) {call : ComputeLiability}
    {createdAt occurredAt : Java.Instant} {rowId : String} {w : Write} {breaks : Breaks}
    (hw : ReadModel.computeLiability bracketResolver call createdAt rowId occurredAt = .ok w)
    (ht : t.Tidy ∧ (s.Follows → (t.Follows ↔ s.Meets w.document)))
    (h : (if Commits call breaks then some t
      else some { s with stores := s.stores.fail w breaks }) = some u) :
    u.Tidy ∧ (s.Follows → (u.Follows ↔ ∀ w', ReadModel.computeLiability bracketResolver call
      createdAt rowId occurredAt = .ok w' → s.Lets call breaks w'.document)) := by
  rw [forall_eq_ok_iff (P := fun w => s.Lets call breaks w.document) hw]
  split at h
  · next hcommits =>
    cases h
    rwa [Lets, if_pos hcommits]
  · next hcommits =>
    cases h
    exact hs.follows_fail hw hcommits

/-- **What one operation makes of the reads**: they follow exactly if it keeps to the condition. -/
theorem follows_step {s t : ReadThrough} {op : Op} (hs : s.Tidy)
    (h : step bracketResolver s op = some t) :
    t.Tidy ∧ (s.Follows → (t.Follows ↔ s.Keeps bracketResolver op)) := by
  -- an operation that does nothing is followed
  have hnothing : ∀ {C : Prop}, C → s.Tidy ∧ (s.Follows → (s.Follows ↔ C)) :=
    fun hC => ⟨hs, fun hf => iff_of_true hf hC⟩
  cases op with
  | create claim request createdAt rowId occurredAt breaks =>
    simp only [step] at h
    split at h
    · next w hw =>
      have hid : w.document.id = request.id := (document_of_computeLiability hw).1
      rw [← hid] at h
      exact hs.follows_call hw ⟨(hs.answer w).1, fun hf => hs.follows_create hf w⟩ h
    · next hw =>
      cases h
      exact hnothing (forall_eq_ok_of_error hw)
  | computeLiability call createdAt rowId occurredAt breaks =>
    simp only [step] at h
    split at h
    · next w hw =>
      exact hs.follows_call hw
        (hs.wrote_follows (s.wrote_mongo w) rfl (s.wrote_cache w) rfl) h
    · next hw =>
      cases h
      exact hnothing (forall_eq_ok_of_error hw)
  | onEvent event =>
    simp only [step] at h
    split at h
    · split at h
      · next d hd =>
        cases h
        obtain ⟨htidy, hfollows⟩ :=
          hs.wrote_follows (s.projected_mongo d) rfl (s.projected_cache d) rfl
        exact ⟨htidy, fun hf => (hfollows hf).trans
          (forall_eq_ok_iff (P := s.Meets) hd).symm⟩
      · next hd =>
        cases h
        exact hnothing (forall_eq_ok_of_error hd)
    · cases h
  | findById id =>
    cases h
    obtain ⟨htidy, hread⟩ := hs.shows_read (t := { s with stores := s.stores.read id }) rfl rfl
    refine ⟨htidy, fun hf => iff_of_true ?_ trivial⟩
    rw [htidy.iff_shows, hread]
    exact hs.iff_shows.mp hf
  | expire id =>
    cases h
    obtain ⟨htidy, hexpired⟩ := hs.expired id
    exact ⟨htidy, fun hf => iff_of_true (hexpired hf) trivial⟩

variable (bracketResolver) in
/-- **Reads follow writes throughout** exactly the runs that keep to the condition. -/
theorem follows_iff {ops : List Op} {s : ReadThrough}
    (h : exec (step bracketResolver) start ops = some s) :
    Always (step bracketResolver) Follows start ops
      ↔ Throughout (step bracketResolver) (Keeps bracketResolver) start ops :=
  always_iff_throughout (fun hs hstep => (follows_step hs hstep).1)
    (fun hs hf hstep => (follows_step hs hstep).2 hf) tidy_start follows_start h

/-- A taxpayer is created, read, delivered, read again, not written, and written once its entry is
gone. -/
def docsOps : List Op :=
  [.create (some "a") Stores.docsRequest 1 "e-1" 2 .nowhere, .findById "tp-1",
   .onEvent ⟨"tp-1", "Ada", "SINGLE", "federal", 1⟩, .findById "tp-1",
   .create (some "b") Stores.docsRequest 3 "e-2" 4 .outboxSave,
   .create (some "a") Stores.docsRequest 3 "e-2" 4 .commit, .expire "tp-1",
   .computeLiability ⟨"tp-1", "Ada", "HEAD_OF_HOUSEHOLD", ⟨5000000, 2⟩, "tenant-a"⟩ 5 "e-3" 6
    .nowhere, .findById "tp-1"]

theorem follows_docsOps : ∃ s, exec (step federal) start docsOps = some s
    ∧ Always (step federal) Follows start docsOps := by
  have hrun : (exec (step federal) start docsOps).isSome = true := by decide
  obtain ⟨s, hs⟩ := Option.isSome_iff_exists.mp hrun
  exact ⟨s, hs, (follows_iff federal hs).mpr (by decide)⟩

/-- **A read before a write is the write's answer**: the second creation answers with the entry of
the first. -/
theorem create_answers_stale : ¬ ∀ (bracketResolver : BracketResolver) (ops : List Op)
    (s : ReadThrough), exec (step bracketResolver) start ops = some s →
      Always (step bracketResolver) Follows start ops := by
  intro hall
  have hrun : (exec (step federal) start
      [.create (some "a") Stores.docsRequest 1 "e-1" 2 .nowhere, .create (some "a")
        { Stores.docsRequest with filingStatus := "HEAD_OF_HOUSEHOLD" } 3 "e-2" 4 .nowhere]).map
      (fun s => decide (∀ x ∈ s.created, x.1.Agrees x.2)) = some false := by decide
  obtain ⟨s, hs, hstale⟩ := Option.map_eq_some_iff.mp hrun
  exact of_decide_eq_false hstale ((hall federal _ s hs).last hs).created

end ReadThrough

end ReadModel
