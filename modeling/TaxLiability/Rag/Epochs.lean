import TaxLiability.Rag.Cache

/-!
# Rag/Epochs — requests and ingests around one cache, command by command

    GET epoch ──▸ GET answer ──hit──▸ returned
                      └──miss──▸ dense, sparse ──▸ generate ──▸ GET epoch ──▸ SET answer
    commit ──▸ INCR tenant-a ──▸ INCR tenant-b ──▸ INCR tenant-c

The corpus is counted by its commits.  A request that reads it before a commit and the epoch after
the bump files an old answer under the new epoch; where none does (`Unstraddled`), every entry was
read no earlier than the commits its epoch tells of (`Covers`), and so is every answer served.
-/

open Machine

namespace Rag

variable {Vec : Type}

/-! ## The parties -/

/-- The tenants of the corpus, in the order their epochs are bumped. -/
def TENANTS : List String := ["tenant-a", "tenant-b", "tenant-c"]

/-- **A bump that has completed**: the epoch it left, and the commit its ingest had made. -/
structure Bump where
  tenant_id : String
  epoch : ℤ
  corpus : ℕ
  deriving DecidableEq

/-- Where a request stands, between two commands.  `corpus` counts the commits that the oldest of
its reads has seen. -/
inductive Pc
  | lookup
  | lookupAt (epoch : ℤ)
  | retrieve
  | generate (corpus : ℕ)
  | store (corpus : ℕ) (answer : Json.Fields)
  | storeAt (corpus : ℕ) (answer : Json.Fields) (epoch : ℤ)

/-- What an answer about to be filed was read from. -/
def Pc.storing? : Pc → Option ℕ
  | .store corpus _ => some corpus
  | _ => none

/-- A request under way; `since` is the bumps that had completed when its lookup started. -/
structure Request (Vec : Type) where
  tenant_id : String
  query_vec : Vec
  since : List Bump
  pc : Pc

/-- An ingest under way: the commit it has made, if it has, and the tenants still to bump. -/
structure Ingest where
  committed : Option ℕ
  tenants : List String

/-- **A cache hit that was served**, with the commits its answer's oldest read had seen. -/
structure Hit where
  tenant_id : String
  since : List Bump
  corpus : Option ℕ
  deriving DecidableEq

/-- **The pipeline**: one Redis, one corpus, any number of requests and ingests.  `bumps` and `hits`
are histories, and `filed` says what the answer under a key was read from. -/
structure Pipeline (Vec : Type) where
  redis : Redis
  corpus : ℕ
  requests : ℕ → Option (Request Vec)
  ingests : ℕ → Option Ingest
  bumps : List Bump
  filed : String → Option ℕ
  hits : List Hit

/-- What happens next. -/
inductive Event (Vec : Type)
  /-- request `i` begins its lookup -/
  | ask (i : ℕ) (tenant_id : String) (query_vec : Vec)
  /-- `cache_lookup` reads the epoch -/
  | lookupEpoch (i : ℕ)
  /-- `cache_lookup` reads the answer -/
  | lookupAnswer (i : ℕ)
  /-- the dense search reads the corpus -/
  | dense (i : ℕ)
  /-- the sparse search reads the corpus -/
  | sparse (i : ℕ)
  /-- the answer is generated -/
  | generated (i : ℕ) (answer : Json.Fields)
  /-- `cache_store` reads the epoch -/
  | storeEpoch (i : ℕ)
  /-- `cache_store` writes the answer -/
  | storeAnswer (i : ℕ)
  /-- request `i` fails -/
  | abandon (i : ℕ)
  /-- ingest `j` begins -/
  | ingest (j : ℕ)
  /-- ingest `j` commits its chunks -/
  | commit (j : ℕ)
  /-- ingest `j` bumps the epoch of its next tenant -/
  | bump (j : ℕ)
  /-- ingest `j` fails -/
  | fail (j : ℕ)
  /-- an entry reaches the end of its time to live -/
  | expire (key : String)

namespace Pipeline

/-- Before the first request. -/
def start : Pipeline Vec := ⟨fun _ => none, 0, fun _ => none, fun _ => none, [], fun _ => none, []⟩

/-- Put request `i` at a point of the pipeline, or past its end. -/
def put (s : Pipeline Vec) (i : ℕ) (r : Option (Request Vec)) : Pipeline Vec :=
  { s with requests := Function.update s.requests i r }

/-- Move request `i` on. -/
def goto (s : Pipeline Vec) (i : ℕ) (r : Request Vec) (pc : Pc) : Pipeline Vec :=
  s.put i (some { r with pc := pc })

/-- **One step of one party.**  A command that raises ends the request or the ingest. -/
def step (E : Embedding Vec) (s : Pipeline Vec) : Event Vec → Option (Pipeline Vec)
  | .ask i tenant_id query_vec =>
    match s.requests i with
    | none => some (s.put i (some ⟨tenant_id, query_vec, s.bumps, .lookup⟩))
    | some _ => none
  | .lookupEpoch i =>
    match s.requests i with
    | some r =>
      match r.pc with
      | .lookup =>
        match getEpoch s.redis r.tenant_id with
        | .ok epoch => some (s.goto i r (.lookupAt epoch))
        | .error _ => some (s.put i none)
      | _ => none
    | none => none
  | .lookupAnswer i =>
    match s.requests i with
    | some r =>
      match r.pc with
      | .lookupAt epoch =>
        match readAnswer E s.redis r.query_vec r.tenant_id epoch with
        | .ok (some _) =>
          some { s.put i none with
            hits := ⟨r.tenant_id, r.since, s.filed (bucketKey E r.query_vec r.tenant_id epoch)⟩
              :: s.hits }
        | .ok none => some (s.goto i r .retrieve)
        | .error _ => some (s.put i none)
      | _ => none
    | none => none
  | .dense i =>
    match s.requests i with
    | some r =>
      match r.pc with
      | .retrieve => some (s.goto i r (.generate s.corpus))
      | _ => none
    | none => none
  | .sparse i =>
    match s.requests i with
    | some r =>
      match r.pc with
      | .generate corpus => some (s.goto i r (.generate (min corpus s.corpus)))
      | _ => none
    | none => none
  | .generated i answer =>
    match s.requests i with
    | some r =>
      match r.pc with
      | .generate corpus => some (s.goto i r (.store corpus answer))
      | _ => none
    | none => none
  | .storeEpoch i =>
    match s.requests i with
    | some r =>
      match r.pc with
      | .store corpus answer =>
        match getEpoch s.redis r.tenant_id with
        | .ok epoch => some (s.goto i r (.storeAt corpus answer epoch))
        | .error _ => some (s.put i none)
      | _ => none
    | none => none
  | .storeAnswer i =>
    match s.requests i with
    | some r =>
      match r.pc with
      | .storeAt corpus answer epoch =>
        match writeAnswer E s.redis r.query_vec r.tenant_id epoch answer DEFAULT_TTL_SECONDS with
        | .ok redis =>
          some { s.put i none with
            redis := redis
            filed := Function.update s.filed (bucketKey E r.query_vec r.tenant_id epoch)
              (some corpus) }
        | .error _ => some (s.put i none)
      | _ => none
    | none => none
  | .abandon i => some (s.put i none)
  | .ingest j =>
    match s.ingests j with
    | none => some { s with ingests := Function.update s.ingests j (some ⟨none, TENANTS⟩) }
    | some _ => none
  | .commit j =>
    match s.ingests j with
    | some ⟨none, tenants⟩ =>
      some { s with
        corpus := s.corpus + 1
        ingests := Function.update s.ingests j (some ⟨some (s.corpus + 1), tenants⟩) }
    | _ => none
  | .bump j =>
    match s.ingests j with
    | some ⟨some corpus, tenant_id :: tenants⟩ =>
      match bumpEpoch s.redis tenant_id with
      | .ok (redis, epoch) =>
        some { s with
          redis := redis
          ingests := Function.update s.ingests j (some ⟨some corpus, tenants⟩)
          bumps := ⟨tenant_id, epoch, corpus⟩ :: s.bumps }
      | .error _ => some { s with ingests := Function.update s.ingests j none }
    | _ => none
  | .fail j => some { s with ingests := Function.update s.ingests j none }
  | .expire key =>
    match s.redis key with
    | some ⟨_, some _⟩ => some { s with redis := Function.update s.redis key none }
    | _ => none

/-! ## What an epoch tells of the corpus -/

/-- **An epoch that a read is good for**: the tenant's counter has reached it, and no completed bump
up to it comes after a commit the read has not seen. -/
structure Covers (s : Pipeline Vec) (tenant_id : String) (epoch : ℤ) (corpus : ℕ) : Prop where
  reached : ∀ n, getEpoch s.redis tenant_id = .ok n → epoch ≤ n
  seen : ∀ b ∈ s.bumps, b.tenant_id = tenant_id → b.epoch ≤ epoch → b.corpus ≤ corpus

/-- What is known of a request under way. -/
structure Tracked (s : Pipeline Vec) (r : Request Vec) : Prop where
  since : r.since ⊆ s.bumps
  /-- the epoch is read after the bumps before the lookup -/
  looking : ∀ epoch, r.pc = .lookupAt epoch →
    ∀ b ∈ r.since, b.tenant_id = r.tenant_id → b.epoch ≤ epoch
  storing : ∀ corpus answer epoch, r.pc = .storeAt corpus answer epoch →
    s.Covers r.tenant_id epoch corpus

/-- **The pipeline in order.** -/
structure Fresh (E : Embedding Vec) (s : Pipeline Vec) : Prop where
  /-- a counter has no time to live -/
  counters : ∀ t entry, s.redis (epochKey t) = some entry → entry.ex = none
  /-- every other key is accounted for -/
  synced : ∀ key entry, s.redis key = some entry →
    (∃ t, key = epochKey t) ∨ ∃ corpus, s.filed key = some corpus
  /-- the counter counts the bumps -/
  bumps : ∀ b ∈ s.bumps, ∀ n, getEpoch s.redis b.tenant_id = .ok n → b.epoch ≤ n
  filed : ∀ t epoch q corpus, s.filed (bucketKey E q t epoch) = some corpus →
    s.Covers t epoch corpus
  requests : ∀ i r, s.requests i = some r → s.Tracked r
  hits : ∀ hit ∈ s.hits, ∀ b ∈ hit.since, b.tenant_id = hit.tenant_id →
    ∃ corpus, hit.corpus = some corpus ∧ b.corpus ≤ corpus

variable {E : Embedding Vec}

theorem start_fresh : (start : Pipeline Vec).Fresh E where
  counters := nofun
  synced := nofun
  bumps := nofun
  filed := nofun
  requests := nofun
  hits := nofun

/-- **Counters only grow**, and a bump that is new is past the counter before it. -/
structure Grown (s s' : Pipeline Vec) : Prop where
  counters : ∀ t n', getEpoch s'.redis t = .ok n' → ∃ n, getEpoch s.redis t = .ok n ∧ n ≤ n'
  kept : s.bumps ⊆ s'.bumps
  new : ∀ b ∈ s'.bumps, b ∈ s.bumps ∨ ∃ n, getEpoch s.redis b.tenant_id = .ok n ∧ n < b.epoch

/-- Where the counters and the bumps stay, nothing grows. -/
theorem grown_of_eq {s s' : Pipeline Vec}
    (h : ∀ t, getEpoch s'.redis t = getEpoch s.redis t) (hb : s'.bumps = s.bumps) : Grown s s' where
  counters := fun t n' hn => ⟨n', by rw [← h, hn], le_rfl⟩
  kept := hb ▸ List.Subset.refl _
  new := fun b hm => .inl (hb ▸ hm)

/-- **What an epoch covers, it covers from then on.** -/
theorem Covers.grown {s s' : Pipeline Vec} {t : String} {epoch : ℤ} {corpus : ℕ}
    (h : s.Covers t epoch corpus) (hg : Grown s s') : s'.Covers t epoch corpus where
  reached := fun n' hn' => by
    obtain ⟨n, hn, hle⟩ := hg.counters t n' hn'
    exact (h.reached n hn).trans hle
  seen := fun b hb ht he => by
    rcases hg.new b hb with hb | ⟨n, hn, hlt⟩
    · exact h.seen b hb ht he
    · have hreached := h.reached n (ht ▸ hn)
      omega

theorem Tracked.grown {s s' : Pipeline Vec} {r : Request Vec} (h : s.Tracked r)
    (hg : Grown s s') : s'.Tracked r where
  since := List.Subset.trans h.since hg.kept
  looking := h.looking
  storing := fun corpus answer epoch hpc => (h.storing corpus answer epoch hpc).grown hg

/-- Moving a request on, or ending it, leaves the rest in order. -/
theorem Fresh.put {s : Pipeline Vec} (hs : s.Fresh E) (i : ℕ) {r : Option (Request Vec)}
    (h : ∀ r', r = some r' → s.Tracked r') : (s.put i r).Fresh E where
  counters := hs.counters
  synced := hs.synced
  bumps := hs.bumps
  filed := fun t epoch q corpus hf => ⟨(hs.filed t epoch q corpus hf).reached,
    (hs.filed t epoch q corpus hf).seen⟩
  requests := fun j r' hj => by
    have ht : s.Tracked r' := by
      obtain ⟨-, h'⟩ | ⟨-, h'⟩ := update_eq_some_iff.mp hj
      · exact h r' h'
      · exact hs.requests j r' h'
    exact ht.grown (grown_of_eq (fun _ => rfl) rfl)
  hits := hs.hits

/-- A request at a point where it holds no epoch is tracked as before. -/
theorem Tracked.move {s : Pipeline Vec} {r : Request Vec} (h : s.Tracked r) {pc : Pc}
    (hl : ∀ epoch, pc ≠ .lookupAt epoch)
    (hst : ∀ corpus answer epoch, pc ≠ .storeAt corpus answer epoch) :
    s.Tracked { r with pc := pc } where
  since := h.since
  looking := fun epoch hpc => absurd hpc (hl epoch)
  storing := fun corpus answer epoch hpc => absurd hpc (hst corpus answer epoch)

theorem Fresh.goto {s : Pipeline Vec} (hs : s.Fresh E) {i : ℕ} {r : Request Vec}
    (hr : s.requests i = some r) {pc : Pc} (hl : ∀ epoch, pc ≠ .lookupAt epoch)
    (hst : ∀ corpus answer epoch, pc ≠ .storeAt corpus answer epoch) : (s.goto i r pc).Fresh E :=
  hs.put i fun r' h => by
    cases h
    exact (hs.requests i r hr).move hl hst

/-- A request that ends leaves the rest in order. -/
theorem Fresh.drop {s : Pipeline Vec} (hs : s.Fresh E) (i : ℕ) : (s.put i none).Fresh E :=
  hs.put i fun r' h => by cases h

/-- What an ingest does short of a bump leaves the cache in order. -/
theorem Fresh.parties {s : Pipeline Vec} (hs : s.Fresh E) (corpus : ℕ)
    (ingests : ℕ → Option Ingest) :
    Fresh E { s with corpus := corpus, ingests := ingests } where
  counters := hs.counters
  synced := hs.synced
  bumps := hs.bumps
  filed := fun t e q c hf => (hs.filed t e q c hf).grown (grown_of_eq (fun _ => rfl) rfl)
  requests := fun i r hr => (hs.requests i r hr).grown (grown_of_eq (fun _ => rfl) rfl)
  hits := hs.hits

/-- **A hit is served in order**: its epoch was read after the bumps before its lookup. -/
theorem Fresh.serve {s : Pipeline Vec} (hs : s.Fresh E) {i : ℕ} {r : Request Vec}
    (hr : s.requests i = some r) {epoch : ℤ} (hpc : r.pc = .lookupAt epoch) {answer : Json.Fields}
    (hread : readAnswer E s.redis r.query_vec r.tenant_id epoch = .ok (some answer)) :
    Fresh E { s.put i none with
      hits := ⟨r.tenant_id, r.since, s.filed (bucketKey E r.query_vec r.tenant_id epoch)⟩
        :: s.hits } := by
  have hd := hs.drop i
  have ht := hs.requests i r hr
  obtain ⟨⟨ex, hentry⟩, -⟩ := readAnswer_eq_ok hread
  obtain ⟨t, hkey⟩ | ⟨corpus, hcorpus⟩ := hs.synced _ _ hentry
  · exact absurd hkey (bucketKey_ne_epochKey _ _ _ _ _)
  · refine ⟨hd.counters, hd.synced, hd.bumps, fun t e q c hf => ?_, fun j r' hj => ?_, ?_⟩
    · exact (hd.filed t e q c hf).grown (grown_of_eq (fun _ => rfl) rfl)
    · exact (hd.requests j r' hj).grown (grown_of_eq (fun _ => rfl) rfl)
    · intro hit hhit b hb hbt
      rcases List.mem_cons.mp hhit with rfl | hhit
      · exact ⟨corpus, hcorpus, (hs.filed _ _ _ _ hcorpus).seen b (ht.since hb) hbt
          (ht.looking epoch hpc b hb hbt)⟩
      · exact hs.hits hit hhit b hb hbt

/-- **An answer is filed in order** under an epoch that its reads are good for. -/
theorem Fresh.file {s : Pipeline Vec} (hs : s.Fresh E) {q : Vec} {t : String} {epoch : ℤ}
    {corpus : ℕ} (hc : s.Covers t epoch corpus) (entry : Entry) :
    Fresh E { s with
      redis := Function.update s.redis (bucketKey E q t epoch) (some entry)
      filed := Function.update s.filed (bucketKey E q t epoch) (some corpus) } := by
  have hg : Grown s { s with
      redis := Function.update s.redis (bucketKey E q t epoch) (some entry)
      filed := Function.update s.filed (bucketKey E q t epoch) (some corpus) } :=
    grown_of_eq (fun _ => getEpoch_update_ne (bucketKey_ne_epochKey _ _ _ _ _) _) rfl
  refine ⟨fun t' entry' he => ?_, fun key entry' he => ?_, fun b hb n hn => ?_,
    fun t' e q' c hf => ?_, fun j r hj => (hs.requests j r hj).grown hg, hs.hits⟩
  · dsimp only at he
    obtain ⟨h, -⟩ | ⟨-, h⟩ := update_eq_some_iff.mp he
    · exact absurd h.symm (bucketKey_ne_epochKey _ _ _ _ _)
    · exact hs.counters t' entry' h
  · obtain ⟨rfl, -⟩ | ⟨hk, h⟩ := update_eq_some_iff.mp he
    · exact .inr ⟨corpus, Function.update_self _ _ _⟩
    · exact (hs.synced key entry' h).imp_right fun ⟨c, hc⟩ =>
        ⟨c, (Function.update_of_ne hk _ _).trans hc⟩
  · obtain ⟨m, hm, hle⟩ := hg.counters _ n hn
    exact (hs.bumps b hb m hm).trans hle
  · refine Covers.grown ?_ hg
    obtain ⟨hkey, h⟩ | ⟨-, h⟩ := update_eq_some_iff.mp hf
    · obtain ⟨rfl, rfl, -⟩ := bucketKey_inj.mp hkey
      cases h
      exact hc
    · exact hs.filed t' e q' c h

/-- **A bump covers what was filed**: its epoch is past every epoch filed under. -/
theorem Fresh.bump {s : Pipeline Vec} (hs : s.Fresh E) {t : String} {redis : Redis} {epoch : ℤ}
    (hbump : bumpEpoch s.redis t = .ok (redis, epoch)) (corpus : ℕ)
    (ingests : ℕ → Option Ingest) :
    Fresh E { s with
      redis := redis, ingests := ingests, bumps := ⟨t, epoch, corpus⟩ :: s.bumps } := by
  obtain ⟨m, ex, hm, rfl, rfl, hex⟩ := bumpEpoch_eq_ok hbump
  have hread : ∀ t' n, getEpoch (Function.update s.redis (epochKey t) (some ⟨.int (m + 1), ex⟩)) t'
      = .ok n → (t' = t ∧ n = m + 1) ∨ (t' ≠ t ∧ getEpoch s.redis t' = .ok n) := fun t' n hn => by
    by_cases ht : t' = t
    · subst ht
      rw [getEpoch_update_self] at hn
      exact .inl ⟨rfl, (Except.ok.inj hn).symm⟩
    · rw [getEpoch_update_ne fun h => ht (epochKey_inj.mp h).symm] at hn
      exact .inr ⟨ht, hn⟩
  have hg : Grown s { s with
      redis := Function.update s.redis (epochKey t) (some ⟨.int (m + 1), ex⟩)
      ingests := ingests
      bumps := ⟨t, m + 1, corpus⟩ :: s.bumps } := by
    refine ⟨fun t' n hn => ?_, List.subset_cons_self _ _, fun b hb => ?_⟩
    · rcases hread t' n hn with ⟨rfl, rfl⟩ | ⟨-, hn⟩
      · exact ⟨m, hm, by omega⟩
      · exact ⟨n, hn, le_rfl⟩
    · rcases List.mem_cons.mp hb with rfl | hb
      · exact .inr ⟨m, hm, Int.lt_add_one_of_le le_rfl⟩
      · exact .inl hb
  refine ⟨fun t' entry he => ?_, fun key entry he => ?_, fun b hb n hn => ?_,
    fun t e q c hf => (hs.filed t e q c hf).grown hg, fun j r hj => (hs.requests j r hj).grown hg,
    hs.hits⟩
  · obtain ⟨-, h⟩ | ⟨-, h⟩ := update_eq_some_iff.mp he
    · cases h
      rcases hex with rfl | ⟨value, hold⟩
      · rfl
      · exact (hs.counters t ⟨value, ex⟩ hold :)
    · exact hs.counters t' entry h
  · obtain ⟨rfl, -⟩ | ⟨-, h⟩ := update_eq_some_iff.mp he
    · exact .inl ⟨t, rfl⟩
    · exact hs.synced key entry h
  · rcases List.mem_cons.mp hb with rfl | hb
    · rcases hread _ n hn with ⟨-, rfl⟩ | ⟨hne, -⟩
      · exact le_rfl
      · exact absurd rfl hne
    · rcases hread _ n hn with ⟨ht, rfl⟩ | ⟨-, hn⟩
      · have hle := hs.bumps b hb m (ht ▸ hm)
        omega
      · exact hs.bumps b hb n hn

/-- Only answers expire. -/
theorem Fresh.expire {s : Pipeline Vec} (hs : s.Fresh E) {key : String} {value : Json} {ttl : ℤ}
    (hkey : s.redis key = some ⟨value, some ttl⟩) :
    Fresh E { s with redis := Function.update s.redis key none } := by
  have hne : ∀ t, key ≠ epochKey t := fun t h => by
    subst h
    exact absurd (hs.counters t _ hkey) (by simp)
  have hg : Grown s { s with redis := Function.update s.redis key none } :=
    grown_of_eq (fun t => getEpoch_update_ne (hne t) none) rfl
  refine ⟨fun t entry he => ?_, fun key' entry he => ?_, fun b hb n hn => ?_,
    fun t e q c hf => (hs.filed t e q c hf).grown hg, fun j r hj => (hs.requests j r hj).grown hg,
    hs.hits⟩
  · obtain ⟨-, h⟩ | ⟨-, h⟩ := update_eq_some_iff.mp he
    · cases h
    · exact hs.counters t entry h
  · obtain ⟨-, h⟩ | ⟨-, h⟩ := update_eq_some_iff.mp he
    · cases h
    · exact hs.synced key' entry h
  · obtain ⟨m, hm, hle⟩ := hg.counters _ n hn
    exact (hs.bumps b hb m hm).trans hle

/-! ## Runs -/

/-- **No request straddles a commit and its bump**: when an answer's epoch is read to file it, the
answer has seen the commit of every bump of its tenant that has completed. -/
def Unstraddled (s : Pipeline Vec) : Event Vec → Prop
  | .storeEpoch i => ∀ r ∈ s.requests i, ∀ corpus ∈ r.pc.storing?, ∀ b ∈ s.bumps,
      b.tenant_id = r.tenant_id → b.corpus ≤ corpus
  | _ => True

instance (s : Pipeline Vec) : (e : Event Vec) → Decidable (s.Unstraddled e)
  | .storeEpoch i => inferInstanceAs (Decidable (∀ r ∈ s.requests i, ∀ corpus ∈ r.pc.storing?, _))
  | .ask _ _ _ | .lookupEpoch _ | .lookupAnswer _ | .dense _ | .sparse _ | .generated _ _
  | .storeAnswer _ | .abandon _ | .ingest _ | .commit _ | .bump _ | .fail _ | .expire _ =>
    inferInstanceAs (Decidable True)

/-- Reading the epoch to look an answer up. -/
theorem Fresh.lookupEpoch {s : Pipeline Vec} (hs : s.Fresh E) {i : ℕ} {r : Request Vec}
    (hr : s.requests i = some r) {epoch : ℤ} (he : getEpoch s.redis r.tenant_id = .ok epoch) :
    (s.goto i r (.lookupAt epoch)).Fresh E :=
  hs.put i fun r' h => by
    cases h
    have hsince := (hs.requests i r hr).since
    refine ⟨hsince, fun epoch' hpc b hb ht => ?_, nofun⟩
    cases hpc
    exact hs.bumps b (hsince hb) epoch (ht ▸ he)

/-- Reading the epoch to file an answer, of a request that does not straddle. -/
theorem Fresh.storeEpoch {s : Pipeline Vec} (hs : s.Fresh E) {i : ℕ} {r : Request Vec}
    (hr : s.requests i = some r) {corpus : ℕ} {answer : Json.Fields}
    (hpc : r.pc = .store corpus answer) (hu : s.Unstraddled (.storeEpoch i)) {epoch : ℤ}
    (he : getEpoch s.redis r.tenant_id = .ok epoch) :
    (s.goto i r (.storeAt corpus answer epoch)).Fresh E :=
  hs.put i fun r' h => by
    cases h
    have hseen := hu r hr corpus (by simp [hpc, Pc.storing?])
    refine ⟨(hs.requests i r hr).since, nofun, fun corpus' answer' epoch' hpc' => ?_⟩
    cases hpc'
    refine ⟨fun n hn => ?_, fun b hb ht _ => hseen b hb ht⟩
    rw [he] at hn
    exact le_of_eq (Except.ok.inj hn)

section Step

variable {s s' : Pipeline Vec}

theorem Fresh.lookupEpoch_step {i : ℕ} (hs : s.Fresh E)
    (h : s.step E (.lookupEpoch i) = some s') : s'.Fresh E := by
  simp only [step] at h
  split at h
  case h_2 => cases h
  case h_1 r hr =>
    split at h
    case h_2 => cases h
    case h_1 =>
      split at h <;> cases h
      case h_1 epoch he => exact hs.lookupEpoch hr he
      case h_2 => exact hs.drop i

theorem Fresh.lookupAnswer_step {i : ℕ} (hs : s.Fresh E)
    (h : s.step E (.lookupAnswer i) = some s') : s'.Fresh E := by
  simp only [step] at h
  split at h
  case h_2 => cases h
  case h_1 r hr =>
    split at h
    case h_2 => cases h
    case h_1 epoch hpc =>
      split at h <;> cases h
      case h_1 answer hread => exact hs.serve hr hpc hread
      case h_2 => exact hs.goto hr nofun nofun
      case h_3 => exact hs.drop i

theorem Fresh.storeEpoch_step {i : ℕ} (hu : s.Unstraddled (.storeEpoch i)) (hs : s.Fresh E)
    (h : s.step E (.storeEpoch i) = some s') : s'.Fresh E := by
  simp only [step] at h
  split at h
  case h_2 => cases h
  case h_1 r hr =>
    split at h
    case h_2 => cases h
    case h_1 corpus answer hpc =>
      split at h <;> cases h
      case h_1 epoch he => exact hs.storeEpoch hr hpc hu he
      case h_2 => exact hs.drop i

theorem Fresh.storeAnswer_step {i : ℕ} (hs : s.Fresh E)
    (h : s.step E (.storeAnswer i) = some s') : s'.Fresh E := by
  simp only [step] at h
  split at h
  case h_2 => cases h
  case h_1 r hr =>
    split at h
    case h_2 => cases h
    case h_1 corpus answer epoch hpc =>
      split at h <;> cases h
      case h_2 => exact hs.drop i
      case h_1 redis hwrite =>
        obtain rfl := writeAnswer_eq_ok hwrite
        have hc := (hs.requests i r hr).storing corpus answer epoch hpc
        exact (hs.drop i).file (hc.grown (grown_of_eq (fun _ => rfl) rfl)) _

theorem Fresh.bump_step {j : ℕ} (hs : s.Fresh E) (h : s.step E (.bump j) = some s') :
    s'.Fresh E := by
  simp only [step] at h
  split at h
  case h_2 => cases h
  case h_1 corpus tenant_id tenants hj =>
    split at h <;> cases h
    case h_1 redis epoch hbump => exact hs.bump hbump corpus _
    case h_2 => exact hs.parties _ _

/-- **Every step of a request that does not straddle, and every step of an ingest, keeps the
pipeline in order.** -/
theorem fresh_step {e : Event Vec} (hu : s.Unstraddled e) (hs : s.Fresh E)
    (h : s.step E e = some s') : s'.Fresh E := by
  cases e with
  | lookupEpoch i => exact hs.lookupEpoch_step h
  | lookupAnswer i => exact hs.lookupAnswer_step h
  | storeEpoch i => exact hs.storeEpoch_step hu h
  | storeAnswer i => exact hs.storeAnswer_step h
  | bump j => exact hs.bump_step h
  | ask i tenant_id query_vec =>
    simp only [step] at h
    split at h <;> cases h
    refine hs.put i fun r hr => ?_
    cases hr
    exact ⟨List.Subset.refl _, nofun, nofun⟩
  | dense i | sparse i | generated i answer =>
    simp only [step] at h
    split at h
    case h_2 => cases h
    case h_1 r hr =>
      split at h <;> cases h
      exact hs.goto hr nofun nofun
  | abandon i =>
    cases h
    exact hs.drop i
  | ingest j | commit j =>
    simp only [step] at h
    split at h <;> cases h
    exact hs.parties _ _
  | fail j =>
    cases h
    exact hs.parties _ _
  | expire key =>
    simp only [step] at h
    split at h <;> cases h
    case h_1 value ttl hkey => exact hs.expire hkey

end Step

/-- **No lookup that starts after a bump serves an answer from before its commit**, along every run
whose requests do not straddle a commit and its bump. -/
theorem hits_fresh_of_unstraddled (E : Embedding Vec) (es : List (Event Vec)) (s : Pipeline Vec)
    (h : exec (step E) start es = some s) (hu : Throughout (step E) Unstraddled start es) :
    ∀ hit ∈ s.hits, ∀ b ∈ hit.since, b.tenant_id = hit.tenant_id →
      ∃ corpus, hit.corpus = some corpus ∧ b.corpus ≤ corpus :=
  (exec_invariant_of_throughout fresh_step hu start_fresh h).hits

/-- Request `i` looks up one question of `tenant-a`… -/
def looksUp (i : ℕ) : List (Event (List ℤ)) :=
  [.ask i "tenant-a" [25, -40], .lookupEpoch i, .lookupAnswer i]

/-- …and files what it generated. -/
def files (i : ℕ) : List (Event (List ℤ)) :=
  [.generated i [("text", .str "answer"), ("citations", .arr [])], .storeEpoch i, .storeAnswer i]

/-- An ingest commits and bumps `tenant-a`. -/
def bumpsOnce : List (Event (List ℤ)) := [.ingest 0, .commit 0, .bump 0]

/-- A request, an ingest, and two more requests, one after the other. -/
def inTurn : List (Event (List ℤ)) :=
  looksUp 0 ++ [.dense 0, .sparse 0] ++ files 0 ++ bumpsOnce ++ looksUp 1 ++ [.dense 1] ++ files 1
    ++ looksUp 2

theorem hits_fresh_inTurn :
    ∃ s, exec (step Cache.hundredths) start inTurn = some s
      ∧ s.hits = [⟨"tenant-a", [⟨"tenant-a", 1, 1⟩], some 1⟩]
      ∧ ∀ hit ∈ s.hits, ∀ b ∈ hit.since, b.tenant_id = hit.tenant_id →
        ∃ corpus, hit.corpus = some corpus ∧ b.corpus ≤ corpus := by
  have hrun : (exec (step Cache.hundredths) start inTurn).map hits
      = some [⟨"tenant-a", [⟨"tenant-a", 1, 1⟩], some 1⟩] := by decide +kernel
  obtain ⟨s, hs, hhits⟩ := Option.map_eq_some_iff.mp hrun
  exact ⟨s, hs, hhits, hits_fresh_of_unstraddled Cache.hundredths inTurn s hs (by decide +kernel)⟩

/-- A request that retrieves before an ingest commits, and files after it has bumped. -/
def straddling : List (Event (List ℤ)) :=
  looksUp 0 ++ [.dense 0, .sparse 0] ++ bumpsOnce ++ files 0 ++ looksUp 1

/-- **A stale answer is served** under the new epoch. -/
theorem hit_stale :
    ¬ ∀ (es : List (Event (List ℤ))) (s : Pipeline (List ℤ)),
      exec (step Cache.hundredths) start es = some s →
      ∀ hit ∈ s.hits, ∀ b ∈ hit.since, b.tenant_id = hit.tenant_id →
        ∃ corpus, hit.corpus = some corpus ∧ b.corpus ≤ corpus := by
  intro h
  have hrun : (exec (step Cache.hundredths) start straddling).map hits
      = some [⟨"tenant-a", [⟨"tenant-a", 1, 1⟩], some 0⟩] := by decide +kernel
  obtain ⟨s, hs, hhits⟩ := Option.map_eq_some_iff.mp hrun
  obtain ⟨corpus, hcorpus, hle⟩ := h straddling s hs ⟨"tenant-a", [⟨"tenant-a", 1, 1⟩], some 0⟩
    (hhits ▸ List.mem_cons_self) ⟨"tenant-a", 1, 1⟩ List.mem_cons_self rfl
  cases hcorpus
  exact absurd hle (by decide)

end Pipeline

end Rag
