import TaxLiability.Rag.Chunker
import TaxLiability.Rag.Epochs

/-!
# Rag/Ingest — what an ingest run leaves of the runs before it

    load_docs ──▸ chunk_docs ──▸ embed_chunks ──▸ upsert_chunks ──▸ bump_cache_epochs
                                                   doc_chunks         INCR tenant-a, -b, -c

A run inserts and overwrites, and deletes nothing: where the current text of a document has chunks
they are stored, and beyond them the table is as it was (`ingest_leaves`).  The tenants whose epoch
is bumped are enumerated; those of the corpus are whatever its rows say.
-/

open Machine

namespace Rag

namespace Ingest

variable {V T : Type}

/-! ## The tasks -/

/-- **`load_docs`**: the distinct ids of the corpus. -/
def load_docs (L : Library V) (file : CorpusFile) : Except IngestError (List String) :=
  (load_corpus L file).map fun frame =>
    ((frame.map fun row => L.str (row "doc_id")).dedup).insertionSort (· ≤ ·)

/-- **`chunk_docs`**: the number of chunks of the documents named. -/
def chunk_docs (L : Library V) (file : CorpusFile) (doc_ids : List String) :
    Except IngestError ℕ :=
  ((documents_for L file (some doc_ids)).bind fun docs =>
    Rag.chunk_docs L docs DEFAULT_CHUNK_SIZE DEFAULT_OVERLAP).map List.length

/-- **`embed_chunks`**: the number of chunks the gate leaves to embed. -/
def embed_chunks (L : Library V) (file : CorpusFile) (table : DocChunks V T) :
    Except IngestError ℕ :=
  (corpus_candidates L file).map fun candidates =>
    (pending_candidates table candidates MODEL_NAME).length

/-- **`upsert_chunks`**: what it returns or raises, and the table after it. -/
def upsert_chunks (L : Library V) (file : CorpusFile) (now : T) (table : DocChunks V T) :
    Except IngestError ℕ × DocChunks V T :=
  match corpus_candidates L file with
  | .error e => (.error e, table)
  | .ok candidates =>
    let run := embed_pending L.construct now table candidates none MODEL_NAME
    (run.result.mapError .crossTenant, run.table)

/-- **`bump_cache_epochs`**, of the tenants in turn. -/
def bump_cache_epochs : List String → Redis → Except IngestError Unit × Redis
  | [], redis => (.ok (), redis)
  | tenant :: tenants, redis =>
    match bumpEpoch redis tenant with
    | .ok (redis', _) => bump_cache_epochs tenants redis'
    | .error e => (.error (.cache e), redis)

/-! ## Runs -/

/-- `retries`, of each task. -/
def RETRIES : ℕ := 2

/-- An attempt at `upsert_chunks`: when, and whether it is lost, after its commit or before. -/
structure UpsertAttempt (T : Type) where
  now : T
  lost : Option Bool

/-- What an attempt at `upsert_chunks` does. -/
def attemptUpsert (L : Library V) (file : CorpusFile) (a : UpsertAttempt T)
    (table : DocChunks V T) : Bool × DocChunks V T :=
  let (result, table') := upsert_chunks L file a.now table
  match a.lost with
  | none => (result.isOk, table')
  | some committed => (false, if committed then table' else table)

/-- What an attempt at `bump_cache_epochs` does; one that is lost is after so many tenants. -/
def attemptBump (lost : Option ℕ) (redis : Redis) : Bool × Redis :=
  match lost with
  | none => ((bump_cache_epochs TENANTS redis).1.isOk, (bump_cache_epochs TENANTS redis).2)
  | some n => (false, (bump_cache_epochs (TENANTS.take n) redis).2)

/-- The corpus table and the cache. -/
structure State (V T : Type) where
  table : DocChunks V T
  redis : Redis

/-- **A run of the DAG**: the file it is given, and the attempts at the tasks that write. -/
structure Run (T : Type) where
  file : CorpusFile
  upserts : List (UpsertAttempt T)
  bumps : List (Option ℕ)

/-- **A run**: whether it is successful, and what it leaves. -/
def run (L : Library V) (r : Run T) (s : State V T) : Bool × State V T :=
  match (load_docs L r.file).bind fun doc_ids =>
      (chunk_docs L r.file doc_ids).bind fun _ => embed_chunks L r.file s.table with
  | .error _ => (false, s)
  | .ok _ =>
    match retried (attemptUpsert L r.file) (r.upserts.take (RETRIES + 1)) s.table with
    | (false, table) => (false, { s with table := table })
    | (true, table) =>
      let bumped := retried attemptBump (r.bumps.take (RETRIES + 1)) s.redis
      (bumped.1, ⟨table, bumped.2⟩)

/-- **The tables earlier runs produce**, successful or not, whatever the cache held meanwhile. -/
inductive Produced (L : Library V) : DocChunks V T → Prop
  | empty : Produced L ⟨[], Dict.nodup_nil⟩
  | run {table : DocChunks V T} (h : Produced L table) (r : Run T) (redis : Redis) :
    Produced L (run L r ⟨table, redis⟩).2.table

/-! ## What is left -/

/-- The text stored at a place of a document, under the current model. -/
def storedText (table : DocChunks V T) (doc_id : String) (idx : ℤ) : Option String :=
  (table.get? ⟨doc_id, idx, MODEL_NAME⟩).map DocChunk.chunk_text

/-- The chunk of a document's current text at a place. -/
def currentText (L : Library V) (docs : List Document) (doc_id : String) (idx : ℤ) :
    Option String :=
  if 0 ≤ idx then (chunksOf L docs doc_id)[idx.toNat]? else none

/-- **The chunks stored are those of the current text**, for every document of the corpus. -/
def ExactlyCurrent (L : Library V) (docs : List Document) (table : DocChunks V T) : Prop :=
  ∀ d ∈ docs, ∀ idx, storedText table (docIdOf L d) idx = currentText L docs (docIdOf L d) idx

/-- **What is stored after a run**: the chunks of the current text, a text with the hash of one
counting as it, and beyond them what was stored before. -/
structure Leaves (L : Library V) (docs : List Document) (table table' : DocChunks V T) :
    Prop where
  current : ∀ d ∈ docs, ∀ idx text, currentText L docs (docIdOf L d) idx = some text →
    ∃ stored, storedText table' (docIdOf L d) idx = some stored
      ∧ content_hash stored = content_hash text
  beyond : ∀ d ∈ docs, ∀ idx, currentText L docs (docIdOf L d) idx = none →
    table'.get? ⟨docIdOf L d, idx, MODEL_NAME⟩ = table.get? ⟨docIdOf L d, idx, MODEL_NAME⟩

/-- A tenant's epoch is a later one. -/
def Bumped (redis redis' : Redis) (tenant : String) : Prop :=
  ∃ n n', getEpoch redis tenant = .ok n ∧ getEpoch redis' tenant = .ok n' ∧ n < n'

/-- A tenant owns a chunk that is new or not as it was, or one that is not of its document's current
text. -/
def Touched (L : Library V) (docs : List Document) (table table' : DocChunks V T)
    (tenant : String) : Prop :=
  ∃ key chunk, table'.get? key = some chunk ∧ chunk.tenant_id = tenant
    ∧ (table.get? key ≠ some chunk
      ∨ ∃ d ∈ docs, key.doc_id = docIdOf L d ∧ key.model_version = MODEL_NAME
        ∧ currentText L docs key.doc_id key.chunk_idx = none)

/-! ## What the upserts do -/

/-- **The hashes are those of the texts.** -/
def Hashed (table : DocChunks V T) : Prop :=
  ∀ key chunk, table.get? key = some chunk →
    chunk.content_hash = some (Rag.content_hash chunk.chunk_text)

/-- **What an upsert keeps to**: the keys of its candidates, and hashes that are of the texts. -/
structure Upserted (candidates : List ChunkCandidate) (table table' : DocChunks V T) : Prop where
  others : ∀ key, (∀ c ∈ candidates, c.key MODEL_NAME ≠ key) → table'.get? key = table.get? key
  hashed : Hashed table → Hashed table'

variable {L : Library V} {candidates : List ChunkCandidate} {table table' : DocChunks V T}

theorem Upserted.refl (table : DocChunks V T) : Upserted candidates table table :=
  ⟨fun _ _ => rfl, id⟩

theorem Upserted.trans {table'' : DocChunks V T} (h : Upserted candidates table table')
    (h' : Upserted candidates table' table'') : Upserted candidates table table'' :=
  ⟨fun key hkey => (h'.others key hkey).trans (h.others key hkey),
    fun hs => h'.hashed (h.hashed hs)⟩

theorem embed_pending_upserted (construct : String → SentenceTransformer V) (now : T)
    (table : DocChunks V T) (candidates : List ChunkCandidate) : Upserted candidates table
      (embed_pending construct now table candidates none MODEL_NAME).table := by
  obtain ⟨encoder, hload⟩ := embed_pending_eq
    (rfl : embed_pending construct now table candidates none MODEL_NAME = _)
  obtain ⟨-, e, herror⟩ | ⟨-, table', hok, hloaded⟩ := load_rows_spec now table
    (pendingRows encoder MODEL_NAME (pending_candidates table candidates MODEL_NAME))
  · rw [(Prod.mk.inj (hload.symm.trans herror)).2]
    exact .refl table
  · rw [(Prod.mk.inj (hload.symm.trans hok)).2]
    refine ⟨fun key hkey => hloaded.others key (lastRow_eq_none.mpr fun row hrow => ?_),
      fun hs key chunk hget => ?_⟩
    · obtain ⟨c, hc, vector, rfl⟩ := exists_of_mem_pendingRows hrow
      exact hkey c (mem_pending_iff.mp hc).1
    · cases hlast : lastRow (pendingRows encoder MODEL_NAME
        (pending_candidates table candidates MODEL_NAME)) key with
      | none => exact hs key chunk ((hloaded.others key hlast).symm.trans hget)
      | some row =>
        obtain ⟨chunk', hget', -, hholds⟩ := hloaded.last key row hlast
        cases hget'.symm.trans hget
        obtain ⟨-, before, after, hrows, -⟩ := lastRow_eq_some hlast
        have hrow : row ∈ pendingRows encoder MODEL_NAME
            (pending_candidates table candidates MODEL_NAME) := by simp [hrows]
        obtain ⟨c, -, vector, rfl⟩ := exists_of_mem_pendingRows hrow
        rw [hholds.content_hash, hholds.chunk_text]
        rfl

/-- **An upsert that returns** leaves every candidate current. -/
theorem current_of_embed_pending {construct : String → SentenceTransformer V} {now : T}
    (hkeys : (candidates.map ChunkCandidate.gateKey).Nodup) (hs : Hashed table)
    (hok : (embed_pending construct now table candidates none MODEL_NAME).result.isOk = true) :
    ∀ c ∈ candidates, Current
      (embed_pending construct now table candidates none MODEL_NAME).table MODEL_NAME c := by
  intro c hc
  have hhashed := (embed_pending_upserted construct now table candidates).hashed hs
  obtain ⟨-, e, he⟩ | ⟨-, -, hpending, hskipped⟩ := embed_pending_cases
    (rfl : embed_pending construct now table candidates none MODEL_NAME = _) hkeys
  · rw [he] at hok
    cases hok
  · by_cases hcurrent : Current table MODEL_NAME c
    · obtain ⟨chunk, hget, hhash⟩ := hcurrent
      exact ⟨chunk, (hskipped c hc ⟨chunk, hget, hhash⟩).trans hget, hhash⟩
    · obtain ⟨chunk, hget, htext, -, -⟩ := hpending c hc hcurrent
      refine ⟨chunk, hget, (hhashed _ _ hget).trans ?_⟩
      rw [htext]
      rfl

/-- The candidates of a corpus. -/
def candidatesOf (L : Library V) (docs : List Document) : List ChunkCandidate :=
  offered L [] (split_documents (L.split_text DEFAULT_CHUNK_SIZE DEFAULT_OVERLAP) docs)

theorem attemptUpsert_upserted {file : CorpusFile} {docs : List Document}
    (h : documents_for L file none = .ok docs) (a : UpsertAttempt T) (table : DocChunks V T) :
    Upserted (candidatesOf L docs) table (attemptUpsert L file a table).2 := by
  have hupsert := embed_pending_upserted L.construct a.now table (candidatesOf L docs)
  rw [attemptUpsert, upsert_chunks, corpus_candidates_eq_ok h]
  cases a.lost with
  | none => exact hupsert
  | some committed =>
    cases committed with
    | false => exact .refl table
    | true => exact hupsert

/-- **A successful attempt** leaves every candidate of the corpus current. -/
theorem current_of_attemptUpsert {file : CorpusFile} {docs : List Document}
    (h : documents_for L file none = .ok docs) (hs : Hashed table) {a : UpsertAttempt T}
    (ha : attemptUpsert L file a table = (true, table')) :
    ∀ c ∈ candidatesOf L docs, Current table' MODEL_NAME c := by
  rw [attemptUpsert, upsert_chunks, corpus_candidates_eq_ok h] at ha
  cases hlost : a.lost with
  | none =>
    rw [hlost] at ha
    obtain ⟨hok, rfl⟩ := Prod.mk.inj ha
    refine current_of_embed_pending (nodup_offered _ _) hs ?_
    rw [← hok, candidatesOf]
    generalize (embed_pending _ _ _ _ _ _).result = result
    cases result <;> rfl
  | some committed =>
    rw [hlost] at ha
    cases ha

/-! ## What the bumps do -/

/-- **An epoch is as it was or a later one.** -/
def Kept (redis redis' : Redis) : Prop :=
  ∀ t, getEpoch redis' t = getEpoch redis t ∨ Bumped redis redis' t

theorem Kept.refl (redis : Redis) : Kept redis redis := fun _ => .inl rfl

theorem Bumped.kept {r r' r'' : Redis} {t : String} (h : Bumped r r' t) (h' : Kept r' r'') :
    Bumped r r'' t := by
  obtain ⟨n, n', hn, hn', hlt⟩ := h
  obtain hsame | ⟨m, m', hm, hm', hlt'⟩ := h' t
  · exact ⟨n, n', hn, hsame.trans hn', hlt⟩
  · cases hn'.symm.trans hm
    exact ⟨n, m', hn, hm', hlt.trans hlt'⟩

theorem Kept.bumped {r r' r'' : Redis} {t : String} (h : Kept r r') (h' : Bumped r' r'' t) :
    Bumped r r'' t := by
  obtain ⟨n, n', hn, hn', hlt⟩ := h'
  obtain hsame | ⟨m, m', hm, hm', hlt'⟩ := h t
  · exact ⟨n, n', hsame ▸ hn, hn', hlt⟩
  · cases hm'.symm.trans hn
    exact ⟨m, n', hm, hn', hlt'.trans hlt⟩

theorem Kept.trans {r r' r'' : Redis} (h : Kept r r') (h' : Kept r' r'') : Kept r r'' := by
  intro t
  obtain hsame | hbumped := h t
  · obtain hsame' | hbumped' := h' t
    · exact .inl (hsame'.trans hsame)
    · exact .inr (h.bumped hbumped')
  · exact .inr (hbumped.kept h')

/-- **One bump.** -/
theorem bumped_of_bumpEpoch {r r' : Redis} {t : String} {n : ℤ} (h : bumpEpoch r t = .ok (r', n)) :
    Bumped r r' t ∧ ∀ t', t' ≠ t → getEpoch r' t' = getEpoch r t' := by
  obtain ⟨m, ex, hm, rfl, rfl, -⟩ := bumpEpoch_eq_ok h
  exact ⟨⟨m, m + 1, hm, getEpoch_update_self _ _ _ _, lt_add_one m⟩,
    fun t' ht => getEpoch_update_ne (fun hkey => ht (epochKey_inj.mp hkey).symm) _⟩

theorem kept_of_bumpEpoch {r r' : Redis} {t : String} {n : ℤ} (h : bumpEpoch r t = .ok (r', n)) :
    Kept r r' := by
  obtain ⟨hbumped, hother⟩ := bumped_of_bumpEpoch h
  intro t'
  by_cases ht : t' = t
  · exact .inr (ht ▸ hbumped)
  · exact .inl (hother t' ht)

theorem bump_cache_epochs_other {tenants : List String} {t : String} (h : t ∉ tenants)
    (redis : Redis) : getEpoch (bump_cache_epochs tenants redis).2 t = getEpoch redis t := by
  induction tenants generalizing redis with
  | nil => rfl
  | cons tenant tenants ih =>
    rw [List.mem_cons, not_or] at h
    rw [bump_cache_epochs]
    split
    · next redis' n hbump =>
      exact (ih h.2 redis').trans ((bumped_of_bumpEpoch hbump).2 t h.1)
    · rfl

theorem bump_cache_epochs_kept (tenants : List String) (redis : Redis) :
    Kept redis (bump_cache_epochs tenants redis).2 := by
  induction tenants generalizing redis with
  | nil => exact .refl redis
  | cons tenant tenants ih =>
    rw [bump_cache_epochs]
    split
    · next redis' n hbump => exact (kept_of_bumpEpoch hbump).trans (ih redis')
    · exact .refl redis

/-- **Where no bump raises**, every tenant's epoch is a later one. -/
theorem bumped_of_bump_cache_epochs {tenants : List String} {redis : Redis}
    (h : (bump_cache_epochs tenants redis).1.isOk = true) :
    ∀ t ∈ tenants, Bumped redis (bump_cache_epochs tenants redis).2 t := by
  induction tenants generalizing redis with
  | nil => exact fun _ ht => absurd ht List.not_mem_nil
  | cons tenant tenants ih =>
    rw [bump_cache_epochs] at h ⊢
    split at h
    · next redis' n hbump =>
      intro t ht
      rcases List.mem_cons.mp ht with rfl | ht
      · exact (bumped_of_bumpEpoch hbump).1.kept (bump_cache_epochs_kept tenants redis')
      · exact (kept_of_bumpEpoch hbump).bumped (ih h t ht)
    · cases h

/-- **A successful attempt** bumps every tenant. -/
theorem bumped_of_attemptBump {lost : Option ℕ} {redis redis' : Redis}
    (h : attemptBump lost redis = (true, redis')) : ∀ t ∈ TENANTS, Bumped redis redis' t := by
  cases lost with
  | none =>
    obtain ⟨hok, rfl⟩ := Prod.mk.inj h
    exact bumped_of_bump_cache_epochs hok
  | some n => cases h

theorem attemptBump_kept (lost : Option ℕ) (redis : Redis) :
    Kept redis (attemptBump lost redis).2 := by
  cases lost with
  | none => exact bump_cache_epochs_kept _ _
  | some n => exact bump_cache_epochs_kept _ _

theorem attemptBump_other {t : String} (h : t ∉ TENANTS) (lost : Option ℕ) (redis : Redis) :
    getEpoch (attemptBump lost redis).2 t = getEpoch redis t := by
  cases lost with
  | none => exact bump_cache_epochs_other h redis
  | some n => exact bump_cache_epochs_other (fun ht => h (List.mem_of_mem_take ht)) redis

/-! ## What a run does -/

/-- A corpus that cannot be read ends a run at its first task… -/
theorem run_of_error {r : Run T} {s : State V T} {e : IngestError}
    (h : documents_for L r.file none = .error e) : run L r s = (false, s) := by
  unfold documents_for at h
  rw [run, load_docs]
  cases hload : load_corpus L r.file with
  | error e' => rfl
  | ok frame =>
    rw [hload] at h
    cases h

/-- …and one that can is upserted and, if that succeeds, followed by the bumps. -/
theorem run_of_ok {r : Run T} {s : State V T} {docs : List Document}
    (h : documents_for L r.file none = .ok docs) : run L r s
      = match retried (attemptUpsert L r.file) (r.upserts.take (RETRIES + 1)) s.table with
        | (false, table) => (false, { s with table := table })
        | (true, table) => ((retried attemptBump (r.bumps.take (RETRIES + 1)) s.redis).1,
          ⟨table, (retried attemptBump (r.bumps.take (RETRIES + 1)) s.redis).2⟩) := by
  have hembed : embed_chunks L r.file s.table
      = .ok (pending_candidates s.table (candidatesOf L docs) MODEL_NAME).length := by
    rw [embed_chunks, corpus_candidates_eq_ok h]
    rfl
  have hsplitter : make_splitter L DEFAULT_CHUNK_SIZE DEFAULT_OVERLAP
      = .ok (L.split_text DEFAULT_CHUNK_SIZE DEFAULT_OVERLAP) := if_pos (by decide)
  unfold documents_for at h
  cases hload : load_corpus L r.file with
  | error e =>
    rw [hload] at h
    cases h
  | ok frame =>
    simp only [run, load_docs, chunk_docs, documents_for, Rag.chunk_docs, hload, hsplitter, hembed,
      Except.map, Except.bind]

/-- **A run keeps to its candidates**, successful or not. -/
theorem run_upserted {r : Run T} {s : State V T} {docs : List Document}
    (h : documents_for L r.file none = .ok docs) :
    Upserted (candidatesOf L docs) s.table (run L r s).2.table := by
  have hupserts := retried_rel Upserted.refl Upserted.trans (attemptUpsert_upserted h)
    (r.upserts.take (RETRIES + 1)) s.table
  rw [run_of_ok h]
  split
  all_goals
    next table hretried =>
      rw [hretried] at hupserts
      exact hupserts

/-- **A tenant that is not enumerated** keeps its epoch, whatever the run stores. -/
theorem run_unlisted {t : String} (ht : t ∉ TENANTS) (r : Run T) (s : State V T) :
    getEpoch (run L r s).2.redis t = getEpoch s.redis t := by
  cases hdocs : documents_for L r.file none with
  | error e => rw [run_of_error hdocs]
  | ok docs =>
    rw [run_of_ok hdocs]
    split
    · rfl
    · exact retried_rel (R := fun r r' => getEpoch r' t = getEpoch r t) (fun _ => rfl)
        (fun h h' => h'.trans h) (attemptBump_other ht) _ s.redis

/-- **The hashes of a table runs produce** are those of its texts. -/
theorem hashed_of_produced (h : Produced L table) : Hashed table := by
  induction h with
  | empty => exact nofun
  | run h r redis ih =>
    cases hdocs : documents_for L r.file none with
    | error e =>
      rw [run_of_error hdocs]
      exact ih
    | ok docs => exact (run_upserted hdocs).hashed ih

/-- **A successful run**: its corpus is read, and at the end every candidate is current, the other
keys are as they were, and the epoch of each of the tenants bumped is a later one. -/
theorem run_eq_true {r : Run T} {s s' : State V T} (hs : Produced L s.table)
    (h : run L r s = (true, s')) : ∃ docs, documents_for L r.file none = .ok docs
      ∧ Upserted (candidatesOf L docs) s.table s'.table
      ∧ (∀ c ∈ candidatesOf L docs, Current s'.table MODEL_NAME c)
      ∧ ∀ t ∈ TENANTS, Bumped s.redis s'.redis t := by
  cases hdocs : documents_for L r.file none with
  | error e =>
    rw [run_of_error hdocs] at h
    cases h
  | ok docs =>
    have hupserted := h ▸ run_upserted (s := s) hdocs
    refine ⟨docs, rfl, hupserted, ?_⟩
    rw [run_of_ok hdocs] at h
    split at h
    · cases h
    · next table hretried =>
      obtain ⟨hbumps, rfl⟩ := Prod.mk.inj h
      constructor
      · obtain ⟨a, t, ht, ha⟩ := exists_attempt_of_retried Upserted.refl Upserted.trans
          (attemptUpsert_upserted hdocs) hretried
        exact current_of_attemptUpsert hdocs (ht.hashed (hashed_of_produced hs)) ha
      · obtain ⟨lost, redis, hkept, hlast⟩ := exists_attempt_of_retried Kept.refl Kept.trans
          attemptBump_kept (Prod.ext hbumps rfl : retried attemptBump _ s.redis = (true, _))
        exact fun t ht => hkept.bumped (bumped_of_attemptBump hlast t ht)

/-! ## What a run leaves -/

/-- **The places of the current text** are those of its document's candidates. -/
theorem currentText_eq_some {docs : List Document} {doc_id text : String} {idx : ℤ} :
    currentText L docs doc_id idx = some text ↔ ∃ c ∈ candidatesOf L docs,
      c.doc_id = doc_id ∧ c.chunk_idx = idx ∧ c.chunk_text = text := by
  rw [candidatesOf, mem_offered_iff, textsOf_split_documents, currentText]
  have hseen : seenOf [] doc_id = 0 := rfl
  rw [hseen]
  constructor
  · intro h
    obtain ⟨hidx, htext⟩ := Option.ite_none_right_eq_some.mp h
    exact ⟨idx.toNat, by omega, htext⟩
  · rintro ⟨n, rfl, hn⟩
    rw [if_pos (by omega), Int.toNat_natCast, Nat.zero_add]
    exact hn

/-- **An ingest run leaves the current corpus, and what was stored beyond it**: after a successful
run over a table that earlier runs have produced, the chunks of the current text of each document
are stored, every other place of the document is as it was, and the epoch of each of the tenants
enumerated is a later one. -/
theorem ingest_leaves {r : Run T} {s s' : State V T} (hs : Produced L s.table)
    (h : run L r s = (true, s')) : ∃ docs, documents_for L r.file none = .ok docs
      ∧ Leaves L docs s.table s'.table ∧ ∀ tenant ∈ TENANTS, Bumped s.redis s'.redis tenant := by
  obtain ⟨docs, hdocs, hupserted, hcurrent, hbumped⟩ := run_eq_true hs h
  refine ⟨docs, hdocs, ⟨fun d _ idx text htext => ?_, fun d _ idx hnone => ?_⟩, hbumped⟩
  · obtain ⟨c, hc, hdoc, rfl, rfl⟩ := currentText_eq_some.mp htext
    obtain ⟨chunk, hget, hhash⟩ := hcurrent c hc
    rw [← hdoc]
    refine ⟨chunk.chunk_text, congrArg (Option.map DocChunk.chunk_text) hget, ?_⟩
    have hstored := hupserted.hashed (hashed_of_produced hs) _ _ hget
    exact Option.some.inj (hstored.symm.trans hhash)
  · refine hupserted.others _ fun c hc hkey => ?_
    have hsome := currentText_eq_some.mpr ⟨c, hc, congrArg Key.doc_id hkey,
      congrArg Key.chunk_idx hkey, rfl⟩
    cases hnone.symm.trans hsome

/-- A library whose texts are short. -/
def docsLibrary : Library Unit where
  str
    | .str s => s
    | .int n => String.ofList (Json.intText n)
    | _ => ""
  int
    | .int n => .ok n
    | _ => .error .library
  same
    | .str s, .str t => s = t
    | .int m, .int n => m = n
    | _, _ => false
  hasStr cells := cells.all fun
    | .str _ => true
    | _ => false
  len
    | .str s => some s.length
    | _ => none
  split_text _ _ text := if text = "" then [] else [text]
  construct _ := docsModel
  str_str _ := rfl
  int_int _ := rfl

/-- A row of a corpus. -/
def docsRow (doc_id : String) (chunk_idx : ℤ) (chunk_text tenant_id : String) (column : String) :
    Json :=
  if column = "doc_id" then .str doc_id
  else if column = "chunk_idx" then .int chunk_idx
  else if column = "chunk_text" then .str chunk_text
  else .str tenant_id

/-- A run over some rows, at its first attempts. -/
def docsRun (rows : List (String → Json)) : Run ℕ where
  file := ⟨".jsonl", some ⟨["doc_id", "chunk_idx", "chunk_text", "tenant_id"], rows⟩⟩
  upserts := [⟨1, none⟩]
  bumps := [none]

/-- Nothing stored, and nothing cached. -/
def docsStart : State Unit ℕ := ⟨⟨[], Dict.nodup_nil⟩, fun _ => none⟩

/-- A publication of two sections, and of one. -/
def docsLong : Run ℕ := docsRun [docsRow "pub-17" 0 "Standard deduction." "tenant-a",
  docsRow "pub-17" 1 "Itemized deductions." "tenant-a"]

def docsShort : Run ℕ := docsRun [docsRow "pub-17" 0 "Standard deduction." "tenant-a"]

/-- A publication of a tenant that is not enumerated. -/
def docsOther : Run ℕ := docsRun [docsRow "pub-501" 0 "Dependents." "tenant-d"]

/-- Where one run leaves off. -/
def docsStored : State Unit ℕ := (run docsLibrary docsLong docsStart).2

/-- A run that is successful, and what it leaves. -/
theorem run_eq_of_fst {r : Run T} {s : State V T} (h : (run L r s).1 = true) :
    run L r s = (true, (run L r s).2) :=
  Prod.ext h rfl

theorem produced_docsStored : Produced docsLibrary docsStored.table :=
  .run .empty docsLong docsStart.redis

theorem ingest_leaves_docsShort : ∃ s', run docsLibrary docsShort docsStored = (true, s')
    ∧ ∃ docs, documents_for docsLibrary docsShort.file none = .ok docs
      ∧ Leaves docsLibrary docs docsStored.table s'.table
      ∧ ∀ tenant ∈ TENANTS, Bumped docsStored.redis s'.redis tenant := by
  have hrun : (run docsLibrary docsShort docsStored).1 = true := by decide +kernel
  exact ⟨_, run_eq_of_fst hrun, ingest_leaves produced_docsStored (run_eq_of_fst hrun)⟩

/-- **A tenant that is not enumerated** has its first chunk stored, and keeps its epoch. -/
theorem unlisted_not_bumped :
    ¬ ∀ (L : Library Unit) (r : Run ℕ) (s s' : State Unit ℕ) (docs : List Document),
      Produced L s.table → run L r s = (true, s') → documents_for L r.file none = .ok docs →
      ∀ tenant, Touched L docs s.table s'.table tenant → Bumped s.redis s'.redis tenant := by
  intro hall
  have hrun : ((run docsLibrary docsOther docsStart).1,
      ((run docsLibrary docsOther docsStart).2.table.get? ⟨"pub-501", 0, MODEL_NAME⟩).map
        DocChunk.tenant_id) = (true, some "tenant-d") := by decide +kernel
  obtain ⟨hsucceeds, hstored⟩ := Prod.mk.inj hrun
  obtain ⟨chunk, hget, htenant⟩ := Option.map_eq_some_iff.mp hstored
  obtain ⟨docs, hdocs, -⟩ := run_eq_true .empty (run_eq_of_fst hsucceeds)
  obtain ⟨n, n', hn, hn', hlt⟩ := hall docsLibrary docsOther docsStart _ docs .empty
    (run_eq_of_fst hsucceeds) hdocs "tenant-d" ⟨_, chunk, hget, htenant, .inl nofun⟩
  have hsame := run_unlisted (by decide) docsOther docsStart (t := "tenant-d") (L := docsLibrary)
  cases hn.symm.trans (hsame.symm.trans hn')
  exact absurd hlt (lt_irrefl _)

/-- **A document that has shrunk** keeps the tail of its older text, and a tenant that is not
enumerated its epoch. -/
theorem shrunk_not_current :
    (¬ ∀ (L : Library Unit) (r : Run ℕ) (s s' : State Unit ℕ) (docs : List Document),
      Produced L s.table → run L r s = (true, s') → documents_for L r.file none = .ok docs →
      ExactlyCurrent L docs s'.table
        ∧ ∀ tenant, Touched L docs s.table s'.table tenant → Bumped s.redis s'.redis tenant)
    ∧ ¬ ∀ (L : Library Unit) (r : Run ℕ) (s s' : State Unit ℕ) (docs : List Document),
      Produced L s.table → run L r s = (true, s') → documents_for L r.file none = .ok docs →
      ∀ tenant, Touched L docs s.table s'.table tenant → Bumped s.redis s'.redis tenant := by
  refine ⟨fun hall => ?_, unlisted_not_bumped⟩
  have hrun : ((run docsLibrary docsShort docsStored).1,
      storedText (run docsLibrary docsShort docsStored).2.table "pub-17" 1)
        = (true, some "Itemized deductions.") := by decide +kernel
  have hcorpus : (documents_for docsLibrary docsShort.file none).toOption.map (fun docs =>
      (docs.map (docIdOf docsLibrary), currentText docsLibrary docs "pub-17" 1))
        = some (["pub-17"], none) := by decide +kernel
  obtain ⟨hsucceeds, hstored⟩ := Prod.mk.inj hrun
  obtain ⟨docs, hdocs, hcurrent⟩ := Option.map_eq_some_iff.mp hcorpus
  obtain ⟨hids, hnone⟩ := Prod.mk.inj hcurrent
  obtain ⟨d, rfl, hd⟩ := List.map_eq_singleton_iff.mp hids
  have hsame := (hall docsLibrary docsShort docsStored _ [d] produced_docsStored
    (run_eq_of_fst hsucceeds) (toOption_eq_some_iff.mp hdocs)).1 d List.mem_cons_self 1
  rw [hd, hstored, hnone] at hsame
  cases hsame

end Ingest

end Rag
