import TaxLiability.Machinery.Sha256
import TaxLiability.Rag.DocChunks

/-!
# Rag/Embedder — the gate before the model, and what an ingest leaves behind

    candidates ──gate──┬── stored hash is theirs ──▸ skipped
                       └── pending ──encode──▸ rows ──load_rows──▸ doc_chunks

The gate reads one column, the hash of the text, under a key without the tenant.  A candidate it
skips is neither written nor checked: an ingest is complete exactly if what is skipped is stored as
it is offered, or the load of the rest is refused anyway (`embed_pending_complete_iff`).
-/

namespace Rag

/-! ## Candidates -/

/-- **`content_hash`**: the hash of a chunk's text, in UTF-8. -/
def content_hash (text : String) : String :=
  String.ofList (Sha256.hexdigest (Uuid.utf8 text.toList))

/-- **One chunk offered for ingestion**, before anything has been embedded. -/
structure ChunkCandidate where
  doc_id : String
  chunk_idx : ℤ
  chunk_text : String
  tenant_id : String
  chunk_metadata : Json.Fields := []

namespace ChunkCandidate

/-- The value the gate compares and the loader stores. -/
def content_hash (c : ChunkCandidate) : String := Rag.content_hash c.chunk_text

/-- What the gate looks a candidate up by. -/
def gateKey (c : ChunkCandidate) : String × ℤ := (c.doc_id, c.chunk_idx)

/-- The key a candidate is stored under. -/
def key (model_version : String) (c : ChunkCandidate) : Key :=
  ⟨c.doc_id, c.chunk_idx, model_version⟩

end ChunkCandidate

variable {V T : Type}

/-! ## The gate -/

/-- **`_STORED_HASHES_SQL`**: the hashes stored under a model version, for any of the documents and
any of the places. -/
def STORED_HASHES_SQL (table : DocChunks V T) (model_version : String) (doc_ids : List String)
    (chunk_idxs : List ℤ) : List ((String × ℤ) × Option String) :=
  (table.rows.filter fun f => f.1.model_version = model_version ∧ f.1.doc_id ∈ doc_ids
    ∧ f.1.chunk_idx ∈ chunk_idxs).map fun f => ((f.1.doc_id, f.1.chunk_idx), f.2.content_hash)

/-- **`pending_candidates`**: the candidates whose stored hash is not that of their text. -/
def pending_candidates (table : DocChunks V T) (candidates : List ChunkCandidate)
    (model_version : String) : List ChunkCandidate :=
  if candidates = [] then []
  else
    let stored : Dict (String × ℤ) (Option String) := Dict.merge []
      (STORED_HASHES_SQL table model_version (candidates.map ChunkCandidate.doc_id)
        (candidates.map ChunkCandidate.chunk_idx))
    candidates.filter fun c => (stored.get? c.gateKey).join ≠ some c.content_hash

/-! ## The ingest -/

/-- **A loaded model**: one vector for each text. -/
structure SentenceTransformer (V : Type) where
  encode : List String → List V
  length_encode : ∀ texts, (encode texts).length = texts.length

/-- The row a pending candidate becomes. -/
def ChunkCandidate.row (model_version : String) (c : ChunkCandidate) (vector : V) :
    CorpusRow V where
  doc_id := c.doc_id
  chunk_idx := c.chunk_idx
  chunk_text := c.chunk_text
  embedding := vector
  model_version := model_version
  tenant_id := c.tenant_id
  chunk_metadata := c.chunk_metadata
  content_hash := some c.content_hash

/-- The rows of the pending candidates: the strict zip does not raise, as the model makes as many
vectors as there are candidates. -/
def pendingRows (encoder : SentenceTransformer V) (model_version : String)
    (pending : List ChunkCandidate) : List (CorpusRow V) :=
  List.zipWith (ChunkCandidate.row model_version) pending
    (encoder.encode (pending.map ChunkCandidate.chunk_text))

/-- **A run of `embed_pending`**: what it returns or raises, the table after it, and whether it
constructed a model. -/
structure EmbedRun (V T : Type) where
  result : Except CrossTenantDocIdError ℕ
  table : DocChunks V T
  constructed : Bool

/-- **`embed_pending`**, with a loaded model or the one `construct` makes of the model version. -/
def embed_pending (construct : String → SentenceTransformer V) (now : T) (table : DocChunks V T)
    (candidates : List ChunkCandidate) (model : Option (SentenceTransformer V))
    (model_version : String) : EmbedRun V T :=
  let pending := pending_candidates table candidates model_version
  if pending = [] then ⟨.ok 0, table, false⟩
  else
    let rows := pendingRows (model.getD (construct model_version)) model_version pending
    ⟨(load_rows now table rows).1, (load_rows now table rows).2, model.isNone⟩

/-! ## What the gate lets through -/

/-- The stored hash of a candidate's key is the hash of its text: the gate skips it. -/
def Current (table : DocChunks V T) (model_version : String) (c : ChunkCandidate) : Prop :=
  ∃ chunk, table.get? (c.key model_version) = some chunk
    ∧ chunk.content_hash = some c.content_hash

/-- A candidate's key is owned by another tenant. -/
def Foreign (table : DocChunks V T) (model_version : String) (c : ChunkCandidate) : Prop :=
  ∃ chunk, table.get? (c.key model_version) = some chunk ∧ chunk.tenant_id ≠ c.tenant_id

/-- **A candidate is stored**: the row under its key has its text, its tenant and its metadata. -/
def StoredAs (table : DocChunks V T) (model_version : String) (c : ChunkCandidate) : Prop :=
  ∃ chunk, table.get? (c.key model_version) = some chunk ∧ chunk.chunk_text = c.chunk_text
    ∧ chunk.tenant_id = c.tenant_id ∧ chunk.chunk_metadata = jsonb c.chunk_metadata

variable {table : DocChunks V T} {model_version : String} {candidates : List ChunkCandidate}

/-- No two of the hashes returned have one key: the model version is the same. -/
theorem nodup_storedHashes (doc_ids : List String) (chunk_idxs : List ℤ) :
    Dict.Nodup (STORED_HASHES_SQL table model_version doc_ids chunk_idxs) := by
  have hunique := table.unique
  rw [Dict.Nodup, List.Nodup, List.pairwise_map] at hunique
  rw [Dict.Nodup, STORED_HASHES_SQL, List.map_map, List.Nodup, List.pairwise_map]
  refine (hunique.filter _).imp_of_mem fun {f g} hf hg hne heq => hne ?_
  obtain ⟨hdoc, hidx⟩ := Prod.mk.inj heq
  have hmodel := (of_decide_eq_true (List.mem_filter.mp hf).2).1
  have hmodel' := (of_decide_eq_true (List.mem_filter.mp hg).2).1
  exact Key.ext hdoc hidx (hmodel.trans hmodel'.symm)

/-- **The hash the gate reads** for a candidate is that of the row under its key. -/
theorem storedHash_eq {c : ChunkCandidate} (hc : c ∈ candidates) :
    (Dict.get? (Dict.merge [] (STORED_HASHES_SQL table model_version
      (candidates.map ChunkCandidate.doc_id) (candidates.map ChunkCandidate.chunk_idx)))
        c.gateKey).join
      = (table.get? (c.key model_version)).bind DocChunk.content_hash := by
  have hrows : Dict.get? (STORED_HASHES_SQL table model_version
      (candidates.map ChunkCandidate.doc_id) (candidates.map ChunkCandidate.chunk_idx)) c.gateKey
        = (table.get? (c.key model_version)).map DocChunk.content_hash := by
    refine Option.ext fun hash => ?_
    rw [← Dict.mem_iff (nodup_storedHashes _ _), Option.map_eq_some_iff, STORED_HASHES_SQL,
      List.mem_map]
    constructor
    · rintro ⟨⟨key, chunk⟩, hf, he⟩
      obtain ⟨hmem, hfilter⟩ := List.mem_filter.mp hf
      obtain ⟨hkey, rfl⟩ := Prod.mk.inj he
      obtain ⟨hdoc, hidx⟩ := Prod.mk.inj hkey
      obtain ⟨hmodel, -⟩ := of_decide_eq_true hfilter
      obtain ⟨doc_id, chunk_idx, version⟩ := key
      dsimp only at hdoc hidx hmodel
      subst hdoc hidx hmodel
      exact ⟨chunk, (Dict.mem_iff table.unique).mp hmem, rfl⟩
    · rintro ⟨chunk, hget, rfl⟩
      refine ⟨(c.key model_version, chunk), List.mem_filter.mpr
        ⟨(Dict.mem_iff table.unique).mpr hget, ?_⟩, rfl⟩
      simp only [decide_eq_true_eq]
      exact ⟨rfl, List.mem_map_of_mem hc, List.mem_map_of_mem hc⟩
  rw [Dict.get?_merge, (nodup_storedHashes _ _).get?_reverse, hrows, Dict.get?_nil, Option.or_none]
  cases table.get? (c.key model_version) <;> rfl

/-- **The gate lets through what is not current.** -/
theorem mem_pending_iff {c : ChunkCandidate} :
    c ∈ pending_candidates table candidates model_version
      ↔ c ∈ candidates ∧ ¬ Current table model_version c := by
  have hcurrent : Current table model_version c
      ↔ (table.get? (c.key model_version)).bind DocChunk.content_hash = some c.content_hash :=
    Option.bind_eq_some_iff.symm
  unfold pending_candidates
  split
  · next hnil => simp [hnil]
  · rw [List.mem_filter, decide_eq_true_eq]
    refine and_congr_right fun hc => ?_
    rw [storedHash_eq hc, hcurrent]

/-! ## What the load is given -/

variable {encoder : SentenceTransformer V} {pending : List ChunkCandidate}

theorem length_pendingRows :
    (pendingRows encoder model_version pending).length = pending.length := by
  rw [pendingRows, List.length_zipWith, encoder.length_encode, List.length_map, Nat.min_self]

theorem exists_of_mem_pendingRows {row : CorpusRow V}
    (h : row ∈ pendingRows encoder model_version pending) :
    ∃ c ∈ pending, ∃ vector, row = c.row model_version vector := by
  obtain ⟨i, hi, rfl⟩ := List.getElem_of_mem h
  have hi' : i < pending.length := hi.trans_eq length_pendingRows
  exact ⟨pending[i], List.getElem_mem hi', _, List.getElem_zipWith⟩

theorem exists_mem_pendingRows {c : ChunkCandidate} (hc : c ∈ pending) :
    ∃ vector, c.row model_version vector ∈ pendingRows encoder model_version pending := by
  obtain ⟨i, hi, rfl⟩ := List.getElem_of_mem hc
  have hlength := encoder.length_encode (pending.map ChunkCandidate.chunk_text)
  rw [List.length_map] at hlength
  have hi' : i < (encoder.encode (pending.map ChunkCandidate.chunk_text)).length := by omega
  have hrow : i < (pendingRows encoder model_version pending).length :=
    hi.trans_eq length_pendingRows.symm
  exact ⟨(encoder.encode (pending.map ChunkCandidate.chunk_text))[i],
    List.mem_iff_getElem.mpr ⟨i, hrow, List.getElem_zipWith⟩⟩

/-- Of candidates with keys of their own, one whose row's key is another's is that one. -/
theorem eq_of_key_eq (hkeys : (candidates.map ChunkCandidate.gateKey).Nodup) {c c' : ChunkCandidate}
    (hc : c ∈ candidates) (hc' : c' ∈ candidates)
    (h : c.key model_version = c'.key model_version) : c = c' :=
  List.inj_on_of_nodup_map hkeys hc hc'
    (Prod.ext (congrArg Key.doc_id h) (congrArg Key.chunk_idx h))

/-- **The load of the pending rows is refused** exactly if one of them is another tenant's in the
table. -/
theorem crossTenant_pendingRows_iff (hkeys : (candidates.map ChunkCandidate.gateKey).Nodup)
    (hsub : ∀ c ∈ pending, c ∈ candidates) :
    CrossTenant table (pendingRows encoder model_version pending)
      ↔ ∃ c ∈ pending, Foreign table model_version c := by
  constructor
  · rintro ⟨before, row, after, hrows, h⟩
    have hrow : row ∈ pendingRows encoder model_version pending := by simp [hrows]
    obtain ⟨c, hc, vector, rfl⟩ := exists_of_mem_pendingRows hrow
    rcases h with h | ⟨earlier, hbefore, hkey, hne⟩
    · exact ⟨c, hc, h⟩
    · have hearlier : earlier ∈ pendingRows encoder model_version pending := by
        simp [hrows, hbefore]
      obtain ⟨c', hc', vector', rfl⟩ := exists_of_mem_pendingRows hearlier
      rw [eq_of_key_eq hkeys (hsub c' hc') (hsub c hc) hkey] at hne
      exact absurd rfl hne
  · rintro ⟨c, hc, hforeign⟩
    obtain ⟨vector, hrow⟩ := exists_mem_pendingRows hc
    obtain ⟨before, after, hrows⟩ := List.append_of_mem hrow
    exact ⟨before, _, after, hrows, .inl hforeign⟩

/-- The row of a pending candidate is the last of its key. -/
theorem lastRow_pendingRows (hkeys : (candidates.map ChunkCandidate.gateKey).Nodup)
    (hsub : ∀ c ∈ pending, c ∈ candidates) {c : ChunkCandidate} (hc : c ∈ pending) :
    ∃ vector, lastRow (pendingRows encoder model_version pending) (c.key model_version)
      = some (c.row model_version vector) := by
  cases hlast : lastRow (pendingRows encoder model_version pending) (c.key model_version) with
  | none =>
    obtain ⟨vector, hrow⟩ := exists_mem_pendingRows hc
    exact absurd rfl (lastRow_eq_none.mp hlast _ hrow)
  | some row =>
    obtain ⟨hkey, before, after, hrows, -⟩ := lastRow_eq_some hlast
    have hrow : row ∈ pendingRows encoder model_version pending := by simp [hrows]
    obtain ⟨c', hc', vector, rfl⟩ := exists_of_mem_pendingRows hrow
    exact ⟨vector, by rw [eq_of_key_eq hkeys (hsub c' hc') (hsub c hc) hkey]⟩

/-! ## What an ingest does -/

variable {construct : String → SentenceTransformer V} {now : T}
  {model : Option (SentenceTransformer V)}

/-- **The ingest is the load of its pending rows**, whether there are any or not. -/
theorem embed_pending_eq {run : EmbedRun V T}
    (hrun : embed_pending construct now table candidates model model_version = run) :
    ∃ encoder : SentenceTransformer V, load_rows now table (pendingRows encoder model_version
      (pending_candidates table candidates model_version)) = (run.result, run.table) := by
  refine ⟨model.getD (construct model_version), ?_⟩
  subst hrun
  unfold embed_pending
  dsimp only
  split
  · next hnil =>
    rw [hnil]
    rfl
  · rfl

/-- **What an ingest does**: it is refused for a pending candidate whose key is another tenant's, or
returns, with every pending candidate stored and the rows of the skipped ones as they were. -/
theorem embed_pending_cases {run : EmbedRun V T}
    (hrun : embed_pending construct now table candidates model model_version = run)
    (hkeys : (candidates.map ChunkCandidate.gateKey).Nodup) :
    ((∃ c ∈ candidates, ¬ Current table model_version c ∧ Foreign table model_version c)
      ∧ ∃ e, run.result = .error e)
    ∨ ((∀ c ∈ candidates, Foreign table model_version c → Current table model_version c)
      ∧ (∃ n, run.result = .ok n)
      ∧ (∀ c ∈ candidates, ¬ Current table model_version c → StoredAs run.table model_version c)
      ∧ ∀ c ∈ candidates, Current table model_version c →
        run.table.get? (c.key model_version) = table.get? (c.key model_version)) := by
  have hsub : ∀ c ∈ pending_candidates table candidates model_version, c ∈ candidates :=
    fun c hc => (mem_pending_iff.mp hc).1
  obtain ⟨encoder, hload⟩ := embed_pending_eq hrun
  obtain ⟨hcross, e, herror⟩ | ⟨hcross, table', hok, hloaded⟩ := load_rows_spec now table
    (pendingRows encoder model_version (pending_candidates table candidates model_version))
  · obtain ⟨c, hc, hforeign⟩ := (crossTenant_pendingRows_iff hkeys hsub).mp hcross
    obtain ⟨hc, hcurrent⟩ := mem_pending_iff.mp hc
    exact .inl ⟨⟨c, hc, hcurrent, hforeign⟩, e, (Prod.mk.inj (hload.symm.trans herror)).1⟩
  · obtain ⟨hresult, rfl⟩ := Prod.mk.inj (hload.symm.trans hok)
    rw [crossTenant_pendingRows_iff hkeys hsub] at hcross
    refine .inr ⟨fun c hc hforeign => ?_, ⟨_, hresult⟩, fun c hc hpending => ?_,
      fun c hc hcurrent => ?_⟩
    · by_contra hcurrent
      exact hcross ⟨c, mem_pending_iff.mpr ⟨hc, hcurrent⟩, hforeign⟩
    · obtain ⟨vector, hlast⟩ := lastRow_pendingRows hkeys hsub (mem_pending_iff.mpr ⟨hc, hpending⟩)
      obtain ⟨chunk, hget, howner, hholds⟩ := hloaded.last _ _ hlast
      exact ⟨chunk, hget, hholds.chunk_text, howner, hholds.chunk_metadata⟩
    · refine hloaded.others _ (lastRow_eq_none.mpr fun row hrow hkey => ?_)
      obtain ⟨c', hc', vector, rfl⟩ := exists_of_mem_pendingRows hrow
      obtain ⟨hc', hpending⟩ := mem_pending_iff.mp hc'
      exact hpending (eq_of_key_eq hkeys hc' hc hkey ▸ hcurrent)

/-- An ingest of candidates that are all current writes nothing. -/
theorem embed_pending_of_current (h : ∀ c ∈ candidates, Current table model_version c) :
    embed_pending construct now table candidates model model_version = ⟨.ok 0, table, false⟩ := by
  have hnil : pending_candidates table candidates model_version = [] :=
    List.eq_nil_iff_forall_not_mem.mpr fun c hc =>
      have hc := mem_pending_iff.mp hc
      hc.2 (h c hc.1)
  simp only [embed_pending, if_pos hnil]

/-! ## Once more -/

/-- **What an ingest loads is current**: the loader stores the hash the gate reads. -/
theorem current_of_loaded {table' : DocChunks V T}
    (hkeys : (candidates.map ChunkCandidate.gateKey).Nodup) (hsub : ∀ c ∈ pending, c ∈ candidates)
    (hloaded : Loaded table (pendingRows encoder model_version pending) table')
    {c : ChunkCandidate} (hc : c ∈ pending) : Current table' model_version c := by
  obtain ⟨vector, hlast⟩ : ∃ vector, lastRow (pendingRows encoder model_version pending)
      (c.key model_version) = some (c.row model_version vector) :=
    lastRow_pendingRows hkeys hsub hc
  obtain ⟨chunk, hget, -, hholds⟩ := hloaded.last _ _ hlast
  exact ⟨chunk, hget, hholds.content_hash⟩

/-- **After an ingest that returns, every candidate is current.** -/
theorem current_after {run : EmbedRun V T} {n : ℕ}
    (hrun : embed_pending construct now table candidates model model_version = run)
    (hkeys : (candidates.map ChunkCandidate.gateKey).Nodup) (hn : run.result = .ok n) :
    ∀ c ∈ candidates, Current run.table model_version c := by
  have hsub : ∀ c ∈ pending_candidates table candidates model_version, c ∈ candidates :=
    fun c hc => (mem_pending_iff.mp hc).1
  obtain ⟨encoder, hload⟩ := embed_pending_eq hrun
  have hloaded := ((load_rows_atomic now table (pendingRows encoder model_version
    (pending_candidates table candidates model_version))).2.2 n (by rw [hload, hn])).2
  rw [hload] at hloaded
  intro c hc
  by_cases hcurrent : Current table model_version c
  · obtain ⟨-, e, he⟩ | ⟨-, -, -, hskipped⟩ := embed_pending_cases hrun hkeys
    · cases he.symm.trans hn
    · obtain ⟨chunk, hget, hhash⟩ := hcurrent
      exact ⟨chunk, (hskipped c hc ⟨chunk, hget, hhash⟩).trans hget, hhash⟩
  · exact current_of_loaded hkeys hsub hloaded (mem_pending_iff.mpr ⟨hc, hcurrent⟩)

/-- **To ingest again is free**: candidates of which none is another tenant's are ingested, and if
they are offered once more, at any later time and with any model, nothing is constructed and nothing
written. -/
theorem embed_pending_again (construct : String → SentenceTransformer V) (now : T)
    (table : DocChunks V T) (candidates : List ChunkCandidate)
    (model : Option (SentenceTransformer V)) (model_version : String)
    (hkeys : (candidates.map ChunkCandidate.gateKey).Nodup)
    (hown : ∀ c ∈ candidates, ¬ Foreign table model_version c) :
    (∃ n, (embed_pending construct now table candidates model model_version).result = .ok n)
    ∧ ∀ (construct' : String → SentenceTransformer V) (later : T)
        (model' : Option (SentenceTransformer V)),
      embed_pending construct' later
          (embed_pending construct now table candidates model model_version).table candidates model'
          model_version
        = ⟨.ok 0, (embed_pending construct now table candidates model model_version).table,
          false⟩ := by
  generalize hrun : embed_pending construct now table candidates model model_version = run
  obtain ⟨⟨c, hc, -, hforeign⟩, -⟩ | ⟨-, ⟨n, hn⟩, -⟩ := embed_pending_cases hrun hkeys
  · exact absurd hforeign (hown c hc)
  · exact ⟨⟨n, hn⟩, fun construct' later model' =>
      embed_pending_of_current (current_after hrun hkeys hn)⟩

/-! ## Completeness -/

/-- **An ingest through the gate is complete**, exactly if a candidate it does not skip is another
tenant's, or every candidate it skips is stored as it is offered: if it returns every candidate is
stored, and if one is another tenant's it raises. -/
theorem embed_pending_complete_iff (construct : String → SentenceTransformer V) (now : T)
    (table : DocChunks V T) (candidates : List ChunkCandidate)
    (model : Option (SentenceTransformer V)) (model_version : String)
    (hkeys : (candidates.map ChunkCandidate.gateKey).Nodup) :
    ((∀ n, (embed_pending construct now table candidates model model_version).result = .ok n →
        ∀ c ∈ candidates, StoredAs
          (embed_pending construct now table candidates model model_version).table model_version c)
      ∧ ((∃ c ∈ candidates, Foreign table model_version c) →
        ∃ e, (embed_pending construct now table candidates model model_version).result = .error e))
    ↔ (∃ c ∈ candidates, ¬ Current table model_version c ∧ Foreign table model_version c)
      ∨ ∀ c ∈ candidates, Current table model_version c → StoredAs table model_version c := by
  generalize hrun : embed_pending construct now table candidates model model_version = run
  rcases embed_pending_cases hrun hkeys with
    ⟨hrefused, e, he⟩ | ⟨hforeign, ⟨n, hn⟩, hpending, hskipped⟩
  · refine iff_of_true ⟨fun n hn => ?_, fun _ => ⟨e, he⟩⟩ (.inl hrefused)
    cases he.symm.trans hn
  · constructor
    · rintro ⟨hstored, -⟩
      refine .inr fun c hc hcurrent => ?_
      obtain ⟨chunk, hget, hsame⟩ := hstored n hn c hc
      exact ⟨chunk, (hskipped c hc hcurrent).symm.trans hget, hsame⟩
    · rintro (⟨c, hc, hcurrent, hf⟩ | hcondition)
      · exact absurd (hforeign c hc hf) hcurrent
      · refine ⟨fun _ _ c hc => ?_, ?_⟩
        · by_cases hcurrent : Current table model_version c
          · obtain ⟨chunk, hget, hsame⟩ := hcondition c hc hcurrent
            exact ⟨chunk, (hskipped c hc hcurrent).trans hget, hsame⟩
          · exact hpending c hc hcurrent
        · rintro ⟨c, hc, hf⟩
          obtain ⟨chunk, hget, -, howner, -⟩ := hcondition c hc (hforeign c hc hf)
          obtain ⟨chunk', hget', hne⟩ := hf
          cases hget.symm.trans hget'
          exact absurd howner hne

/-- A chunk of a tenant's, as it is offered first. -/
def docsCandidate : ChunkCandidate := ⟨"pub-17", 0, "Standard deduction.", "tenant-a", []⟩

/-- The row that holds it. -/
def docsChunk : DocChunk Unit ℕ :=
  ⟨docsCandidate.chunk_text, (), "tenant-a", 0, jsonb [], some docsCandidate.content_hash⟩

/-- The table with that row. -/
def docsTable : DocChunks Unit ℕ where
  rows := [(⟨"pub-17", 0, "all-MiniLM-L6-v2"⟩, docsChunk)]
  unique := List.nodup_singleton _

/-- A model. -/
def docsModel : SentenceTransformer Unit := ⟨fun texts => texts.map fun _ => (), by simp⟩

theorem get?_docsTable : docsTable.get? ⟨"pub-17", 0, "all-MiniLM-L6-v2"⟩ = some docsChunk := by
  simp [DocChunks.get?, docsTable, Dict.get?_cons]

/-- An ingest of what is stored is complete. -/
theorem embed_pending_complete_docsTable :
    (embed_pending (fun _ => docsModel) 1 docsTable [docsCandidate] none "all-MiniLM-L6-v2").result
        = .ok 0
      ∧ ∀ c ∈ [docsCandidate], StoredAs (embed_pending (fun _ => docsModel) 1 docsTable
        [docsCandidate] none "all-MiniLM-L6-v2").table "all-MiniLM-L6-v2" c := by
  have hrun : embed_pending (fun _ => docsModel) 1 docsTable [docsCandidate] none
      "all-MiniLM-L6-v2" = ⟨.ok 0, docsTable, false⟩ :=
    embed_pending_of_current (List.forall_mem_singleton.mpr ⟨_, get?_docsTable, rfl⟩)
  have hresult := congrArg EmbedRun.result hrun
  refine ⟨hresult, ((embed_pending_complete_iff (fun _ => docsModel) 1 docsTable [docsCandidate]
    none "all-MiniLM-L6-v2" (List.nodup_singleton _)).mpr (.inr ?_)).1 0 hresult⟩
  rintro c hc -
  obtain rfl := List.mem_singleton.mp hc
  exact ⟨docsChunk, get?_docsTable, rfl, rfl, rfl⟩

/-- The chunk is ingested into an empty table, and then never again. -/
theorem embed_pending_again_docs :
    ∃ n, (embed_pending (fun _ => docsModel) 1 (⟨[], List.nodup_nil⟩ : DocChunks Unit ℕ)
      [docsCandidate] none "all-MiniLM-L6-v2").result = .ok n :=
  (embed_pending_again (fun _ => docsModel) 1 (⟨[], List.nodup_nil⟩ : DocChunks Unit ℕ)
    [docsCandidate] none "all-MiniLM-L6-v2" (List.nodup_singleton _) (by
      rintro c - ⟨chunk, hget, -⟩
      cases hget)).1

/-- The chunk with other metadata, and the chunk as another tenant's. -/
def docsRefiled : ChunkCandidate :=
  ⟨"pub-17", 0, "Standard deduction.", "tenant-a", [("year", .int 2026)]⟩

def docsTaken : ChunkCandidate := ⟨"pub-17", 0, "Standard deduction.", "tenant-b", []⟩

/-- **What the gate skips is neither written nor checked**: the stored text, with other metadata,
stays under the old metadata; the stored text, offered by another tenant, is not refused. -/
theorem skipped_unchecked :
    (embed_pending (fun _ => docsModel) 1 docsTable [docsRefiled] none "all-MiniLM-L6-v2").result
        = .ok 0
      ∧ ¬ StoredAs (embed_pending (fun _ => docsModel) 1 docsTable [docsRefiled] none
        "all-MiniLM-L6-v2").table "all-MiniLM-L6-v2" docsRefiled
      ∧ Foreign docsTable "all-MiniLM-L6-v2" docsTaken
      ∧ (embed_pending (fun _ => docsModel) 1 docsTable [docsTaken] none
        "all-MiniLM-L6-v2").result = .ok 0 := by
  have hrefiled : embed_pending (fun _ => docsModel) 1 docsTable [docsRefiled] none
      "all-MiniLM-L6-v2" = ⟨.ok 0, docsTable, false⟩ :=
    embed_pending_of_current (List.forall_mem_singleton.mpr ⟨_, get?_docsTable, rfl⟩)
  have htaken : embed_pending (fun _ => docsModel) 1 docsTable [docsTaken] none
      "all-MiniLM-L6-v2" = ⟨.ok 0, docsTable, false⟩ :=
    embed_pending_of_current (List.forall_mem_singleton.mpr ⟨_, get?_docsTable, rfl⟩)
  rw [hrefiled, htaken]
  refine ⟨rfl, ?_, ⟨docsChunk, get?_docsTable, by decide⟩, rfl⟩
  rintro ⟨chunk, hget, -, -, hmetadata⟩
  cases hget.symm.trans get?_docsTable
  simp [docsChunk, docsRefiled, jsonb, Json.canon, Json.canonFields] at hmetadata

end Rag
