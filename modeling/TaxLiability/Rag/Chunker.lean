import TaxLiability.Rag.Cache
import TaxLiability.Rag.Embedder
import TaxLiability.Rag.Hybrid

/-!
# Rag/Chunker — a corpus file, and the chunks its documents are cut into

    file ──load_corpus──▸ rows ──▸ documents ──split──▸ chunks ──stamp──▸ candidates

A document is the rows of one `doc_id`, and its chunks are counted from 0 across them.  So no two
candidates have a key in common, and those of a document are the chunks of its text, in order
(`mem_offered_iff`).
-/

namespace Rag

/-! ## What the libraries do -/

/-- What an ingest raises. -/
inductive IngestError
  | valueError (message : String)
  /-- the reader of a file, or an accessor of a column -/
  | library
  | crossTenant (e : CrossTenantDocIdError)
  | cache (e : CacheError)

/-- **What the libraries do**: `str` and `int` of a value; which cells are duplicates, which columns
are of texts, and how long a cell is; the splitter of a chunk size and an overlap; and the model of
a name. -/
structure Library (V : Type) where
  str : Json → String
  int : Json → Except IngestError ℤ
  same : Json → Json → Bool
  hasStr : List Json → Bool
  len : Json → Option ℕ
  split_text : ℤ → ℤ → String → List String
  construct : String → SentenceTransformer V
  str_str : ∀ s, str (.str s) = s
  int_int : ∀ n, int (.int n) = .ok n

variable {V : Type}

/-! ## The corpus -/

/-- A frame: its columns, and its rows by column. -/
structure Frame where
  columns : List String
  rows : List (String → Json)

/-- A corpus file: its extension, and what the reader makes of it if it does not raise. -/
structure CorpusFile where
  suffix : String
  frame : Option Frame

def MIN_CHUNK_CHARS : ℕ := 1

def MAX_CHUNK_CHARS : ℕ := 8000

/-- The columns a corpus file must carry, sorted. -/
def REQUIRED_COLUMNS : List String := ["chunk_idx", "chunk_text", "doc_id", "tenant_id"]

/-- **`load_corpus`**: the first row of each place of a document, if its text is of a length in
bounds. -/
def load_corpus (L : Library V) (file : CorpusFile) :
    Except IngestError (List (String → Json)) :=
  if file.suffix ∈ [".parquet", ".jsonl", ".json"] then
    match file.frame with
    | none => .error .library
    | some frame =>
      let missing := REQUIRED_COLUMNS.filter (· ∉ frame.columns)
      if missing ≠ [] then
        .error (.valueError ("corpus missing columns: ["
          ++ ", ".intercalate (missing.map fun name => "'" ++ name ++ "'") ++ "]"))
      else
        let unique := frame.rows.eraseDupsBy fun row kept =>
          L.same (row "doc_id") (kept "doc_id") && L.same (row "chunk_idx") (kept "chunk_idx")
        if L.hasStr (unique.map (· "chunk_text")) then
          .ok (unique.filter fun row => (L.len (row "chunk_text")).any fun n =>
            MIN_CHUNK_CHARS ≤ n ∧ n ≤ MAX_CHUNK_CHARS)
        else .error .library
  else .error (.valueError ("unsupported corpus extension: " ++ file.suffix))

/-- **A document**, or a chunk of one. -/
structure Document where
  page_content : String
  metadata : Json.Fields

def CHUNK_ID_KEY : String := "chunk_id"

def CHUNK_ORDINAL_KEY : String := "chunk_ordinal"

def DOC_ID_KEY : String := "doc_id"

def TENANT_ID_KEY : String := "tenant_id"

def UNKNOWN_DOC_ID : String := "doc-synth-unknown"

def DEFAULT_TENANT_ID : String := "shared"

/-- `str(metadata.get(key, default))`. -/
def textAt (L : Library V) (metadata : Json.Fields) (key default : String) : String :=
  ((Dict.get? metadata key).map L.str).getD default

/-- The document a chunk is of. -/
def docIdOf (L : Library V) (d : Document) : String := textAt L d.metadata DOC_ID_KEY UNKNOWN_DOC_ID

/-- **`_documents_for`**: one document for each row of the corpus, or of some documents of it. -/
def documents_for (L : Library V) (file : CorpusFile) (doc_ids : Option (List String)) :
    Except IngestError (List Document) :=
  (load_corpus L file).map fun frame =>
    let kept := match doc_ids with
      | none => frame
      | some ids => frame.filter fun row => ids.any fun id => L.same (row "doc_id") (.str id)
    kept.map fun row => ⟨L.str (row "chunk_text"),
      [("doc_id", .str (L.str (row "doc_id"))), ("tenant_id", .str (L.str (row "tenant_id")))]⟩

/-! ## The chunks -/

def DEFAULT_CHUNK_SIZE : ℤ := 900

def DEFAULT_OVERLAP : ℤ := 150

/-- **`chunk_id_for`.** -/
def chunk_id_for (doc_id : String) (ordinal : ℤ) : String :=
  "chunk-" ++ doc_id ++ "-p" ++ String.ofList (Json.intText ordinal)

/-- It is the id the retrievers put together. -/
theorem chunk_id_for_eq (key : Key) : chunk_id_for key.doc_id key.chunk_idx = CHUNK_ID_EXPR key :=
  rfl

/-- **`make_splitter`**, by its `split_text`. -/
def make_splitter (L : Library V) (chunk_size overlap : ℤ) :
    Except IngestError (String → List String) :=
  if 0 ≤ overlap ∧ overlap < chunk_size / 2 then .ok (L.split_text chunk_size overlap)
  else .error (.valueError ("overlap must satisfy 0 <= overlap < chunk_size/2; got overlap="
    ++ String.ofList (Json.intText overlap) ++ ", chunk_size="
    ++ String.ofList (Json.intText chunk_size)))

/-- `split_documents`: a chunk has a copy of its document's metadata. -/
def split_documents (split_text : String → List String) (docs : List Document) : List Document :=
  docs.flatMap fun d => (split_text d.page_content).map fun text => ⟨text, d.metadata⟩

/-- A chunk's metadata with the three keys of its own. -/
def stamp (metadata : Json.Fields) (doc_id : String) (ordinal : ℕ) : Json.Fields :=
  ((Dict.set metadata DOC_ID_KEY (.str doc_id)).set CHUNK_ORDINAL_KEY (.int ordinal)).set
    CHUNK_ID_KEY (.str (chunk_id_for doc_id ordinal))

/-- How many chunks of a document have been seen. -/
def seenOf (seen : Dict String ℕ) (doc_id : String) : ℕ := (seen.get? doc_id).getD 0

/-- Chunks stamped in order, each by the count of its document. -/
def stampAll (L : Library V) : Dict String ℕ → List Document → List Document
  | _, [] => []
  | seen, chunk :: chunks =>
    let doc_id := docIdOf L chunk
    let ordinal := seenOf seen doc_id
    { chunk with metadata := stamp chunk.metadata doc_id ordinal }
      :: stampAll L (seen.set doc_id (ordinal + 1)) chunks

/-- **`chunk_docs`.** -/
def chunk_docs (L : Library V) (docs : List Document) (chunk_size overlap : ℤ) :
    Except IngestError (List Document) :=
  (make_splitter L chunk_size overlap).map fun split_text =>
    stampAll L [] (split_documents split_text docs)

/-! ## The candidates -/

/-- The candidate of a chunk. -/
def candidate_from_chunk (L : Library V) (chunk : Document) : Except IngestError ChunkCandidate :=
  (((Dict.get? chunk.metadata CHUNK_ORDINAL_KEY).map L.int).getD (.ok 0)).map fun chunk_idx =>
    ⟨docIdOf L chunk, chunk_idx, chunk.page_content,
      textAt L chunk.metadata TENANT_ID_KEY DEFAULT_TENANT_ID, chunk.metadata⟩

/-- **`candidates_from_chunks`.** -/
def candidates_from_chunks (L : Library V) :
    List Document → Except IngestError (List ChunkCandidate)
  | [] => .ok []
  | chunk :: chunks =>
    (candidate_from_chunk L chunk).bind fun c => (candidates_from_chunks L chunks).map (c :: ·)

/-- **What an ingest of a corpus offers.** -/
def corpus_candidates (L : Library V) (file : CorpusFile) :
    Except IngestError (List ChunkCandidate) :=
  ((documents_for L file none).bind fun docs =>
    chunk_docs L docs DEFAULT_CHUNK_SIZE DEFAULT_OVERLAP).bind (candidates_from_chunks L)

/-! ## What is offered -/

/-- The candidates of chunks stamped in order. -/
def offered (L : Library V) : Dict String ℕ → List Document → List ChunkCandidate
  | _, [] => []
  | seen, chunk :: chunks =>
    let doc_id := docIdOf L chunk
    let ordinal := seenOf seen doc_id
    ⟨doc_id, ordinal, chunk.page_content,
        textAt L chunk.metadata TENANT_ID_KEY DEFAULT_TENANT_ID,
        stamp chunk.metadata doc_id ordinal⟩
      :: offered L (seen.set doc_id (ordinal + 1)) chunks

variable {L : Library V}

theorem seenOf_set (seen : Dict String ℕ) (doc_id doc_id' : String) (n : ℕ) :
    seenOf (seen.set doc_id n) doc_id' = if doc_id = doc_id' then n else seenOf seen doc_id' := by
  rw [seenOf, Dict.get?_set]
  split <;> rfl

/-- What is read of a stamped chunk. -/
theorem candidate_from_chunk_stamp (chunk : Document) (doc_id : String) (ordinal : ℕ) :
    candidate_from_chunk L { chunk with metadata := stamp chunk.metadata doc_id ordinal }
      = .ok ⟨doc_id, ordinal, chunk.page_content,
        textAt L chunk.metadata TENANT_ID_KEY DEFAULT_TENANT_ID,
        stamp chunk.metadata doc_id ordinal⟩ := by
  have hordinal : Dict.get? (stamp chunk.metadata doc_id ordinal) CHUNK_ORDINAL_KEY
      = some (.int ordinal) := by
    simp [stamp, Dict.get?_set, CHUNK_ID_KEY, CHUNK_ORDINAL_KEY]
  have hdoc : Dict.get? (stamp chunk.metadata doc_id ordinal) DOC_ID_KEY = some (.str doc_id) := by
    simp [stamp, Dict.get?_set, CHUNK_ID_KEY, CHUNK_ORDINAL_KEY, DOC_ID_KEY]
  have htenant : Dict.get? (stamp chunk.metadata doc_id ordinal) TENANT_ID_KEY
      = Dict.get? chunk.metadata TENANT_ID_KEY := by
    simp [stamp, Dict.get?_set, CHUNK_ID_KEY, CHUNK_ORDINAL_KEY, DOC_ID_KEY, TENANT_ID_KEY]
  simp only [candidate_from_chunk, docIdOf, textAt, hordinal, hdoc, htenant, Option.map_some,
    Option.getD_some, L.int_int, L.str_str, Except.map]

/-- **Stamped chunks are offered** without an error. -/
theorem candidates_from_chunks_stampAll (seen : Dict String ℕ) (chunks : List Document) :
    candidates_from_chunks L (stampAll L seen chunks) = .ok (offered L seen chunks) := by
  induction chunks generalizing seen with
  | nil => rfl
  | cons chunk chunks ih =>
    rw [stampAll, candidates_from_chunks, candidate_from_chunk_stamp, ih]
    rfl

/-- The texts of a document, among chunks. -/
def textsOf (L : Library V) (chunks : List Document) (doc_id : String) : List String :=
  (chunks.filter fun chunk => docIdOf L chunk = doc_id).map Document.page_content

/-- **What is offered of a document**: its texts in order, counted from what has been seen of it. -/
theorem mem_offered_iff {seen : Dict String ℕ} {chunks : List Document} {doc_id text : String}
    {i : ℤ} :
    (∃ c ∈ offered L seen chunks, c.doc_id = doc_id ∧ c.chunk_idx = i ∧ c.chunk_text = text)
      ↔ ∃ n : ℕ, i = ((seenOf seen doc_id + n : ℕ) : ℤ)
        ∧ (textsOf L chunks doc_id)[n]? = some text := by
  induction chunks generalizing seen with
  | nil => simp [offered, textsOf]
  | cons chunk chunks ih =>
    simp only [offered, List.exists_mem_cons_iff, ih, seenOf_set]
    by_cases h : docIdOf L chunk = doc_id
    · have htexts : textsOf L (chunk :: chunks) doc_id
          = chunk.page_content :: textsOf L chunks doc_id := by
        simp [textsOf, h]
      rw [htexts, if_pos h, h]
      constructor
      · rintro (⟨-, rfl, rfl⟩ | ⟨n, rfl, hn⟩)
        · exact ⟨0, rfl, rfl⟩
        · exact ⟨n + 1, by push_cast; omega, hn⟩
      · rintro ⟨n, rfl, hn⟩
        cases n with
        | zero => exact .inl ⟨rfl, rfl, Option.some.inj hn⟩
        | succ n => exact .inr ⟨n, by push_cast; omega, hn⟩
    · have htexts : textsOf L (chunk :: chunks) doc_id = textsOf L chunks doc_id := by
        simp [textsOf, h]
      rw [htexts, if_neg h]
      exact or_iff_right fun hn => h hn.1

/-- What is offered is counted from what has been seen on. -/
theorem seenOf_le {seen : Dict String ℕ} {chunks : List Document} {c : ChunkCandidate}
    (hc : c ∈ offered L seen chunks) : (seenOf seen c.doc_id : ℤ) ≤ c.chunk_idx := by
  obtain ⟨n, hn, -⟩ := mem_offered_iff.mp ⟨c, hc, rfl, rfl, rfl⟩
  omega

/-- **No two candidates have a key in common.** -/
theorem nodup_offered (seen : Dict String ℕ) (chunks : List Document) :
    ((offered L seen chunks).map ChunkCandidate.gateKey).Nodup := by
  induction chunks generalizing seen with
  | nil => exact List.nodup_nil
  | cons chunk chunks ih =>
    refine List.nodup_cons.mpr ⟨fun hmem => ?_, ih _⟩
    obtain ⟨c, hc, hkey⟩ := List.mem_map.mp hmem
    obtain ⟨hdoc, hidx⟩ := Prod.mk.inj hkey
    have hle := seenOf_le hc
    rw [hdoc, hidx, seenOf_set, if_pos rfl] at hle
    push_cast at hle
    omega

/-- **The chunks of a document's current text**, those of all its rows in order. -/
def chunksOf (L : Library V) (docs : List Document) (doc_id : String) : List String :=
  (docs.filter fun d => docIdOf L d = doc_id).flatMap fun d =>
    L.split_text DEFAULT_CHUNK_SIZE DEFAULT_OVERLAP d.page_content

theorem textsOf_split_documents (docs : List Document) (doc_id : String) :
    textsOf L (split_documents (L.split_text DEFAULT_CHUNK_SIZE DEFAULT_OVERLAP) docs) doc_id
      = chunksOf L docs doc_id := by
  induction docs with
  | nil => rfl
  | cons d docs ih =>
    have hchunks : textsOf L ((L.split_text DEFAULT_CHUNK_SIZE DEFAULT_OVERLAP d.page_content).map
        fun text => ⟨text, d.metadata⟩) doc_id = if docIdOf L d = doc_id
          then L.split_text DEFAULT_CHUNK_SIZE DEFAULT_OVERLAP d.page_content else [] := by
      have hdoc : ∀ c ∈ (L.split_text DEFAULT_CHUNK_SIZE DEFAULT_OVERLAP d.page_content).map
          fun text => (⟨text, d.metadata⟩ : Document), docIdOf L c = docIdOf L d := by
        intro c hc
        obtain ⟨text, -, rfl⟩ := List.mem_map.mp hc
        rfl
      unfold textsOf
      split_ifs with h
      · rw [List.filter_eq_self.mpr fun c hc => decide_eq_true ((hdoc c hc).trans h), List.map_map]
        exact List.map_id _
      · rw [List.filter_eq_nil_iff.mpr fun c hc hd =>
          h ((hdoc c hc).symm.trans (of_decide_eq_true hd)), List.map_nil]
    rw [textsOf, split_documents, List.flatMap_cons, List.filter_append, List.map_append]
    refine (congrArg₂ (· ++ ·) hchunks ih).trans ?_
    unfold chunksOf
    by_cases h : docIdOf L d = doc_id <;> simp [h]

/-- **What an ingest offers of a corpus.** -/
theorem corpus_candidates_eq_ok {file : CorpusFile} {docs : List Document}
    (h : documents_for L file none = .ok docs) : corpus_candidates L file
      = .ok (offered L [] (split_documents (L.split_text DEFAULT_CHUNK_SIZE DEFAULT_OVERLAP)
        docs)) := by
  have hsplitter : make_splitter L DEFAULT_CHUNK_SIZE DEFAULT_OVERLAP
      = .ok (L.split_text DEFAULT_CHUNK_SIZE DEFAULT_OVERLAP) := if_pos (by decide)
  rw [corpus_candidates, h]
  simp only [Except.bind, chunk_docs, hsplitter, Except.map, candidates_from_chunks_stampAll]

end Rag
