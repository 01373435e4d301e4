import TaxLiability.Machinery.Json
import TaxLiability.Machinery.Upsert

/-!
# Rag/DocChunks — the corpus table, and the load that never crosses a tenant

    rows ──executemany──▸ ⟨table', affected⟩ ──┬── all of them ──▸ commit
                                               └── fewer ────────▸ CrossTenantDocIdError, rollback

The table's key is a document, a place in it and a model, and has no tenant.  The guard of the
conflict branch suppresses an update of another tenant's row, and the count of rows betrays it: a
load is refused exactly when some row's key is another tenant's (`load_rows_atomic`).
-/

namespace Rag

/-! ## The table -/

/-- **`UNIQUE (doc_id, chunk_idx, model_version)`**: what tells a chunk from the others. -/
@[ext] structure Key where
  doc_id : String
  chunk_idx : ℤ
  model_version : String
  deriving DecidableEq, Repr

/-- **A row of `doc_chunks`** under its key, with embeddings in `V` and times in `T`.  The hash of a
row from before the column was added is null. -/
structure DocChunk (V T : Type) where
  chunk_text : String
  embedding : V
  tenant_id : String
  created_at : T
  chunk_metadata : Json
  content_hash : Option String

/-- **The table `doc_chunks`**, with its uniqueness constraint. -/
structure DocChunks (V T : Type) where
  rows : Dict Key (DocChunk V T)
  unique : rows.Nodup

/-- **One chunk plus its embedding**, ready to be stored. -/
structure CorpusRow (V : Type) where
  doc_id : String
  chunk_idx : ℤ
  chunk_text : String
  embedding : V
  model_version : String
  tenant_id : String
  chunk_metadata : Json.Fields := []
  content_hash : Option String := none

/-- What a `jsonb` column keeps of an object: it has no order of keys. -/
def jsonb (fields : Json.Fields) : Json := Json.canon (.obj fields)

variable {V T : Type}

/-- The key a row goes to. -/
def CorpusRow.key (row : CorpusRow V) : Key := ⟨row.doc_id, row.chunk_idx, row.model_version⟩

/-- A table without a row. -/
def DocChunks.empty : DocChunks V T := ⟨[], Dict.nodup_nil⟩

/-- The row stored under a key. -/
def DocChunks.get? (table : DocChunks V T) (key : Key) : Option (DocChunk V T) :=
  table.rows.get? key

/-! ## The load -/

/-- **`_INSERT_SQL`**: an insert, or on conflict an update of all but the tenant and the time,
guarded by the tenant. -/
def INSERT_SQL (now : T) : Upsert Key String (CorpusRow V) (DocChunk V T) where
  key := CorpusRow.key
  owner := CorpusRow.tenant_id
  ownerOf := DocChunk.tenant_id
  insert row :=
    { chunk_text := row.chunk_text
      embedding := row.embedding
      tenant_id := row.tenant_id
      created_at := now
      chunk_metadata := jsonb row.chunk_metadata
      content_hash := row.content_hash }
  update row chunk :=
    { chunk with
      chunk_text := row.chunk_text
      embedding := row.embedding
      chunk_metadata := jsonb row.chunk_metadata
      content_hash := row.content_hash }
  ownerOf_insert _ := rfl
  ownerOf_update _ _ := rfl

/-- **A `doc_id` of the batch is owned by a different tenant.** -/
structure CrossTenantDocIdError where
  message : String
  deriving DecidableEq, Repr

/-- What the error says of a batch of `payload` rows of which `affected` were written. -/
def CrossTenantDocIdError.of (payload affected : ℕ) : CrossTenantDocIdError where
  message := toString (payload - affected) ++ " of " ++ toString payload
    ++ " rows were suppressed by the tenant guard: a doc_id in this batch is already owned by a "
    ++ "different tenant. The uniqueness key is (doc_id, chunk_idx, model_version) and does not "
    ++ "include tenant_id, so the two tenants collide. Namespace the doc_id per tenant, or widen "
    ++ "the key."

/-- The table after `executemany`, not yet committed, and the row count it reports. -/
def executemany (now : T) (table : DocChunks V T) (payload : List (CorpusRow V)) :
    DocChunks V T × ℕ :=
  (⟨((INSERT_SQL now).runAll table.rows payload).1, Upsert.nodup_runAll table.unique payload⟩,
    ((INSERT_SQL now).runAll table.rows payload).2)

/-- **`load_rows`**: what it returns or raises, and the table after it. -/
def load_rows (now : T) (table : DocChunks V T) (payload : List (CorpusRow V)) :
    Except CrossTenantDocIdError ℕ × DocChunks V T :=
  if payload = [] then (.ok 0, table)
  else
    let affected := (executemany now table payload).2
    if affected ≠ payload.length then
      -- raised before the commit: the connection's block rolls the batch back
      (.error (.of payload.length affected), table)
    else (.ok payload.length, (executemany now table payload).1)

/-! ## What a load does -/

/-- **Some row's key is owned by a different tenant**, in the table or by an earlier row. -/
def CrossTenant (table : DocChunks V T) (payload : List (CorpusRow V)) : Prop :=
  ∃ before row after, payload = before ++ row :: after
    ∧ ((∃ chunk, table.get? row.key = some chunk ∧ chunk.tenant_id ≠ row.tenant_id)
      ∨ ∃ earlier ∈ before, earlier.key = row.key ∧ earlier.tenant_id ≠ row.tenant_id)

/-- The last row of a payload that goes to a key. -/
def lastRow (payload : List (CorpusRow V)) (key : Key) : Option (CorpusRow V) :=
  payload.reverse.find? fun row => row.key = key

/-- A stored row holds the text, embedding, metadata and hash of a row that was sent. -/
structure DocChunk.Holds (chunk : DocChunk V T) (row : CorpusRow V) : Prop where
  chunk_text : chunk.chunk_text = row.chunk_text
  embedding : chunk.embedding = row.embedding
  chunk_metadata : chunk.chunk_metadata = jsonb row.chunk_metadata
  content_hash : chunk.content_hash = row.content_hash

/-- **A payload is loaded**: each of its keys holds its last row, under that row's tenant, the other
keys hold what they held, and the rows that were there keep their tenant and time. -/
structure Loaded (table : DocChunks V T) (payload : List (CorpusRow V)) (table' : DocChunks V T) :
    Prop where
  last : ∀ key row, lastRow payload key = some row →
    ∃ chunk, table'.get? key = some chunk ∧ chunk.tenant_id = row.tenant_id ∧ chunk.Holds row
  others : ∀ key, lastRow payload key = none → table'.get? key = table.get? key
  kept : ∀ key chunk, table.get? key = some chunk → ∃ chunk', table'.get? key = some chunk'
    ∧ chunk'.tenant_id = chunk.tenant_id ∧ chunk'.created_at = chunk.created_at

variable {now : T} {table table' : DocChunks V T} {payload : List (CorpusRow V)}

variable (now) in
theorem crossTenant_iff_clash :
    CrossTenant table payload ↔ (INSERT_SQL now).Clash table.rows payload := by
  have hforeign : ∀ row : CorpusRow V, (INSERT_SQL now).Foreign table.rows row
      ↔ ∃ chunk, table.get? row.key = some chunk ∧ chunk.tenant_id ≠ row.tenant_id := fun row => by
    simp only [Upsert.Foreign, Upsert.ownerAt, Option.map_eq_some_iff, INSERT_SQL, DocChunks.get?]
    constructor
    · rintro ⟨o, ⟨chunk, hget, rfl⟩, hne⟩
      exact ⟨chunk, hget, hne⟩
    · rintro ⟨chunk, hget, hne⟩
      exact ⟨_, ⟨chunk, hget, rfl⟩, hne⟩
  simp only [CrossTenant, Upsert.Clash, hforeign]
  rfl

/-- A row that is the last of its key stands in the payload with no row of its key after it. -/
theorem lastRow_eq_some {key : Key} {row : CorpusRow V} (h : lastRow payload key = some row) :
    row.key = key ∧ ∃ before after, payload = before ++ row :: after
      ∧ ∀ later ∈ after, later.key ≠ row.key := by
  obtain ⟨hkey, after, before, hpayload, hafter⟩ := List.find?_eq_some_iff_append.mp h
  have hkey : row.key = key := of_decide_eq_true hkey
  refine ⟨hkey, before.reverse, after.reverse, ?_, fun later hlater => ?_⟩
  · rw [← List.reverse_reverse payload, hpayload]
    simp
  · have hne := hafter later (List.mem_reverse.mp hlater)
    rw [hkey]
    simpa using hne

theorem lastRow_eq_none {key : Key} :
    lastRow payload key = none ↔ ∀ row ∈ payload, row.key ≠ key := by
  simp [lastRow, List.find?_eq_none]

/-- **A batch with no foreign key is loaded.** -/
theorem loaded_executemany (h : ¬ CrossTenant table payload) :
    Loaded table payload (executemany now table payload).1 where
  last key row hlast := by
    obtain ⟨rfl, before, after, rfl, hafter⟩ := lastRow_eq_some hlast
    rw [crossTenant_iff_clash now] at h
    obtain ⟨chunk, hget, howner, hchunk⟩ := Upsert.last_write h hafter
    refine ⟨chunk, hget, howner, ?_⟩
    rcases hchunk with rfl | ⟨chunk, rfl⟩ <;> exact ⟨rfl, rfl, rfl, rfl⟩
  others key hnone := Upsert.get?_runAll_of_forall_ne (lastRow_eq_none.mp hnone)
  kept key chunk hget := by
    have hkeeps : ∀ (row : CorpusRow V) (chunk : DocChunk V T),
        (((INSERT_SQL now).update row chunk).tenant_id,
          ((INSERT_SQL now).update row chunk).created_at) = (chunk.tenant_id, chunk.created_at) :=
      fun _ _ => rfl
    obtain ⟨chunk', hget', hsame⟩ :=
      Upsert.kept_runAll (f := fun chunk => (chunk.tenant_id, chunk.created_at)) hkeeps hget
    exact ⟨chunk', hget', Prod.mk.inj hsame⟩

/-- The count reported falls short exactly if a key is another tenant's. -/
theorem affected_eq_length_iff :
    (executemany now table payload).2 = payload.length ↔ ¬ CrossTenant table payload := by
  rw [crossTenant_iff_clash now]
  exact Upsert.count_runAll_eq_iff

theorem not_crossTenant_nil : ¬ CrossTenant table [] := by
  rintro ⟨before, row, after, h, -⟩
  exact absurd h (by simp)

theorem load_rows_of_crossTenant (h : CrossTenant table payload) : load_rows now table payload
    = (.error (.of payload.length (executemany now table payload).2), table) := by
  have hne : payload ≠ [] := by
    rintro rfl
    exact not_crossTenant_nil h
  have haffected : (executemany now table payload).2 ≠ payload.length := fun he =>
    affected_eq_length_iff.mp he h
  simp only [load_rows, if_neg hne, if_pos haffected]

theorem load_rows_of_not_crossTenant (h : ¬ CrossTenant table payload) :
    load_rows now table payload = (.ok payload.length, (executemany now table payload).1) := by
  by_cases hnil : payload = []
  · subst hnil
    rfl
  · have haffected : ¬ (executemany now table payload).2 ≠ payload.length :=
      not_not.mpr (affected_eq_length_iff.mpr h)
    simp only [load_rows, if_neg hnil, if_neg haffected]

/-- **A load is refused or done**: the two outcomes, and what each leaves. -/
theorem load_rows_spec (now : T) (table : DocChunks V T) (payload : List (CorpusRow V)) :
    (CrossTenant table payload ∧ ∃ e, load_rows now table payload = (.error e, table))
      ∨ (¬ CrossTenant table payload ∧ ∃ table',
        load_rows now table payload = (.ok payload.length, table')
          ∧ Loaded table payload table') := by
  by_cases h : CrossTenant table payload
  · exact .inl ⟨h, _, load_rows_of_crossTenant h⟩
  · exact .inr ⟨h, _, load_rows_of_not_crossTenant h, loaded_executemany h⟩

/-- **A load is all or nothing and never crosses a tenant**: it raises exactly if some row's key is
owned by a different tenant, in the table or by an earlier row, and the table is as it was then;
where it returns, it returns the size of the payload, and the payload is loaded. -/
theorem load_rows_atomic (now : T) (table : DocChunks V T) (payload : List (CorpusRow V)) :
    ((∃ e, (load_rows now table payload).1 = .error e) ↔ CrossTenant table payload)
      ∧ (∀ e, (load_rows now table payload).1 = .error e →
        (load_rows now table payload).2 = table)
      ∧ ∀ n, (load_rows now table payload).1 = .ok n →
        n = payload.length ∧ Loaded table payload (load_rows now table payload).2 := by
  obtain ⟨hcross, e, hload⟩ | ⟨hcross, table', hload, hloaded⟩ := load_rows_spec now table payload
  · rw [hload]
    refine ⟨iff_of_true ⟨e, rfl⟩ hcross, fun _ _ => rfl, ?_⟩
    rintro n ⟨⟩
  · rw [hload]
    refine ⟨iff_of_false ?_ hcross, ?_, ?_⟩
    · rintro ⟨e, ⟨⟩⟩
    · rintro e ⟨⟩
    · rintro n ⟨⟩
      exact ⟨rfl, hloaded⟩

end Rag
