import TaxLiability.Rag.Ingest

/-!
# Rag/Corpus — a corpus of several tenants, from the file into the table

    file ──first row of a place──▸ in bounds ──embed──▸ rows ──load_rows──▸ doc_chunks
                 └─ no tenant in it                        └─ guarded by tenant

The guard refuses a key of another tenant, but it is only shown what the deduplication has kept, and
a place has no tenant either: the row of a second tenant is gone before the guard could refuse it
(`nothing_hidden_iff`).
-/

namespace Rag.Corpus

variable {V T : Type}

/-! ## The first of a class -/

section First

variable {α : Type} {r : α → α → Bool} {l : List α} {a : α}

/-- **The first of its class** in a list. -/
def First (r : α → α → Bool) (l : List α) (a : α) : Prop :=
  ∃ before after, l = before ++ a :: after ∧ ∀ b ∈ before, ¬ r a b

theorem First.mem (h : First r l a) : a ∈ l := by
  obtain ⟨before, after, rfl, -⟩ := h
  simp

/-- The first of a class is the head, or of another class and first in the rest without the
head's. -/
theorem first_cons_iff (htrans : ∀ a b c, r a b → r b c → r a c) {x : α} :
    First r (x :: l) a ↔ a = x ∨ First r (l.filter fun b => r b x = false) a := by
  constructor
  · rintro ⟨before, after, hl, hbefore⟩
    cases before with
    | nil => exact .inl (List.cons.inj hl).1.symm
    | cons b before =>
      obtain ⟨rfl, htail⟩ := List.cons.inj hl
      have hax : r a x = false := by simpa using hbefore x List.mem_cons_self
      refine .inr ⟨before.filter fun b => r b x = false, after.filter fun b => r b x = false, ?_,
        fun b hb => hbefore b (List.mem_cons_of_mem _ (List.mem_filter.mp hb).1)⟩
      rw [show l = before ++ a :: after from htail, List.filter_append,
        List.filter_cons_of_pos (by simpa using hax)]
  · rintro (rfl | ⟨before, after, hl, hbefore⟩)
    · exact ⟨[], l, rfl, fun b hb => absurd hb List.not_mem_nil⟩
    · obtain ⟨before', after', rfl, rfl, hafter⟩ := List.filter_eq_append_iff.mp hl
      obtain ⟨dropped, rest, rfl, hdropped, ha, rfl⟩ := List.filter_eq_cons_iff.mp hafter
      have hax : r a x = false := of_decide_eq_true ha
      refine ⟨x :: before' ++ dropped, rest, by simp, fun b hb hab => ?_⟩
      have hout : ∀ b, ¬ (r b x = false) → r a b → False := fun b hb hab => by
        rw [htrans a b x hab (by simpa using hb)] at hax
        cases hax
      rcases List.mem_append.mp hb with hb | hb
      · rcases List.mem_cons.mp hb with rfl | hb
        · rw [hab] at hax
          cases hax
        · by_cases hkept : r b x = false
          · exact hbefore b (List.mem_filter.mpr ⟨hb, decide_eq_true hkept⟩) hab
          · exact hout b hkept hab
      · exact hout b (by simpa using hdropped b hb) hab

/-- **Deduplication keeps the first of each class.** -/
theorem mem_eraseDupsBy_iff (htrans : ∀ a b c, r a b → r b c → r a c) :
    a ∈ l.eraseDupsBy r ↔ First r l a := by
  induction hn : l.length using Nat.strong_induction_on generalizing l with
  | _ n ih =>
    cases l with
    | nil =>
      refine iff_of_false List.not_mem_nil fun h => ?_
      exact absurd h.mem List.not_mem_nil
    | cons x l =>
      have hlength := List.length_filter_le (fun b => decide (r b x = false)) l
      rw [List.eraseDupsBy_cons, List.mem_cons, first_cons_iff htrans,
        ih _ (by rw [← hn, List.length_cons]; omega) rfl]

end First

/-! ## From the file to the rows -/

/-- Two rows of a file are of one place in one document. -/
def samePlace (L : Library V) (row kept : String → Json) : Bool :=
  L.same (row "doc_id") (kept "doc_id") && L.same (row "chunk_idx") (kept "chunk_idx")

/-- A row's text is of a length in bounds. -/
def InBounds (L : Library V) (row : String → Json) : Prop :=
  (L.len (row "chunk_text")).any fun n => MIN_CHUNK_CHARS ≤ n ∧ n ≤ MAX_CHUNK_CHARS

instance (L : Library V) (row : String → Json) : Decidable (InBounds L row) :=
  inferInstanceAs (Decidable (_ = true))

/-- The row that a record of the frame becomes. -/
def corpusRow (L : Library V) (record : String → Json) (vec : V) :
    Except IngestError (CorpusRow V) :=
  (L.int (record "chunk_idx")).map fun chunk_idx =>
    { doc_id := L.str (record "doc_id")
      chunk_idx := chunk_idx
      chunk_text := L.str (record "chunk_text")
      embedding := vec
      model_version := MODEL_NAME
      tenant_id := L.str (record "tenant_id")
      content_hash := some (content_hash (L.str (record "chunk_text"))) }

/-- The rows of records with their vectors. -/
def corpusRows (L : Library V) : List ((String → Json) × V) →
    Except IngestError (List (CorpusRow V))
  | [] => .ok []
  | f :: fs => (corpusRow L f.1 f.2).bind fun row => (corpusRows L fs).map (row :: ·)

/-- **`embed_dataframe`**: a row for each record, in their order. -/
def embed_dataframe (L : Library V) (df : List (String → Json))
    (model : Option (SentenceTransformer V)) : Except IngestError (List (CorpusRow V)) :=
  let m := model.getD (L.construct MODEL_NAME)
  corpusRows L (df.zip (m.encode (df.map fun record => L.str (record "chunk_text"))))

/-- **A corpus loaded and ingested**: `load_rows(embed_dataframe(load_corpus(path)))`. -/
def ingest_corpus (L : Library V) (model : Option (SentenceTransformer V)) (now : T)
    (table : DocChunks V T) (file : CorpusFile) : Except IngestError ℕ × DocChunks V T :=
  match (load_corpus L file).bind fun df => embed_dataframe L df model with
  | .error e => (.error e, table)
  | .ok rows =>
    match load_rows now table rows with
    | (.ok n, table') => (.ok n, table')
    | (.error e, table') => (.error (.crossTenant e), table')

/-! ## What is asked of it -/

/-- A row that deduplication and bounds let through. -/
def Kept (L : Library V) (frame : Frame) (row : String → Json) : Prop :=
  First (samePlace L) frame.rows row ∧ InBounds L row

/-- **A corpus file**: of a known extension, with the columns a corpus has, texts among them, and
with numbers for the places of its chunks. -/
structure Readable (L : Library V) (file : CorpusFile) (frame : Frame) : Prop where
  suffix : file.suffix ∈ [".parquet", ".jsonl", ".json"]
  frame_eq : file.frame = some frame
  columns : ∀ name ∈ REQUIRED_COLUMNS, name ∈ frame.columns
  texts : L.hasStr ((frame.rows.eraseDupsBy (samePlace L)).map (· "chunk_text"))
  places : ∀ row, Kept L frame row → ∃ n, L.int (row "chunk_idx") = .ok n

/-- **A row repeats another**: it is of the same tenant, document and place. -/
structure Repeats (L : Library V) (row twin : String → Json) : Prop where
  doc_id : L.str (row "doc_id") = L.str (twin "doc_id")
  chunk_idx : L.int (row "chunk_idx") = L.int (twin "chunk_idx")
  tenant_id : L.str (row "tenant_id") = L.str (twin "tenant_id")

/-- **The table holds a row's text**, under the row's tenant. -/
def Stored (L : Library V) (table : DocChunks V T) (row : String → Json) : Prop :=
  ∃ n, L.int (row "chunk_idx") = .ok n ∧ ∃ chunk,
    table.get? ⟨L.str (row "doc_id"), n, MODEL_NAME⟩ = some chunk
      ∧ chunk.chunk_text = L.str (row "chunk_text") ∧ chunk.tenant_id = L.str (row "tenant_id")

/-- **Nothing is hidden**: the ingest fails for a collision of tenants, or returns, and every row in
bounds, or one in bounds that it repeats, is in the table. -/
def NothingHidden (L : Library V) (frame : Frame) (run : Except IngestError ℕ × DocChunks V T) :
    Prop :=
  (∃ e, run.1 = .error (.crossTenant e))
    ∨ (∃ n, run.1 = .ok n) ∧ ∀ row ∈ frame.rows, InBounds L row →
      ∃ twin ∈ frame.rows, InBounds L twin ∧ Repeats L row twin ∧ Stored L run.2 twin

/-- **The guard sees a collision**: a kept row's key is another tenant's, in the table or by another
kept row. -/
def Collides (L : Library V) (table : DocChunks V T) (frame : Frame) : Prop :=
  ∃ row n, Kept L frame row ∧ L.int (row "chunk_idx") = .ok n
    ∧ ((∃ chunk, table.get? ⟨L.str (row "doc_id"), n, MODEL_NAME⟩ = some chunk
        ∧ chunk.tenant_id ≠ L.str (row "tenant_id"))
      ∨ ∃ twin, Kept L frame twin ∧ L.int (twin "chunk_idx") = .ok n
        ∧ L.str (twin "doc_id") = L.str (row "doc_id")
        ∧ L.str (twin "tenant_id") ≠ L.str (row "tenant_id"))

/-! ## What is loaded -/

/-- A row of the load is a record's, with some vector. -/
def RowOf (L : Library V) (record : String → Json) (row : CorpusRow V) : Prop :=
  ∃ vec, corpusRow L record vec = .ok row

/-- **The rows of a corpus** are those of its kept records. -/
structure RowsOf (L : Library V) (frame : Frame) (rows : List (CorpusRow V)) : Prop where
  sound : ∀ row ∈ rows, ∃ record, Kept L frame record ∧ RowOf L record row
  complete : ∀ record, Kept L frame record → ∃ row ∈ rows, RowOf L record row

section Load

variable {L : Library V} {file : CorpusFile} {frame : Frame} {rows : List (CorpusRow V)}
  {record : String → Json} {row : CorpusRow V}

theorem RowOf.fields (h : RowOf L record row) : L.int (record "chunk_idx") = .ok row.chunk_idx
    ∧ row.key = ⟨L.str (record "doc_id"), row.chunk_idx, MODEL_NAME⟩
    ∧ row.tenant_id = L.str (record "tenant_id")
    ∧ row.chunk_text = L.str (record "chunk_text") := by
  obtain ⟨vec, hrow⟩ := h
  unfold corpusRow at hrow
  cases hint : L.int (record "chunk_idx") with
  | error e => rw [hint] at hrow; cases hrow
  | ok n =>
    rw [hint] at hrow
    cases hrow
    exact ⟨rfl, rfl, rfl, rfl⟩

theorem load_corpus_eq (h : Readable L file frame) : load_corpus L file
    = .ok ((frame.rows.eraseDupsBy (samePlace L)).filter fun row => InBounds L row) := by
  have hcolumns : REQUIRED_COLUMNS.filter (fun name => decide (name ∉ frame.columns)) = [] :=
    List.filter_eq_nil_iff.mpr fun name hname => by simpa using h.columns name hname
  have htexts := h.texts
  unfold samePlace at htexts
  unfold load_corpus
  simp only [if_pos h.suffix, h.frame_eq, hcolumns, ne_eq, not_true_eq_false, if_false, htexts,
    if_true]
  exact congrArg Except.ok (List.filter_congr fun row _ => (Bool.decide_coe _).symm)

/-- Records whose places are numbers become rows. -/
theorem exists_corpusRows {fs : List ((String → Json) × V)}
    (h : ∀ f ∈ fs, ∃ n, L.int (f.1 "chunk_idx") = .ok n) :
    ∃ rows, corpusRows L fs = .ok rows
      ∧ (∀ row ∈ rows, ∃ f ∈ fs, corpusRow L f.1 f.2 = .ok row)
      ∧ ∀ f ∈ fs, ∃ row ∈ rows, corpusRow L f.1 f.2 = .ok row := by
  induction fs with
  | nil =>
    exact ⟨[], rfl, fun row hrow => absurd hrow List.not_mem_nil,
      fun f hf => absurd hf List.not_mem_nil⟩
  | cons f fs ih =>
    obtain ⟨n, hn⟩ := h f List.mem_cons_self
    obtain ⟨rows, hrows, hsound, hcomplete⟩ := ih fun g hg => h g (List.mem_cons_of_mem f hg)
    have hrow : ∃ row, corpusRow L f.1 f.2 = .ok row := by
      rw [corpusRow, hn]
      exact ⟨_, rfl⟩
    obtain ⟨row, hrow⟩ := hrow
    refine ⟨row :: rows, ?_, ?_, ?_⟩
    · rw [corpusRows, hrow, hrows]
      rfl
    · refine List.forall_mem_cons.mpr ⟨⟨f, List.mem_cons_self, hrow⟩, fun twin hrow' => ?_⟩
      obtain ⟨g, hg, hgrow⟩ := hsound twin hrow'
      exact ⟨g, List.mem_cons_of_mem f hg, hgrow⟩
    · refine List.forall_mem_cons.mpr ⟨⟨row, List.mem_cons_self, hrow⟩, fun g hg => ?_⟩
      obtain ⟨twin, hrow', hgrow⟩ := hcomplete g hg
      exact ⟨twin, List.mem_cons_of_mem row hrow', hgrow⟩

theorem mem_kept_iff (htrans : ∀ a b c, samePlace L a b → samePlace L b c → samePlace L a c) :
    record ∈ (frame.rows.eraseDupsBy (samePlace L)).filter (fun row => InBounds L row)
      ↔ Kept L frame record := by
  rw [List.mem_filter, mem_eraseDupsBy_iff htrans, decide_eq_true_eq, Kept]

/-- **A corpus becomes its rows.** -/
theorem exists_rowsOf (htrans : ∀ a b c, samePlace L a b → samePlace L b c → samePlace L a c)
    (model : Option (SentenceTransformer V)) (h : Readable L file frame) :
    ∃ rows, (load_corpus L file).bind (fun df => embed_dataframe L df model) = .ok rows
      ∧ RowsOf L frame rows := by
  rw [load_corpus_eq h]
  generalize hdf : (frame.rows.eraseDupsBy (samePlace L)).filter (fun row => InBounds L row) = df
  have hkept : ∀ record, record ∈ df ↔ Kept L frame record := fun record =>
    hdf ▸ mem_kept_iff htrans
  have hlength := (model.getD (L.construct MODEL_NAME)).length_encode
    (df.map fun record => L.str (record "chunk_text"))
  rw [List.length_map] at hlength
  generalize hvecs : (model.getD (L.construct MODEL_NAME)).encode
    (df.map fun record => L.str (record "chunk_text")) = vecs at hlength
  have hints : ∀ f ∈ df.zip vecs, ∃ n, L.int (f.1 "chunk_idx") = .ok n := fun f hf =>
    h.places f.1 ((hkept f.1).mp (List.of_mem_zip hf).1)
  obtain ⟨rows, hrows, hsound, hcomplete⟩ := exists_corpusRows hints
  refine ⟨rows, ?_, ⟨fun row hrow => ?_, fun record hrecord => ?_⟩⟩
  · rw [← hrows, ← hvecs]
    rfl
  · obtain ⟨f, hf, hfrow⟩ := hsound row hrow
    exact ⟨f.1, (hkept f.1).mp (List.of_mem_zip hf).1, f.2, hfrow⟩
  · obtain ⟨i, hi, rfl⟩ := List.getElem_of_mem ((hkept record).mpr hrecord)
    have hzip : i < (df.zip vecs).length := by
      rw [List.length_zip]
      omega
    have hvec : i < vecs.length := by omega
    have hmem : (df[i], vecs[i]) ∈ df.zip vecs :=
      List.mem_iff_getElem.mpr ⟨i, hzip, List.getElem_zip⟩
    obtain ⟨row, hrow, hfrow⟩ := hcomplete _ hmem
    exact ⟨row, hrow, _, hfrow⟩

/-! ## What the guard sees -/

variable {table : DocChunks V T}

/-- Two rows of one payload with tenants of their own: one comes after the other. -/
theorem exists_earlier {row twin : CorpusRow V} (hrow : row ∈ rows) (hrow' : twin ∈ rows)
    (hne : twin.tenant_id ≠ row.tenant_id) : ∃ before x after, rows = before ++ x :: after
      ∧ ∃ earlier ∈ before, (x = row ∧ earlier = twin) ∨ x = twin ∧ earlier = row := by
  obtain ⟨before, after, rfl⟩ := List.append_of_mem hrow
  rcases List.mem_append.mp hrow' with hbefore | hafter
  · exact ⟨before, row, after, rfl, twin, hbefore, .inl ⟨rfl, rfl⟩⟩
  · rcases List.mem_cons.mp hafter with rfl | hafter
    · exact absurd rfl hne
    · obtain ⟨between, after, rfl⟩ := List.append_of_mem hafter
      exact ⟨before ++ row :: between, twin, after, by simp, row, by simp, .inr ⟨rfl, rfl⟩⟩

/-- **The load is refused** exactly if the guard sees a collision. -/
theorem crossTenant_iff_collides (h : RowsOf L frame rows) :
    CrossTenant table rows ↔ Collides L table frame := by
  constructor
  · rintro ⟨before, row, after, hrows, hforeign⟩
    obtain ⟨record, hkept, hrow⟩ := h.sound row (by simp [hrows])
    obtain ⟨hint, hkey, htenant, -⟩ := hrow.fields
    refine ⟨record, _, hkept, hint, ?_⟩
    rw [hkey, htenant] at hforeign
    rcases hforeign with hstored | ⟨earlier, hearlier, hsame, hne⟩
    · exact .inl hstored
    · obtain ⟨twin, hkept', hrow'⟩ := h.sound earlier (by simp [hrows, hearlier])
      obtain ⟨hint', hkey', htenant', -⟩ := hrow'.fields
      obtain ⟨hdoc, hidx, -⟩ := Key.mk.inj (hkey'.symm.trans hsame)
      exact .inr ⟨twin, hkept', hidx ▸ hint', hdoc, htenant' ▸ hne⟩
  · rintro ⟨record, n, hkept, hint, hforeign⟩
    obtain ⟨row, hrow, hrowOf⟩ := h.complete record hkept
    obtain ⟨hint₁, hkey, htenant, -⟩ := hrowOf.fields
    obtain rfl := Except.ok.inj (hint₁.symm.trans hint)
    rcases hforeign with ⟨chunk, hget, hne⟩ | ⟨twin, hkept', hint', hdoc, hne⟩
    · obtain ⟨before, after, hrows⟩ := List.append_of_mem hrow
      exact ⟨before, row, after, hrows, .inl ⟨chunk, hkey ▸ hget, htenant ▸ hne⟩⟩
    · obtain ⟨row₂, hrow', hrowOf'⟩ := h.complete twin hkept'
      obtain ⟨hint₂, hkey', htenant', -⟩ := hrowOf'.fields
      have hidx := Except.ok.inj (hint₂.symm.trans hint')
      have hsame : row₂.key = row.key := by rw [hkey, hkey', hdoc, hidx]
      have hne' : row₂.tenant_id ≠ row.tenant_id := by rwa [htenant, htenant']
      obtain ⟨before, x, after, hrows, earlier, hearlier, ⟨rfl, rfl⟩ | ⟨rfl, rfl⟩⟩ :=
        exists_earlier hrow hrow' hne'
      · exact ⟨before, _, after, hrows, .inr ⟨_, hearlier, hsame, hne'⟩⟩
      · exact ⟨before, _, after, hrows, .inr ⟨_, hearlier, hsame.symm, hne'.symm⟩⟩

/-- The last row of a key is a kept record's. -/
theorem RowsOf.of_last (h : RowsOf L frame rows) {key : Key} {last : CorpusRow V}
    (hlast : lastRow rows key = some last) : ∃ twin, Kept L frame twin
      ∧ L.str (twin "doc_id") = key.doc_id ∧ L.int (twin "chunk_idx") = .ok key.chunk_idx
      ∧ last.tenant_id = L.str (twin "tenant_id")
      ∧ last.chunk_text = L.str (twin "chunk_text") := by
  obtain ⟨rfl, before, after, hrows, -⟩ := lastRow_eq_some hlast
  obtain ⟨twin, hkept, hrowOf⟩ := h.sound last (by simp [hrows])
  obtain ⟨hint, hkey, htenant, htext⟩ := hrowOf.fields
  exact ⟨twin, hkept, by rw [hkey], by rw [hkey]; exact hint, htenant, htext⟩

/-- **What is kept is in the table** after a load that is not refused, or a kept row that it
repeats. -/
theorem stored_of_kept {table' : DocChunks V T} (h : RowsOf L frame rows)
    (hloaded : Loaded table rows table') (hcross : ¬ Collides L table frame)
    (hkept : Kept L frame record) :
    ∃ twin, Kept L frame twin ∧ Repeats L record twin ∧ Stored L table' twin := by
  obtain ⟨row, hrow, hrowOf⟩ := h.complete record hkept
  obtain ⟨hint, hkey, -, -⟩ := hrowOf.fields
  cases hlast : lastRow rows row.key with
  | none => exact absurd rfl (lastRow_eq_none.mp hlast row hrow)
  | some last =>
    obtain ⟨chunk, hget, howner, hholds⟩ := hloaded.last _ _ hlast
    rw [hkey] at hlast hget
    obtain ⟨twin, hkept', hdoc, hint', htenant, htext⟩ := h.of_last hlast
    have htenants : L.str (record "tenant_id") = L.str (twin "tenant_id") := by
      by_contra hne
      exact hcross ⟨record, _, hkept, hint, .inr ⟨twin, hkept', hint', hdoc, Ne.symm hne⟩⟩
    refine ⟨twin, hkept', ⟨hdoc.symm, hint.trans hint'.symm, htenants⟩, _, hint', chunk, ?_,
      hholds.chunk_text.trans htext, howner.trans htenant⟩
    rw [hdoc]
    exact hget

/-- A row that was in the table before a load that is not refused is there after it, or a kept row
that it repeats is. -/
theorem stored_of_stored {table' : DocChunks V T} (h : RowsOf L frame rows)
    (hloaded : Loaded table rows table') (hcross : ¬ Collides L table frame)
    (hstored : Stored L table record) : Stored L table' record
      ∨ ∃ twin, Kept L frame twin ∧ Repeats L record twin ∧ Stored L table' twin := by
  obtain ⟨n, hint, chunk, hget, htext, howner⟩ := hstored
  cases hlast : lastRow rows ⟨L.str (record "doc_id"), n, MODEL_NAME⟩ with
  | none => exact .inl ⟨n, hint, chunk, (hloaded.others _ hlast).trans hget, htext, howner⟩
  | some last =>
    obtain ⟨twin, hkept', hdoc, hint', -, -⟩ := h.of_last hlast
    have htenants : L.str (record "tenant_id") = L.str (twin "tenant_id") := by
      by_contra hne
      exact hcross ⟨twin, n, hkept', hint', .inl ⟨chunk, hdoc ▸ hget, howner ▸ hne⟩⟩
    obtain ⟨record₂, hkept₂, hrepeats, hstored⟩ := stored_of_kept h hloaded hcross hkept'
    exact .inr ⟨record₂, hkept₂, ⟨hdoc.symm.trans hrepeats.doc_id,
      (hint.trans hint'.symm).trans hrepeats.chunk_idx, htenants.trans hrepeats.tenant_id⟩, hstored⟩

/-- A row in the table after a load was there before, or repeats a kept row. -/
theorem kept_or_stored {table' : DocChunks V T} (h : RowsOf L frame rows)
    (hloaded : Loaded table rows table') (hstored : Stored L table' record) :
    Stored L table record ∨ ∃ twin, Kept L frame twin ∧ Repeats L record twin := by
  obtain ⟨n, hint, chunk, hget, htext, howner⟩ := hstored
  cases hlast : lastRow rows ⟨L.str (record "doc_id"), n, MODEL_NAME⟩ with
  | none => exact .inl ⟨n, hint, chunk, (hloaded.others _ hlast).symm.trans hget, htext, howner⟩
  | some last =>
    obtain ⟨twin, hkept', hdoc, hint', htenant, -⟩ := h.of_last hlast
    obtain ⟨chunk', hget', howner', -⟩ := hloaded.last _ _ hlast
    cases hget.symm.trans hget'
    exact .inr ⟨twin, hkept', hdoc.symm, hint.trans hint'.symm,
      (howner.symm.trans howner').trans htenant⟩

end Load

/-! ## Nothing hidden -/

theorem Repeats.trans {L : Library V} {a b c : String → Json} (h : Repeats L a b)
    (h' : Repeats L b c) : Repeats L a c :=
  ⟨h.doc_id.trans h'.doc_id, h.chunk_idx.trans h'.chunk_idx, h.tenant_id.trans h'.tenant_id⟩

theorem Kept.mem {L : Library V} {frame : Frame} {row : String → Json} (h : Kept L frame row) :
    row ∈ frame.rows := h.1.mem

/-- **A load that is not refused hides nothing** exactly if every row in bounds repeats one that is
kept or in the table already. -/
theorem stored_iff {L : Library V} {frame : Frame} {rows : List (CorpusRow V)}
    {table table' : DocChunks V T} (h : RowsOf L frame rows) (hloaded : Loaded table rows table')
    (hcross : ¬ Collides L table frame) {row : String → Json} :
    (∃ twin ∈ frame.rows, InBounds L twin ∧ Repeats L row twin ∧ Stored L table' twin)
      ↔ ∃ twin ∈ frame.rows, InBounds L twin ∧ Repeats L row twin
        ∧ (First (samePlace L) frame.rows twin ∨ Stored L table twin) := by
  constructor
  · rintro ⟨twin, hmem, hbounds, hrepeats, hstored⟩
    obtain hstored | ⟨record, hkept, hrepeats'⟩ := kept_or_stored h hloaded hstored
    · exact ⟨twin, hmem, hbounds, hrepeats, .inr hstored⟩
    · exact ⟨record, hkept.mem, hkept.2, hrepeats.trans hrepeats', .inl hkept.1⟩
  · rintro ⟨twin, hmem, hbounds, hrepeats, hfirst | hstored⟩
    · obtain ⟨record, hkept, hrepeats', hstored⟩ :=
        stored_of_kept h hloaded hcross ⟨hfirst, hbounds⟩
      exact ⟨record, hkept.mem, hkept.2, hrepeats.trans hrepeats', hstored⟩
    · obtain hstored | ⟨record, hkept, hrepeats', hstored⟩ :=
        stored_of_stored h hloaded hcross hstored
      · exact ⟨twin, hmem, hbounds, hrepeats, hstored⟩
      · exact ⟨record, hkept.mem, hkept.2, hrepeats.trans hrepeats', hstored⟩

/-- **A corpus is ingested with nothing hidden** exactly if the guard sees a collision, or every row
in bounds repeats one in bounds that is the first of its place or is in the table already. -/
theorem nothing_hidden_iff {L : Library V}
    (hsame : ∀ a b c, L.same a b → L.same b c → L.same a c)
    (model : Option (SentenceTransformer V)) (now : T) (table : DocChunks V T) {file : CorpusFile}
    {frame : Frame} (h : Readable L file frame) :
    NothingHidden L frame (ingest_corpus L model now table file)
      ↔ Collides L table frame ∨ ∀ row ∈ frame.rows, InBounds L row →
        ∃ twin ∈ frame.rows, InBounds L twin ∧ Repeats L row twin
          ∧ (First (samePlace L) frame.rows twin ∨ Stored L table twin) := by
  have htrans : ∀ a b c, samePlace L a b → samePlace L b c → samePlace L a c := by
    intro a b c hab hbc
    simp only [samePlace, Bool.and_eq_true] at hab hbc ⊢
    exact ⟨hsame _ _ _ hab.1 hbc.1, hsame _ _ _ hab.2 hbc.2⟩
  obtain ⟨rows, hrows, hrowsOf⟩ := exists_rowsOf htrans model h
  have hcross : CrossTenant table rows ↔ Collides L table frame :=
    crossTenant_iff_collides hrowsOf
  unfold ingest_corpus
  rw [hrows]
  obtain ⟨hcrossed, e, hload⟩ | ⟨hcrossed, table', hload, hloaded⟩ := load_rows_spec now table rows
  · rw [hcross] at hcrossed
    simp only [hload]
    exact iff_of_true (.inl ⟨e, rfl⟩) (.inl hcrossed)
  · rw [hcross] at hcrossed
    simp only [hload]
    rw [or_iff_right hcrossed]
    constructor
    · rintro (⟨e, he⟩ | ⟨-, hall⟩)
      · cases he
      · exact fun row hrow hbounds =>
          (stored_iff hrowsOf hloaded hcrossed).mp (hall row hrow hbounds)
    · exact fun hall => .inr ⟨⟨_, rfl⟩, fun row hrow hbounds =>
        (stored_iff hrowsOf hloaded hcrossed).mpr (hall row hrow hbounds)⟩

/-! ## Two tenants -/

open Ingest (docsLibrary)

/-- A row of one tenant's, of another tenant's in the same place, and in a place of its own. -/
def federal : String → Json := Ingest.docsRow "pub-17" 0 "Standard deduction." "tenant-a"

def addendum : String → Json := Ingest.docsRow "pub-17" 0 "State addendum." "tenant-b"

def dependents : String → Json := Ingest.docsRow "pub-501" 0 "Dependents." "tenant-b"

/-- A corpus with rows of its own. -/
def docsCorpus (rows : List (String → Json)) : CorpusFile :=
  ⟨".jsonl", some ⟨REQUIRED_COLUMNS, rows⟩⟩

def emptyTable : DocChunks Unit ℕ := DocChunks.empty

theorem docsLibrary_same_trans (a b c : Json) (hab : docsLibrary.same a b)
    (hbc : docsLibrary.same b c) : docsLibrary.same a c := by
  cases a with
  | str s =>
    cases b with
    | str t =>
      obtain rfl : s = t := of_decide_eq_true hab
      exact hbc
    | _ => cases hab
  | int m =>
    cases b with
    | int n =>
      obtain rfl : m = n := of_decide_eq_true hab
      exact hbc
    | _ => cases hab
  | _ => cases hab

/-- A corpus of two rows in places of their own is ingested with nothing hidden. -/
theorem nothing_hidden_apart : NothingHidden docsLibrary ⟨REQUIRED_COLUMNS, [federal, dependents]⟩
    (ingest_corpus docsLibrary none 1 emptyTable (docsCorpus [federal, dependents])) := by
  refine (nothing_hidden_iff docsLibrary_same_trans none 1 emptyTable
    ⟨by decide, rfl, fun _ => id, by decide, ?_⟩).mpr (.inr ?_)
  · rintro row ⟨hfirst, -⟩
    rcases List.mem_pair.mp hfirst.mem with rfl | rfl <;> exact ⟨0, rfl⟩
  · intro row hrow hbounds
    refine ⟨row, hrow, hbounds, ⟨rfl, rfl, rfl⟩, .inl ?_⟩
    rcases List.mem_pair.mp hrow with rfl | rfl
    · exact ⟨[], [dependents], rfl, fun b hb => absurd hb List.not_mem_nil⟩
    · refine ⟨[federal], [], rfl, fun b hb => ?_⟩
      obtain rfl := List.mem_singleton.mp hb
      decide

/-- **The second tenant's row is dropped without a word**: the ingest returns, and under the key is
the first tenant's text. -/
theorem addendum_hidden :
    (ingest_corpus docsLibrary none 1 emptyTable
        (docsCorpus [federal, addendum])).1.toOption = some 1
      ∧ InBounds docsLibrary addendum
      ∧ ¬ NothingHidden docsLibrary ⟨REQUIRED_COLUMNS, [federal, addendum]⟩
        (ingest_corpus docsLibrary none 1 emptyTable (docsCorpus [federal, addendum])) := by
  have hok : (ingest_corpus docsLibrary none 1 emptyTable
      (docsCorpus [federal, addendum])).1.toOption = some 1 := by decide +kernel
  have howner : ((ingest_corpus docsLibrary none 1 emptyTable
      (docsCorpus [federal, addendum])).2.get? ⟨"pub-17", 0, MODEL_NAME⟩).map DocChunk.tenant_id
        = some "tenant-a" := by decide +kernel
  have hbounds : InBounds docsLibrary addendum := by decide
  refine ⟨hok, hbounds, ?_⟩
  rintro (⟨e, he⟩ | ⟨-, hall⟩)
  · rw [he] at hok
    cases hok
  · obtain ⟨row, hrow, -, hrepeats, n, hint, chunk, hget, -, htenant⟩ :=
      hall addendum (by simp) hbounds
    rcases List.mem_pair.mp hrow with rfl | rfl
    · exact absurd hrepeats.tenant_id (by decide)
    · obtain rfl : n = 0 := (Except.ok.inj hint).symm
      have hsome := congrArg (Option.map DocChunk.tenant_id) hget
      exact absurd ((howner.symm.trans hsome).trans (congrArg some htenant)) (by decide)

end Rag.Corpus
