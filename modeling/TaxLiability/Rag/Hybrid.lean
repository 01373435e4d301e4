import Mathlib.Algebra.Order.Field.Rat
import Mathlib.Data.List.Perm.Subperm
import TaxLiability.Machinery.JsonText
import TaxLiability.Machinery.Tally
import TaxLiability.Rag.DocChunks

/-!
# Rag/Hybrid — two retrievers over one table, fused by rank

    dense   tenant, model, filter   ──▸ 1/(60+rank) ──┐
                                                      ├─▸ summed per chunk id ──▸ best 60
    sparse  tenant, query           ──▸ 1/(60+rank) ──┘

A chunk's id is built of two of the three columns of the table's key, and only one retriever names
the third.  The dense retriever therefore votes once for an id; the sparse one does, and what is
fused is of the current model, exactly if no chunk matches under two model versions and what
matches is a current chunk's text (`one_vote_iff`).
-/

namespace Rag

/-! ## Candidates -/

/-- The model whose vectors are ranked. -/
def MODEL_NAME : String := "all-MiniLM-L6-v2"

/-- Damping constant of the fusion. -/
def K_CONST : ℕ := 60

/-- Candidates each retriever returns. -/
def DEFAULT_RETRIEVER_K : ℕ := 50

/-- Size of the fused list. -/
def DEFAULT_FUSED_K : ℕ := 60

/-- **What retrieval passes on of a chunk.** -/
structure Candidate (K : Type) where
  chunk_id : String
  chunk_text : String
  score : K
  deriving DecidableEq, Repr

/-- **`_CHUNK_ID_EXPR`**: the id of a chunk, which leaves the model version out. -/
def CHUNK_ID_EXPR (key : Key) : String :=
  "chunk-" ++ key.doc_id ++ "-p" ++ String.ofList (Json.intText key.chunk_idx)

theorem p_notMem_intText (n : ℤ) : 'p' ∉ Json.intText n := fun h =>
  absurd (List.all_eq_true.mp (Json.intText_number n) _ h) (by decide)

/-- **A chunk id tells the document and the place**, whatever the document's id is. -/
theorem chunkId_inj {key key' : Key} : CHUNK_ID_EXPR key = CHUNK_ID_EXPR key'
    ↔ key.doc_id = key'.doc_id ∧ key.chunk_idx = key'.chunk_idx := by
  have htoList : ∀ key : Key, (CHUNK_ID_EXPR key).toList
      = ("chunk-".toList ++ key.doc_id.toList ++ ['-']) ++ 'p' :: Json.intText key.chunk_idx :=
    fun key => by
      simp only [CHUNK_ID_EXPR, String.toList_append, String.toList_ofList, List.append_assoc]
      rfl
  constructor
  · intro h
    have h' := congrArg String.toList h
    rw [htoList, htoList] at h'
    obtain ⟨hdoc, hidx⟩ := Json.append_sep_inj (p_notMem_intText _) (p_notMem_intText _) h'
    exact ⟨String.toList_inj.mp (List.append_cancel_left (List.append_cancel_right hdoc)),
      Json.intText_injective hidx⟩
  · rintro ⟨hdoc, hidx⟩
    simp only [CHUNK_ID_EXPR, hdoc, hidx]

/-! ## The retrievers -/

/-- **The search operators**: whether a text matches a query (`chunk_tsv @@ websearch_to_tsquery`),
and whether one JSON value contains another (`@>`). -/
structure Operators where
  matchesQuery : String → String → Bool
  contains : Json → Json → Bool

/-- **A search**: the scores it ranks by, the order in which it reads the rows, which decides
between equal scores, and the rows that the approximate index over the embeddings surfaces. -/
structure Search (V T K : Type) where
  distance : V → V → K
  ts_rank_cd : String → String → K
  scan : Dict Key (DocChunk V T) → Dict Key (DocChunk V T)
  scan_perm : ∀ rows, (scan rows).Perm rows
  surfaced : Key → Bool

variable {V T K : Type}

/-- `SELECT … WHERE p ORDER BY better LIMIT k`. -/
def select (R : Search V T K) (table : DocChunks V T) (p : Key × DocChunk V T → Bool)
    (better : Key × DocChunk V T → Key × DocChunk V T → Prop) [DecidableRel better] (k : ℕ) :
    Dict Key (DocChunk V T) :=
  (((R.scan table.rows).filter p).insertionSort better).take k

section Select

variable {R : Search V T K} {table : DocChunks V T} {p : Key × DocChunk V T → Bool}
  {better : Key × DocChunk V T → Key × DocChunk V T → Prop} [DecidableRel better] {k : ℕ}

/-- **A row selected is a row of the table** that meets the condition. -/
theorem mem_select {f : Key × DocChunk V T} (h : f ∈ select R table p better k) :
    table.get? f.1 = some f.2 ∧ p f := by
  obtain ⟨hscan, hp⟩ := List.mem_filter.mp
    ((List.mem_insertionSort better).mp (List.mem_of_mem_take h))
  exact ⟨(Dict.mem_iff table.unique).mp ((R.scan_perm _).mem_iff.mp hscan), hp⟩

/-- No key is selected twice. -/
theorem nodup_select : Dict.Nodup (select R table p better k) := by
  have hscan : Dict.Nodup (R.scan table.rows) :=
    ((R.scan_perm _).map Prod.fst).nodup_iff.mpr table.unique
  have hfilter : Dict.Nodup ((R.scan table.rows).filter p) :=
    hscan.sublist (List.filter_sublist.map _)
  have hsort : Dict.Nodup (((R.scan table.rows).filter p).insertionSort better) :=
    ((List.perm_insertionSort better _).map Prod.fst).nodup_iff.mpr hfilter
  exact hsort.sublist ((List.take_sublist _ _).map _)

theorem length_select_le : (select R table p better k).length ≤ k := List.length_take_le _ _

/-- **A search that reads the rows of given keys first**, ranks all rows alike, and has an index
that surfaces none. -/
def Search.first [Zero K] (keys : List Key) : Search V T K where
  distance _ _ := 0
  ts_rank_cd _ _ := 0
  scan rows := rows.filter (fun f => f.1 ∈ keys) ++ rows.filter fun f => !decide (f.1 ∈ keys)
  scan_perm rows := List.filter_append_perm _ rows
  surfaced _ := false

/-- The given rows that meet the condition are what is selected first, if they fit. -/
theorem select_first [Zero K] {keys : List Key} (table : DocChunks V T)
    (p : Key × DocChunk V T → Bool) (hbetter : ∀ f g, better f g) (hk : keys.length ≤ k) :
    ∃ rest, select (Search.first keys : Search V T K) table p better k
      = (table.rows.filter fun f => f.1 ∈ keys).filter p ++ rest := by
  have hsub : ((table.rows.filter fun f => f.1 ∈ keys).map Prod.fst).length ≤ keys.length := by
    refine (List.Nodup.subperm (table.unique.sublist (List.filter_sublist.map _)) ?_).length_le
    rintro key hkey
    obtain ⟨f, hf, rfl⟩ := List.mem_map.mp hkey
    exact of_decide_eq_true (List.mem_filter.mp hf).2
  have hlength : ((table.rows.filter fun f => f.1 ∈ keys).filter p).length ≤ k :=
    (List.length_filter_le _ _).trans ((List.length_map _ ▸ hsub).trans hk)
  rw [select, List.Pairwise.insertionSort_eq (List.pairwise_of_forall hbetter), Search.first,
    List.filter_append, List.take_append, List.take_of_length_le hlength]
  exact ⟨_, rfl⟩

end Select

variable [LinearOrder K]

/-- The nearest rows of the tenant and the model that contain the filter. -/
def denseRows (O : Operators) (R : Search V T K) (table : DocChunks V T) (query_vec : V)
    (tenant_id : String) (metadata_filter : Option Json.Fields) (k : ℕ) (model_version : String) :
    Dict Key (DocChunk V T) :=
  select R table
    (fun f => R.surfaced f.1 ∧ f.2.tenant_id = tenant_id ∧ f.1.model_version = model_version
      ∧ metadata_filter.all fun filter => O.contains f.2.chunk_metadata (jsonb filter))
    (fun f g => R.distance f.2.embedding query_vec ≤ R.distance g.2.embedding query_vec) k

/-- **`dense_topk_filtered`**: the nearest chunks, with their distances. -/
def dense_topk_filtered (O : Operators) (R : Search V T K) (table : DocChunks V T) (query_vec : V)
    (tenant_id : String) (metadata_filter : Option Json.Fields) (k : ℕ) (model_version : String) :
    List (Candidate K) :=
  (denseRows O R table query_vec tenant_id metadata_filter k model_version).map
    fun f => ⟨CHUNK_ID_EXPR f.1, f.2.chunk_text, R.distance f.2.embedding query_vec⟩

/-- The best rows of the tenant that match the query. -/
def sparseRows (O : Operators) (R : Search V T K) (table : DocChunks V T)
    (query_text tenant_id : String) (k : ℕ) : Dict Key (DocChunk V T) :=
  select R table
    (fun f => f.2.tenant_id = tenant_id ∧ O.matchesQuery f.2.chunk_text query_text)
    (fun f g => R.ts_rank_cd g.2.chunk_text query_text ≤ R.ts_rank_cd f.2.chunk_text query_text) k

/-- **`sparse_topk_fts`**: the chunks that match best, with their scores. -/
def sparse_topk_fts (O : Operators) (R : Search V T K) (table : DocChunks V T)
    (query_text tenant_id : String) (k : ℕ) : List (Candidate K) :=
  (sparseRows O R table query_text tenant_id k).map
    fun f => ⟨CHUNK_ID_EXPR f.1, f.2.chunk_text, R.ts_rank_cd f.2.chunk_text query_text⟩

/-! ## What the retrievers return -/

/-- A chunk of the tenant that matches the query. -/
def Matching (O : Operators) (table : DocChunks V T) (tenant_id query_text : String) (key : Key)
    (chunk : DocChunk V T) : Prop :=
  table.get? key = some chunk ∧ chunk.tenant_id = tenant_id
    ∧ O.matchesQuery chunk.chunk_text query_text

/-- **A candidate shows a chunk**: its id is that of the chunk's key, and its text the chunk's. -/
def Candidate.Shows (c : Candidate K) (key : Key) (chunk : DocChunk V T) : Prop :=
  c.chunk_id = CHUNK_ID_EXPR key ∧ c.chunk_text = chunk.chunk_text

section Retrievers

variable {O : Operators} {R : Search V T K} {table : DocChunks V T} {query_vec : V}
  {query_text tenant_id model_version : String} {metadata_filter : Option Json.Fields} {k : ℕ}
  {c : Candidate K}

theorem mem_dense
    (h : c ∈ dense_topk_filtered O R table query_vec tenant_id metadata_filter k model_version) :
    ∃ key chunk, table.get? key = some chunk ∧ chunk.tenant_id = tenant_id
      ∧ key.model_version = model_version
      ∧ (∀ filter, metadata_filter = some filter → O.contains chunk.chunk_metadata (jsonb filter))
      ∧ c.Shows key chunk := by
  obtain ⟨⟨key, chunk⟩, hf, rfl⟩ := List.mem_map.mp h
  obtain ⟨hget, hp⟩ := mem_select hf
  obtain ⟨-, htenant, hmodel, hfilter⟩ := of_decide_eq_true hp
  refine ⟨key, chunk, hget, htenant, hmodel, ?_, rfl, rfl⟩
  rintro filter rfl
  exact hfilter

theorem matching_of_mem_sparseRows {f : Key × DocChunk V T}
    (h : f ∈ sparseRows O R table query_text tenant_id k) :
    Matching O table tenant_id query_text f.1 f.2 :=
  ⟨(mem_select h).1, of_decide_eq_true (mem_select h).2⟩

theorem mem_sparse (h : c ∈ sparse_topk_fts O R table query_text tenant_id k) :
    ∃ key chunk, Matching O table tenant_id query_text key chunk ∧ c.Shows key chunk := by
  obtain ⟨⟨key, chunk⟩, hf, rfl⟩ := List.mem_map.mp h
  exact ⟨key, chunk, matching_of_mem_sparseRows hf, rfl, rfl⟩

/-- Rows of distinct keys have distinct chunk ids, exactly if no two of their keys share one. -/
theorem nodup_chunkIds_iff {rows : Dict Key (DocChunk V T)} (h : rows.Nodup) :
    (rows.map fun f => CHUNK_ID_EXPR f.1).Nodup
      ↔ ∀ f ∈ rows, ∀ g ∈ rows, CHUNK_ID_EXPR f.1 = CHUNK_ID_EXPR g.1 → f.1 = g.1 := by
  have hmap : rows.map (fun f => CHUNK_ID_EXPR f.1)
      = (rows.map Prod.fst).map CHUNK_ID_EXPR := by
    rw [List.map_map]
    rfl
  rw [hmap, List.nodup_map_iff_inj_on h]
  simp only [List.forall_mem_map]

/-- **The dense retriever returns an id once**: its rows are of one model version. -/
theorem nodup_dense :
    ((dense_topk_filtered O R table query_vec tenant_id metadata_filter k model_version).map
      Candidate.chunk_id).Nodup := by
  rw [dense_topk_filtered, List.map_map]
  refine (nodup_chunkIds_iff nodup_select).mpr fun f hf g hg hid => ?_
  obtain ⟨-, -, hmodel, -⟩ := of_decide_eq_true (mem_select hf).2
  obtain ⟨-, -, hmodel', -⟩ := of_decide_eq_true (mem_select hg).2
  obtain ⟨hdoc, hidx⟩ := chunkId_inj.mp hid
  exact Key.ext hdoc hidx (hmodel.trans hmodel'.symm)

/-- **The sparse retriever returns an id once**, exactly if no two of its rows share one. -/
theorem nodup_sparse_iff :
    ((sparse_topk_fts O R table query_text tenant_id k).map Candidate.chunk_id).Nodup
      ↔ ∀ f ∈ sparseRows O R table query_text tenant_id k,
        ∀ g ∈ sparseRows O R table query_text tenant_id k,
          CHUNK_ID_EXPR f.1 = CHUNK_ID_EXPR g.1 → f.1 = g.1 := by
  rw [sparse_topk_fts, List.map_map]
  exact nodup_chunkIds_iff nodup_select

theorem length_sparse_le : (sparse_topk_fts O R table query_text tenant_id k).length ≤ k := by
  rw [sparse_topk_fts, List.length_map]
  exact length_select_le

end Retrievers

/-! ## A search that reads given rows first -/

section First

variable [Zero K] {O : Operators} {table : DocChunks V T} {query_vec : V}
  {tenant_id model_version : String} {metadata_filter : Option Json.Fields} {k : ℕ}
  {keys : List Key}

theorem dense_first : dense_topk_filtered O (Search.first keys : Search V T K) table query_vec
    tenant_id metadata_filter k model_version = [] := by
  simp [dense_topk_filtered, denseRows, select, Search.first]

/-- The chunks of given keys that match. -/
def matchingRows (O : Operators) (table : DocChunks V T) (query_text tenant_id : String)
    (keys : List Key) : Dict Key (DocChunk V T) :=
  (table.rows.filter fun f => f.1 ∈ keys).filter fun f =>
    f.2.tenant_id = tenant_id ∧ O.matchesQuery f.2.chunk_text query_text

theorem mem_matchingRows {query_text : String} {f : Key × DocChunk V T} :
    f ∈ matchingRows O table query_text tenant_id keys
      ↔ f.1 ∈ keys ∧ Matching O table tenant_id query_text f.1 f.2 := by
  rw [matchingRows, List.mem_filter, List.mem_filter, decide_eq_true_eq, decide_eq_true_eq,
    Matching, DocChunks.get?, ← Dict.mem_iff table.unique]
  tauto

/-- **The sparse retriever returns the given chunks that match first**, if they fit. -/
theorem sparseRows_first (O : Operators) (table : DocChunks V T) (query_text tenant_id : String)
    (hk : keys.length ≤ k) : ∃ rest,
    sparseRows O (Search.first keys : Search V T K) table query_text tenant_id k
      = matchingRows O table query_text tenant_id keys ++ rest :=
  select_first table _ (fun _ _ => le_refl (0 : K)) hk

theorem mem_sparseRows_first (hk : keys.length ≤ k) {key : Key} (hkey : key ∈ keys)
    {chunk : DocChunk V T} {query_text : String}
    (h : Matching O table tenant_id query_text key chunk) : (key, chunk)
      ∈ sparseRows O (Search.first keys : Search V T K) table query_text tenant_id k := by
  obtain ⟨rest, hrest⟩ := sparseRows_first (K := K) O table query_text tenant_id hk
  rw [hrest]
  exact List.mem_append_left _ (mem_matchingRows.mpr ⟨hkey, h⟩)

/-- **A chunk that matches is the first sparse candidate** of the search that reads it first. -/
theorem sparse_head_first (hk : 1 ≤ k) {key : Key} {chunk : DocChunk V T} {query_text : String}
    (h : Matching O table tenant_id query_text key chunk) : ∃ rest,
    sparse_topk_fts O (Search.first [key] : Search V T K) table query_text tenant_id k
      = ⟨CHUNK_ID_EXPR key, chunk.chunk_text, 0⟩ :: rest := by
  obtain ⟨rest, hrest⟩ := sparseRows_first (K := K) O table query_text tenant_id
    (List.length_singleton (a := key) ▸ hk)
  have hmem : (key, chunk) ∈ matchingRows O table query_text tenant_id [key] :=
    mem_matchingRows.mpr ⟨List.mem_singleton_self key, h⟩
  cases hrows : matchingRows O table query_text tenant_id [key] with
  | nil =>
    rw [hrows] at hmem
    exact absurd hmem List.not_mem_nil
  | cons f rows =>
    obtain ⟨hkey, hmatch⟩ := mem_matchingRows.mp (hrows ▸ List.mem_cons_self : f ∈ _)
    obtain rfl := List.mem_singleton.mp hkey
    have hchunk : f.2 = chunk := Option.some.inj (hmatch.1.symm.trans h.1)
    rw [sparse_topk_fts, hrest, hrows, List.cons_append, List.map_cons, hchunk]
    exact ⟨_, rfl⟩

end First

/-! ## The fusion -/

variable [Field K]

/-- What a ranked list contributes: a weight over the damped rank, to each candidate's chunk id. -/
def contributions (w : K) (k_const : ℕ) (ranked : List (Candidate K)) : Dict String K :=
  (ranked.zipIdx 1).map fun f => (f.1.chunk_id, w / ((k_const + f.2 : ℕ) : K))

/-- A candidate's text under its chunk id. -/
def Candidate.passage (c : Candidate K) : String × String := (c.chunk_id, c.chunk_text)

/-- **`rrf_fuse`**: the contributions summed for each chunk id, with the dense text where there is
one, best first. -/
def rrf_fuse (dense sparse : List (Candidate K)) (k_const : ℕ) (w_dense w_sparse : K)
    (top_k : ℕ) : List (Candidate K) :=
  let scores := Dict.tally (Dict.tally [] (contributions w_dense k_const dense))
    (contributions w_sparse k_const sparse)
  let texts := Dict.setdefaults (Dict.merge [] (dense.map Candidate.passage))
    (sparse.map Candidate.passage)
  let ordered := scores.insertionSort fun f g => g.2 ≤ f.2
  (ordered.take top_k).map fun f => ⟨f.1, (texts.get? f.1).getD "", f.2⟩

/-- How many chunks only one retriever found, how many both, and the share of the latter. -/
structure Coverage (K : Type) where
  dense_only : K
  sparse_only : K
  both : K
  jaccard : K
  deriving DecidableEq, Repr

/-- **`coverage`**: how much the two retrievers agreed. -/
def coverage (dense sparse : List (Candidate K)) : Coverage K :=
  let dense_ids := (dense.map Candidate.chunk_id).dedup
  let sparse_ids := (sparse.map Candidate.chunk_id).dedup
  let both := dense_ids.filter (· ∈ sparse_ids)
  let union := (dense_ids ++ sparse_ids).dedup
  { dense_only := ((dense_ids.filter (· ∉ sparse_ids)).length : K)
    sparse_only := ((sparse_ids.filter (· ∉ dense_ids)).length : K)
    both := (both.length : K)
    jaccard := (both.length : K) / ((max union.length 1 : ℕ) : K) }

/-! ## What the fusion returns -/

/-- The terms a ranked list contributes to a chunk id. -/
def terms (w : K) (k_const : ℕ) (ranked : List (Candidate K)) (chunk_id : String) : List K :=
  (contributions w k_const ranked).valuesAt chunk_id

omit [LinearOrder K] in
theorem keys_contributions (w : K) (k_const : ℕ) (ranked : List (Candidate K)) :
    (contributions w k_const ranked).map Prod.fst = ranked.map Candidate.chunk_id := by
  have hfst : (ranked.zipIdx 1).map Prod.fst = ranked := List.zipIdx_map_fst _ _
  conv_rhs => rw [← hfst]
  rw [contributions, List.map_map, List.map_map]
  rfl

omit [LinearOrder K] in
/-- **A list contributes as many terms to an id as it has candidates of that id.** -/
theorem length_terms (w : K) (k_const : ℕ) (ranked : List (Candidate K)) (chunk_id : String) :
    (terms w k_const ranked chunk_id).length
      = (ranked.map Candidate.chunk_id).count chunk_id := by
  rw [terms, Dict.length_valuesAt, keys_contributions]

section Fuse

variable {dense sparse : List (Candidate K)} {k_const : ℕ} {w_dense w_sparse : K} {top_k : ℕ}
  {c : Candidate K}

/-- **A fused candidate has the last dense text of its id**, or the first sparse one. -/
theorem text_of_mem_rrf_fuse (h : c ∈ rrf_fuse dense sparse k_const w_dense w_sparse top_k) :
    (Dict.get? (dense.map Candidate.passage).reverse c.chunk_id).or
      (Dict.get? (sparse.map Candidate.passage) c.chunk_id) = some c.chunk_text := by
  obtain ⟨⟨chunk_id, score⟩, hf, rfl⟩ := List.mem_map.mp h
  have hkey := List.mem_map_of_mem (f := Prod.fst)
    ((List.mem_insertionSort _).mp (List.mem_of_mem_take hf))
  rw [Dict.mem_keys_tally, Dict.mem_keys_tally, keys_contributions, keys_contributions] at hkey
  have htexts : Dict.get? (Dict.setdefaults (Dict.merge [] (dense.map Candidate.passage))
      (sparse.map Candidate.passage)) chunk_id
        = (Dict.get? (dense.map Candidate.passage).reverse chunk_id).or
          (Dict.get? (sparse.map Candidate.passage) chunk_id) := by
    rw [Dict.get?_setdefaults, Dict.get?_merge, Dict.get?_nil, Option.or_none]
  cases ht : (Dict.get? (dense.map Candidate.passage).reverse chunk_id).or
      (Dict.get? (sparse.map Candidate.passage) chunk_id) with
  | some text => simp only [htexts, ht, Option.getD_some]
  | none =>
    obtain ⟨hdense, hsparse⟩ := Option.or_eq_none_iff.mp ht
    have hdense := Dict.notMem_keys_of_get? hdense
    have hsparse := Dict.notMem_keys_of_get? hsparse
    rw [List.map_reverse, List.mem_reverse, List.map_map] at hdense
    rw [List.map_map] at hsparse
    rcases hkey with (hkey | hkey) | hkey
    · exact absurd hkey List.not_mem_nil
    · exact absurd hkey hdense
    · exact absurd hkey hsparse

/-- **A fused candidate's id and text are those of a candidate of either list.** -/
theorem exists_of_mem_rrf_fuse
    (h : c ∈ rrf_fuse dense sparse k_const w_dense w_sparse top_k) :
    ∃ d ∈ dense ++ sparse, d.passage = c.passage := by
  rcases Option.or_eq_some_iff.mp (text_of_mem_rrf_fuse h) with hdense | ⟨-, hsparse⟩
  · obtain ⟨d, hd, hp⟩ := List.mem_map.mp
      (List.mem_reverse.mp (Dict.mem_of_get?_eq_some hdense))
    exact ⟨d, List.mem_append_left _ hd, hp⟩
  · obtain ⟨d, hd, hp⟩ := List.mem_map.mp (Dict.mem_of_get?_eq_some hsparse)
    exact ⟨d, List.mem_append_right _ hd, hp⟩

/-- **Nothing is left out where there is room**: the ids of both lists are fused. -/
theorem exists_mem_rrf_fuse (hlength : dense.length + sparse.length ≤ top_k) {d : Candidate K}
    (hd : d ∈ dense ++ sparse) :
    ∃ c ∈ rrf_fuse dense sparse k_const w_dense w_sparse top_k, c.chunk_id = d.chunk_id := by
  have hkey : d.chunk_id ∈ (Dict.tally (Dict.tally [] (contributions w_dense k_const dense))
      (contributions w_sparse k_const sparse)).map Prod.fst := by
    rw [Dict.mem_keys_tally, Dict.mem_keys_tally, keys_contributions, keys_contributions, or_assoc,
      ← List.mem_append, ← List.map_append]
    exact .inr (List.mem_map_of_mem hd)
  obtain ⟨f, hf, hid⟩ := List.mem_map.mp hkey
  have hscores := Dict.length_tally_le (Dict.tally [] (contributions w_dense k_const dense))
    (contributions w_sparse k_const sparse)
  have hdense := Dict.length_tally_le [] (contributions w_dense k_const dense)
  have hlist : ∀ (w : K) (ranked : List (Candidate K)),
      (contributions w k_const ranked).length = ranked.length := fun w ranked => by
    rw [contributions, List.length_map, List.length_zipIdx]
  rw [hlist] at hscores hdense
  refine ⟨_, List.mem_map_of_mem ?_, hid⟩
  rw [List.take_of_length_le]
  · exact (List.mem_insertionSort _).mpr hf
  · rw [List.length_insertionSort]
    simp only [List.length_nil] at hdense
    omega

end Fuse

/-! ## One vote, one version -/

/-- What the two retrievers return to one query. -/
structure Retrieval (K : Type) where
  dense : List (Candidate K)
  sparse : List (Candidate K)

/-- Both retrievers, as the pipeline runs them. -/
def retrieve (O : Operators) (R : Search V T K) (table : DocChunks V T) (query_vec : V)
    (query_text tenant_id : String) (metadata_filter : Option Json.Fields) : Retrieval K where
  dense := dense_topk_filtered O R table query_vec tenant_id metadata_filter DEFAULT_RETRIEVER_K
    MODEL_NAME
  sparse := sparse_topk_fts O R table query_text tenant_id DEFAULT_RETRIEVER_K

/-- The fused list handed on. -/
def Retrieval.fused (r : Retrieval K) : List (Candidate K) :=
  rrf_fuse r.dense r.sparse K_CONST 1 1 DEFAULT_FUSED_K

/-- **Each retriever contributes at most one term** to any id that is fused. -/
def OneVote (r : Retrieval K) : Prop :=
  ∀ c ∈ r.fused, (terms 1 K_CONST r.dense c.chunk_id).length ≤ 1
    ∧ (terms 1 K_CONST r.sparse c.chunk_id).length ≤ 1

/-- **Every fused candidate shows a chunk of the current model version.** -/
def CurrentText (table : DocChunks V T) (r : Retrieval K) : Prop :=
  ∀ c ∈ r.fused, ∃ key chunk, table.get? key = some chunk ∧ key.model_version = MODEL_NAME
    ∧ c.Shows key chunk

/-- **What matches is of one version**: no two chunks of the tenant that match the query share an
id, and each has the text of the current version's chunk of its id. -/
structure OneVersion (O : Operators) (table : DocChunks V T) (tenant_id query_text : String) :
    Prop where
  once : ∀ key chunk key' chunk', Matching O table tenant_id query_text key chunk →
    Matching O table tenant_id query_text key' chunk' → CHUNK_ID_EXPR key = CHUNK_ID_EXPR key' →
    key = key'
  current : ∀ key chunk, Matching O table tenant_id query_text key chunk →
    ∃ key' chunk', table.get? key' = some chunk' ∧ key'.model_version = MODEL_NAME
      ∧ CHUNK_ID_EXPR key = CHUNK_ID_EXPR key' ∧ chunk.chunk_text = chunk'.chunk_text

section Votes

variable {O : Operators} {table : DocChunks V T} {query_vec : V}
  {query_text tenant_id : String} {metadata_filter : Option Json.Fields}

omit [LinearOrder K] in
/-- A list that has each id once contributes at most one term to any. -/
theorem length_terms_le_one {w : K} {k_const : ℕ} {ranked : List (Candidate K)}
    (h : (ranked.map Candidate.chunk_id).Nodup) (chunk_id : String) :
    (terms w k_const ranked chunk_id).length ≤ 1 := by
  rw [length_terms]
  exact List.nodup_iff_count_le_one.mp h chunk_id

/-- **A search that reads some keys first fuses all that the sparse retriever finds**: there is no
dense candidate to take the room. -/
theorem exists_fused_first (query_vec : V) (metadata_filter : Option Json.Fields)
    {keys : List Key} {d : Candidate K} (hd : d ∈ sparse_topk_fts O
      (Search.first keys : Search V T K) table query_text tenant_id DEFAULT_RETRIEVER_K) :
    ∃ c ∈ (retrieve O (Search.first keys : Search V T K) table query_vec query_text tenant_id
      metadata_filter).fused, c.chunk_id = d.chunk_id := by
  refine exists_mem_rrf_fuse ?_ (List.mem_append_right _ hd)
  have hsparse : (sparse_topk_fts O (Search.first keys : Search V T K) table query_text tenant_id
      DEFAULT_RETRIEVER_K).length ≤ DEFAULT_RETRIEVER_K := length_sparse_le
  rw [retrieve, dense_first, List.length_nil]
  simp only [DEFAULT_RETRIEVER_K, DEFAULT_FUSED_K] at hsparse ⊢
  omega

/-- **Where the sparse retriever votes once**, it finds an id once. -/
theorem nodup_of_oneVote {keys : List Key}
    (h : OneVote (retrieve O (Search.first keys : Search V T K) table query_vec query_text tenant_id
      metadata_filter)) :
    ((sparse_topk_fts O (Search.first keys : Search V T K) table query_text tenant_id
      DEFAULT_RETRIEVER_K).map Candidate.chunk_id).Nodup := by
  refine List.nodup_iff_count_le_one.mpr fun chunk_id => ?_
  by_cases hmem : chunk_id ∈ (sparse_topk_fts O (Search.first keys : Search V T K) table query_text
      tenant_id DEFAULT_RETRIEVER_K).map Candidate.chunk_id
  · obtain ⟨d, hd, rfl⟩ := List.mem_map.mp hmem
    obtain ⟨c, hc, hid⟩ := exists_fused_first query_vec metadata_filter hd
    rw [← hid, ← length_terms (1 : K) K_CONST]
    exact (h c hc).2
  · rw [List.count_eq_zero_of_not_mem hmem]
    exact Nat.zero_le 1

/-- Chunks that match and share an id are one, where every search votes once. -/
theorem key_eq_of_oneVote {key key' : Key} {chunk chunk' : DocChunk V T}
    (hmatch : Matching O table tenant_id query_text key chunk)
    (hmatch' : Matching O table tenant_id query_text key' chunk')
    (h : OneVote (retrieve O (Search.first [key, key'] : Search V T K) table query_vec query_text
      tenant_id metadata_filter)) (hid : CHUNK_ID_EXPR key = CHUNK_ID_EXPR key') : key = key' := by
  have hk : [key, key'].length ≤ DEFAULT_RETRIEVER_K := by simp [DEFAULT_RETRIEVER_K]
  exact nodup_sparse_iff.mp (nodup_of_oneVote h)
    (key, chunk) (mem_sparseRows_first hk (by simp) hmatch)
    (key', chunk') (mem_sparseRows_first hk (by simp) hmatch') hid

/-- **A chunk that matches is fused with its own text** by a search that reads it first. -/
theorem exists_fused_shows (query_vec : V) (metadata_filter : Option Json.Fields) {key : Key}
    {chunk : DocChunk V T} (hmatch : Matching O table tenant_id query_text key chunk) :
    ∃ c ∈ (retrieve O (Search.first [key] : Search V T K) table query_vec query_text tenant_id
      metadata_filter).fused, c.Shows key chunk := by
  have hk : 1 ≤ DEFAULT_RETRIEVER_K := by decide
  obtain ⟨rest, hrest⟩ := sparse_head_first (K := K) hk hmatch
  obtain ⟨c, hc, hid⟩ := exists_fused_first query_vec metadata_filter
    (hrest ▸ List.mem_cons_self)
  have htext := text_of_mem_rrf_fuse hc
  rw [retrieve, dense_first, hrest, List.map_nil, List.reverse_nil, Dict.get?_nil, Option.none_or,
    List.map_cons, Dict.get?_cons, Candidate.passage, if_pos hid.symm] at htext
  exact ⟨c, hc, hid, (Option.some.inj htext).symm⟩

/-- Where what matches is of one version, every candidate shows a chunk of the current one. -/
theorem OneVersion.currentText (h : OneVersion O table tenant_id query_text)
    (R : Search V T K) (query_vec : V) (metadata_filter : Option Json.Fields) :
    CurrentText table (retrieve O R table query_vec query_text tenant_id metadata_filter) := by
  intro c hc
  obtain ⟨d, hd, hp⟩ := exists_of_mem_rrf_fuse hc
  obtain ⟨hid, htext⟩ := Prod.mk.inj hp
  rcases List.mem_append.mp hd with hd | hd
  · obtain ⟨key, chunk, hget, -, hmodel, -, hshows⟩ := mem_dense hd
    exact ⟨key, chunk, hget, hmodel, hid.symm.trans hshows.1, htext.symm.trans hshows.2⟩
  · obtain ⟨key, chunk, hmatch, hshows⟩ := mem_sparse hd
    obtain ⟨key', chunk', hget, hmodel, hkey, hchunk⟩ := h.current key chunk hmatch
    exact ⟨key', chunk', hget, hmodel, (hid.symm.trans hshows.1).trans hkey,
      (htext.symm.trans hshows.2).trans hchunk⟩

/-- **Each retriever votes once for what it finds, and what is fused is current**, however the rows
rank and whatever the index surfaces, exactly if what matches is of one version. -/
theorem one_vote_iff (O : Operators) (table : DocChunks V T) (query_vec : V)
    (query_text tenant_id : String) (metadata_filter : Option Json.Fields) :
    (∀ R : Search V T K,
      OneVote (retrieve O R table query_vec query_text tenant_id metadata_filter)
        ∧ CurrentText table (retrieve O R table query_vec query_text tenant_id metadata_filter))
    ↔ OneVersion O table tenant_id query_text := by
  constructor
  · intro h
    refine ⟨fun key chunk key' chunk' hmatch hmatch' => ?_, fun key chunk hmatch => ?_⟩
    · exact key_eq_of_oneVote hmatch hmatch' (h (Search.first [key, key'])).1
    · obtain ⟨c, hc, hid, hchunk⟩ := exists_fused_shows (K := K) query_vec metadata_filter hmatch
      obtain ⟨key', chunk', hget, hmodel, hid', hchunk'⟩ := (h (Search.first [key])).2 c hc
      exact ⟨key', chunk', hget, hmodel, hid.symm.trans hid', hchunk.symm.trans hchunk'⟩
  · intro h R
    refine ⟨fun c _ => ⟨length_terms_le_one nodup_dense _, length_terms_le_one
      (nodup_sparse_iff.mpr fun f hf g hg => ?_) _⟩, h.currentText R query_vec metadata_filter⟩
    exact h.once _ _ _ _ (matching_of_mem_sparseRows hf) (matching_of_mem_sparseRows hg)

end Votes

/-! ## A re-embedded corpus -/

/-- Operators to which every text matches every query. -/
def docsOperators : Operators := ⟨fun _ _ => true, fun _ _ => true⟩

/-- A search that reads the rows as they lie, and whose index surfaces them all. -/
def docsSearch : Search Unit ℕ ℚ where
  distance _ _ := 0
  ts_rank_cd _ _ := 1
  scan rows := rows
  scan_perm _ := .refl _
  surfaced _ := true

/-- A row of a tenant's. -/
def docsRow (chunk_text : String) : DocChunk Unit ℕ :=
  ⟨chunk_text, (), "tenant-a", 0, jsonb [], none⟩

/-- A chunk stored under two model versions, and one stored under the former alone. -/
def reembeddedRows : Dict Key (DocChunk Unit ℕ) :=
  [(⟨"pub-17", 0, "all-MiniLM-L6-v2"⟩, docsRow "Deductions of 2026."),
    (⟨"pub-17", 0, "all-MiniLM-L12-v2"⟩, docsRow "Deductions of 2025."),
    (⟨"pub-9", 0, "all-MiniLM-L12-v2"⟩, docsRow "Deductions of 2024.")]

theorem nodup_reembeddedRows : reembeddedRows.Nodup := by
  simp [Dict.Nodup, reembeddedRows]

/-- The table with those rows. -/
def reembedded : DocChunks Unit ℕ := ⟨reembeddedRows, nodup_reembeddedRows⟩

/-- What a query for deductions retrieves there. -/
def docsRetrieval : Retrieval ℚ :=
  retrieve docsOperators docsSearch reembedded () "deductions" "tenant-a" none

/-- **A chunk of two versions gets two votes of the sparse retriever, and a chunk of a former
version is fused**: its text is no current row's. -/
theorem two_votes_and_former_text :
    (∃ c ∈ docsRetrieval.fused, (terms 1 K_CONST docsRetrieval.sparse c.chunk_id).length = 2)
      ∧ ∃ c ∈ docsRetrieval.fused, ∀ key chunk, reembedded.get? key = some chunk →
        key.model_version = MODEL_NAME → chunk.chunk_text ≠ c.chunk_text := by
  have hfused : (⟨"chunk-pub-9-p0", "Deductions of 2024.", 1 / 63⟩ : Candidate ℚ)
      ∈ docsRetrieval.fused := by decide +kernel
  have hformer : ∀ f ∈ reembeddedRows, f.1.model_version = MODEL_NAME →
      f.2.chunk_text ≠ "Deductions of 2024." := by decide
  refine ⟨by decide +kernel, _, hfused, fun key chunk hget => ?_⟩
  exact hformer (key, chunk) ((Dict.mem_iff nodup_reembeddedRows).mpr hget)

end Rag
