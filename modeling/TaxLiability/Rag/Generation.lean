import TaxLiability.Rag.Rerank

/-!
# Rag/Generation — a fresh answer, and whether its metadata filter is honoured

    dense, filtered ──┐
                      ├─▸ fused ──mmr──▸ 20 ──rerank──▸ 6 ──▸ prompt, citations
    sparse ───────────┘

Every stage after the retrievers only chooses, so a citation is as good as the row it came in with;
and one of the two ways in does not know the filter.  It is honoured exactly if that way is shut or
lets nothing else in (`filter_honoured_iff`).
-/

namespace Rag

/-! ## The stages -/

/-- **The stages of a call that are on.** -/
structure Switches where
  hybrid_on : Bool
  mmr_on : Bool
  rerank_on : Bool
  filter_on : Bool
  deriving DecidableEq, Repr

/-- **`_build_prompt`**: the numbered passages, and the question. -/
def build_prompt (query_text : String) (passages : List String) : String :=
  "Answer the question using only the numbered context below.\n\n"
    ++ "\n\n".intercalate ((passages.zipIdx 1).map fun f => "[" ++ toString f.2 ++ "] " ++ f.1)
    ++ "\n\nQuestion: " ++ query_text

/-- A citation of an answer. -/
structure Citation (K : Type) where
  chunk_id : String
  chunk_text : String
  score : K
  tenant_id : String
  deriving DecidableEq, Repr

/-- **An answer**, as it is cached. -/
structure Answer (K : Type) where
  text : String
  citations : List (Citation K)
  rerank_timed_out : Bool
  coverage : Coverage K
  deriving DecidableEq, Repr

/-- **A generation**: the passages put in the prompt, and the answer. -/
structure Generation (K : Type) where
  passages : List String
  prompt : String
  answer : Answer K

/-- **What a call rests on** besides the table and its operators: the search, the encoder, the
rerankers and the model that answers. -/
structure Backing (V T K : Type) where
  search : Search V T K
  encode : List String → Similarities K
  rerankers : Rerankers K
  create : (model : String) → (prompt : String) → String

variable {V T K : Type} [Field K] [LinearOrder K]

/-- The trade-off of the diversification. -/
def MMR_LAMBDA : K := 7 / 10

/-- The dense candidates of a call. -/
def denseOf (O : Operators) (B : Backing V T K) (table : DocChunks V T) (query_vec : V)
    (tenant_id : String) (metadata_filter : Option Json.Fields) (on : Switches) :
    List (Candidate K) :=
  dense_topk_filtered O B.search table query_vec tenant_id
    (if on.filter_on then metadata_filter else none) DEFAULT_RETRIEVER_K MODEL_NAME

/-- The sparse candidates of a call. -/
def sparseOf (O : Operators) (B : Backing V T K) (table : DocChunks V T)
    (query_text tenant_id : String) (on : Switches) : List (Candidate K) :=
  if on.hybrid_on then sparse_topk_fts O B.search table query_text tenant_id
    DEFAULT_RETRIEVER_K
  else []

/-- The candidates the reranker is given. -/
def diversify (B : Backing V T K) (dense sparse : List (Candidate K)) (on : Switches) :
    List (Candidate K) :=
  let fused :=
    if on.hybrid_on then rrf_fuse dense sparse K_CONST 1 1 DEFAULT_FUSED_K
    else dense.take DEFAULT_FUSED_K
  if on.mmr_on then mmr_pick B.encode fused DEFAULT_MMR_K MMR_LAMBDA
  else fused.take DEFAULT_MMR_K.toNat

/-- The context of a call, best first, and whether the rerank timed out. -/
def rerankStage (B : Backing V T K) (query_text : String) (diversified : List (Candidate K))
    (on : Switches) : Except RerankError (List (Candidate K) × Bool) :=
  if on.rerank_on then
    rerank_candidates B.rerankers query_text diversified DEFAULT_RERANK_TOP_K
  else .ok (diversified.take DEFAULT_RERANK_TOP_K, false)

/-- **`retrieve_and_generate`** past a cache miss, up to the store. -/
def generate (O : Operators) (B : Backing V T K) (table : DocChunks V T) (query_vec : V)
    (query_text tenant_id model_name : String) (metadata_filter : Option Json.Fields)
    (on : Switches) : Except RerankError (Generation K) :=
  let dense := denseOf O B table query_vec tenant_id metadata_filter on
  let sparse := sparseOf O B table query_text tenant_id on
  (rerankStage B query_text (diversify B dense sparse on) on).map fun reranked =>
    let passages := reranked.1.map Candidate.chunk_text
    let prompt := build_prompt query_text passages
    { passages := passages
      prompt := prompt
      answer :=
        { text := B.create model_name prompt
          citations := reranked.1.map fun c => ⟨c.chunk_id, c.chunk_text, c.score, tenant_id⟩
          rerank_timed_out := reranked.2
          coverage := coverage dense sparse } }

/-! ## Where a citation comes from -/

section Provenance

variable {O : Operators} {B : Backing V T K} {table : DocChunks V T} {query_vec : V}
  {query_text tenant_id model_name : String} {metadata_filter : Option Json.Fields}
  {on : Switches} {dense sparse : List (Candidate K)} {c : Candidate K}

theorem exists_of_mem_diversify (h : c ∈ diversify B dense sparse on) :
    ∃ d, (d ∈ dense ∨ on.hybrid_on ∧ d ∈ sparse) ∧ d.passage = c.passage := by
  -- both ways of diversifying choose among the fused candidates
  have hfused : c ∈ if on.hybrid_on then rrf_fuse dense sparse K_CONST 1 1 DEFAULT_FUSED_K
      else dense.take DEFAULT_FUSED_K := by
    unfold diversify at h
    dsimp only at h
    split at h
    · exact mem_of_mem_mmr_pick h
    · exact List.mem_of_mem_take h
  split at hfused
  · next hon =>
    obtain ⟨d, hd, hp⟩ := exists_of_mem_rrf_fuse hfused
    exact ⟨d, (List.mem_append.mp hd).imp_right fun hd => ⟨hon, hd⟩, hp⟩
  · exact ⟨c, .inl (List.mem_of_mem_take hfused), rfl⟩

theorem exists_of_mem_rerankStage {diversified : List (Candidate K)}
    {reranked : List (Candidate K) × Bool}
    (hreranked : rerankStage B query_text diversified on = .ok reranked) (h : c ∈ reranked.1) :
    ∃ d ∈ diversified, d.passage = c.passage := by
  unfold rerankStage at hreranked
  split at hreranked
  · exact exists_of_mem_rerank hreranked h
  · cases hreranked
    exact ⟨c, List.mem_of_mem_take h, rfl⟩

/-- **A chunk of the tenant whose metadata contains the filter** has this id and this text. -/
def Vouched (O : Operators) (table : DocChunks V T) (tenant_id : String) (filter : Json.Fields)
    (chunk_id chunk_text : String) : Prop :=
  ∃ key chunk, table.get? key = some chunk ∧ chunk.tenant_id = tenant_id
    ∧ O.contains chunk.chunk_metadata (jsonb filter) ∧ chunk_id = CHUNK_ID_EXPR key
    ∧ chunk_text = chunk.chunk_text

/-- **The filter is honoured** by the citations and by the passages of the prompt. -/
structure FilterHonoured (O : Operators) (table : DocChunks V T) (tenant_id : String)
    (filter : Json.Fields) (g : Generation K) : Prop where
  citations : ∀ citation ∈ g.answer.citations,
    Vouched O table tenant_id filter citation.chunk_id citation.chunk_text
  passages : ∀ passage ∈ g.passages,
    ∃ chunk_id, Vouched O table tenant_id filter chunk_id passage

/-- What the rerank stage hands on is cited, in its order. -/
theorem exists_generate_of_rerankStage (model_name : String)
    {reranked : List (Candidate K) × Bool}
    (h : rerankStage B query_text (diversify B
      (denseOf O B table query_vec tenant_id metadata_filter on)
      (sparseOf O B table query_text tenant_id on) on) on = .ok reranked) :
    ∃ g, generate O B table query_vec query_text tenant_id model_name metadata_filter on = .ok g
      ∧ g.answer.citations = reranked.1.map fun c =>
        ⟨c.chunk_id, c.chunk_text, c.score, tenant_id⟩ := by
  unfold generate
  dsimp only
  rw [h]
  exact ⟨_, rfl, rfl⟩

/-- **A citation comes from a retriever**: the dense one, or the sparse one if it is on. -/
theorem exists_of_generate {g : Generation K}
    (h : generate O B table query_vec query_text tenant_id model_name metadata_filter on = .ok g) :
    ∃ context : List (Candidate K), g.passages = context.map Candidate.chunk_text
      ∧ g.answer.citations = context.map (fun c => ⟨c.chunk_id, c.chunk_text, c.score, tenant_id⟩)
      ∧ ∀ c ∈ context, ∃ d, (d ∈ denseOf O B table query_vec tenant_id metadata_filter on
        ∨ on.hybrid_on ∧ d ∈ sparseOf O B table query_text tenant_id on)
          ∧ d.passage = c.passage := by
  unfold generate at h
  dsimp only at h
  cases hreranked : rerankStage B query_text (diversify B
      (denseOf O B table query_vec tenant_id metadata_filter on)
      (sparseOf O B table query_text tenant_id on) on) on with
  | error e => rw [hreranked] at h; cases h
  | ok reranked =>
    rw [hreranked] at h
    cases h
    refine ⟨reranked.1, rfl, rfl, fun c hc => ?_⟩
    obtain ⟨d, hd, hp⟩ := exists_of_mem_rerankStage hreranked hc
    obtain ⟨e, he, hp'⟩ := exists_of_mem_diversify hd
    exact ⟨e, he, hp'.trans hp⟩

/-! ## The filter -/

omit [Field K] in
/-- What the filtered retriever finds is vouched for. -/
theorem vouched_of_mem_denseOf {filter : Json.Fields} (hon : on.filter_on = true)
    (h : c ∈ denseOf O B table query_vec tenant_id (some filter) on) :
    Vouched O table tenant_id filter c.chunk_id c.chunk_text := by
  obtain ⟨key, chunk, hget, htenant, -, hfilter, hid, htext⟩ := mem_dense h
  exact ⟨key, chunk, hget, htenant, hfilter filter (by rw [hon]; rfl), hid, htext⟩

/-- **A generation honours the filter** if the chunks that match are vouched for, or not asked. -/
theorem filterHonoured_of_vouched {filter : Json.Fields} (hon : on.filter_on = true)
    (hvouched : on.hybrid_on = true → ∀ key chunk,
      Matching O table tenant_id query_text key chunk →
      Vouched O table tenant_id filter (CHUNK_ID_EXPR key) chunk.chunk_text)
    {g : Generation K} (h : generate O B table query_vec query_text tenant_id model_name
      (some filter) on = .ok g) : FilterHonoured O table tenant_id filter g := by
  obtain ⟨context, hpassages, hcitations, hcontext⟩ := exists_of_generate h
  have hall : ∀ c ∈ context, Vouched O table tenant_id filter c.chunk_id c.chunk_text := by
    intro c hc
    obtain ⟨d, hd, hp⟩ := hcontext c hc
    obtain ⟨hid, htext⟩ := Prod.mk.inj hp
    rw [← hid, ← htext]
    rcases hd with hd | ⟨hhybrid, hd⟩
    · exact vouched_of_mem_denseOf hon hd
    · rw [sparseOf, if_pos hhybrid] at hd
      obtain ⟨key, chunk, hmatch, hshows⟩ := mem_sparse hd
      rw [hshows.1, hshows.2]
      exact hvouched hhybrid key chunk hmatch
  constructor
  · rw [hcitations]
    exact List.forall_mem_map.mpr hall
  · rw [hpassages]
    exact List.forall_mem_map.mpr fun c hc => ⟨c.chunk_id, hall c hc⟩

/-- An encoder to which the candidate at one place is the most relevant of any list. -/
def favouring (i : ℕ) : List String → Similarities K := fun _ =>
  ⟨fun j => if j = i then max 0 1 else min 0 1, fun _ _ => 0⟩

/-- **A chunk that matches is cited by some call** that diversifies and does not rerank. -/
theorem exists_generate_cites (query_vec : V) (model_name : String)
    (metadata_filter : Option Json.Fields) {key : Key} {chunk : DocChunk V T}
    (hmatch : Matching O table tenant_id query_text key chunk) :
    ∃ (B : Backing V T K) (g : Generation K), generate O B table query_vec query_text tenant_id
        model_name metadata_filter ⟨true, true, false, true⟩ = .ok g
      ∧ ∃ citation ∈ g.answer.citations, citation.chunk_id = CHUNK_ID_EXPR key
        ∧ citation.chunk_text = chunk.chunk_text := by
  obtain ⟨c, hc, hid, htext⟩ := exists_fused_shows (K := K) query_vec metadata_filter hmatch
  obtain ⟨i, hi⟩ := List.getElem?_of_mem hc
  let B : Backing V T K := ⟨Search.first [key], favouring i,
    ⟨none, none, fun _ => [], 0, fun _ _ _ => .ok none⟩, fun _ _ => ""⟩
  obtain ⟨rest, hrest⟩ := mmr_pick_head (favouring i) (MMR_LAMBDA : K) (k := DEFAULT_MMR_K) hi
    (by decide) fun j hj => by simp [favouring, hj]
  have hcontext : c ∈ (mmr_pick (favouring i) (retrieve O (Search.first [key] : Search V T K) table
      query_vec query_text tenant_id metadata_filter).fused DEFAULT_MMR_K MMR_LAMBDA).take
        DEFAULT_RERANK_TOP_K := by
    rw [← hrest]
    exact List.mem_cons_self
  have hrerank : rerankStage B query_text (diversify B
      (denseOf O B table query_vec tenant_id metadata_filter ⟨true, true, false, true⟩)
      (sparseOf O B table query_text tenant_id ⟨true, true, false, true⟩)
      ⟨true, true, false, true⟩) ⟨true, true, false, true⟩ = .ok (_, false) := rfl
  obtain ⟨g, hg, hcitations⟩ := exists_generate_of_rerankStage model_name hrerank
  exact ⟨B, g, hg, _, hcitations ▸ List.mem_map_of_mem hcontext, hid, htext⟩

/-- **The metadata filter is honoured** by every generation with one setting of the hybrid stage,
however rows rank and whatever the other stages do, exactly if that stage is off or every chunk that
matches the query is vouched for by one that contains the filter. -/
theorem filter_honoured_iff (O : Operators) (table : DocChunks V T) (query_vec : V)
    (query_text tenant_id model_name : String) (filter : Json.Fields) (hybrid_on : Bool) :
    (∀ (B : Backing V T K) (mmr_on rerank_on : Bool) (g : Generation K),
      generate O B table query_vec query_text tenant_id model_name (some filter)
        ⟨hybrid_on, mmr_on, rerank_on, true⟩ = .ok g → FilterHonoured O table tenant_id filter g)
    ↔ hybrid_on = false ∨ ∀ key chunk, Matching O table tenant_id query_text key chunk →
      Vouched O table tenant_id filter (CHUNK_ID_EXPR key) chunk.chunk_text := by
  constructor
  · intro h
    cases hybrid_on with
    | false => exact .inl rfl
    | true =>
      refine .inr fun key chunk hmatch => ?_
      obtain ⟨B, g, hg, citation, hcitation, hid, htext⟩ :=
        exists_generate_cites (K := K) query_vec model_name (some filter) hmatch
      rw [← hid, ← htext]
      exact (h B true false g hg).citations citation hcitation
  · rintro h B mmr_on rerank_on g hg
    refine filterHonoured_of_vouched rfl (fun hhybrid => h.resolve_left ?_) hg
    rw [show hybrid_on = true from hhybrid]
    exact Bool.noConfusion

end Provenance

/-! ## Two jurisdictions -/

/-- A row of a tenant's, filed under a jurisdiction. -/
def stateRow (chunk_text jurisdiction : String) : DocChunk Unit ℕ :=
  ⟨chunk_text, (), "tenant-a", 0, .obj [("jurisdiction", .str jurisdiction)], none⟩

/-- A chunk of each. -/
def stateRows : Dict Key (DocChunk Unit ℕ) :=
  [(⟨"ca-540", 0, "all-MiniLM-L6-v2"⟩, stateRow "California taxable income." "CA"),
    (⟨"ny-it201", 0, "all-MiniLM-L6-v2"⟩, stateRow "New York taxable income." "NY")]

theorem nodup_stateRows : stateRows.Nodup := by
  simp [Dict.Nodup, stateRows]

def stateTable : DocChunks Unit ℕ := ⟨stateRows, nodup_stateRows⟩

/-- Operators to which every text matches every query; containment compares the texts of fields. -/
def stateOperators : Operators where
  matchesQuery _ _ := true
  contains
    | .obj fields, .obj filter => filter.all fun f =>
      match Dict.get? fields f.1, f.2 with
      | some (.str a), .str b => a = b
      | _, _ => false
    | _, _ => false

/-- A backing whose search reads the rows as they lie. -/
def stateBacking : Backing Unit ℕ ℚ :=
  ⟨docsSearch, fun _ => ⟨fun _ => 0, fun _ _ => 0⟩, ⟨none, none, fun _ => [], 0,
    fun _ _ _ => .ok none⟩, fun _ _ => "An answer."⟩

/-- **A call filtered to one jurisdiction cites the other**: the sparse retriever finds its chunk,
and no chunk that contains the filter has its text. -/
theorem other_jurisdiction_cited :
    ∃ g citation, generate stateOperators stateBacking stateTable () "taxable income" "tenant-a"
        "claude-sonnet-4-5" (some [("jurisdiction", .str "CA")]) ⟨true, false, false, true⟩ = .ok g
      ∧ citation ∈ g.answer.citations ∧ citation.chunk_text = "New York taxable income."
      ∧ ¬ Vouched stateOperators stateTable "tenant-a" [("jurisdiction", .str "CA")]
        citation.chunk_id citation.chunk_text := by
  refine ⟨_, ⟨"chunk-ny-it201-p0", "New York taxable income.", 1 / 62, "tenant-a"⟩, rfl, ?_, rfl,
    ?_⟩
  · decide +kernel
  · rintro ⟨key, chunk, hget, -, hfilter, -, htext⟩
    have hmem : (key, chunk) ∈ stateRows := (Dict.mem_iff nodup_stateRows).mpr hget
    simp only [stateRows, List.mem_cons, Prod.mk.injEq, List.not_mem_nil, or_false] at hmem
    rcases hmem with ⟨-, rfl⟩ | ⟨-, rfl⟩
    · exact absurd htext (by decide)
    · simp [stateOperators, stateRow, jsonb, Json.canon, Json.canonFields,
        Dict.get?_cons] at hfilter

end Rag
