import Mathlib.Data.List.MinMax
import TaxLiability.Machinery.Python
import TaxLiability.Rag.Hybrid

/-!
# Rag/Rerank — two stages that choose among candidates, and alter none but their scores

    fused ──mmr_pick──▸ most relevant, least redundant ──rerank──▸ best first, or as they came

Both stages only choose: whatever the similarities and the scores, what comes out shows what went in
(`mem_of_mem_mmr_pick`, `exists_of_mem_rerank`).
-/

namespace Rag

variable {K : Type} [Field K] [LinearOrder K]

/-! ## Maximal marginal relevance -/

/-- Candidates the diversification keeps. -/
def DEFAULT_MMR_K : ℤ := 20

/-- **What the encoder says of a list of candidates**, by their places in it: how similar each is to
the query, and each two to each other. -/
structure Similarities (K : Type) where
  toQuery : ℕ → K
  between : ℕ → ℕ → K

/-- The objective at one step: relevance less the redundancy with what is picked already. -/
def mmrScore (S : Similarities K) (lambda_param : K) : List ℕ → ℕ → K
  | [], i => S.toQuery i
  | p :: picked, i =>
    lambda_param * S.toQuery i
      - (1 - lambda_param) * picked.foldl (fun m q => max m (S.between q i)) (S.between p i)

/-- The loop: the best of what remains is picked, the first one of equals. -/
def mmrLoop (S : Similarities K) (lambda_param : K) (k : ℤ) : ℕ → List ℕ → List ℕ → List ℕ
  | 0, picked, _ => picked
  | rounds + 1, picked, remaining =>
    if (picked.length : ℤ) < k then
      match remaining.argmax (mmrScore S lambda_param picked) with
      | none => picked
      | some i => mmrLoop S lambda_param k rounds (picked ++ [i]) (remaining.erase i)
    else picked

/-- **`mmr_pick`.**  Each round takes one of the candidates, so there are no more rounds than
candidates. -/
def mmr_pick (encode : List String → Similarities K) (candidates : List (Candidate K)) (k : ℤ)
    (lambda_param : K) : List (Candidate K) :=
  (mmrLoop (encode (candidates.map Candidate.chunk_text)) lambda_param k candidates.length []
    (List.range candidates.length)).filterMap fun i => candidates[i]?

variable {S : Similarities K} {lambda_param : K} {encode : List String → Similarities K}
  {candidates : List (Candidate K)} {k : ℤ} {c : Candidate K}

/-- **What is picked is a candidate**, unaltered. -/
theorem mem_of_mem_mmr_pick (h : c ∈ mmr_pick encode candidates k lambda_param) :
    c ∈ candidates := by
  obtain ⟨i, -, hi⟩ := List.mem_filterMap.mp h
  exact List.mem_of_getElem? hi

/-- What is picked stays picked. -/
theorem picked_stay (rounds : ℕ) (picked remaining : List ℕ) :
    picked <+: mmrLoop S lambda_param k rounds picked remaining := by
  induction rounds generalizing picked remaining with
  | zero => exact List.prefix_refl _
  | succ rounds ih =>
    rw [mmrLoop]
    split
    · split
      · exact List.prefix_refl _
      · exact (List.prefix_append _ _).trans (ih _ _)
    · exact List.prefix_refl _

/-- **The first pick is the most relevant candidate.** -/
theorem mmr_pick_head (encode : List String → Similarities K) (lambda_param : K) {i : ℕ}
    (hi : candidates[i]? = some c) (hk : 0 < k)
    (hbest : ∀ j ≠ i, (encode (candidates.map Candidate.chunk_text)).toQuery j
      < (encode (candidates.map Candidate.chunk_text)).toQuery i) :
    [c] <+: mmr_pick encode candidates k lambda_param := by
  obtain ⟨hlt, hget⟩ := List.getElem?_eq_some_iff.mp hi
  obtain ⟨rounds, hrounds⟩ : ∃ rounds, candidates.length = rounds + 1 := ⟨_, (Nat.succ_pred
    (Nat.ne_of_gt (Nat.zero_lt_of_lt hlt))).symm⟩
  have hmem : i ∈ List.range candidates.length := List.mem_range.mpr hlt
  have hfirst : (List.range candidates.length).argmax
      (mmrScore (encode (candidates.map Candidate.chunk_text)) lambda_param []) = some i := by
    cases hj : (List.range candidates.length).argmax
        (mmrScore (encode (candidates.map Candidate.chunk_text)) lambda_param []) with
    | none =>
      rw [List.argmax_eq_none.mp hj] at hmem
      exact absurd hmem List.not_mem_nil
    | some j =>
      have hle := List.le_of_mem_argmax hmem hj
      by_cases hij : j = i
      · rw [hij]
      · exact absurd (hbest j hij) (not_lt_of_ge hle)
  have hpicked : [i] <+: mmrLoop (encode (candidates.map Candidate.chunk_text)) lambda_param k
      candidates.length [] (List.range candidates.length) := by
    rw [hrounds] at hfirst ⊢
    rw [mmrLoop, if_pos (by simpa using hk)]
    simp only [hfirst]
    exact picked_stay _ _ _
  have hone : [i].filterMap (fun i => candidates[i]?) = [c] := by
    rw [List.filterMap_cons_some hi, List.filterMap_nil]
  rw [← hone]
  exact hpicked.filterMap _

/-! ## Reranking -/

/-- Candidates the reranker returns. -/
def DEFAULT_RERANK_TOP_K : ℕ := 6

/-- The budget of a rerank, in milliseconds. -/
def RERANK_TIMEOUT_MS : ℕ := 300

/-- Characters of a passage that are scored. -/
def PASSAGE_CHAR_CAP : ℕ := 1024

/-- What a rerank can raise: a backend of no known name, a credential that is not set, or what
reading the vendor's answer raised. -/
inductive RerankError
  | valueError (name : String)
  | runtimeError
  | reading
  deriving DecidableEq, Repr

/-- **What reranking rests on**: the environment, the cross-encoder's scores and the time it took,
and the vendor's answer.  An exchange that fails softly gives no rows, and else the index and the
relevance of each row. -/
structure Rerankers (K : Type) where
  RERANKER : Option String
  COHERE_API_KEY : Option String
  predict : List (String × String) → List K
  elapsed_ms : K
  exchange : (query : String) → (documents : List String) → (top_n : ℕ) →
    Except RerankError (Option (List (ℤ × K)))

/-- The backends to choose from. -/
inductive Backend
  | bge
  | cohere
  deriving DecidableEq, Repr

/-- **`resolve_reranker`.** -/
def resolve_reranker (name : Option String) : Except RerankError Backend :=
  let raw := String.ofList (Python.lower (Python.strip (name.getD "bge").toList))
  if raw ∈ ["bge", "baai/bge-reranker-base", "bge-reranker-base"] then .ok .bge
  else if raw ∈ ["cohere", "rerank-3.5"] then .ok .cohere
  else .error (.valueError raw)

/-- A passage as it is scored. -/
def Candidate.capped (c : Candidate K) : String :=
  String.ofList (c.chunk_text.toList.take PASSAGE_CHAR_CAP)

/-- A candidate with another score. -/
def Candidate.rescored (c : Candidate K) (score : K) : Candidate K := { c with score := score }

/-- **`bge_rerank`**: the cross-encoder's order, or the order of retrieval when it took too long. -/
def bge_rerank (B : Rerankers K) (query_text : String) (candidates : List (Candidate K))
    (top_k timeout_ms : ℕ) : List (Candidate K) × Bool :=
  if candidates = [] then ([], false)
  else
    let scores := B.predict (candidates.map fun c => (query_text, c.capped))
    if (timeout_ms : K) < B.elapsed_ms then (candidates.take top_k, true)
    else
      let ranked := (candidates.zip scores).insertionSort fun f g => g.2 ≤ f.2
      ((ranked.take top_k).map fun f => f.1.rescored f.2, false)

/-- **`cohere_rerank`**: the vendor's order, or the order of retrieval when it gave none. -/
def cohere_rerank (B : Rerankers K) (query_text : String) (candidates : List (Candidate K))
    (top_k : ℕ) : Except RerankError (List (Candidate K) × Bool) :=
  if candidates = [] then .ok ([], false)
  else if B.COHERE_API_KEY.getD "" = "" then .error .runtimeError
  else
    (B.exchange query_text (candidates.map Candidate.capped) top_k).map fun rows =>
      -- a row that names a document outside the list is dropped
      let scored := (rows.getD []).filter fun f => 0 ≤ f.1 ∧ f.1 < (candidates.length : ℤ)
      if scored = [] then (candidates.take top_k, true)
      else
        (((scored.insertionSort fun f g => g.2 ≤ f.2).take top_k).filterMap fun f =>
          (candidates[f.1.toNat]?).map fun c => c.rescored f.2, false)

/-- **`rerank_candidates`**: with whichever backend the environment names. -/
def rerank_candidates (B : Rerankers K) (query_text : String) (candidates : List (Candidate K))
    (top_k : ℕ) : Except RerankError (List (Candidate K) × Bool) :=
  (resolve_reranker B.RERANKER).bind fun
    | .bge => .ok (bge_rerank B query_text candidates top_k RERANK_TIMEOUT_MS)
    | .cohere => cohere_rerank B query_text candidates top_k

section Rerank

variable {B : Rerankers K} {query_text : String} {candidates : List (Candidate K)}
  {top_k timeout_ms : ℕ} {c : Candidate K}

theorem exists_of_mem_bge_rerank
    (h : c ∈ (bge_rerank B query_text candidates top_k timeout_ms).1) :
    ∃ d ∈ candidates, d.passage = c.passage := by
  unfold bge_rerank at h
  split at h
  · exact absurd h List.not_mem_nil
  · dsimp only at h
    split at h
    · exact ⟨c, List.mem_of_mem_take h, rfl⟩
    · obtain ⟨f, hf, rfl⟩ := List.mem_map.mp h
      have hzip := (List.mem_insertionSort _).mp (List.mem_of_mem_take hf)
      exact ⟨f.1, (List.of_mem_zip hzip).1, rfl⟩

omit [Field K] in
theorem exists_of_mem_cohere_rerank {result : List (Candidate K) × Bool}
    (hresult : cohere_rerank B query_text candidates top_k = .ok result) (h : c ∈ result.1) :
    ∃ d ∈ candidates, d.passage = c.passage := by
  unfold cohere_rerank at hresult
  split at hresult
  · cases hresult
    exact absurd h List.not_mem_nil
  · split at hresult
    · cases hresult
    · cases hrows : B.exchange query_text (candidates.map Candidate.capped) top_k with
      | error e => rw [hrows] at hresult; cases hresult
      | ok rows =>
        rw [hrows] at hresult
        cases hresult
        dsimp only at h
        split at h
        · exact ⟨c, List.mem_of_mem_take h, rfl⟩
        · obtain ⟨f, -, hf⟩ := List.mem_filterMap.mp h
          obtain ⟨d, hd, rfl⟩ := Option.map_eq_some_iff.mp hf
          exact ⟨d, List.mem_of_getElem? hd, rfl⟩

/-- **What a rerank returns shows a candidate**, whichever backend ranked it. -/
theorem exists_of_mem_rerank {result : List (Candidate K) × Bool}
    (hresult : rerank_candidates B query_text candidates top_k = .ok result) (h : c ∈ result.1) :
    ∃ d ∈ candidates, d.passage = c.passage := by
  unfold rerank_candidates at hresult
  cases hbackend : resolve_reranker B.RERANKER with
  | error e => rw [hbackend] at hresult; cases hresult
  | ok backend =>
    rw [hbackend] at hresult
    cases backend with
    | bge => cases hresult; exact exists_of_mem_bge_rerank h
    | cohere => exact exists_of_mem_cohere_rerank hresult h

end Rerank

end Rag
