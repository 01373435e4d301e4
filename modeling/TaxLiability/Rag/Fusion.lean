import TaxLiability.Machinery.StableSort
import TaxLiability.Rag.Hybrid

/-!
# Rag/Fusion — what fusing two ranked lists comes to

    dense   d₁ d₂ …  ──▸ w/(k+1), w/(k+2), …  ──┐
                                                ├─▸ one score an id ──▸ best first ──▸ top k
    sparse  s₁ s₂ …  ──▸ w/(k+1), w/(k+2), …  ──┘

Only ranks count: the raw scores of either list never reach the result (`rrf_fuse_law`).  Of equal
scores the id that appears first goes first, and dense ids appear before sparse ones.
-/

open StableSort

namespace Rag

variable {K : Type} [Field K]

/-! ## The law -/

/-- The ids of two lists as they appear, dense ones first. -/
def appearances (dense sparse : List (Candidate K)) : List String :=
  (dense ++ sparse).map Candidate.chunk_id

/-- **What a list says of an id**: its weight over the damped rank, for each occurrence. -/
def rankScore (w : K) (k_const : ℕ) (ranked : List (Candidate K)) (chunk_id : String) : K :=
  ((ranked.zipIdx 1).map fun f =>
    if f.1.chunk_id = chunk_id then w / ((k_const + f.2 : ℕ) : K) else 0).sum

/-- The text of an id: the last dense one, or else the first sparse one. -/
def fusedText (dense sparse : List (Candidate K)) (chunk_id : String) : Option String :=
  ((dense.reverse.find? fun c => c.chunk_id = chunk_id).or
    (sparse.find? fun c => c.chunk_id = chunk_id)).map Candidate.chunk_text

/-- An id with the score of its occurrences in both lists. -/
def fusionScore (dense sparse : List (Candidate K)) (k_const : ℕ) (w_dense w_sparse : K)
    (chunk_id : String) : K :=
  rankScore w_dense k_const dense chunk_id + rankScore w_sparse k_const sparse chunk_id

variable [LinearOrder K]

/-- **Two lists fused by rank**: as many ids as fit, each once, with its score and its text; best
first, in the order of first appearance where scores are equal; and what is left out comes after
what is not. -/
structure Fused (dense sparse : List (Candidate K)) (k_const : ℕ) (w_dense w_sparse : K)
    (top_k : ℕ) (fused : List (Candidate K)) : Prop where
  distinct : (fused.map Candidate.chunk_id).Nodup
  size : fused.length = min top_k (appearances dense sparse).dedup.length
  appears : ∀ c ∈ fused, c.chunk_id ∈ appearances dense sparse
  scored : ∀ c ∈ fused, c.score = fusionScore dense sparse k_const w_dense w_sparse c.chunk_id
  ordered : fused.Pairwise fun c d => d.score < c.score ∨ c.score = d.score
    ∧ (appearances dense sparse).idxOf c.chunk_id < (appearances dense sparse).idxOf d.chunk_id
  best : ∀ chunk_id ∈ appearances dense sparse, chunk_id ∉ fused.map Candidate.chunk_id →
    ∀ c ∈ fused, fusionScore dense sparse k_const w_dense w_sparse chunk_id ≤ c.score
  text : ∀ c ∈ fused, fusedText dense sparse c.chunk_id = some c.chunk_text
  dense_text : ∀ c ∈ fused, c.chunk_id ∈ dense.map Candidate.chunk_id →
    ∃ d ∈ dense, d.passage = c.passage

/-! ## What is fused -/

/-- What both lists contribute, in one. -/
def bothContributions (dense sparse : List (Candidate K)) (k_const : ℕ) (w_dense w_sparse : K) :
    Dict String K :=
  contributions w_dense k_const dense ++ contributions w_sparse k_const sparse

/-- The ids as they appear, each with the sum of its contributions. -/
def fusedScores (dense sparse : List (Candidate K)) (k_const : ℕ) (w_dense w_sparse : K) :
    Dict String K :=
  Dict.tally [] (bothContributions dense sparse k_const w_dense w_sparse)

section Fuse

variable {dense sparse : List (Candidate K)} {k_const : ℕ} {w_dense w_sparse : K} {top_k : ℕ}
  {c : Candidate K}

omit [LinearOrder K] in
theorem keys_bothContributions :
    (bothContributions dense sparse k_const w_dense w_sparse).map Prod.fst
      = appearances dense sparse := by
  rw [bothContributions, List.map_append, keys_contributions, keys_contributions, appearances,
    List.map_append]

omit [LinearOrder K] in
theorem nodup_fusedScores : (fusedScores dense sparse k_const w_dense w_sparse).Nodup :=
  Dict.nodup_nil.tally _

omit [LinearOrder K] in
theorem mem_keys_fusedScores {chunk_id : String} :
    chunk_id ∈ (fusedScores dense sparse k_const w_dense w_sparse).map Prod.fst
      ↔ chunk_id ∈ appearances dense sparse := by
  rw [fusedScores, Dict.mem_keys_tally, keys_bothContributions]
  exact or_iff_right List.not_mem_nil

omit [LinearOrder K] in
/-- The terms of an id are its occurrences. -/
theorem sum_terms (w : K) (ranked : List (Candidate K)) (chunk_id : String) :
    (terms w k_const ranked chunk_id).sum = rankScore w k_const ranked chunk_id := by
  have hsum : ∀ e : Dict String K, (e.valuesAt chunk_id).sum
      = (e.map fun f => if f.1 = chunk_id then f.2 else 0).sum := fun e => by
    induction e with
    | nil => rfl
    | cons f e ih =>
      rw [List.map_cons, List.sum_cons, ← ih]
      by_cases hf : f.1 = chunk_id <;> simp [Dict.valuesAt, hf]
  rw [terms, hsum, contributions, List.map_map]
  rfl

/-- **The fusion is a sort and a cut** of the ids with their scores. -/
theorem passages_rrf_fuse :
    (rrf_fuse dense sparse k_const w_dense w_sparse top_k).map (fun c => (c.chunk_id, c.score))
      = (sort Prod.snd (fusedScores dense sparse k_const w_dense w_sparse)).take top_k := by
  unfold rrf_fuse fusedScores bothContributions
  rw [Dict.tally_append, List.map_map]
  exact List.map_id _

omit [Field K] [LinearOrder K] in
theorem fusedText_eq (chunk_id : String) : fusedText dense sparse chunk_id
    = (Dict.get? (dense.map Candidate.passage).reverse chunk_id).or
      (Dict.get? (sparse.map Candidate.passage) chunk_id) := by
  have hget : ∀ l : List (Candidate K), Dict.get? (l.map Candidate.passage) chunk_id
      = (l.find? fun c => c.chunk_id = chunk_id).map Candidate.chunk_text := fun l => by
    rw [Dict.get?, List.find?_map, Option.map_map]
    rfl
  rw [fusedText, Option.map_or, ← List.map_reverse, hget, hget]

/-- What is fused is an id with its score. -/
theorem mem_scores (h : c ∈ rrf_fuse dense sparse k_const w_dense w_sparse top_k) :
    (c.chunk_id, c.score) ∈ fusedScores dense sparse k_const w_dense w_sparse := by
  have hmem := List.mem_map_of_mem (f := fun c : Candidate K => (c.chunk_id, c.score)) h
  rw [passages_rrf_fuse] at hmem
  exact (List.mem_insertionSort _).mp (List.mem_of_mem_take hmem)

omit [LinearOrder K] in
/-- **An id is scored the sum of its terms.** -/
theorem score_of_mem_scores {f : String × K}
    (h : f ∈ fusedScores dense sparse k_const w_dense w_sparse) :
    f.2 = fusionScore dense sparse k_const w_dense w_sparse f.1 := by
  have hget := (Dict.mem_iff nodup_fusedScores).mp h
  have hsum := Dict.sumAt_tally [] (bothContributions dense sparse k_const w_dense w_sparse) f.1
  have hboth : (bothContributions dense sparse k_const w_dense w_sparse).valuesAt f.1
      = terms w_dense k_const dense f.1 ++ terms w_sparse k_const sparse f.1 := by
    rw [bothContributions, Dict.valuesAt, List.filter_append, List.map_append]
    rfl
  rw [Dict.sumAt, ← fusedScores, hget, Option.getD_some, Dict.sumAt, Dict.get?_nil,
    Option.getD_none, zero_add, hboth, List.sum_append, sum_terms, sum_terms] at hsum
  exact hsum

/-- **The fused list is in order**, best first and then by first appearance. -/
theorem pairwise_rrf_fuse : (rrf_fuse dense sparse k_const w_dense w_sparse top_k).Pairwise
    fun c d => Ahead Candidate.score (fun c d => (appearances dense sparse).idxOf c.chunk_id
      < (appearances dense sparse).idxOf d.chunk_id) c d := by
  have hkeys := List.pairwise_map.mp (Dict.pairwise_keys_tally
    (bothContributions dense sparse k_const w_dense w_sparse))
  rw [keys_bothContributions] at hkeys
  have hsorted : (sort Prod.snd (fusedScores dense sparse k_const w_dense w_sparse)).Pairwise
      (Ahead Prod.snd _) := pairwise_sort hkeys
  have hsort := hsorted.sublist (List.take_sublist top_k _)
  rw [← passages_rrf_fuse] at hsort
  have hfused := List.pairwise_map.mp hsort
  exact hfused

theorem nodup_ids_rrf_fuse :
    ((rrf_fuse dense sparse k_const w_dense w_sparse top_k).map Candidate.chunk_id).Nodup := by
  have hne : ((rrf_fuse dense sparse k_const w_dense w_sparse top_k).map fun c =>
      (c.chunk_id, c.score)).Pairwise fun f g => f.1 ≠ g.1 := by
    rw [passages_rrf_fuse]
    have hperm := List.perm_insertionSort (fun f g => g.2 ≤ f.2)
      (fusedScores dense sparse k_const w_dense w_sparse)
    have hsort := (hperm.map Prod.fst).nodup_iff.mpr nodup_fusedScores
    exact (List.pairwise_map.mp hsort).sublist (List.take_sublist top_k _)
  have hids := List.pairwise_map.mp hne
  exact List.pairwise_map.mpr hids

theorem length_rrf_fuse : (rrf_fuse dense sparse k_const w_dense w_sparse top_k).length
    = min top_k (appearances dense sparse).dedup.length := by
  have hlength : ((rrf_fuse dense sparse k_const w_dense w_sparse top_k).map fun c =>
      (c.chunk_id, c.score)).length = _ := congrArg List.length passages_rrf_fuse
  rwa [List.length_map, List.length_take, List.length_insertionSort, fusedScores,
    Dict.length_tally, keys_bothContributions] at hlength

/-- **What is left out scores no higher** than what is not. -/
theorem score_le_of_notMem {chunk_id : String} (hid : chunk_id ∈ appearances dense sparse)
    (hout : chunk_id ∉ (rrf_fuse dense sparse k_const w_dense w_sparse top_k).map
      Candidate.chunk_id) (hc : c ∈ rrf_fuse dense sparse k_const w_dense w_sparse top_k) :
    fusionScore dense sparse k_const w_dense w_sparse chunk_id ≤ c.score := by
  obtain ⟨f, hf, rfl⟩ := List.mem_map.mp (mem_keys_fusedScores.mpr hid)
  have hc' := List.mem_map_of_mem (f := fun c : Candidate K => (c.chunk_id, c.score)) hc
  rw [passages_rrf_fuse] at hc'
  have hcut : f ∉ (sort Prod.snd (fusedScores dense sparse k_const w_dense w_sparse)).take
      top_k := fun h => by
    rw [← passages_rrf_fuse] at h
    obtain ⟨d, hd, rfl⟩ := List.mem_map.mp h
    exact hout (List.mem_map_of_mem hd)
  have hsorted : (sort Prod.snd (fusedScores dense sparse k_const w_dense w_sparse)).Pairwise
      (Ahead Prod.snd fun _ _ => True) :=
    pairwise_sort (List.pairwise_of_forall fun _ _ => trivial)
  have hahead := rel_of_notMem_take hsorted hc' ((List.mem_insertionSort _).mpr hf) hcut
  rw [← score_of_mem_scores hf]
  exact hahead.le

omit [Field K] [LinearOrder K] in
/-- A dense id has the text of a dense occurrence. -/
theorem exists_dense_of_fusedText {chunk_id text : String}
    (hid : chunk_id ∈ dense.map Candidate.chunk_id)
    (htext : fusedText dense sparse chunk_id = some text) :
    ∃ d ∈ dense, d.passage = (chunk_id, text) := by
  obtain ⟨d, hd, hdid⟩ := List.mem_map.mp hid
  cases hfound : dense.reverse.find? fun e => decide (e.chunk_id = chunk_id) with
  | none =>
    have hnone := List.find?_eq_none.mp hfound d (List.mem_reverse.mpr hd)
    exact absurd hdid (by simpa using hnone)
  | some e =>
    have hfoundId := List.find?_some hfound
    rw [fusedText, hfound, Option.some_or, Option.map_some] at htext
    exact ⟨e, List.mem_reverse.mp (List.mem_of_find?_eq_some hfound),
      Prod.ext (of_decide_eq_true hfoundId) (Option.some.inj htext)⟩

/-- **Raw scores do not count**: lists of the same ids and texts fuse to the same. -/
theorem rrf_fuse_congr {dense' sparse' : List (Candidate K)}
    (hdense : dense'.map Candidate.passage = dense.map Candidate.passage)
    (hsparse : sparse'.map Candidate.passage = sparse.map Candidate.passage) :
    rrf_fuse dense' sparse' k_const w_dense w_sparse top_k
      = rrf_fuse dense sparse k_const w_dense w_sparse top_k := by
  have hids : ∀ (w : K) {l l' : List (Candidate K)}, l'.map Candidate.passage
      = l.map Candidate.passage → contributions w k_const l' = contributions w k_const l := by
    intro w l l' h
    have hcontributions : ∀ l : List (Candidate K), contributions w k_const l
        = ((l.map Candidate.passage).zipIdx 1).map fun f =>
          (f.1.1, w / ((k_const + f.2 : ℕ) : K)) := fun l => by
      rw [List.zipIdx_map, List.map_map]
      rfl
    rw [hcontributions, hcontributions, h]
  unfold rrf_fuse
  rw [hdense, hsparse, hids w_dense hdense, hids w_sparse hsparse]

end Fuse

/-- **Reciprocal rank fusion**, of any two lists with any weights, whatever their raw scores. -/
theorem rrf_fuse_law (dense sparse : List (Candidate K)) (k_const : ℕ) (w_dense w_sparse : K)
    (top_k : ℕ) :
    Fused dense sparse k_const w_dense w_sparse top_k
        (rrf_fuse dense sparse k_const w_dense w_sparse top_k)
      ∧ ∀ dense' sparse' : List (Candidate K),
        dense'.map Candidate.passage = dense.map Candidate.passage →
        sparse'.map Candidate.passage = sparse.map Candidate.passage →
        rrf_fuse dense' sparse' k_const w_dense w_sparse top_k
          = rrf_fuse dense sparse k_const w_dense w_sparse top_k := by
  have htext : ∀ c ∈ rrf_fuse dense sparse k_const w_dense w_sparse top_k,
      fusedText dense sparse c.chunk_id = some c.chunk_text := fun c hc =>
    (fusedText_eq c.chunk_id).trans (text_of_mem_rrf_fuse hc)
  refine ⟨?_, fun dense' sparse' => rrf_fuse_congr⟩
  exact
    { distinct := nodup_ids_rrf_fuse
      size := length_rrf_fuse
      appears := fun c hc => mem_keys_fusedScores.mp (List.mem_map_of_mem (mem_scores hc))
      scored := fun c hc => score_of_mem_scores (mem_scores hc)
      ordered := pairwise_rrf_fuse
      best := fun chunk_id hid hout c hc => score_le_of_notMem hid hout hc
      text := htext
      dense_text := fun c hc hid => exists_dense_of_fusedText hid (htext c hc) }

end Rag
