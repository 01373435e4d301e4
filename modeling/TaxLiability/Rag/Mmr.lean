import Mathlib.Order.WithBot
import Mathlib.Tactic.Ring
import TaxLiability.Machinery.StableSort
import TaxLiability.Rag.Rerank

/-!
# Rag/Mmr — the choice that diversification makes, round by round

    remaining ──scan──▸ best index ──┬──▸ picked ++ [i]
                                     └──▸ remaining − i ──▸ the next round

The scan starts at `-1` with no score and takes only what is strictly better, so it never ends at
the sentinel, and of equals the earliest wins (`scan_eq`).  What is picked is greedy
(`greedy_mmrLoop`), and with `lambda = 1` it is the head of a sort (`mmrLoop_one`).
-/

open StableSort

namespace Rag

variable {K : Type} [LinearOrder K]

/-! ## A round -/

/-- **The scan of a round**: the index and the score of the best so far, `-1` and `-∞` before any is
met. -/
def scan (score : ℕ → K) : ℤ × WithBot K → List ℕ → ℤ × WithBot K
  | best, [] => best
  | best, i :: remaining =>
    scan score (if best.2 < (score i : WithBot K) then ((i : ℤ), (score i : WithBot K)) else best)
      remaining

/-- **A scan ends at the first of the best**, if that is better than where it started. -/
theorem scan_eq (score : ℕ → K) (best : ℤ × WithBot K) (remaining : List ℕ) :
    scan score best remaining = match remaining.argmax score with
      | none => best
      | some i => if best.2 < (score i : WithBot K) then ((i : ℤ), (score i : WithBot K))
        else best := by
  induction remaining generalizing best with
  | nil => rfl
  | cons a remaining ih =>
    rw [scan, ih, List.argmax_cons]
    cases remaining.argmax score with
    | none => rfl
    | some c =>
      by_cases hac : score a < score c
      · have hac' : (score a : WithBot K) < score c := WithBot.coe_lt_coe.mpr hac
        by_cases hbest : best.2 < (score a : WithBot K)
        · simp only [hac, hbest, if_true, hac', hbest.trans hac']
        · simp only [hac, hbest, if_true, if_false]
      · have hca : ¬ (score a : WithBot K) < score c := fun h => hac (WithBot.coe_lt_coe.mp h)
        by_cases hbest : best.2 < (score a : WithBot K)
        · simp only [hac, hbest, if_true, if_false, hca]
        · have hbest' : ¬ best.2 < (score c : WithBot K) := fun h =>
            hbest (h.trans_le (not_lt.mp hca))
          simp only [hac, hbest, hbest', if_false]

/-- From the sentinel a scan ends at the first of the best. -/
theorem scan_sentinel {score : ℕ → K} {remaining : List ℕ} {i : ℕ}
    (h : remaining.argmax score = some i) : (scan score (-1, ⊥) remaining).1 = i := by
  rw [scan_eq, h]
  exact congrArg Prod.fst (if_pos (WithBot.bot_lt_coe _))

variable [Field K]

/-- **The loop of `mmr_pick`** as it is written, `none` where it is out of fuel or `list.remove`
raises. -/
def mmrWhile (S : Similarities K) (lambda_param : K) (k : ℤ) :
    ℕ → List ℕ → List ℕ → Option (List ℕ)
  | 0, _, _ => none
  | fuel + 1, picked, remaining =>
    if remaining ≠ [] ∧ (picked.length : ℤ) < k then
      let best_idx := (scan (mmrScore S lambda_param picked) (-1, ⊥) remaining).1
      if 0 ≤ best_idx ∧ best_idx.toNat ∈ remaining then
        mmrWhile S lambda_param k fuel (picked ++ [best_idx.toNat])
          (remaining.erase best_idx.toNat)
      else none
    else some picked

section Loop

variable {S : Similarities K} {lambda_param : K} {k : ℤ} {n : ℕ}

/-- **The loop ends**, and never at the sentinel. -/
theorem mmrWhile_eq {fuel : ℕ} (picked : List ℕ) {remaining : List ℕ}
    (h : remaining.length < fuel) : mmrWhile S lambda_param k fuel picked remaining
      = some (mmrLoop S lambda_param k remaining.length picked remaining) := by
  induction fuel generalizing picked remaining with
  | zero => exact absurd h (Nat.not_lt_zero _)
  | succ fuel ih =>
    rw [mmrWhile]
    cases hargmax : remaining.argmax (mmrScore S lambda_param picked) with
    | none =>
      obtain rfl := List.argmax_eq_none.mp hargmax
      exact if_neg fun h => h.1 rfl
    | some i =>
      have hi := List.argmax_mem (Option.mem_def.mpr hargmax)
      have hlength := List.length_erase_of_mem hi
      have hpos := List.length_pos_of_mem hi
      obtain ⟨m, hm⟩ : ∃ m, remaining.length = m + 1 := ⟨_, (Nat.succ_pred hpos.ne').symm⟩
      have hloop := @ih (picked ++ [i]) (remaining.erase i) (by omega)
      rw [hlength, hm] at hloop
      simp only [scan_sentinel hargmax, Int.toNat_natCast, Int.natCast_nonneg, true_and, hi,
        if_true, List.ne_nil_of_mem hi, ne_eq, not_false_eq_true, hm, mmrLoop, hargmax]
      split_ifs
      · exact hloop
      · rfl

theorem length_mmrLoop {rounds : ℕ} (picked : List ℕ) {remaining : List ℕ}
    (h : remaining.length ≤ rounds) : (mmrLoop S lambda_param k rounds picked remaining).length
      = picked.length + min (k - picked.length).toNat remaining.length := by
  induction rounds generalizing picked remaining with
  | zero =>
    rw [mmrLoop]
    omega
  | succ rounds ih =>
    rw [mmrLoop]
    split_ifs with hk
    · cases hargmax : remaining.argmax (mmrScore S lambda_param picked) with
      | none =>
        obtain rfl := List.argmax_eq_none.mp hargmax
        simp
      | some i =>
        have hi := List.argmax_mem (Option.mem_def.mpr hargmax)
        have hlength := List.length_erase_of_mem hi
        have hpos := List.length_pos_of_mem hi
        have hloop := @ih (picked ++ [i]) (remaining.erase i) (by omega)
        rw [List.length_append, List.length_singleton] at hloop
        dsimp only
        omega
    · omega

/-! ## Greed -/

/-- **The first of the best** among the positions that are left. -/
def FirstBest (score : ℕ → K) (left : ℕ → Prop) (i : ℕ) : Prop :=
  left i ∧ ∀ j, left j → score j ≤ score i ∧ (score i ≤ score j → i ≤ j)

/-- **A greedy choice** of positions below `n`: each is the first of the best that are left. -/
inductive Greedy (S : Similarities K) (lambda_param : K) (n : ℕ) : List ℕ → Prop
  | nil : Greedy S lambda_param n []
  | pick {picked : List ℕ} {i : ℕ} : Greedy S lambda_param n picked →
    FirstBest (mmrScore S lambda_param picked) (fun j => j < n ∧ j ∉ picked) i →
    Greedy S lambda_param n (picked ++ [i])

omit [Field K] in
/-- In ascending order the first of the best is the least. -/
theorem firstBest_of_argmax {score : ℕ → K} {l : List ℕ} (hl : l.Pairwise (· < ·)) {i : ℕ}
    (h : l.argmax score = some i) : FirstBest score (· ∈ l) i := by
  refine ⟨List.argmax_mem (Option.mem_def.mpr h), fun j hj =>
    ⟨List.le_of_mem_argmax hj h, fun hle => ?_⟩⟩
  have hi := List.argmax_mem (Option.mem_def.mpr h)
  have hidx := List.index_of_argmax (Option.mem_def.mpr h) hj hle
  rcases hidx.lt_or_eq with hlt | heq
  · have hget := List.pairwise_iff_getElem.mp hl _ _ (List.idxOf_lt_length_of_mem hi)
      (List.idxOf_lt_length_of_mem hj) hlt
    rw [List.getElem_idxOf, List.getElem_idxOf] at hget
    exact hget.le
  · exact ((List.idxOf_inj hi).mp heq).le

/-- What is left of `n` positions. -/
def left (n : ℕ) (picked : List ℕ) : List ℕ := (List.range n).filter (· ∉ picked)

theorem mem_left {picked : List ℕ} {j : ℕ} : j ∈ left n picked ↔ j < n ∧ j ∉ picked := by
  simp [left]

theorem pairwise_left (n : ℕ) (picked : List ℕ) : (left n picked).Pairwise (· < ·) :=
  List.pairwise_lt_range.filter _

theorem left_erase (picked : List ℕ) (i : ℕ) :
    (left n picked).erase i = left n (picked ++ [i]) := by
  rw [left, (List.nodup_range.filter _).erase_eq_filter, List.filter_filter]
  refine List.filter_congr fun j _ => ?_
  simp only [List.mem_append, List.mem_singleton]
  by_cases hj : j = i <;> simp [hj]

/-- **A round keeps the choice greedy**, and so does the loop. -/
theorem greedy_mmrLoop (rounds : ℕ) {picked : List ℕ} (h : Greedy S lambda_param n picked) :
    Greedy S lambda_param n (mmrLoop S lambda_param k rounds picked (left n picked)) := by
  induction rounds generalizing picked with
  | zero => exact h
  | succ rounds ih =>
    rw [mmrLoop]
    split_ifs
    · cases hargmax : (left n picked).argmax (mmrScore S lambda_param picked) with
      | none => exact h
      | some i =>
        have hbest := firstBest_of_argmax (pairwise_left n picked) hargmax
        simp only [mem_left] at hbest
        dsimp only
        rw [left_erase]
        exact ih (h.pick hbest)
    · exact h

theorem Greedy.nodup {picked : List ℕ} (h : Greedy S lambda_param n picked) : picked.Nodup := by
  induction h with
  | nil => exact List.nodup_nil
  | pick _ hbest ih =>
    refine List.nodup_append.mpr ⟨ih, List.nodup_singleton _, fun j hj j' hj' hjj' => ?_⟩
    obtain rfl := List.mem_singleton.mp hj'
    exact hbest.1.2 (hjj' ▸ hj)

theorem Greedy.lt {picked : List ℕ} (h : Greedy S lambda_param n picked) :
    ∀ i ∈ picked, i < n := by
  induction h with
  | nil => exact fun i hi => absurd hi List.not_mem_nil
  | pick _ hbest ih =>
    intro j hj
    rcases List.mem_append.mp hj with hj | hj
    · exact ih j hj
    · obtain rfl := List.mem_singleton.mp hj
      exact hbest.1.1

/-! ## Relevance alone -/

theorem mmrScore_one (S : Similarities K) (picked : List ℕ) : mmrScore S 1 picked = S.toQuery := by
  funext i
  cases picked with
  | nil => rfl
  | cons p picked =>
    rw [mmrScore]
    ring

/-- **With `lambda = 1` the loop sorts**: it picks the head of what remains, best first. -/
theorem mmrLoop_one {rounds : ℕ} (picked : List ℕ) {remaining : List ℕ}
    (h : remaining.length ≤ rounds) : mmrLoop S 1 k rounds picked remaining
      = picked ++ (sort S.toQuery remaining).take (k - picked.length).toNat := by
  induction rounds generalizing picked remaining with
  | zero =>
    obtain rfl := List.length_eq_zero_iff.mp (Nat.le_zero.mp h)
    simp [mmrLoop]
  | succ rounds ih =>
    rw [mmrLoop]
    split_ifs with hk
    · rw [mmrScore_one, argmax_eq_head?]
      cases hsort : sort S.toQuery remaining with
      | nil => simp
      | cons c t =>
        have hc : c ∈ remaining :=
          (List.mem_insertionSort _).mp (hsort ▸ List.mem_cons_self : c ∈ _)
        have hlength := List.length_erase_of_mem hc
        have htoNat : (k - picked.length).toNat = (k - (picked ++ [c]).length).toNat + 1 := by
          rw [List.length_append, List.length_singleton]
          omega
        simp only [List.head?_cons]
        rw [ih (picked ++ [c]) (by omega), sort_erase hsort, htoNat, List.take_succ_cons,
          List.append_assoc, List.singleton_append]
    · have htoNat : (k - picked.length).toNat = 0 := by omega
      rw [htoNat, List.take_zero, List.append_nil]

end Loop

/-! ## The law -/

variable {candidates : List (Candidate K)}

omit [LinearOrder K] [Field K] in
/-- Candidates at positions that exist, as they are. -/
theorem map_some_filterMap {picks : List ℕ} (h : ∀ i ∈ picks, i < candidates.length) :
    (picks.filterMap fun i => candidates[i]?).map some = picks.map fun i => candidates[i]? := by
  induction picks with
  | nil => rfl
  | cons i picks ih =>
    have hi := h i List.mem_cons_self
    have hget : candidates[i]? = some candidates[i] := List.getElem?_eq_getElem hi
    rw [List.filterMap_cons_some hget, List.map_cons, List.map_cons, hget,
      ih fun j hj => h j (List.mem_cons_of_mem i hj)]

/-- **`mmr_pick`**, whatever the similarities: the loop ends, with positions of the candidates that
are chosen greedily, as many as are asked for if there are so many; the candidates there are
returned as they are; and with `lambda = 1` they are the first of a stable sort. -/
theorem mmr_pick_law (encode : List String → Similarities K) (candidates : List (Candidate K))
    (k : ℤ) (lambda_param : K) :
    (∃ picks : List ℕ,
      (∀ fuel, candidates.length < fuel →
        mmrWhile (encode (candidates.map Candidate.chunk_text)) lambda_param k fuel []
          (List.range candidates.length) = some picks)
      ∧ (mmr_pick encode candidates k lambda_param).map some = picks.map (fun i => candidates[i]?)
      ∧ (mmr_pick encode candidates k lambda_param).length = min (max k 0).toNat candidates.length
      ∧ picks.Nodup ∧ (∀ i ∈ picks, i < candidates.length)
      ∧ Greedy (encode (candidates.map Candidate.chunk_text)) lambda_param candidates.length picks)
    ∧ (mmr_pick encode candidates k 1).map some
      = ((sort (encode (candidates.map Candidate.chunk_text)).toQuery
          (List.range candidates.length)).take k.toNat).map fun i => candidates[i]? := by
  have hleft : left candidates.length [] = List.range candidates.length := by
    simp [left]
  have hgreedy : ∀ lambda_param : K, Greedy (encode (candidates.map Candidate.chunk_text))
      lambda_param candidates.length (mmrLoop (encode (candidates.map Candidate.chunk_text))
        lambda_param k candidates.length [] (List.range candidates.length)) := by
    intro lambda_param
    rw [← hleft]
    exact greedy_mmrLoop _ .nil
  have hrange : (List.range candidates.length).length = candidates.length := List.length_range
  have hpicked : (mmr_pick encode candidates k lambda_param).map some = _ :=
    map_some_filterMap (hgreedy lambda_param).lt
  refine ⟨⟨_, fun fuel hfuel => ?_, hpicked, ?_, (hgreedy _).nodup, (hgreedy _).lt, hgreedy _⟩, ?_⟩
  · rw [mmrWhile_eq [] (hrange.trans_lt hfuel), hrange]
  · have hlength := congrArg List.length hpicked
    rw [List.length_map, List.length_map, length_mmrLoop [] hrange.le, hrange] at hlength
    rw [hlength, List.length_nil]
    omega
  · have hone : (mmr_pick encode candidates k 1).map some = _ := map_some_filterMap (hgreedy 1).lt
    rw [hone, mmrLoop_one [] hrange.le, List.nil_append, List.length_nil, Int.natCast_zero,
      sub_zero]

end Rag
