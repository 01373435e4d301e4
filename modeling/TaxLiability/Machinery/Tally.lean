import Mathlib.Algebra.BigOperators.Group.List.Basic
import Mathlib.Data.List.Dedup
import Mathlib.Data.List.Induction
import TaxLiability.Machinery.Dict

/-!
# Machinery/Tally — dictionaries that add up, and dictionaries that keep what they have

Entries tallied into a dictionary add to what their key holds (`sumAt_tally`); entries set as
defaults are kept out by what is there (`get?_setdefaults`).
-/

namespace Dict

variable {κ β : Type*} [DecidableEq κ]

/-! ## Sums -/

section Sum

variable [AddCommMonoid β]

/-- What a key holds, nothing counting as zero. -/
def sumAt (d : Dict κ β) (k : κ) : β := (d.get? k).getD 0

/-- **Add up**: each entry's value is added to what its key holds. -/
def tally (d e : Dict κ β) : Dict κ β := e.foldl (fun d f => d.set f.1 (d.sumAt f.1 + f.2)) d

/-- The values of the entries of a key, in their order. -/
def valuesAt (e : Dict κ β) (k : κ) : List β := (e.filter fun f => f.1 = k).map Prod.snd

omit [AddCommMonoid β] in
theorem length_valuesAt (e : Dict κ β) (k : κ) :
    (e.valuesAt k).length = (e.map Prod.fst).count k := by
  rw [valuesAt, List.length_map, List.count, List.countP_map, List.countP_eq_length_filter]
  exact congrArg List.length (List.filter_congr fun f _ => (beq_eq_decide _ _).symm)

/-- **A key holds the sum** of what it held and of the entries tallied into it. -/
theorem sumAt_tally (d e : Dict κ β) (k : κ) :
    (tally d e).sumAt k = d.sumAt k + (e.valuesAt k).sum := by
  induction e generalizing d with
  | nil => simp [tally, valuesAt]
  | cons f e ih =>
    rw [tally, List.foldl_cons, ← tally, ih]
    by_cases hk : f.1 = k
    · subst hk
      simp [sumAt, valuesAt, get?_set, add_assoc]
    · simp [sumAt, valuesAt, get?_set, hk]

theorem mem_keys_tally {d e : Dict κ β} {k : κ} :
    k ∈ (tally d e).map Prod.fst ↔ k ∈ d.map Prod.fst ∨ k ∈ e.map Prod.fst := by
  induction e generalizing d with
  | nil => simp [tally]
  | cons f e ih =>
    rw [tally, List.foldl_cons, ← tally, ih, mem_keys_set, List.map_cons, List.mem_cons]
    tauto

theorem Nodup.tally {d : Dict κ β} (h : Nodup d) (e : Dict κ β) : Nodup (tally d e) := by
  induction e generalizing d with
  | nil => exact h
  | cons f e ih => exact ih (h.set f.1 _)

end Sum

theorem length_set_le (d : Dict κ β) (k : κ) (v : β) : (d.set k v).length ≤ d.length + 1 := by
  induction d with
  | nil => simp [set]
  | cons f d ih =>
    unfold set
    split
    · simp
    · simpa using ih

theorem length_tally_le [AddCommMonoid β] (d e : Dict κ β) :
    (tally d e).length ≤ d.length + e.length := by
  induction e generalizing d with
  | nil => exact Nat.le_refl _
  | cons f e ih =>
    have hset := length_set_le d f.1 (d.sumAt f.1 + f.2)
    have hrest := ih (d.set f.1 (d.sumAt f.1 + f.2))
    rw [tally, List.foldl_cons, ← tally, List.length_cons]
    omega

/-- What a key reads is an entry. -/
theorem mem_of_get?_eq_some {d : Dict κ β} {k : κ} {v : β} (h : get? d k = some v) :
    (k, v) ∈ d := by
  obtain ⟨⟨k', v'⟩, hf, rfl⟩ := Option.map_eq_some_iff.mp h
  obtain rfl : k' = k := by simpa using List.find?_some hf
  exact List.mem_of_find?_eq_some hf

/-- A key without a value is the key of no entry. -/
theorem notMem_keys_of_get? {d : Dict κ β} {k : κ} (h : get? d k = none) :
    k ∉ d.map Prod.fst := fun hk => by
  obtain ⟨f, hf, rfl⟩ := List.mem_map.mp hk
  obtain ⟨v, hv, -⟩ := exists_get?_of_mem hf
  cases h.symm.trans hv

/-! ## The order of the keys -/

/-- A key that is set stays in its place, or comes last. -/
theorem keys_set (d : Dict κ β) (k : κ) (v : β) : (d.set k v).map Prod.fst
    = if k ∈ d.map Prod.fst then d.map Prod.fst else d.map Prod.fst ++ [k] := by
  induction d with
  | nil => rfl
  | cons f d ih =>
    unfold set
    by_cases hf : f.1 = k
    · simp [hf]
    · have hne : k ≠ f.1 := fun h => hf h.symm
      simp only [if_neg hf, List.map_cons, ih, List.mem_cons, hne, false_or, List.cons_append]
      split_ifs <;> rfl

section Order

variable [AddCommMonoid β]

theorem tally_append (d e e' : Dict κ β) : tally d (e ++ e') = tally (tally d e) e' :=
  List.foldl_append

/-- **Keys stand in the order in which they first appear.** -/
theorem pairwise_keys_tally (e : Dict κ β) : ((tally [] e).map Prod.fst).Pairwise fun k k' =>
    (e.map Prod.fst).idxOf k < (e.map Prod.fst).idxOf k' := by
  induction e using List.reverseRecOn with
  | nil => exact List.Pairwise.nil
  | append_singleton e f ih =>
    have hmem : ∀ {k : κ}, k ∈ (tally [] e).map Prod.fst → k ∈ e.map Prod.fst := fun hk =>
      (mem_keys_tally.mp hk).resolve_left List.not_mem_nil
    have hold : ((tally [] e).map Prod.fst).Pairwise fun k k' =>
        (e.map Prod.fst ++ [f.1]).idxOf k < (e.map Prod.fst ++ [f.1]).idxOf k' := by
      refine ih.imp_of_mem fun {k k'} hk hk' hlt => ?_
      rwa [List.idxOf_append_of_mem (hmem hk), List.idxOf_append_of_mem (hmem hk')]
    have hset : (tally [] (e ++ [f])).map Prod.fst = if f.1 ∈ (tally [] e).map Prod.fst
        then (tally [] e).map Prod.fst else (tally [] e).map Prod.fst ++ [f.1] := by
      rw [tally_append]
      exact keys_set _ _ _
    rw [hset, List.map_append, List.map_singleton]
    split_ifs with hf
    · exact hold
    · refine List.pairwise_append.mpr ⟨hold, List.pairwise_singleton _ _, fun k hk k' hk' => ?_⟩
      obtain rfl := List.mem_singleton.mp hk'
      have hnew : f.1 ∉ e.map Prod.fst := fun h => hf (mem_keys_tally.mpr (.inr h))
      rw [List.idxOf_append_of_mem (hmem hk), List.idxOf_append_of_notMem hnew]
      have hlt := List.idxOf_lt_length_of_mem (hmem hk)
      omega

/-- Each key stands once. -/
theorem length_tally (e : Dict κ β) : (tally [] e).length = (e.map Prod.fst).dedup.length := by
  have hperm : ((tally [] e).map Prod.fst).Perm (e.map Prod.fst).dedup :=
    (List.perm_ext_iff_of_nodup (nodup_nil.tally e) (List.nodup_dedup _)).mpr fun k => by
      rw [mem_keys_tally, List.mem_dedup]
      exact or_iff_right List.not_mem_nil
  rw [← hperm.length_eq, List.length_map]

end Order

/-! ## Defaults -/

/-- **Set as defaults**: an entry is set unless its key has a value. -/
def setdefaults (d e : Dict κ β) : Dict κ β :=
  e.foldl (fun d f => if (d.get? f.1).isSome then d else d.set f.1 f.2) d

/-- **A key holds what it held**, and else its first default. -/
theorem get?_setdefaults (d e : Dict κ β) (k : κ) :
    get? (setdefaults d e) k = (get? d k).or (get? e k) := by
  induction e generalizing d with
  | nil => simp [setdefaults]
  | cons f e ih =>
    rw [setdefaults, List.foldl_cons, ← setdefaults, ih, get?_cons]
    by_cases hk : f.1 = k
    · subst hk
      cases hd : get? d f.1 <;> simp [hd, get?_set]
    · split <;> simp [hk, get?_set]

end Dict
