import Mathlib.Data.List.Nodup
import Mathlib.Tactic.Tauto

/-!
# Machinery/Dict — insertion-ordered dictionaries

A dictionary is the list of its entries in insertion order; `Nodup` says no key occurs twice.
Setting a key writes it where it stands, or at the end; merging sets the keys of one dictionary in
another.
-/

/-- A dictionary, as its entries in insertion order. -/
abbrev Dict (κ β : Type*) := List (κ × β)

namespace Dict

variable {κ β : Type*} [DecidableEq κ]

/-- The value at a key. -/
def get? (d : Dict κ β) (k : κ) : Option β := (d.find? fun f => f.1 = k).map Prod.snd

/-- **Set a key**: in place where it occurs, at the end where it does not. -/
def set (d : Dict κ β) (k : κ) (v : β) : Dict κ β :=
  match d with
  | [] => [(k, v)]
  | (k', v') :: d => if k' = k then (k, v) :: d else (k', v') :: set d k v

/-- **Merge**: the entries of the second set in the first, one after the other. -/
def merge (d e : Dict κ β) : Dict κ β := e.foldl (fun d f => set d f.1 f.2) d

omit [DecidableEq κ] in
/-- No key occurs twice. -/
def Nodup (d : Dict κ β) : Prop := (d.map Prod.fst).Nodup

@[simp] theorem get?_nil (k : κ) : get? ([] : Dict κ β) k = none := rfl

theorem get?_cons (f : κ × β) (d : Dict κ β) (k : κ) :
    get? (f :: d) k = if f.1 = k then some f.2 else get? d k := by
  unfold get?
  by_cases h : f.1 = k <;> simp [h]

/-- What setting a key does to the value at any key. -/
theorem get?_set (d : Dict κ β) (k : κ) (v : β) (k' : κ) :
    get? (set d k v) k' = if k = k' then some v else get? d k' := by
  induction d with
  | nil => simp [set, get?_cons]
  | cons f d ih =>
    unfold set
    by_cases hf : f.1 = k
    · simp only [hf, if_true, get?_cons]
      split <;> rfl
    · simp only [hf, if_false, get?_cons, ih]
      by_cases hk : f.1 = k'
      · have hne : ¬ k = k' := fun h => hf (hk.trans h.symm)
        simp [hk, hne]
      · simp [hk]

theorem mem_keys_set {d : Dict κ β} {k k' : κ} {v : β} :
    k' ∈ (set d k v).map Prod.fst ↔ k' = k ∨ k' ∈ d.map Prod.fst := by
  induction d with
  | nil => simp [set]
  | cons f d ih =>
    unfold set
    by_cases hf : f.1 = k
    · subst hf
      simp
    · simp only [hf, if_false, List.map_cons, List.mem_cons, ih]
      tauto

/-- Setting a key leaves the keys without duplicates. -/
theorem Nodup.set {d : Dict κ β} (h : Nodup d) (k : κ) (v : β) : Nodup (set d k v) := by
  induction d with
  | nil => simp [Nodup, Dict.set]
  | cons f d ih =>
    obtain ⟨hf, ht⟩ := List.nodup_cons.mp h
    unfold Dict.set
    by_cases hk : f.1 = k
    · subst hk
      simpa [Nodup] using h
    · simp only [hk, if_false]
      refine List.nodup_cons.mpr ⟨fun hm => ?_, ih ht⟩
      rcases mem_keys_set.mp hm with he | hm
      · exact hk he
      · exact hf hm

/-- Without duplicates an entry is in the dictionary exactly when its value is that of its key. -/
theorem mem_iff {d : Dict κ β} (h : Nodup d) {k : κ} {v : β} : (k, v) ∈ d ↔ get? d k = some v := by
  induction d with
  | nil => simp
  | cons f d ih =>
    obtain ⟨hf, ht⟩ := List.nodup_cons.mp h
    rw [List.mem_cons, get?_cons, ih ht]
    obtain ⟨k', v'⟩ := f
    by_cases hk : k' = k
    · subst hk
      have hnone : get? d k' ≠ some v := fun hs =>
        hf (List.mem_map.mpr ⟨(k', v), (ih ht).mpr hs, rfl⟩)
      simp [hnone, eq_comm]
    · simp [hk, Ne.symm hk]

/-- An entry after setting a key is the one set or was there before. -/
theorem mem_set {d : Dict κ β} {k : κ} {v : β} {f : κ × β} (h : f ∈ set d k v) :
    f = (k, v) ∨ f ∈ d := by
  induction d with
  | nil => simpa [set] using h
  | cons g d ih =>
    unfold set at h
    split at h
    · rcases List.mem_cons.mp h with h | h
      · exact .inl h
      · exact .inr (List.mem_cons_of_mem _ h)
    · rcases List.mem_cons.mp h with h | h
      · exact .inr (h ▸ List.mem_cons_self)
      · exact (ih h).imp_right (List.mem_cons_of_mem _)

/-- **An entry of a merge is an entry of one of the two.** -/
theorem mem_merge {d e : Dict κ β} {f : κ × β} (h : f ∈ merge d e) : f ∈ d ∨ f ∈ e := by
  induction e generalizing d with
  | nil => exact .inl h
  | cons g e ih =>
    rcases ih h with h | h
    · rcases mem_set h with rfl | h
      · exact .inr List.mem_cons_self
      · exact .inl h
    · exact .inr (List.mem_cons_of_mem _ h)

omit [DecidableEq κ] in
theorem nodup_nil : Nodup ([] : Dict κ β) := List.nodup_nil

/-- Merging leaves the keys without duplicates. -/
theorem Nodup.merge {d : Dict κ β} (h : Nodup d) (e : Dict κ β) : Nodup (merge d e) := by
  induction e generalizing d with
  | nil => exact h
  | cons f e ih => exact ih (h.set f.1 f.2)

theorem get?_append (d e : Dict κ β) (k : κ) : get? (d ++ e) k = (get? d k).or (get? e k) := by
  induction d with
  | nil => simp
  | cons f d ih =>
    rw [List.cons_append, get?_cons, get?_cons, ih]
    split <;> rfl

/-- Without duplicates the order of the entries does not matter. -/
theorem Nodup.get?_reverse {d : Dict κ β} (h : Nodup d) (k : κ) : get? d.reverse k = get? d k := by
  have hr : Nodup d.reverse := by
    rw [Nodup, List.map_reverse, List.nodup_reverse]
    exact h
  refine Option.ext fun v => ?_
  rw [← mem_iff hr, ← mem_iff h, List.mem_reverse]

/-- **The last write wins**: a merge holds at a key what its second part wrote there last, and else
what its first part holds. -/
theorem get?_merge (d e : Dict κ β) (k : κ) :
    get? (merge d e) k = (get? e.reverse k).or (get? d k) := by
  induction e generalizing d with
  | nil => rfl
  | cons f e ih =>
    rw [merge, List.foldl_cons, ← merge, ih, get?_set, List.reverse_cons, get?_append, get?_cons,
      Option.or_assoc]
    congr 1
    split <;> rfl

/-- A key that is written has a value, one that was written there. -/
theorem exists_get?_of_mem {d : Dict κ β} {f : κ × β} (h : f ∈ d) :
    ∃ v, get? d f.1 = some v ∧ (f.1, v) ∈ d := by
  induction d with
  | nil => exact absurd h List.not_mem_nil
  | cons g d ih =>
    rw [get?_cons]
    by_cases hk : g.1 = f.1
    · exact ⟨g.2, by rw [if_pos hk], by simp [← hk]⟩
    · obtain rfl | h := List.mem_cons.mp h
      · exact absurd rfl hk
      · obtain ⟨v, hv, hm⟩ := ih h
        exact ⟨v, by rw [if_neg hk, hv], List.mem_cons_of_mem _ hm⟩

/-- **Every entry is the one its key reads**, exactly if the entries of one key agree. -/
theorem forall_get?_iff {d : Dict κ β} : (∀ f ∈ d, get? d f.1 = some f.2)
    ↔ ∀ f ∈ d, ∀ g ∈ d, f.1 = g.1 → f.2 = g.2 := by
  constructor
  · intro h f hf g hg hk
    have hf' := h f hf
    rw [hk, h g hg] at hf'
    exact (Option.some.inj hf').symm
  · intro h f hf
    obtain ⟨v, hv, hm⟩ := exists_get?_of_mem hf
    rw [hv, h f hf (f.1, v) hm rfl]

end Dict
