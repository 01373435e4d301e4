import Mathlib.Data.List.Sort
import Mathlib.Order.Defs.LinearOrder

/-!
# Machinery/Intervals — half-open intervals that cover a line once

    a ────────▸ u₁ ────────▸ u₂ ─────▸ ⋯        none at the end

Intervals each of which begins where the one before it ends, the last without an end, cover every
point from `a` on exactly once (`Chained.partitions`); and intervals that do so, put in order and
without those that are empty (`partitions_filter`), are such (`chained_of_partitions`).  Which
interval covers a point is then told by any search in any order (`find?_eq_some`), and later points
lie in later intervals (`lower_le_of_covers`).
-/

/-- **Intervals with bounds among points**, and the order of the points. -/
structure Intervals (ι X K : Type*) where
  val : X → K
  lower : ι → X
  upper : ι → Option X

namespace Intervals

variable {ι X K : Type*} [LinearOrder K] (L : Intervals ι X K)

/-- A point is from the lower bound on, and before the upper one. -/
def Covers (i : ι) (x : X) : Prop :=
  L.val (L.lower i) ≤ L.val x ∧ ∀ u ∈ L.upper i, L.val x < L.val u

instance (i : ι) (x : X) : Decidable (L.Covers i x) :=
  match h : L.upper i with
  | none => decidable_of_iff (L.val (L.lower i) ≤ L.val x) (by simp [Covers, h])
  | some u => decidable_of_iff (L.val (L.lower i) ≤ L.val x ∧ L.val x < L.val u) (by
      simp [Covers, h])

/-- An interval that is not empty. -/
def Proper (i : ι) : Prop := ∀ u ∈ L.upper i, L.val (L.lower i) < L.val u

instance (i : ι) : Decidable (L.Proper i) :=
  match h : L.upper i with
  | none => isTrue (by simp [Proper, h])
  | some u => decidable_of_iff (L.val (L.lower i) < L.val u) (by simp [Proper, h])

/-- One interval begins no later than another. -/
def Below (i j : ι) : Prop := L.val (L.lower i) ≤ L.val (L.lower j)

instance : DecidableRel L.Below := fun _ _ => inferInstanceAs (Decidable (_ ≤ _))

instance : Std.Total L.Below := ⟨fun _ _ => le_total _ _⟩

instance : IsTrans ι L.Below := ⟨fun _ _ _ => le_trans⟩

/-- **Intervals end to end** from a point on: each begins where the one before it ends, and the last
has no end. -/
def Chained : X → List ι → Prop
  | _, [] => False
  | a, i :: is => L.val (L.lower i) = L.val a ∧
    match L.upper i with
    | none => is = []
    | some u => L.val a < L.val u ∧ Chained u is

instance Chained.decidable : ∀ (a : X) (is : List ι), Decidable (L.Chained a is)
  | _, [] => inferInstanceAs (Decidable False)
  | a, i :: is =>
    have : Decidable (match L.upper i with
        | none => is = []
        | some u => L.val a < L.val u ∧ Chained L u is) :=
      match L.upper i with
      | none => inferInstanceAs (Decidable (is = []))
      | some u =>
        have := Chained.decidable u is
        inferInstanceAs (Decidable (_ ∧ _))
    inferInstanceAs (Decidable (_ ∧ _))

/-- **Every point from `a` on is covered once.** -/
def Partitions (a : X) (is : List ι) : Prop :=
  ∀ x, L.val a ≤ L.val x → (is.countP fun i => L.Covers i x) = 1

variable {L} {a x y : X} {i j : ι} {is js : List ι}

/-! ## Covered once -/

theorem Proper.covers (h : L.Proper i) : L.Covers i (L.lower i) := ⟨le_rfl, h⟩

theorem Covers.proper (h : L.Covers i x) : L.Proper i := fun u hu => h.1.trans_lt (h.2 u hu)

/-- **Of intervals that cover a point once, one does**, and no other. -/
theorem filter_eq_singleton (h : (is.countP fun i => L.Covers i x) = 1) (hi : i ∈ is)
    (hcovers : L.Covers i x) : (is.filter fun i => L.Covers i x) = [i] := by
  rw [List.countP_eq_length_filter] at h
  obtain ⟨k, hk⟩ := List.length_eq_one_iff.mp h
  have hmem : i ∈ is.filter fun i => L.Covers i x :=
    List.mem_filter.mpr ⟨hi, decide_eq_true hcovers⟩
  rw [hk, List.mem_singleton] at hmem
  rw [hk, hmem]

theorem eq_of_covers (h : (is.countP fun i => L.Covers i x) = 1) (hi : i ∈ is) (hj : j ∈ is)
    (hcovers : L.Covers i x) (hcovers' : L.Covers j x) : i = j :=
  List.singleton_injective ((filter_eq_singleton h hi hcovers).symm.trans
    (filter_eq_singleton h hj hcovers'))

/-- **The first that covers a point is the one that does.** -/
theorem find?_eq_some (h : (is.countP fun i => L.Covers i x) = 1) (hi : i ∈ is)
    (hcovers : L.Covers i x) : (is.find? fun i => L.Covers i x) = some i := by
  rw [← List.head?_filter, filter_eq_singleton h hi hcovers]
  rfl

theorem exists_covers (h : L.Partitions a is) (hx : L.val a ≤ L.val x) :
    ∃ i ∈ is, L.Covers i x := by
  have hpos : 0 < is.countP fun i => L.Covers i x := by
    rw [h x hx]
    exact Nat.one_pos
  obtain ⟨i, hi, hcovers⟩ := List.countP_pos_iff.mp hpos
  exact ⟨i, hi, of_decide_eq_true hcovers⟩

theorem partitions_perm (h : is.Perm js) : L.Partitions a is ↔ L.Partitions a js :=
  forall₂_congr fun _ _ => by rw [h.countP_eq]

/-- **Later points lie in later intervals.** -/
theorem lower_le_of_covers (h : L.Partitions a is) (ha : L.val a ≤ L.val x) (hi : i ∈ is)
    (hj : j ∈ is) (hx : L.Covers i x) (hy : L.Covers j y) (hle : L.val x ≤ L.val y) :
    L.Below i j := by
  by_contra hlt
  have hlt : L.val (L.lower j) < L.val (L.lower i) := not_le.mp hlt
  have hboth : L.Covers j x :=
    ⟨hlt.le.trans hx.1, fun u hu => hle.trans_lt (hy.2 u hu)⟩
  exact absurd hlt (not_lt.mpr (eq_of_covers (h x ha) hi hj hx hboth ▸ le_rfl))

/-! ## End to end -/

theorem countP_cons_of_covers (h : L.Covers i x) :
    ((i :: is).countP fun i => L.Covers i x) = (is.countP fun i => L.Covers i x) + 1 :=
  List.countP_cons_of_pos (decide_eq_true h)

theorem countP_cons_of_not_covers (h : ¬ L.Covers i x) :
    ((i :: is).countP fun i => L.Covers i x) = is.countP fun i => L.Covers i x :=
  List.countP_cons_of_neg (by simpa using h)

/-- Intervals end to end begin no earlier than the first. -/
theorem Chained.le_lower (h : L.Chained a is) : ∀ i ∈ is, L.val a ≤ L.val (L.lower i) := by
  induction is generalizing a with
  | nil => exact h.elim
  | cons i is ih =>
    obtain ⟨hlower, hrest⟩ := h
    refine List.forall_mem_cons.mpr ⟨hlower.ge, fun j hj => ?_⟩
    split at hrest
    · rw [hrest] at hj
      exact absurd hj List.not_mem_nil
    · exact hrest.1.le.trans (ih hrest.2 j hj)

/-- **Intervals end to end cover every point once.** -/
theorem Chained.partitions (h : L.Chained a is) : L.Partitions a is := by
  induction is generalizing a with
  | nil => exact h.elim
  | cons i is ih =>
    intro x hx
    obtain ⟨hlower, hrest⟩ := h
    cases hupper : L.upper i with
    | none =>
      rw [hupper] at hrest
      dsimp only at hrest
      have hcovers : L.Covers i x := ⟨hlower.le.trans hx, by simp [hupper]⟩
      rw [countP_cons_of_covers hcovers, hrest, List.countP_nil]
    | some u =>
      rw [hupper] at hrest
      obtain ⟨-, hchained⟩ := hrest
      by_cases hu : L.val x < L.val u
      · -- the rest begins at `u`
        have hcovers : L.Covers i x := ⟨hlower.le.trans hx, by simpa [hupper] using hu⟩
        rw [countP_cons_of_covers hcovers, List.countP_eq_zero.mpr fun j hj => ?_]
        have hj := hu.trans_le (hchained.le_lower j hj)
        simpa [Covers] using fun hle : L.val (L.lower j) ≤ L.val x => absurd hj (not_lt.mpr hle)
      · rw [countP_cons_of_not_covers fun hcovers => hu (hcovers.2 u hupper)]
        exact ih hchained x (not_lt.mp hu)

/-- **Intervals in order that cover every point once are end to end.** -/
theorem chained_of_partitions (hproper : ∀ i ∈ is, L.Proper i) (hsorted : is.Pairwise L.Below)
    (ha : ∀ i ∈ is, L.val a ≤ L.val (L.lower i)) (h : L.Partitions a is) : L.Chained a is := by
  induction is generalizing a with
  | nil => exact absurd (h a le_rfl) (by simp)
  | cons i is ih =>
    obtain ⟨hi, hrest⟩ := List.forall_mem_cons.mp hproper
    obtain ⟨hbelow, hsorted⟩ := List.pairwise_cons.mp hsorted
    obtain ⟨hai, hais⟩ := List.forall_mem_cons.mp ha
    -- the first begins at `a`, for one that begins there comes no earlier
    have hlower : L.val (L.lower i) = L.val a := by
      obtain ⟨j, hj, hcovers⟩ := exists_covers h (le_refl (L.val a))
      refine le_antisymm ?_ hai
      rcases List.mem_cons.mp hj with rfl | hj
      · exact hcovers.1
      · exact (hbelow j hj).trans hcovers.1
    -- another one covers no point that the first does
    have hother : ∀ j ∈ is, ¬ L.Covers i (L.lower j) := fun j hj hcovers => by
      have hone := h (L.lower j) (hais j hj)
      rw [countP_cons_of_covers hcovers] at hone
      have hpos : 0 < is.countP fun k => L.Covers k (L.lower j) :=
        List.countP_pos_iff.mpr ⟨j, hj, decide_eq_true (hrest j hj).covers⟩
      omega
    refine ⟨hlower, ?_⟩
    cases hupper : L.upper i with
    | none =>
      refine List.eq_nil_iff_forall_not_mem.mpr fun j hj => hother j hj ⟨?_, by simp [hupper]⟩
      exact hlower.le.trans (hais j hj)
    | some u =>
      have hu : L.val a < L.val u := hlower.symm.trans_lt (hi u hupper)
      refine ⟨hu, ih hrest hsorted (fun j hj => not_lt.mp fun hlt => ?_) fun x hx => ?_⟩
      · exact hother j hj ⟨hlower.le.trans (hais j hj), by simpa [hupper] using hlt⟩
      · have hone := h x (hu.le.trans hx)
        rwa [countP_cons_of_not_covers fun hcovers => not_lt.mpr hx (hcovers.2 u hupper)] at hone

/-- Empty intervals cover nothing. -/
theorem partitions_filter : L.Partitions a (is.filter fun i => L.Proper i) ↔ L.Partitions a is := by
  refine forall₂_congr fun x _ => ?_
  have hcount : ((is.filter fun i => L.Proper i).countP fun i => L.Covers i x)
      = is.countP fun i => L.Covers i x := by
    rw [List.countP_filter]
    refine List.countP_congr fun i _ => ?_
    simpa using Covers.proper
  rw [hcount]

end Intervals
