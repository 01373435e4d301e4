import Mathlib.Data.List.NodupEquivFin
import TaxLiability.Evals.CostGate

/-!
# Evals/TrajectoryMatch — the expected nodes, found one after another in those that ran

    remaining ──search node──▸ what comes after it ──search the next──▸ …

One iterator is consumed by all the searches, so each goes on where the one before stopped.  To stop
at the first of equal nodes leaves the most for the searches to come (`sublist_cons_iff_search`):
the nodes are found exactly if they are a subsequence.
-/

namespace Evals.TrajectoryMatch

open CostGate

/-! ## The scan -/

/-- **`node in remaining`**: what the iterator has left once the node is found, `none` if it is
exhausted. -/
def search (node : String) : List String → Option (List String)
  | [] => none
  | next :: remaining => if next = node then some remaining else search node remaining

/-- **`all(node in remaining for node in expected)`.** -/
def allIn : List String → List String → Bool
  | [], _ => true
  | node :: expected, remaining =>
    match search node remaining with
    | some remaining => allIn expected remaining
    | none => false

/-- **`trajectory_match`.** -/
def trajectory_match (actual expected : List String) : Float64 :=
  if allIn expected actual then .finite 1 else .finite 0

/-! ## The property -/

/-- **Positions of the expected nodes** among those that ran, one after another. -/
def InOrder (actual expected : List String) : Prop :=
  ∃ position : Fin expected.length → Fin actual.length, StrictMono position
    ∧ ∀ i, expected.get i = actual.get (position i)

variable {actual expected : List String} {node : String}

/-- **A search leaves the most there can be left**: what comes after a first node is a subsequence
of what comes after the first such node. -/
theorem sublist_cons_iff_search : (node :: expected).Sublist actual ↔
    ∃ remaining, search node actual = some remaining ∧ expected.Sublist remaining := by
  induction actual with
  | nil => exact iff_of_false (by simp) fun ⟨_, h, _⟩ => nomatch h
  | cons next actual ih =>
    rw [search]
    split_ifs with h
    · subst h
      rw [List.cons_sublist_cons]
      exact ⟨fun hsub => ⟨actual, rfl, hsub⟩, fun ⟨_, hrest, hsub⟩ => Option.some.inj hrest ▸ hsub⟩
    · rw [← ih]
      constructor
      · intro hsub
        cases hsub with
        | cons _ hsub => exact hsub
        | cons_cons => exact absurd rfl h
      · exact List.Sublist.cons next

/-- **The scan finds the subsequences.** -/
theorem allIn_iff : allIn expected actual ↔ expected.Sublist actual := by
  induction expected generalizing actual with
  | nil => exact iff_of_true rfl (List.nil_sublist actual)
  | cons node expected ih =>
    rw [allIn, sublist_cons_iff_search]
    cases search node actual with
    | none => simp
    | some remaining => simp [ih]

/-- It is the match the gate counts by. -/
theorem trajectoryMatch_eq (actual expected : List String) :
    trajectoryMatch actual expected = allIn expected actual := by
  induction actual generalizing expected with
  | nil => cases expected <;> rfl
  | cons next actual ih =>
    cases expected with
    | nil => rfl
    | cons node expected =>
      rw [trajectoryMatch, allIn, search]
      split_ifs with h
      · exact ih expected
      · rw [ih, allIn]

theorem trajectoryMatch_iff : trajectoryMatch actual expected ↔ expected.Sublist actual := by
  rw [trajectoryMatch_eq, allIn_iff]

theorem trajectory_match_eq (actual expected : List String) : trajectory_match actual expected
    = if trajectoryMatch actual expected then .finite 1 else .finite 0 := by
  rw [trajectory_match, trajectoryMatch_eq]

theorem inOrder_iff : InOrder actual expected ↔ expected.Sublist actual := by
  rw [List.sublist_iff_exists_fin_orderEmbedding_get_eq]
  constructor
  · rintro ⟨position, hmono, heq⟩
    exact ⟨OrderEmbedding.ofStrictMono position hmono, heq⟩
  · rintro ⟨position, heq⟩
    exact ⟨position, position.strictMono, heq⟩

theorem trajectory_match_eq_one_iff :
    trajectory_match actual expected = .finite 1 ↔ expected.Sublist actual := by
  rw [trajectory_match_eq, ← trajectoryMatch_iff]
  split_ifs with h
  · exact iff_of_true rfl h
  · exact iff_of_false (by decide) h

theorem trajectory_match_eq_zero_iff :
    trajectory_match actual expected = .finite 0 ↔ ¬ expected.Sublist actual := by
  rw [trajectory_match_eq, ← trajectoryMatch_iff]
  split_ifs with h
  · exact iff_of_false (by decide) (not_not.mpr h)
  · exact iff_of_true rfl h

/-- **The match is the subsequence test**: 1 if there are positions of the expected nodes in order,
0 if there are none.  Further nodes take nothing away, and a match of a match is one. -/
theorem trajectory_match_spec :
    (∀ actual expected, (InOrder actual expected → trajectory_match actual expected = .finite 1)
        ∧ (¬ InOrder actual expected → trajectory_match actual expected = .finite 0))
      ∧ (∀ actual longer expected, actual.Sublist longer
        → trajectory_match actual expected = .finite 1
        → trajectory_match longer expected = .finite 1)
      ∧ ∀ actual middle expected, trajectory_match actual middle = .finite 1
        → trajectory_match middle expected = .finite 1
        → trajectory_match actual expected = .finite 1 := by
  simp only [trajectory_match_eq_one_iff, trajectory_match_eq_zero_iff, inOrder_iff]
  exact ⟨fun _ _ => ⟨id, id⟩, fun _ _ _ hlonger h => h.trans hlonger, fun _ _ _ h h' => h'.trans h⟩

end Evals.TrajectoryMatch
