import Mathlib.Data.List.Basic

/-!
# Machinery/Lines — records on lines, each a head and a body

    head ':' body '\n' head ':' body '\n' …

Over any alphabet with a separator and a terminator.  Reading splits at the terminator and each line
at its *first* separator, so a body may hold the separator and a head may not (`parse_format`).
-/

namespace Lines

variable {α : Type*} [DecidableEq α]

/-- One record, terminated. -/
def record (sep nl : α) (r : List α × List α) : List α := r.1 ++ sep :: (r.2 ++ [nl])

/-- **The records, one after the other.** -/
def format (sep nl : α) (rs : List (List α × List α)) : List α := rs.flatMap (record sep nl)

/-- What stands before the first separator and what stands after it. -/
def partition (sep : α) (s : List α) : List α × List α :=
  (s.takeWhile (· ≠ sep), (s.dropWhile (· ≠ sep)).tail)

/-- **The records of a text.**  What follows the last terminator is no record. -/
def parse (sep nl : α) (s : List α) : List (List α × List α) :=
  (s.splitOn nl).dropLast.map (partition sep)

/-- A record that reads back: no separator in its head, and no terminator anywhere. -/
structure Fits (sep nl : α) (r : List α × List α) : Prop where
  sep_notMem : sep ∉ r.1
  nl_notMem_fst : nl ∉ r.1
  nl_notMem_snd : nl ∉ r.2

theorem partition_append {sep : α} {head : List α} (h : sep ∉ head) (body : List α) :
    partition sep (head ++ sep :: body) = (head, body) := by
  have hne : ∀ c ∈ head, decide (c ≠ sep) = true := fun c hc =>
    decide_eq_true fun hcs => h (hcs ▸ hc)
  rw [partition, List.takeWhile_append_of_pos hne, List.dropWhile_append_of_pos hne]
  simp

/-- **What is read is what was written**, in order. -/
theorem parse_format {sep nl : α} (hne : sep ≠ nl) {rs : List (List α × List α)}
    (h : ∀ r ∈ rs, Fits sep nl r) : parse sep nl (format sep nl rs) = rs := by
  induction rs with
  | nil => rfl
  | cons r rs ih =>
    obtain ⟨hr, hrs⟩ := List.forall_mem_cons.mp h
    have hline : nl ∉ r.1 ++ sep :: r.2 := by
      simp [hr.nl_notMem_fst, hr.nl_notMem_snd, hne.symm]
    have hsplit : (format sep nl (r :: rs)).splitOn nl
        = (r.1 ++ sep :: r.2) :: (format sep nl rs).splitOn nl := by
      rw [← List.splitOn_append_cons_self_of_not_mem hline]
      simp [format, record]
    rw [parse, hsplit, List.dropLast_cons_of_ne_nil (List.splitOn_ne_nil _ _), List.map_cons,
      partition_append hr.sep_notMem]
    exact congrArg (r :: ·) (ih hrs)

end Lines
