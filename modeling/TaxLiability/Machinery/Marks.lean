import Mathlib.Data.List.Basic
import Mathlib.Data.List.Infix

/-!
# Machinery/Marks — texts made of labelled pieces, and what can be told of the pieces

    pieces ──glue──▸ mark₁ piece₁ mark₂ piece₂ … ──read──▸ the pieces, cut at the marks in them

A piece may contain a mark, and then nothing says that it is one piece.  Where no mark begins inside
another, two lists of pieces make one text exactly if they are one list once every piece is cut at
the marks in it (`glue_eq_glue_iff`).
-/

/-- **The marks that label pieces**: told apart at their start, and none begins inside another. -/
structure Marks (ρ α : Type*) where
  labels : List ρ
  mark : ρ → List α
  complete : ∀ r, r ∈ labels
  ne_nil : ∀ r, mark r ≠ []
  distinct : ∀ r r', mark r <+: mark r' → r = r'
  apart : ∀ r r' i, 0 < i → i < (mark r).length →
    ¬ (mark r).drop i <+: mark r' ∧ ¬ mark r' <+: (mark r).drop i

namespace Marks

variable {ρ α : Type*}

/-! ## Gluing -/

/-- **The text of labelled pieces.** -/
def glue (M : Marks ρ α) (pieces : List (ρ × List α)) : List α :=
  pieces.flatMap fun p => M.mark p.1 ++ p.2

section Glue

variable {M : Marks ρ α}

@[simp] theorem glue_nil : M.glue [] = [] := rfl

@[simp] theorem glue_cons (p : ρ × List α) (pieces : List (ρ × List α)) :
    M.glue (p :: pieces) = M.mark p.1 ++ (p.2 ++ M.glue pieces) := by
  simp [glue]

@[simp] theorem glue_append (pieces pieces' : List (ρ × List α)) :
    M.glue (pieces ++ pieces') = M.glue pieces ++ M.glue pieces' := by
  simp [glue]

end Glue

variable [DecidableEq α] (M : Marks ρ α)

/-! ## The mark a text starts with -/

/-- The mark at the front of a text, and what follows it. -/
def front (s : List α) : Option (ρ × List α) :=
  (M.labels.find? fun r => (M.mark r).isPrefixOf s).map fun r => (r, s.drop (M.mark r).length)

variable {M}

theorem front_eq_some {s rest : List α} {r : ρ} :
    M.front s = some (r, rest) ↔ s = M.mark r ++ rest := by
  unfold front
  rw [Option.map_eq_some_iff]
  constructor
  · rintro ⟨r', hr', he⟩
    obtain ⟨rfl, rfl⟩ := Prod.mk.inj he
    have hpre := List.find?_some hr'
    obtain ⟨t, rfl⟩ := List.isPrefixOf_iff_prefix.mp hpre
    rw [List.drop_left]
  · rintro rfl
    have hsome : (M.labels.find? fun r' => (M.mark r').isPrefixOf (M.mark r ++ rest)).isSome :=
      List.find?_isSome.mpr ⟨r, M.complete r, by simp⟩
    obtain ⟨r', hr'⟩ := Option.isSome_iff_exists.mp hsome
    have hfound := List.find?_some hr'
    -- of two marks at the front one starts with the other, so they are one
    have hpre : M.mark r' <+: M.mark r ++ rest := List.isPrefixOf_iff_prefix.mp hfound
    obtain rfl : r' = r := by
      rcases List.prefix_or_prefix_of_prefix hpre (List.prefix_append _ rest) with h | h
      · exact M.distinct _ _ h
      · exact (M.distinct _ _ h).symm
    exact ⟨r', hr', by rw [List.drop_left]⟩

@[simp] theorem front_nil : M.front [] = none :=
  Option.eq_none_iff_forall_ne_some.mpr fun p hp =>
    M.ne_nil p.1 (List.append_eq_nil_iff.mp (front_eq_some.mp hp).symm).1

theorem length_lt_of_front {s rest : List α} {r : ρ} (h : M.front s = some (r, rest)) :
    rest.length < s.length := by
  obtain rfl := front_eq_some.mp h
  have := List.length_pos_iff.mpr (M.ne_nil r)
  rw [List.length_append]
  omega

/-! ## Cutting -/

variable (M)

/-- **A piece cut at every mark in it.** -/
def cut (r : ρ) (s : List α) : List (ρ × List α) :=
  match h : M.front s with
  | some (r', rest) =>
    have := length_lt_of_front h
    (r, []) :: cut r' rest
  | none =>
    match s with
    | [] => [(r, [])]
    | a :: s => (cut r s).modifyHead fun p => (p.1, a :: p.2)
termination_by s.length

/-- …and every piece of a list. -/
def cutAll (pieces : List (ρ × List α)) : List (ρ × List α) := pieces.flatMap fun p => M.cut p.1 p.2

variable {M}

theorem cut_of_front {s rest : List α} {r r' : ρ} (h : M.front s = some (r', rest)) :
    M.cut r s = (r, []) :: M.cut r' rest := by
  rw [cut]
  split
  · next r'' rest' h' =>
    cases h.symm.trans h'
    rfl
  · next h' => cases h.symm.trans h'

theorem cut_nil (r : ρ) : M.cut r [] = [(r, [])] := by
  rw [cut]
  split
  · next h => cases front_nil.symm.trans h
  · rfl

theorem cut_cons {r : ρ} {a : α} {s : List α} (h : M.front (a :: s) = none) :
    M.cut r (a :: s) = (M.cut r s).modifyHead fun p => (p.1, a :: p.2) := by
  rw [cut]
  split
  · next h' => cases h.symm.trans h'
  · rfl

/-- The first piece of a cut keeps the label. -/
theorem exists_cut (r : ρ) (s : List α) : ∃ t ps, M.cut r s = (r, t) :: ps := by
  induction s with
  | nil => exact ⟨[], [], cut_nil r⟩
  | cons a s ih =>
    cases h : M.front (a :: s) with
    | some p => exact ⟨[], _, cut_of_front h⟩
    | none =>
      obtain ⟨t, ps, hc⟩ := ih
      exact ⟨a :: t, ps, by rw [cut_cons h, hc]; rfl⟩

/-- **A cut loses nothing.** -/
theorem glue_cut (r : ρ) (s : List α) : M.glue (M.cut r s) = M.mark r ++ s := by
  induction hn : s.length using Nat.strong_induction_on generalizing r s with
  | _ n ih =>
    subst hn
    cases h : M.front s with
    | some p =>
      obtain ⟨r', rest⟩ := p
      rw [cut_of_front h, glue_cons, ih _ (length_lt_of_front h) r' rest rfl, List.nil_append,
        ← front_eq_some.mp h]
    | none =>
      rcases s with _ | ⟨a, s⟩
      · simp [cut_nil]
      · obtain ⟨t, ps, hc⟩ := exists_cut (M := M) r s
        have hs : M.glue ((r, t) :: ps) = M.mark r ++ s := hc ▸ ih _ (Nat.lt_succ_self _) r s rfl
        have ht : t ++ M.glue ps = s := List.append_cancel_left (glue_cons .. ▸ hs)
        rw [cut_cons h, hc, List.modifyHead_cons, glue_cons, List.cons_append, ht]

theorem glue_cutAll (pieces : List (ρ × List α)) : M.glue (M.cutAll pieces) = M.glue pieces := by
  induction pieces with
  | nil => rfl
  | cons p pieces ih =>
    rw [cutAll, List.flatMap_cons, ← cutAll, glue_append, glue_cut, ih, glue_cons,
      List.append_assoc]

/-! ## Reading the pieces back -/

omit [DecidableEq α] in
/-- **What goes on from inside a mark** is not the start of another. -/
theorem append_ne_glue {r : ρ} {c t : List α} (hc : c ≠ []) (ht : t ≠ [])
    (hmark : c ++ t = M.mark r) (s : List α) (pieces : List (ρ × List α)) :
    t ++ s ≠ M.glue pieces := by
  intro hglue
  have hdrop : (M.mark r).drop c.length = t := by rw [← hmark, List.drop_left]
  have hlen : c.length < (M.mark r).length := by
    rw [← hmark, List.length_append]
    exact Nat.lt_add_of_pos_right (List.length_pos_iff.mpr ht)
  rcases pieces with _ | ⟨q, pieces⟩
  · exact ht (List.append_eq_nil_iff.mp hglue).1
  · have hq : M.mark q.1 <+: t ++ s := by
      rw [hglue, glue_cons]
      exact List.prefix_append _ _
    obtain ⟨h₁, h₂⟩ := M.apart r q.1 c.length (List.length_pos_iff.mpr hc) hlen
    rw [hdrop] at h₁ h₂
    rcases List.prefix_or_prefix_of_prefix (List.prefix_append t s) hq with hl | hr
    · exact h₁ hl
    · exact h₂ hr

/-- A mark that starts in a piece ends in it. -/
theorem front_append {c : List α} (hc : c ≠ []) (pieces : List (ρ × List α)) :
    M.front (c ++ M.glue pieces) = (M.front c).map fun p => (p.1, p.2 ++ M.glue pieces) := by
  cases h : M.front c with
  | some p =>
    obtain ⟨r, rest⟩ := p
    obtain rfl := front_eq_some.mp h
    exact front_eq_some.mpr (List.append_assoc ..)
  | none =>
    refine Option.eq_none_iff_forall_ne_some.mpr fun p hp => ?_
    have hpre : M.mark p.1 <+: c ++ M.glue pieces := ⟨p.2, (front_eq_some.mp hp).symm⟩
    rcases List.prefix_or_prefix_of_prefix hpre (List.prefix_append c _) with hm | hm
    · obtain ⟨rest, hrest⟩ := hm
      cases h.symm.trans (front_eq_some.mpr hrest.symm)
    · -- the mark goes on where the next one starts
      obtain ⟨t, ht⟩ := hm
      have hrest : c ++ (t ++ p.2) = c ++ M.glue pieces := by
        rw [← List.append_assoc, ht, front_eq_some.mp hp]
      by_cases htn : t = []
      · rw [htn, List.append_nil] at ht
        have hself : M.front c = some (p.1, []) :=
          front_eq_some.mpr ((List.append_nil _).trans ht.symm).symm
        cases h.symm.trans hself
      · exact append_ne_glue hc htn ht p.2 pieces (List.append_cancel_left hrest)

/-- **A piece in front of others is cut as it is alone.** -/
theorem cut_append_glue (r : ρ) (c : List α) (pieces : List (ρ × List α)) :
    M.cut r (c ++ M.glue pieces) = M.cut r c ++ M.cutAll pieces := by
  induction pieces generalizing r c with
  | nil => simp [cutAll]
  | cons q pieces ihp =>
    induction hn : c.length using Nat.strong_induction_on generalizing r c with
    | _ n ih =>
      subst hn
      rcases c with _ | ⟨a, c⟩
      · have hfront : M.front (M.glue (q :: pieces)) = some (q.1, q.2 ++ M.glue pieces) :=
          front_eq_some.mpr (glue_cons ..)
        rw [List.nil_append, cut_of_front hfront, ihp, cut_nil]
        rfl
      · have hfront := front_append (M := M) (List.cons_ne_nil a c) (q :: pieces)
        cases h : M.front (a :: c) with
        | some p =>
          rw [h] at hfront
          rw [cut_of_front hfront, cut_of_front h, ih _ (length_lt_of_front h) p.1 p.2 rfl,
            List.cons_append]
        | none =>
          rw [h] at hfront
          obtain ⟨t, ps, hc⟩ := exists_cut (M := M) r c
          rw [List.cons_append] at hfront ⊢
          rw [cut_cons hfront, ih _ (Nat.lt_succ_self _) r c rfl, cut_cons h, hc]
          rfl

/-- What is read of a text: the pieces from its first mark on. -/
def read (M : Marks ρ α) (s : List α) : List (ρ × List α) :=
  match M.front s with
  | some (r, rest) => M.cut r rest
  | none => []

/-- **What is read of glued pieces is the pieces, cut.** -/
theorem read_glue (pieces : List (ρ × List α)) : M.read (M.glue pieces) = M.cutAll pieces := by
  rcases pieces with _ | ⟨p, pieces⟩
  · simp [read, cutAll]
  · have hfront : M.front (M.glue (p :: pieces)) = some (p.1, p.2 ++ M.glue pieces) :=
      front_eq_some.mpr (glue_cons ..)
    simp only [read, hfront, cut_append_glue]
    rfl

/-- **Two lists of pieces make one text** exactly if they are one list, once cut. -/
theorem glue_eq_glue_iff {pieces pieces' : List (ρ × List α)} :
    M.glue pieces = M.glue pieces' ↔ M.cutAll pieces = M.cutAll pieces' := by
  constructor
  · intro h
    rw [← read_glue, h, read_glue]
  · intro h
    rw [← glue_cutAll, h, glue_cutAll]

/-! ## Pieces with no mark in them -/

/-- A mark begins somewhere in the text. -/
def Marked (M : Marks ρ α) (s : List α) : Prop := ∃ r, M.mark r <:+: s

/-- A piece with no mark in it is not cut. -/
theorem cut_of_not_marked {r : ρ} {s : List α} (h : ¬ M.Marked s) : M.cut r s = [(r, s)] := by
  induction s with
  | nil => exact cut_nil r
  | cons a s ih =>
    have hfront : M.front (a :: s) = none := by
      refine Option.eq_none_iff_forall_ne_some.mpr fun p hp => h ⟨p.1, ?_⟩
      rw [front_eq_some.mp hp]
      exact (List.prefix_append _ _).isInfix
    have hs : ¬ M.Marked s := fun ⟨r, hr⟩ => h ⟨r, hr.trans (List.suffix_cons a s).isInfix⟩
    rw [cut_cons hfront, ih hs]
    rfl

theorem cutAll_of_not_marked {pieces : List (ρ × List α)} (h : ∀ p ∈ pieces, ¬ M.Marked p.2) :
    M.cutAll pieces = pieces := by
  induction pieces with
  | nil => rfl
  | cons p pieces ih =>
    rw [cutAll, List.flatMap_cons, ← cutAll, cut_of_not_marked (h p List.mem_cons_self),
      ih fun q hq => h q (List.mem_cons_of_mem _ hq)]
    rfl

end Marks
