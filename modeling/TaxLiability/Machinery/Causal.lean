import Mathlib.Data.List.Basic

/-!
# Machinery/Causal — logs in which nothing comes before what it depends on

`Causal R l` says that wherever `x` stands in the log `l`, everything that `R` puts before `x` has
occurred by then.  A log grows at its end (`causal_concat`), a queue is used up from its front
(`causal_cons`), and a list ordered along `R` that leaves out nothing is causal
(`Causal.of_pairwise`).
-/

variable {α : Type*} {R R' : α → α → Prop} {l : List α} {y : α}

/-- **A causal log**: an occurrence of `x` has all that `R` puts before `x` behind it. -/
def Causal (R : α → α → Prop) (l : List α) : Prop :=
  ∀ pre x post, l = pre ++ x :: post → ∀ w, R w x → w ∈ pre

@[simp] theorem causal_nil : Causal R [] := by
  intro pre x post h
  exact absurd h.symm (List.append_ne_nil_of_right_ne_nil pre (List.cons_ne_nil x post))

/-- A causal log stays causal under a relation that asks for less. -/
theorem Causal.mono (h : Causal R l) (himp : ∀ x ∈ l, ∀ w, R' w x → R w x) : Causal R' l := by
  intro pre x post hl w hw
  exact h pre x post hl w (himp x (by rw [hl]; exact List.mem_append_cons_self) w hw)

/-- **A log grows causally** by an element all of whose past it holds. -/
theorem causal_concat : Causal R (l ++ [y]) ↔ Causal R l ∧ ∀ w, R w y → w ∈ l := by
  constructor
  · intro h
    refine ⟨fun pre x post hl => h pre x (post ++ [y]) ?_, h l y [] rfl⟩
    rw [hl, List.append_assoc, List.cons_append]
  · rintro ⟨h, hy⟩ pre x post hl
    obtain rfl | ⟨post, z, rfl⟩ := List.eq_nil_or_concat post
    · obtain ⟨rfl, h₁⟩ := List.append_inj' hl rfl
      obtain rfl : y = x := List.head_eq_of_cons_eq h₁
      exact hy
    · rw [List.concat_eq_append, ← List.cons_append, ← List.append_assoc] at hl
      exact h pre x post (List.append_inj' hl rfl).1

/-- **The front of a causal queue** waits for nothing, and what follows waits for nothing but the
front and one another. -/
theorem causal_cons :
    Causal R (y :: l) ↔ (∀ w, ¬ R w y) ∧ Causal (fun w x => R w x ∧ w ≠ y) l := by
  constructor
  · intro h
    refine ⟨fun w hw => List.not_mem_nil (h [] y l rfl w hw), fun pre x post hl w hw => ?_⟩
    exact (List.mem_cons.mp (h (y :: pre) x post (by rw [hl]; rfl) w hw.1)).resolve_left hw.2
  · rintro ⟨hy, h⟩ pre x post hl w hw
    cases pre with
    | nil =>
      obtain rfl : y = x := List.head_eq_of_cons_eq hl
      exact absurd hw (hy w)
    | cons z pre =>
      obtain ⟨rfl, htl⟩ := List.cons.inj hl
      by_cases hwy : w = y
      · exact hwy ▸ List.mem_cons_self
      · exact List.mem_cons_of_mem y (h pre x post htl w ⟨hw, hwy⟩)

/-- **A list ordered along `R` is causal** when the past of its elements is all in it. -/
theorem Causal.of_pairwise (hl : l.Pairwise fun x w => ¬ R w x) (hirr : ∀ x, ¬ R x x)
    (hmem : ∀ x ∈ l, ∀ w, R w x → w ∈ l) : Causal R l := by
  rintro pre x post rfl w hw
  have hw' := hmem x List.mem_append_cons_self w hw
  obtain h | h := List.mem_append.mp hw'
  · exact h
  · obtain rfl | h := List.mem_cons.mp h
    · exact absurd hw (hirr w)
    · exact absurd hw (List.rel_of_pairwise_cons (List.pairwise_append.mp hl).2.1 h)
