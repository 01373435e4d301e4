import TaxLiability.Machinery.Machine

/-!
# Machinery/Progress — a machine some of whose events lead to a goal

    s ──u──▸ s' ──u──▸ … ──u──▸ t      the rank falls at each, and one more is possible
                                       until the goal is reached

An invariant under which each of the events lowers a rank, and one of them is possible, as long as
the goal is not reached: then every run of these events is short of the goal for as many of them as
the rank at most, and none of these runs is stuck before it (`LeadsTo.length_le`).  So the goal is
reached, whichever of the events comes next each time.
-/

namespace Machine

variable {σ ε : Type*} {step : σ → ε → Option σ} {I G : σ → Prop} {U : ε → Prop} {rank : σ → ℕ}

/-- **The events `U` lead to `G`** where `I` holds. -/
structure LeadsTo (step : σ → ε → Option σ) (I G : σ → Prop) (U : ε → Prop) (rank : σ → ℕ) :
    Prop where
  keeps : ∀ {s e s'}, I s → U e → step s e = some s' → I s'
  stays : ∀ {s e s'}, I s → G s → U e → step s e = some s' → G s'
  falls : ∀ {s e s'}, I s → ¬ G s → U e → step s e = some s' → ¬ G s' → rank s' < rank s
  goes : ∀ {s}, I s → ¬ G s → ∃ e, U e ∧ (step s e).isSome

namespace LeadsTo

/-- The goal is kept. -/
theorem stays_exec (h : LeadsTo step I G U rank) {s t : σ} {es : List ε} (hI : I s) (hG : G s)
    (hU : ∀ e ∈ es, U e) (hs : exec step s es = some t) : G t := by
  induction es generalizing s with
  | nil =>
    cases hs
    exact hG
  | cons e es ih =>
    obtain ⟨m, hm, hs⟩ := exec_cons_eq_some.mp hs
    have he := hU e List.mem_cons_self
    exact ih (h.keeps hI he hm) (h.stays hI hG he hm)
      (fun e' he' => hU e' (List.mem_cons_of_mem e he')) hs

/-- **A run that has not reached the goal** is no longer than the rank has fallen, and goes on. -/
theorem length_le (h : LeadsTo step I G U rank) {s t : σ} {es : List ε} (hI : I s)
    (hU : ∀ e ∈ es, U e) (hs : exec step s es = some t) (ht : ¬ G t) :
    es.length + rank t ≤ rank s ∧ ∃ e, U e ∧ (step t e).isSome := by
  induction es generalizing s with
  | nil =>
    cases hs
    exact ⟨Nat.le_of_eq (Nat.zero_add _), h.goes hI ht⟩
  | cons e es ih =>
    obtain ⟨m, hm, hs⟩ := exec_cons_eq_some.mp hs
    have he := hU e List.mem_cons_self
    have hU' : ∀ e' ∈ es, U e' := fun e' he' => hU e' (List.mem_cons_of_mem e he')
    have hI' := h.keeps hI he hm
    have hm' : ¬ G m := fun hG => ht (h.stays_exec hI' hG hU' hs)
    have hs' : ¬ G s := fun hG => hm' (h.stays hI hG he hm)
    obtain ⟨hle, hgoes⟩ := ih hI' hU' hs
    refine ⟨?_, hgoes⟩
    have hlt := h.falls hI hs' he hm hm'
    rw [List.length_cons]
    omega

end LeadsTo

end Machine
