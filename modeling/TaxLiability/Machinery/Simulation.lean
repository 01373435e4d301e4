import TaxLiability.Machinery.Machine

/-!
# Machinery/Simulation — a machine whose steps stand for the steps of another

    s ──e──▸ s'            each step of the machine stands for events of the specification,
    │R       │R            none, one or many, and the relation is kept; so a run stands for
    t ──…──▸ t'            a run, its trace

`Simulates.exec` carries the one-step condition to whole runs.
-/

namespace Machine

variable {σ ε τ ω : Type*} (step : σ → ε → Option σ) (spec : τ → ω → Option τ)

/-- **What a run stands for**: what its steps stand for, in turn, each read on the states before
and after it. -/
def trace (image : σ → ε → σ → List ω) : σ → List ε → List ω
  | _, [] => []
  | s, e :: es => match step s e with
    | some s' => image s e s' ++ trace image s' es
    | none => []

/-- **One step at a time**, along events that meet `E`. -/
def Simulates (image : σ → ε → σ → List ω) (E : ε → Prop) (R : σ → τ → Prop) : Prop :=
  ∀ ⦃s e s' t⦄, E e → R s t → step s e = some s' →
    ∃ t', exec spec t (image s e s') = some t' ∧ R s' t'

variable {step spec} {image : σ → ε → σ → List ω} {E : ε → Prop} {R : σ → τ → Prop}

@[simp] theorem trace_nil (s : σ) : trace step image s [] = [] := rfl

theorem trace_cons {s s' : σ} {e : ε} (es : List ε) (hs : step s e = some s') :
    trace step image s (e :: es) = image s e s' ++ trace step image s' es := by
  simp only [trace, hs]

/-- **The forward simulation rule**: a run of the machine is a run of the specification. -/
theorem Simulates.exec (h : Simulates step spec image E R) {s s' : σ} {t : τ} {es : List ε}
    (hE : ∀ e ∈ es, E e) (hR : R s t) (hs : Machine.exec step s es = some s') :
    ∃ t', Machine.exec spec t (trace step image s es) = some t' ∧ R s' t' := by
  induction es generalizing s t with
  | nil =>
    cases hs
    exact ⟨t, rfl, hR⟩
  | cons e es ih =>
    obtain ⟨m, hm, hs⟩ := exec_cons_eq_some.mp hs
    obtain ⟨u, hu, hR⟩ := h (hE e List.mem_cons_self) hR hm
    obtain ⟨t', ht', hR⟩ := ih (fun e' he' => hE e' (List.mem_cons_of_mem e he')) hR hs
    rw [trace_cons es hm]
    exact ⟨t', exec_append_eq_some.mpr ⟨u, hu, ht'⟩, hR⟩

end Machine
