import Mathlib.Algebra.Group.Basic
import Mathlib.Data.List.Forall2
import Mathlib.Data.Option.Basic
import Mathlib.Logic.Function.Basic
import Mathlib.Tactic.Common

/-!
# Machinery/Machine — runs of a partial step function, and what a step lemma says about a run

A machine is a partial step function `step : σ → ε → Option σ`: the event carries every choice the
environment makes, and `none` says the event cannot happen in that state.  A run is a list of
events (`exec`).  Four rules carry a fact about one step to a whole run:

* `exec_invariant` — an invariant every step keeps;
* `exec_invariant_of_throughout` — an invariant kept by the steps that meet a condition, along the
  runs whose steps all meet it (`Throughout`);
* `always_iff_throughout` — a property every state of a run has (`Always`), exactly along the runs
  whose steps all meet its condition;
* `exec_tally` — a quantity each step changes by a known amount changes over the run by their sum.
-/

namespace Machine

variable {σ ε : Type*} (step : σ → ε → Option σ)

/-! ## Runs -/

/-- **The state a run leaves behind**, if every event of it can happen in turn. -/
def exec : σ → List ε → Option σ
  | s, [] => some s
  | s, e :: es => (step s e).bind fun s' => exec s' es

@[simp] theorem exec_nil (s : σ) : exec step s [] = some s := rfl

theorem exec_cons (s : σ) (e : ε) (es : List ε) :
    exec step s (e :: es) = (step s e).bind fun s' => exec step s' es := rfl

variable {step}

/-- The first step of a run, taken apart. -/
theorem exec_cons_eq_some {s t : σ} {e : ε} {es : List ε} :
    exec step s (e :: es) = some t ↔ ∃ s', step s e = some s' ∧ exec step s' es = some t := by
  rw [exec_cons, Option.bind_eq_some_iff]

/-- **A run splits anywhere** — into the run up to a state reached and the run from it. -/
theorem exec_append_eq_some {s t : σ} {es₁ es₂ : List ε} :
    exec step s (es₁ ++ es₂) = some t
      ↔ ∃ s', exec step s es₁ = some s' ∧ exec step s' es₂ = some t := by
  induction es₁ generalizing s with
  | nil => simp
  | cons e es ih =>
    rw [List.cons_append, exec_cons_eq_some]
    constructor
    · rintro ⟨m, hm, h⟩
      obtain ⟨s', h₁, h₂⟩ := ih.mp h
      exact ⟨s', exec_cons_eq_some.mpr ⟨m, hm, h₁⟩, h₂⟩
    · rintro ⟨s', h₁, h₂⟩
      obtain ⟨m, hm, h⟩ := exec_cons_eq_some.mp h₁
      exact ⟨m, hm, ih.mpr ⟨s', h, h₂⟩⟩

/-! ## A condition met by every step of a run -/

variable (step) in
/-- **Every step of the run meets `C`**, read on the state before the step and its event. -/
def Throughout (C : σ → ε → Prop) : σ → List ε → Prop
  | _, [] => True
  | s, e :: es => C s e ∧ match step s e with
    | some s' => Throughout C s' es
    | none => True

variable {C : σ → ε → Prop}

instance Throughout.decidable [∀ s e, Decidable (C s e)] :
    ∀ (s : σ) (es : List ε), Decidable (Throughout step C s es)
  | _, [] => isTrue trivial
  | s, e :: es =>
    have : Decidable (match step s e with
        | some s' => Throughout step C s' es
        | none => True) :=
      match step s e with
      | some s' => Throughout.decidable s' es
      | none => isTrue trivial
    inferInstanceAs (Decidable (_ ∧ _))

theorem Throughout.head {s : σ} {e : ε} {es : List ε} (h : Throughout step C s (e :: es)) :
    C s e := h.1

theorem Throughout.tail {s s' : σ} {e : ε} {es : List ε} (h : Throughout step C s (e :: es))
    (hs : step s e = some s') : Throughout step C s' es := by
  have h₂ := h.2
  rwa [hs] at h₂

/-- The condition holds along the first part of a run… -/
theorem Throughout.left {s : σ} {es₁ es₂ : List ε} (h : Throughout step C s (es₁ ++ es₂)) :
    Throughout step C s es₁ := by
  induction es₁ generalizing s with
  | nil => trivial
  | cons e es ih =>
    refine ⟨h.head, ?_⟩
    cases hs : step s e with
    | none => trivial
    | some s' => exact ih (Throughout.tail h hs)

/-- …and along the rest, from the state the first part reaches. -/
theorem Throughout.right {s s' : σ} {es₁ es₂ : List ε} (h : Throughout step C s (es₁ ++ es₂))
    (h₁ : exec step s es₁ = some s') : Throughout step C s' es₂ := by
  induction es₁ generalizing s with
  | nil => cases h₁; exact h
  | cons e es ih =>
    obtain ⟨m, hm, h₂⟩ := exec_cons_eq_some.mp h₁
    exact ih (Throughout.tail h hm) h₂

/-- A condition implied by another holds along the runs of the other. -/
theorem Throughout.mono {D : σ → ε → Prop} (himp : ∀ {s e}, C s e → D s e) {s : σ} {es : List ε}
    (h : Throughout step C s es) : Throughout step D s es := by
  induction es generalizing s with
  | nil => trivial
  | cons e es ih =>
    refine ⟨himp h.head, ?_⟩
    cases hs : step s e with
    | none => trivial
    | some s' => exact ih (Throughout.tail h hs)

/-- A condition that every event meets, in whatever state, is met throughout. -/
theorem throughout_of_forall {s : σ} {es : List ε} (h : ∀ e ∈ es, ∀ s, C s e) :
    Throughout step C s es := by
  induction es generalizing s with
  | nil => trivial
  | cons e es ih =>
    refine ⟨h e List.mem_cons_self s, ?_⟩
    cases hs : step s e with
    | none => trivial
    | some s' => exact ih fun e' he' => h e' (List.mem_cons_of_mem e he')

/-! ## The steps a run takes -/

variable (step) in
/-- **The run takes event `e` from `t` to `t'`**, at some position of it. -/
def Takes (s : σ) (es : List ε) (t : σ) (e : ε) (t' : σ) : Prop :=
  ∃ es₁ es₂, es = es₁ ++ e :: es₂ ∧ exec step s es₁ = some t ∧ step t e = some t'

/-- A run that ends takes one step after another: the rest of it runs from where the step leads. -/
theorem Takes.rest {s t t' r : σ} {e : ε} {es : List ε} (h : Takes step s es t e t')
    (hr : exec step s es = some r) :
    ∃ es₁ es₂, es = es₁ ++ e :: es₂ ∧ exec step s es₁ = some t ∧ step t e = some t'
      ∧ exec step t' es₂ = some r := by
  obtain ⟨es₁, es₂, rfl, h₁, h₂⟩ := h
  obtain ⟨m, hm, h₃⟩ := exec_append_eq_some.mp hr
  obtain rfl : t = m := Option.some.inj (h₁.symm.trans hm)
  obtain ⟨m', hm', h₄⟩ := exec_cons_eq_some.mp h₃
  obtain rfl : t' = m' := Option.some.inj (h₂.symm.trans hm')
  exact ⟨es₁, es₂, rfl, h₁, h₂, h₄⟩

/-- A run whose steps do not all meet a decidable condition takes one that does not. -/
theorem exists_takes_of_not_throughout [∀ s e, Decidable (C s e)] {s r : σ} {es : List ε}
    (hr : exec step s es = some r) (h : ¬ Throughout step C s es) :
    ∃ t e t', Takes step s es t e t' ∧ ¬ C t e := by
  induction es generalizing s with
  | nil => exact absurd trivial h
  | cons e es ih =>
    obtain ⟨s', hs, h'⟩ := exec_cons_eq_some.mp hr
    by_cases hc : C s e
    · have ht : ¬ Throughout step C s' es := fun ht =>
        h ⟨hc, by simpa only [hs] using ht⟩
      obtain ⟨t, e', t', ⟨es₁, es₂, rfl, h₁, h₂⟩, hn⟩ := ih h' ht
      exact ⟨t, e', t', ⟨e :: es₁, es₂, rfl, exec_cons_eq_some.mpr ⟨s', hs, h₁⟩, h₂⟩, hn⟩
    · exact ⟨s, e, s', ⟨[], es, rfl, rfl, hs⟩, hc⟩

/-! ## The rules -/

/-- **The invariant rule under a condition.**  What the steps meeting `C` keep, the runs whose steps
all meet `C` keep. -/
theorem exec_invariant_of_throughout {I : σ → Prop}
    (hstep : ∀ {s e s'}, C s e → I s → step s e = some s' → I s') {s t : σ} {es : List ε}
    (hC : Throughout step C s es) (h₀ : I s) (h : exec step s es = some t) : I t := by
  induction es generalizing s with
  | nil => cases h; exact h₀
  | cons e es ih =>
    obtain ⟨s', hs, h'⟩ := exec_cons_eq_some.mp h
    exact ih (hC.tail hs) (hstep hC.head h₀ hs) h'

/-- **The invariant rule.** -/
theorem exec_invariant {I : σ → Prop} (hstep : ∀ {s e s'}, I s → step s e = some s' → I s')
    {s t : σ} {es : List ε} (h₀ : I s) (h : exec step s es = some t) : I t := by
  induction es generalizing s with
  | nil => cases h; exact h₀
  | cons e es ih =>
    obtain ⟨s', hs, h'⟩ := exec_cons_eq_some.mp h
    exact ih (hstep h₀ hs) h'

/-- **The exact condition of a run.**  If what a step makes of `Q` is what was there and the
condition met, then so for the run. -/
theorem exec_iff_throughout {I Q : σ → Prop} (hI : ∀ {s e s'}, I s → step s e = some s' → I s')
    (hstep : ∀ {s e s'}, I s → step s e = some s' → (Q s' ↔ Q s ∧ C s e)) {s t : σ} {es : List ε}
    (h₀ : I s) (h : exec step s es = some t) : Q t ↔ Q s ∧ Throughout step C s es := by
  induction es generalizing s with
  | nil =>
    cases h
    exact (and_iff_left trivial).symm
  | cons e es ih =>
    obtain ⟨s', hs, h'⟩ := exec_cons_eq_some.mp h
    rw [ih (hI h₀ hs) h', hstep h₀ hs, and_assoc]
    simp only [Throughout, hs]

/-! ## What holds in every state of a run -/

variable (step) in
/-- **`P` holds in every state the run passes through**, the first and the last among them. -/
def Always (P : σ → Prop) : σ → List ε → Prop
  | s, [] => P s
  | s, e :: es => P s ∧ match step s e with
    | some s' => Always P s' es
    | none => True

theorem always_cons {P : σ → Prop} {s s' : σ} {e : ε} {es : List ε} (hs : step s e = some s') :
    Always step P s (e :: es) ↔ P s ∧ Always step P s' es := by
  simp only [Always, hs]

theorem Always.head {P : σ → Prop} {s : σ} {es : List ε} (h : Always step P s es) : P s := by
  cases es with
  | nil => exact h
  | cons e es => exact h.1

/-- What holds throughout holds where the run ends. -/
theorem Always.last {P : σ → Prop} {s t : σ} {es : List ε} (h : Always step P s es)
    (ht : exec step s es = some t) : P t := by
  induction es generalizing s with
  | nil =>
    cases ht
    exact h
  | cons e es ih =>
    obtain ⟨s', hs, h'⟩ := exec_cons_eq_some.mp ht
    exact ih ((always_cons hs).mp h).2 h'

/-- **The exact condition of a run, state by state.**  If a step from a state where `P` holds leads
to another exactly where the condition is met, then the states of a run all have `P` exactly if its
steps all meet the condition. -/
theorem always_iff_throughout {I P : σ → Prop}
    (hI : ∀ {s e s'}, I s → step s e = some s' → I s')
    (hstep : ∀ {s e s'}, I s → P s → step s e = some s' → (P s' ↔ C s e)) {s t : σ} {es : List ε}
    (h₀ : I s) (hP : P s) (h : exec step s es = some t) :
    Always step P s es ↔ Throughout step C s es := by
  induction es generalizing s with
  | nil => exact iff_of_true hP trivial
  | cons e es ih =>
    obtain ⟨s', hs, h'⟩ := exec_cons_eq_some.mp h
    rw [always_cons hs, and_iff_right hP]
    simp only [Throughout, hs]
    constructor
    · intro hes
      have hP' : P s' := hes.head
      exact ⟨(hstep h₀ hP hs).mp hP', (ih (hI h₀ hs) hP' h').mp hes⟩
    · rintro ⟨hc, hes⟩
      have hP' : P s' := (hstep h₀ hP hs).mpr hc
      exact (ih (hI h₀ hs) hP' h').mpr hes

/-! ## Quantities that accumulate over a run -/

section Tally

variable {M : Type*} [AddCommMonoid M]

variable (step) in
/-- **The sum of a weight over the steps of a run**, each read before its step. -/
def tally (w : σ → ε → M) : σ → List ε → M
  | _, [] => 0
  | s, e :: es => w s e + match step s e with
    | some s' => tally w s' es
    | none => 0

theorem tally_cons {w : σ → ε → M} {s s' : σ} {e : ε} (es : List ε) (hs : step s e = some s') :
    tally step w s (e :: es) = w s e + tally step w s' es := by simp only [tally, hs]

/-- **The accounting rule.**  If every step raises `φ` by its weight, the run raises `φ` by the
weights' sum. -/
theorem exec_tally (φ : σ → M) (w : σ → ε → M) {I : σ → Prop}
    (hI : ∀ {s e s'}, I s → step s e = some s' → I s')
    (hstep : ∀ {s e s'}, I s → step s e = some s' → φ s' = φ s + w s e) {s t : σ} {es : List ε}
    (h₀ : I s) (h : exec step s es = some t) : φ t = φ s + tally step w s es := by
  induction es generalizing s with
  | nil => cases h; exact (add_zero _).symm
  | cons e es ih =>
    obtain ⟨s', hs, h'⟩ := exec_cons_eq_some.mp h
    rw [ih (hI h₀ hs) h', hstep h₀ hs, tally_cons es hs, add_assoc]

/-- Two weights sum over a run as their pointwise sum does. -/
theorem tally_add {w₁ w₂ : σ → ε → M} (s : σ) (es : List ε) :
    tally step (fun s e => w₁ s e + w₂ s e) s es = tally step w₁ s es + tally step w₂ s es := by
  induction es generalizing s with
  | nil => exact (add_zero _).symm
  | cons e es ih =>
    cases hs : step s e with
    | none => simp only [tally, hs, add_zero]
    | some s' => rw [tally_cons es hs, tally_cons es hs, tally_cons es hs, ih, add_add_add_comm]

/-- A weight that is zero at every step of a run sums to zero over it. -/
theorem tally_eq_zero {w : σ → ε → M} {s : σ} {es : List ε}
    (h : Throughout step (fun s e => w s e = 0) s es) : tally step w s es = 0 := by
  induction es generalizing s with
  | nil => rfl
  | cons e es ih =>
    cases hs : step s e with
    | none => simp only [tally, hs, h.head, add_zero]
    | some s' => rw [tally_cons es hs, h.head, ih (h.tail hs), zero_add]

/-- The weight with its sign turned sums to the sum with its sign turned. -/
theorem tally_neg {G : Type*} [AddCommGroup G] {w : σ → ε → G} (s : σ) (es : List ε) :
    tally step (fun s e => -w s e) s es = -tally step w s es := by
  induction es generalizing s with
  | nil => exact neg_zero.symm
  | cons e es ih =>
    cases hs : step s e with
    | none => simp only [tally, hs, add_zero]
    | some s' => rw [tally_cons es hs, tally_cons es hs, ih, neg_add]

end Tally

/-! ## Attempts -/

section Retried

variable (attempt : ε → σ → Bool × σ)

/-- **Attempts in turn**, up to the first that succeeds: whether one does, and the state left. -/
def retried : List ε → σ → Bool × σ
  | [], s => (false, s)
  | a :: as, s =>
    if (attempt a s).1 then (true, (attempt a s).2) else retried as (attempt a s).2

variable {attempt} {R : σ → σ → Prop} (hrefl : ∀ s, R s s)
  (htrans : ∀ {s t u}, R s t → R t u → R s u) (hstep : ∀ a s, R s (attempt a s).2)

include hrefl htrans hstep

/-- **What every attempt keeps to**, all of them do. -/
theorem retried_rel (as : List ε) (s : σ) : R s (retried attempt as s).2 := by
  induction as generalizing s with
  | nil => exact hrefl s
  | cons a as ih =>
    rw [retried]
    split_ifs
    · exact hstep a s
    · exact htrans (hstep a s) (ih _)

/-- **Where one succeeds**, it is the last, from what the others left. -/
theorem exists_attempt_of_retried {as : List ε} {s s' : σ} (h : retried attempt as s = (true, s')) :
    ∃ a t, R s t ∧ attempt a t = (true, s') := by
  induction as generalizing s with
  | nil => cases h
  | cons a as ih =>
    rw [retried] at h
    split_ifs at h with ha
    · exact ⟨a, s, hrefl s, (Prod.ext ha rfl : attempt a s = (true, _)).trans h⟩
    · obtain ⟨b, t, ht, hb⟩ := ih h
      exact ⟨b, t, htrans (hstep a s) ht, hb⟩

end Retried

/-! ## The slots of a family of parties -/

/-- **A slot after one was written** holds the value written, or is another's and as it was. -/
theorem update_eq_some_iff {ι α : Type*} [DecidableEq ι] {f : ι → Option α} {i j : ι}
    {o : Option α} {a : α} :
    Function.update f i o j = some a ↔ (j = i ∧ o = some a) ∨ (j ≠ i ∧ f j = some a) := by
  by_cases h : j = i
  · subst h
    simp
  · simp [h]

/-! ## Fallible results -/

/-- What a fallible result and its continuation return, taken apart. -/
theorem bind_eq_ok {ε' α β : Type*} {x : Except ε' α} {f : α → Except ε' β} {b : β} :
    x.bind f = .ok b ↔ ∃ a, x = .ok a ∧ f a = .ok b := by
  cases x <;> simp [Except.bind]

theorem map_eq_ok {ε' α β : Type*} {x : Except ε' α} {f : α → β} {b : β} :
    x.map f = .ok b ↔ ∃ a, x = .ok a ∧ f a = b := by
  cases x <;> simp [Except.map]

theorem map_eq_error {ε' α β : Type*} {x : Except ε' α} {f : α → β} {e : ε'} :
    x.map f = .error e ↔ x = .error e := by
  cases x <;> simp [Except.map]

/-- What holds of whatever a result that succeeded returns holds of what it returned… -/
theorem forall_eq_ok_iff {ε' α : Type*} {x : Except ε' α} {a : α} {P : α → Prop} (h : x = .ok a) :
    (∀ b, x = .ok b → P b) ↔ P a := by
  subst h
  exact ⟨fun hP => hP a rfl, fun ha b hb => Except.ok.inj hb ▸ ha⟩

/-- …and of nothing if it failed. -/
theorem forall_eq_ok_of_error {ε' α : Type*} {x : Except ε' α} {e : ε'} {P : α → Prop}
    (h : x = .error e) : ∀ b, x = .ok b → P b :=
  fun _ hb => nomatch h.symm.trans hb

instance decidableForallEqOk {ε' α : Type*} (x : Except ε' α) (P : α → Prop) [DecidablePred P] :
    Decidable (∀ a, x = .ok a → P a) :=
  match x with
  | .ok a => decidable_of_iff (P a) (forall_eq_ok_iff rfl).symm
  | .error _ => isTrue (forall_eq_ok_of_error rfl)

theorem toOption_eq_some_iff {ε' α : Type*} {x : Except ε' α} {a : α} :
    x.toOption = some a ↔ x = .ok a := by
  cases x <;> simp [Except.toOption]

universe u

/-- **A traversal returns element by element**, in order, for any way to return that a sequence has
if its steps have it. -/
theorem mapM_returns_iff {m : Type u → Type*} [Monad m] [LawfulMonad m]
    (Returns : ∀ γ : Type u, m γ → γ → Prop)
    (hpure : ∀ (γ : Type u) (a b : γ), Returns γ (pure a) b ↔ a = b)
    (hbind : ∀ (γ δ : Type u) (x : m γ) (f : γ → m δ) (b : δ),
      Returns δ (x >>= f) b ↔ ∃ a, Returns γ x a ∧ Returns δ (f a) b)
    {α : Type*} {β : Type u} {f : α → m β} {xs : List α} {ys : List β} :
    Returns (List β) (xs.mapM f) ys ↔ List.Forall₂ (fun x y => Returns β (f x) y) xs ys := by
  induction xs generalizing ys with
  | nil => rw [List.mapM_nil, hpure, List.forall₂_nil_left_iff, eq_comm]
  | cons x xs ih =>
    simp only [List.mapM_cons, hbind, hpure, ih]
    constructor
    · rintro ⟨y, hy, rest, hrest, rfl⟩
      exact .cons hy hrest
    · intro h
      cases h with
      | cons hy hrest => exact ⟨_, hy, _, hrest, rfl⟩

theorem mapM_eq_ok_iff {ε' : Type*} {α : Type*} {β : Type*} {f : α → Except ε' β} {xs : List α}
    {ys : List β} : xs.mapM f = .ok ys ↔ List.Forall₂ (fun x y => f x = .ok y) xs ys :=
  mapM_returns_iff (fun _ x b => x = Except.ok b) (fun _ _ _ => Iff.of_eq (Except.ok.injEq _ _))
    (fun _ _ _ _ _ => bind_eq_ok)

theorem mapM_eq_some_iff {α : Type*} {β : Type*} {f : α → Option β} {xs : List α} {ys : List β} :
    xs.mapM f = some ys ↔ List.Forall₂ (fun x y => f x = some y) xs ys :=
  mapM_returns_iff (fun _ x b => x = some b) (fun _ _ _ => Option.some_inj)
    (fun _ _ _ _ _ => Option.bind_eq_some_iff)

/-- A fallible traversal succeeds exactly if it does on each element. -/
theorem exists_mapM_eq_ok_iff {ε' : Type*} {α : Type*} {β : Type*} {f : α → Except ε' β}
    {xs : List α} : (∃ ys, xs.mapM f = .ok ys) ↔ ∀ x ∈ xs, ∃ y, f x = .ok y := by
  simp only [mapM_eq_ok_iff]
  induction xs with
  | nil => exact iff_of_true ⟨[], .nil⟩ (List.forall_mem_nil _)
  | cons x xs ih =>
    rw [List.forall_mem_cons, ← ih]
    constructor
    · rintro ⟨ys, h⟩
      cases h with
      | cons hy hrest => exact ⟨⟨_, hy⟩, _, hrest⟩
    · rintro ⟨⟨y, hy⟩, ys, hrest⟩
      exact ⟨y :: ys, .cons hy hrest⟩

end Machine
