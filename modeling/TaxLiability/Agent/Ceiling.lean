import Mathlib.Algebra.BigOperators.Group.Finset.Piecewise
import Mathlib.Algebra.Order.BigOperators.Group.Finset
import TaxLiability.Agent.CostLedger

/-!
# Agent/Ceiling — what the provider bills against what the guard records

    issued ──provider──▸ finished, billed ──deliver──▸ recorded

A completion is issued by a check and recorded by a delivery, with an await in between in which the
other worker spends.  `did_calls` is all a step can do to the completions; the rest is read off it:
none is issued at the ceiling, none is recorded twice, and one is lost exactly when it finishes with
no body left to await it or its body is closed before it resumes.
-/

open Machine

namespace Agent

/-- The completion a body awaits. -/
def Pc.call? : Pc → Option ℕ
  | .completion _ _ call => some call
  | _ => none

theorem Pc.call?_of_settled {p : Pc} (h : p.settled) : p.call? = none := by
  cases p <;> first | rfl | cases h

theorem Pc.call?_of_isIdle {p : Pc} (h : p.isIdle) : p.call? = none := by
  cases p <;> first | rfl | cases h

/-- What the guard was charged for a completion. -/
def Status.charged : Status → ℕ
  | .recorded m => costOf m.usage
  | _ => 0

/-- The bodies an event moves away from where they are suspended. -/
def Event.moves : Event → Node → Prop
  | .begin n, m | .deliver n, m | .error n, m | .deadline n, m => m = n
  | .connected, m | .toolResult, m => m = .apiAgent
  | .provider _ _, _ | .barrier, _ => False
  | .abort, _ => True

namespace Run

/-! ## What a step does to the completions -/

/-- **What a step does to the completions already issued**: it leaves them, finishes one, or records
one its body awaits.  The last two arguments are the completions and the spend after it. -/
inductive Booked (r : Run) : Event → List Status → ℕ → Prop
  | same {e : Event} (hp : ∀ k m, e ≠ .provider k m) (hd : ∀ n, e ≠ .deliver n) :
      Booked r e r.calls r.guard.spent
  | finish {k : ℕ} {m : Message} (h : r.calls[k]? = some .running) :
      Booked r (.provider k m) (r.calls.set k (.finished m)) r.guard.spent
  | record {n : Node} {k : ℕ} {m : Message} (hn : (r.pc n).call? = some k)
      (h : r.calls[k]? = some (.finished m)) :
      Booked r (.deliver n) (r.calls.set k (.recorded m)) (r.guard.spent + costOf m.usage)

/-- **What a step does to the completions.**  Besides what `Booked` says it issues at most one, from
the body it moves and below the ceiling. -/
structure CallsDid (r : Run) (e : Event) (r' : Run) (book : List Status) : Prop where
  booked : Booked r e book r'.guard.spent
  ceiling : r'.guard.ceiling = r.guard.ceiling
  issued : r'.calls = book
    ∨ r'.calls = book ++ [Status.running] ∧ r'.guard.spent < r'.guard.ceiling
  /-- what the other bodies await stays -/
  others : ∀ n, ¬ e.moves n → (r'.pc n).call? = (r.pc n).call?
  /-- a body that moves awaits nothing then, or what it has just issued -/
  movers : ∀ n, e.moves n → (r'.pc n).call? = none
    ∨ r'.calls = book ++ [Status.running] ∧ (r'.pc n).call? = some book.length
      ∧ ∀ m, e.moves m → m = n
  /-- a body that awaited a completion moves by a delivery, or is cut off from it -/
  leaves : ∀ n, e.moves n → (r.pc n).call? ≠ none →
    e = .deliver n ∨ e = .error n ∨ e = .deadline n ∨ e = .abort

theorem goto_call? (r : Run) {n m : Node} (p : Pc) (h : m ≠ n) :
    ((r.goto n p).pc m).call? = (r.pc m).call? := by
  simp [goto, h]

/-- Moving a body to where it awaits nothing. -/
theorem callsDid_goto {r : Run} {e : Event} {n : Node} {p : Pc} (hp : p.call? = none)
    (hb : Booked r e r.calls r.guard.spent) (hm : ∀ m, e.moves m ↔ m = n)
    (hl : (r.pc n).call? = none ∨ e = .error n ∨ e = .deadline n) :
    CallsDid r e (r.goto n p) r.calls where
  booked := hb
  ceiling := rfl
  issued := .inl rfl
  others := fun m h => goto_call? r p (fun he => h ((hm m).mpr he))
  movers := fun m h => by
    obtain rfl := (hm m).mp h
    exact .inl (by simpa [goto] using hp)
  leaves := fun m h hc => by
    obtain rfl := (hm m).mp h
    rcases hl with hl | hl | hl
    · exact absurd hl hc
    · exact .inr (.inl hl)
    · exact .inr (.inr (.inl hl))

/-- A slice from a run `r₀` that differs from `r` in its books alone. -/
theorem Slice.callsDid {r r₀ r' : Run} {e : Event} {n : Node} {before : ℕ}
    (hs : Slice r₀ n before r') (hpc : r₀.pc = r.pc) (hc : r₀.guard.ceiling = r.guard.ceiling)
    (hb : Booked r e r₀.calls r₀.guard.spent) (hm : ∀ m, e.moves m ↔ m = n)
    (hl : (r.pc n).call? = none ∨ e = .deliver n ∨ e = .error n) :
    CallsDid r e r' r₀.calls := by
  have hleaves : ∀ m, e.moves m → (r.pc m).call? ≠ none →
      e = .deliver m ∨ e = .error m ∨ e = .deadline m ∨ e = .abort := by
    intro m h hne
    obtain rfl := (hm m).mp h
    rcases hl with hl | hl | hl
    · exact absurd hl hne
    · exact .inl hl
    · exact .inr (.inl hl)
  cases hs with
  | issue turn hlt =>
    exact ⟨hb, hc, .inr ⟨rfl, hlt⟩,
      fun m h => by rw [goto_call? _ _ (fun he => h ((hm m).mpr he)), ← hpc],
      fun m h => .inr ⟨rfl, by
        obtain rfl := (hm m).mp h
        simp [goto, Pc.call?], fun m' h' => ((hm m').mp h').trans ((hm m).mp h).symm⟩,
      hleaves⟩
  | rest p hp =>
    have hnone : p.call? = none := by
      rcases hp with ⟨turn, left, rfl⟩ | rfl | rfl <;> rfl
    exact ⟨hb, hc, .inl rfl,
      fun m h => by rw [goto_call? _ _ (fun he => h ((hm m).mpr he)), ← hpc],
      fun m h => .inl (by
        obtain rfl := (hm m).mp h
        simpa [goto] using hnone),
      hleaves⟩

/-- **Every step does this to the completions.** -/
theorem did_calls {r r' : Run} {e : Event} (hr : r.Staged) (hd : Did r e r') :
    ∃ book, CallsDid r e r' book := by
  have hself : ∀ n m : Node, m = n ↔ m = n := fun _ _ => Iff.rfl
  cases hd with
  | connecting h =>
    exact ⟨_, callsDid_goto rfl (.same (by simp) (by simp)) (hself _) (.inl (by rw [h]; rfl))⟩
  | begun h hs =>
    exact ⟨_, hs.callsDid rfl rfl (.same (by simp) (by simp)) (hself _) (.inl (by rw [h]; rfl))⟩
  | connected h hs =>
    exact ⟨_, hs.callsDid rfl rfl (.same (by simp) (by simp)) (hself _) (.inl (by rw [h]; rfl))⟩
  | provider h =>
    exact ⟨_, .finish h, rfl, .inl rfl, fun _ _ => rfl, fun _ h => h.elim, fun _ h => h.elim⟩
  | delivered h hm hs =>
    refine ⟨_, hs.callsDid rfl (BudgetGuard.recordCall_ceiling _ _) ?_ (hself _)
      (.inr (.inl rfl))⟩
    rw [show ∀ k m, (r.record k m).guard.spent = r.guard.spent + costOf m.usage from
      fun _ _ => BudgetGuard.recordCall_spent _ _]
    exact .record (by rw [h]; rfl) hm
  | answered h hs =>
    exact ⟨_, hs.callsDid rfl rfl (.same (by simp) (by simp)) (hself _) (.inl (by rw [h]; rfl))⟩
  | refused h =>
    exact ⟨_, callsDid_goto rfl (.same (by simp) (by simp)) (hself _) (.inr (.inl rfl))⟩
  | erred h hs =>
    exact ⟨_, hs.callsDid rfl rfl (.same (by simp) (by simp)) (hself _) (.inr (.inr rfl))⟩
  | toolErred h =>
    exact ⟨_, callsDid_goto rfl (.same (by simp) (by simp)) (hself _) (.inr (.inl rfl))⟩
  | cut h =>
    exact ⟨_, callsDid_goto rfl (.same (by simp) (by simp)) (hself _) (.inr (.inr rfl))⟩
  | barrier h hne =>
    -- nobody awaits a completion at a barrier: the super-step's bodies are settled, the rest idle
    have hnone : ∀ n, (r.pc n).call? = none := fun n => by
      by_cases hn : n ∈ r.phase.nodes
      · exact Pc.call?_of_settled (h n hn)
      · exact Pc.call?_of_isIdle (hr n hn)
    have hnone' : ∀ n, (r.barrier.pc n).call? = none := fun n => by
      cases hph : r.phase <;> simp only [barrier, hph, goto, close, Function.update_apply]
      case workers => split_ifs <;> first | rfl | exact hnone n
      all_goals split_ifs <;> first | rfl | exact hnone n
    have hg : r.barrier.guard = r.guard := by
      cases hph : r.phase <;> simp only [barrier, hph] <;> rfl
    have hc : r.barrier.calls = r.calls := by
      cases hph : r.phase <;> simp only [barrier, hph] <;> rfl
    refine ⟨r.calls, ?_, by rw [hg], .inl hc, fun n _ => by rw [hnone, hnone'],
      fun _ h => h.elim, fun _ h => h.elim⟩
    rw [hg]
    exact .same (by simp) (by simp)
  | aborted h =>
    refine ⟨r.calls, .same (by simp) (by simp), rfl, .inl rfl, fun _ h => absurd trivial h,
      fun n _ => ?_, fun _ _ _ => .inr (.inr (.inr rfl))⟩
    refine .inl ?_
    by_cases hn : n ∈ r.phase.nodes
    · simp [close, hn, Pc.call?]
    · simp only [close, hn, if_false]
      exact Pc.call?_of_isIdle (hr n hn)

theorem Booked.length {r : Run} {e : Event} {book : List Status} {spent : ℕ}
    (h : Booked r e book spent) : book.length = r.calls.length := by
  cases h <;> simp

namespace CallsDid

variable {r r' : Run} {e : Event} {book : List Status}

theorem length_le (h : CallsDid r e r' book) : r.calls.length ≤ r'.calls.length := by
  have hl := h.booked.length
  rcases h.issued with hi | ⟨hi, -⟩ <;> simp [hi, hl]

theorem spent_le (h : CallsDid r e r' book) : r.guard.spent ≤ r'.guard.spent := by
  have hb := h.booked
  generalize r'.guard.spent = spent at hb ⊢
  cases hb <;> omega

/-- A completion issued before the step stands in the books as the step leaves it. -/
theorem calls_getElem? (h : CallsDid r e r' book) {k : ℕ} (hk : k < r.calls.length) :
    r'.calls[k]? = book[k]? := by
  have hl := h.booked.length
  rcases h.issued with hi | ⟨hi, -⟩
  · rw [hi]
  · rw [hi, List.getElem?_append_left (by omega)]

/-- A step that issues a completion issues it below the ceiling. -/
theorem below_of_issued (h : CallsDid r e r' book) (hlt : r.calls.length < r'.calls.length) :
    r'.guard.spent < r'.guard.ceiling := by
  have hl := h.booked.length
  rcases h.issued with hi | ⟨-, hi⟩
  · rw [hi, hl] at hlt
    exact absurd hlt (lt_irrefl _)
  · exact hi

/-- A completion finished after the step was finished before it, or by it. -/
theorem finished_of_finished (h : CallsDid r e r' book) {k : ℕ} {m : Message}
    (hk : r'.calls[k]? = some (.finished m)) :
    k < r.calls.length ∧ book[k]? = some (.finished m) := by
  have hl := h.booked.length
  rcases h.issued with hi | ⟨hi, -⟩
  · rw [hi] at hk
    obtain ⟨hlt, -⟩ := List.getElem?_eq_some_iff.mp hk
    exact ⟨by omega, hk⟩
  · rw [hi, List.getElem?_append] at hk
    split at hk
    · exact ⟨by omega, hk⟩
    · rcases hj : k - book.length with _ | j <;> simp [hj] at hk

end CallsDid

/-! ## Each completion is awaited by at most one body -/

/-- What is awaited has been issued, and by one body. -/
structure Tracked (r : Run) : Prop where
  inRange : ∀ n k, (r.pc n).call? = some k → k < r.calls.length
  distinct : ∀ n m k, (r.pc n).call? = some k → (r.pc m).call? = some k → n = m

theorem start_call? (g : BudgetGuard) (q : String) (n : Node) :
    ((Run.start g q).pc n).call? = none := by
  simp only [start]
  split <;> rfl

theorem start_tracked (g : BudgetGuard) (q : String) : (Run.start g q).Tracked where
  inRange := fun n k h => by rw [start_call?] at h; cases h
  distinct := fun n m k h => by rw [start_call?] at h; cases h

/-- What is awaited after a step was awaited before it, or is the completion the step issued. -/
theorem CallsDid.call?_cases {r r' : Run} {e : Event} {book : List Status}
    (h : CallsDid r e r' book) {n : Node} {k : ℕ} (hn : (r'.pc n).call? = some k) :
    (¬ e.moves n ∧ (r.pc n).call? = some k)
      ∨ (r'.calls.length = r.calls.length + 1 ∧ k = r.calls.length ∧ e.moves n
          ∧ ∀ m, e.moves m → m = n) := by
  by_cases hm : e.moves n
  · rcases h.movers n hm with h' | ⟨hi, h', hu⟩
    · rw [h'] at hn
      cases hn
    · rw [h', Option.some.injEq] at hn
      have hl := h.booked.length
      exact .inr ⟨by simp [hi, hl], by omega, hm, hu⟩
  · exact .inl ⟨hm, by rw [← h.others n hm]; exact hn⟩

theorem CallsDid.tracked {r r' : Run} {e : Event} {book : List Status}
    (h : CallsDid r e r' book) (hr : r.Tracked) : r'.Tracked where
  inRange := fun n k hn => by
    rcases h.call?_cases hn with ⟨-, h'⟩ | ⟨hi, rfl, -⟩
    · exact lt_of_lt_of_le (hr.inRange n k h') h.length_le
    · omega
  distinct := fun n m k hn hm => by
    rcases h.call?_cases hn with ⟨-, hn'⟩ | ⟨-, hk, hmov, -⟩ <;>
      rcases h.call?_cases hm with ⟨-, hm'⟩ | ⟨-, hk', -, hu⟩
    · exact hr.distinct n m k hn' hm'
    · exact absurd (hr.inRange n k hn') (by omega)
    · exact absurd (hr.inRange m k hm') (by omega)
    · exact hu n hmov

/-! ## Accounting for the bill -/

/-- What the provider bills for completion `k`. -/
def billOf (r : Run) (k : ℕ) : ℕ := ((r.calls[k]?).map Status.bill).getD 0

/-- What the guard was charged for completion `k`. -/
def chargedOf (r : Run) (k : ℕ) : ℕ := ((r.calls[k]?).map Status.charged).getD 0

/-- **The provider's total bill for the run.** -/
def bill (r : Run) : ℕ := ∑ k ∈ Finset.range r.calls.length, r.billOf k

/-- All that the guard was charged. -/
def charged (r : Run) : ℕ := ∑ k ∈ Finset.range r.calls.length, r.chargedOf k

/-- What the books of a step have charged for each completion. -/
theorem Booked.charged {r : Run} {e : Event} {book : List Status} {spent : ℕ}
    (h : Booked r e book spent) :
    ∑ k ∈ Finset.range book.length, ((book[k]?).map Status.charged).getD 0 + r.guard.spent
      = r.charged + spent := by
  cases h with
  | same _ _ => rfl
  | @finish k m hk =>
    rw [List.length_set, Run.charged, Nat.add_right_cancel_iff]
    refine Finset.sum_congr rfl fun j _ => ?_
    rw [chargedOf, List.getElem?_set]
    split_ifs with hjk hlt
    · subst hjk
      simp [hk, Status.charged]
    · subst hjk
      simp [hlt]
    · rfl
  | @record n k m hn hk =>
    obtain ⟨hlt, hkv⟩ := List.getElem?_eq_some_iff.mp hk
    have hj : ∀ j ∈ Finset.range r.calls.length,
        (((r.calls.set k (.recorded m))[j]?).map Status.charged).getD 0
          = r.chargedOf j + if j = k then costOf m.usage else 0 := by
      intro j _
      rw [chargedOf, List.getElem?_set]
      by_cases hjk : k = j
      · subst hjk
        simp [hkv, hlt, Status.charged]
      · simp [hjk, Ne.symm hjk]
    rw [List.length_set, Finset.sum_congr rfl hj, Finset.sum_add_distrib, Finset.sum_ite_eq',
      if_pos (Finset.mem_range.mpr hlt), Run.charged]
    omega

/-- **Every charge is the bill of one recorded completion.** -/
theorem CallsDid.charged {r r' : Run} {e : Event} {book : List Status}
    (h : CallsDid r e r' book) : r'.charged + r.guard.spent = r.charged + r'.guard.spent := by
  rw [← h.booked.charged, Nat.add_right_cancel_iff]
  rcases h.issued with hi | ⟨hi, -⟩
  · simp only [Run.charged, chargedOf, hi]
  · have hj : ∀ j ∈ Finset.range book.length,
        (((book ++ [Status.running])[j]?).map Status.charged).getD 0
          = ((book[j]?).map Status.charged).getD 0 := fun j hj => by
      rw [List.getElem?_append_left (Finset.mem_range.mp hj)]
    simp only [Run.charged, chargedOf, hi, List.length_append, List.length_singleton,
      Finset.sum_range_succ, Finset.sum_congr rfl hj]
    simp [Status.charged]

/-! ## Completions nobody will record -/

/-- Whether the completion body `n` awaits has finished and been billed. -/
def answered (r : Run) (n : Node) : Bool :=
  match (r.pc n).call? with
  | some k => (r.calls[k]?).any fun
    | .finished _ => true
    | _ => false
  | none => false

theorem answered_iff {r : Run} {n : Node} :
    r.answered n ↔ ∃ k m, (r.pc n).call? = some k ∧ r.calls[k]? = some (.finished m) := by
  unfold answered
  rcases (r.pc n).call? with _ | k
  · simp
  · rcases hk : r.calls[k]? with _ | st
    · simp [hk]
    · cases st <;> simp [hk]

/-- **A step that loses no completion**: the provider finishes only what a body still awaits, and a
body is not cut, nor fails, between a completion's end and its resuming. -/
def Attended (r : Run) : Event → Prop
  | .provider k _ => ∃ n, (r.pc n).call? = some k
  | .deadline n | .error n => ¬ r.answered n
  | .abort => ∀ n, ¬ r.answered n
  | _ => True

instance (r : Run) : (e : Event) → Decidable (r.Attended e)
  | .provider _ _ => inferInstanceAs (Decidable (∃ _, _ = _))
  | .deadline _ | .error _ => inferInstanceAs (Decidable (¬ _))
  | .abort => inferInstanceAs (Decidable (∀ _, ¬ _))
  | .begin _ | .connected | .deliver _ | .toolResult | .barrier => inferInstanceAs (Decidable True)

/-- **No completion is lost yet**: each finished one is still awaited. -/
def Live (r : Run) : Prop :=
  ∀ k m, r.calls[k]? = some (.finished m) → ∃ n, (r.pc n).call? = some k

/-- A finished completion that nobody awaits. -/
def Lost (r : Run) : Prop :=
  ∃ k m, r.calls[k]? = some (.finished m) ∧ ∀ n, (r.pc n).call? ≠ some k

theorem CallsDid.live {r r' : Run} {e : Event} {book : List Status} (h : CallsDid r e r' book)
    (ha : r.Attended e) (hr : r.Live) : r'.Live := by
  intro k m hk
  obtain ⟨-, hb⟩ := h.finished_of_finished hk
  -- a body that awaits a finished completion moves only by a delivery
  have hstay : ∀ n, (r.pc n).call? = some k → r.calls[k]? = some (.finished m) → e ≠ .deliver n →
      ∃ n, (r'.pc n).call? = some k := by
    intro n hn hkf hd
    have hans : r.answered n := answered_iff.mpr ⟨k, m, hn, hkf⟩
    by_cases hm : e.moves n
    · rcases h.leaves n hm (by rw [hn]; simp) with rfl | rfl | rfl | rfl
      · exact absurd rfl hd
      · exact absurd hans ha
      · exact absurd hans ha
      · exact absurd hans (ha n)
    · exact ⟨n, by rw [h.others n hm]; exact hn⟩
  have hbk := h.booked
  generalize r'.guard.spent = spent at hbk
  cases hbk with
  | same hp hd =>
    obtain ⟨n, hn⟩ := hr k m hb
    exact hstay n hn hb (hd n)
  | @finish k₀ m₀ hk₀ =>
    by_cases hkk : k₀ = k
    · subst hkk
      obtain ⟨n, hn⟩ := ha
      exact ⟨n, by rw [h.others n id]; exact hn⟩
    · rw [List.getElem?_set_ne hkk] at hb
      obtain ⟨n, hn⟩ := hr k m hb
      exact hstay n hn hb nofun
  | @record n₀ k₀ m₀ hn₀ hk₀ =>
    by_cases hkk : k₀ = k
    · subst hkk
      obtain ⟨hlt, -⟩ := List.getElem?_eq_some_iff.mp hk₀
      rw [List.getElem?_set_self hlt] at hb
      cases hb
    · rw [List.getElem?_set_ne hkk] at hb
      obtain ⟨n, hn⟩ := hr k m hb
      refine hstay n hn hb fun hd => hkk ?_
      obtain rfl : n₀ = n := by injection hd
      exact Option.some.inj (hn₀.symm.trans hn)

/-- A completion nobody awaits keeps its status, unless the provider finishes it, and is not awaited
again. -/
theorem CallsDid.unawaited {r r' : Run} {e : Event} {book : List Status}
    (h : CallsDid r e r' book) {k : ℕ} (hk : k < r.calls.length)
    (hnone : ∀ n, (r.pc n).call? ≠ some k)
    (hp : ∀ m, e = .provider k m → r.calls[k]? ≠ some .running) :
    r'.calls[k]? = r.calls[k]? ∧ ∀ n, (r'.pc n).call? ≠ some k := by
  refine ⟨?_, fun n hn => ?_⟩
  · rw [h.calls_getElem? hk]
    have hbk := h.booked
    generalize r'.guard.spent = spent at hbk
    cases hbk with
    | same _ _ => rfl
    | @finish k₀ m₀ hk₀ =>
      refine List.getElem?_set_ne ?_
      rintro rfl
      exact hp m₀ rfl hk₀
    | @record n₀ k₀ m₀ hn₀ hk₀ =>
      refine List.getElem?_set_ne ?_
      rintro rfl
      exact hnone n₀ hn₀
  · rcases h.call?_cases hn with ⟨-, hn'⟩ | ⟨-, hk', -⟩
    · exact hnone n hn'
    · omega

/-- **What is lost stays lost.** -/
theorem CallsDid.lost {r r' : Run} {e : Event} {book : List Status} (h : CallsDid r e r' book)
    (hr : r.Lost) : r'.Lost := by
  obtain ⟨k, m, hk, hnone⟩ := hr
  obtain ⟨hlt, -⟩ := List.getElem?_eq_some_iff.mp hk
  obtain ⟨hk', hnone'⟩ := h.unawaited hlt hnone (fun _ _ hrun => by rw [hk] at hrun; cases hrun)
  exact ⟨k, m, hk'.trans hk, hnone'⟩

/-- …and a step that is not attended loses one. -/
theorem CallsDid.lost_of_not_attended {r r' : Run} {e : Event} {book : List Status}
    (h : CallsDid r e r' book) (hr : r.Tracked) (ha : ¬ r.Attended e) : r'.Lost := by
  -- the body that is cut off awaited a completion nobody else does
  have hcut : ∀ n, e.moves n → (∀ k m, e ≠ .provider k m) → (∀ n, e ≠ .deliver n) →
      r.answered n → r'.Lost := by
    intro n hm hp hd hans
    obtain ⟨k, m, hn, hk⟩ := answered_iff.mp hans
    refine ⟨k, m, ?_, fun n' hn' => ?_⟩
    · rw [h.calls_getElem? (hr.inRange n k hn)]
      have hbk := h.booked
      generalize r'.guard.spent = spent at hbk
      cases hbk with
      | same _ _ => exact hk
      | @finish k₀ m₀ _ => exact absurd rfl (hp k₀ m₀)
      | @record n₀ _ _ _ _ => exact absurd rfl (hd n₀)
    · rcases h.call?_cases hn' with ⟨hm', hn'⟩ | ⟨-, hk', -⟩
      · exact hm' (hr.distinct n n' k hn hn' ▸ hm)
      · have := hr.inRange n k hn
        omega
  cases e with
  | provider k m =>
    have hnone : ∀ n, (r.pc n).call? ≠ some k := fun n hn => ha ⟨n, hn⟩
    have hbk := h.booked
    generalize r'.guard.spent = spent at hbk
    cases hbk with
    | same hp _ => exact absurd rfl (hp k m)
    | finish hk =>
      obtain ⟨hlt, -⟩ := List.getElem?_eq_some_iff.mp hk
      refine ⟨k, m, ?_, fun n hn => hnone n ?_⟩
      · rw [h.calls_getElem? hlt, List.getElem?_set_self hlt]
      · rwa [h.others n id] at hn
  | deadline n => exact hcut n rfl nofun nofun (by simpa [Attended] using ha)
  | error n => exact hcut n rfl nofun nofun (by simpa [Attended] using ha)
  | abort =>
    obtain ⟨n, hn⟩ : ∃ n, r.answered n := by simpa [Attended] using ha
    exact hcut n trivial nofun nofun hn
  | _ => exact absurd trivial ha

/-! ## Whole runs -/

/-- What holds in every state of a run on guard `g`. -/
structure Sound (g : BudgetGuard) (r : Run) : Prop where
  staged : r.Staged
  tracked : r.Tracked
  ceiling : r.guard.ceiling = g.ceiling
  spent : r.guard.spent = g.spent + r.charged

theorem start_sound (g : BudgetGuard) (q : String) : (Run.start g q).Sound g where
  staged := start_staged g q
  tracked := start_tracked g q
  ceiling := rfl
  spent := rfl

/-- A step keeps what holds in every state; what it does to the completions comes with it. -/
theorem Sound.step {g : BudgetGuard} {r r' : Run} {e : Event} (hr : r.Sound g)
    (h : r.step e = some r') : r'.Sound g ∧ ∃ book, CallsDid r e r' book := by
  have hd := did_of_step h
  obtain ⟨book, hb⟩ := did_calls hr.staged hd
  have hcharged := hb.charged
  have hspent := hr.spent
  exact ⟨⟨staged_did hr.staged hd, hb.tracked hr.tracked, hb.ceiling.trans hr.ceiling, by omega⟩,
    book, hb⟩

theorem sound_of_exec {g : BudgetGuard} {q : String} {es : List Event} {r : Run}
    (h : exec step (Run.start g q) es = some r) : r.Sound g :=
  exec_invariant (fun hs he => (hs.step he).1) (start_sound g q) h

/-- Along attended steps no completion is lost. -/
theorem live_of_attended {g : BudgetGuard} {q : String} {es : List Event} {r : Run}
    (h : exec step (Run.start g q) es = some r)
    (ha : Throughout step Attended (Run.start g q) es) : r.Live := by
  have hstart : (Run.start g q).Live := fun k m hk => by simp [start] at hk
  exact (exec_invariant_of_throughout (I := fun r => r.Sound g ∧ r.Live) (fun ha hr he => by
    obtain ⟨hs', _, hb⟩ := hr.1.step he
    exact ⟨hs', hb.live ha hr.2⟩) ha ⟨start_sound g q, hstart⟩ h).2

/-- A run that takes a step that is not attended has lost a completion. -/
theorem lost_of_not_attended {g : BudgetGuard} {q : String} {es : List Event} {r : Run}
    (h : exec step (Run.start g q) es = some r)
    (ha : ¬ Throughout step Attended (Run.start g q) es) : r.Lost := by
  obtain ⟨t, e, t', ht, hn⟩ := exists_takes_of_not_throughout h ha
  obtain ⟨es₁, es₂, -, h₁, h₂, h₃⟩ := ht.rest h
  obtain ⟨hs', _, hb⟩ := (sound_of_exec h₁).step h₂
  have hlost := hb.lost_of_not_attended (sound_of_exec h₁).tracked hn
  exact (exec_invariant (I := fun r => r.Sound g ∧ r.Lost) (fun hr he => by
    obtain ⟨hs', _, hb⟩ := hr.1.step he
    exact ⟨hs', hb.lost hr.2⟩) ⟨hs', hlost⟩ h₃).2

/-- Once the run is over nobody awaits a completion. -/
theorem Staged.call?_eq_none {r : Run} (hr : r.Staged) (h : r.phase.nodes = []) (n : Node) :
    (r.pc n).call? = none := Pc.call?_of_isIdle (hr n (by simp [h]))

/-- Without finished completions the provider bills what the guard was charged. -/
theorem billOf_eq_chargedOf {r : Run} {k : ℕ} (h : ∀ m, r.calls[k]? ≠ some (.finished m)) :
    r.billOf k = r.chargedOf k := by
  unfold billOf chargedOf
  rcases hk : r.calls[k]? with _ | st
  · rfl
  · cases st with
    | finished m => exact absurd hk (h m)
    | _ => rfl

/-- The completions some body awaits. -/
def inFlight (r : Run) : Finset ℕ :=
  (Finset.range r.calls.length).filter fun k => ∃ n, (r.pc n).call? = some k

/-- **What the ceiling promises of a run** that ends in `r`. -/
structure WithinCeiling (g : BudgetGuard) (q : String) (es : List Event) (r : Run) : Prop where
  /-- no completion is issued once the recorded spend is at the ceiling -/
  starts_below : ∀ s e s', Takes step (Run.start g q) es s e s' →
    s.calls.length < s'.calls.length → s'.guard.spent < g.ceiling
  /-- every finished completion is recorded… -/
  recorded : ∀ (k : ℕ) (m : Message), r.calls[k]? ≠ some (Status.finished m)
  /-- …and once: the guard's increase is the bill -/
  once : r.guard.spent = g.spent + r.bill
  /-- a run that stays below the ceiling bills less than it -/
  below : r.guard.spent < g.ceiling → g.spent + r.bill < g.ceiling
  /-- one that crosses it bills less than it and what was in flight -/
  overshoot : ∀ s e s', Takes step (Run.start g q) es s e s' → s.guard.spent < g.ceiling →
    g.ceiling ≤ s'.guard.spent → g.spent + r.bill < g.ceiling + ∑ k ∈ s.inFlight, r.billOf k

/-- From the ceiling on no completion is issued. -/
theorem calls_length_of_ceiling {g : BudgetGuard} {s t : Run} {es : List Event} (hs : s.Sound g)
    (hc : g.ceiling ≤ s.guard.spent) (h : exec step s es = some t) :
    t.calls.length = s.calls.length := by
  refine (exec_invariant (I := fun r => r.Sound g ∧ g.ceiling ≤ r.guard.spent
    ∧ r.calls.length = s.calls.length) ?_ ⟨hs, hc, rfl⟩ h).2.2
  rintro r e r' ⟨hr, hc, hl⟩ he
  obtain ⟨hr', book, hb⟩ := hr.step he
  have hle : r.guard.spent ≤ r'.guard.spent := hb.spent_le
  have hceil := hr'.ceiling
  have hnot : ¬ r.calls.length < r'.calls.length := fun hlt => by
    have := hb.below_of_issued hlt
    omega
  have hlen := hb.length_le
  exact ⟨hr', by omega, by omega⟩

/-- Along attended steps a completion nobody awaits keeps its status. -/
theorem calls_of_unawaited {g : BudgetGuard} {s t : Run} {es : List Event} (hs : s.Sound g)
    (ha : Throughout step Attended s es) (h : exec step s es = some t) {k : ℕ}
    (hk : k < s.calls.length) (hnone : ∀ n, (s.pc n).call? ≠ some k) :
    t.calls[k]? = s.calls[k]? := by
  refine (exec_invariant_of_throughout (I := fun r => r.Sound g ∧ r.calls[k]? = s.calls[k]?
    ∧ ∀ n, (r.pc n).call? ≠ some k) ?_ ha ⟨hs, rfl, hnone⟩ h).2.1
  rintro r e r' ha ⟨hr, hc, hn⟩ he
  obtain ⟨hr', book, hb⟩ := hr.step he
  have hlt : k < r.calls.length := by
    rw [List.getElem?_eq_getElem hk] at hc
    exact (List.getElem?_eq_some_iff.mp hc).1
  have hp : ∀ m, e = .provider k m → r.calls[k]? ≠ some .running := by
    rintro m rfl
    obtain ⟨n, hn'⟩ := ha
    exact absurd hn' (hn n)
  obtain ⟨hk', hn'⟩ := hb.unawaited hlt hn hp
  exact ⟨hr', hk'.trans hc, hn'⟩

/-- Nor is one issued by the step that reaches it. -/
theorem calls_length_of_crossing {g : BudgetGuard} {s t r : Run} {e : Event} {es : List Event}
    (hs : s.Sound g) (he : s.step e = some t) (hc : g.ceiling ≤ t.guard.spent)
    (h : exec step t es = some r) : r.calls.length = s.calls.length := by
  obtain ⟨ht, book, hb⟩ := hs.step he
  have hrest := calls_length_of_ceiling ht hc h
  have hnot : ¬ s.calls.length < t.calls.length := fun hlt => by
    have := hb.below_of_issued hlt
    have := ht.ceiling
    omega
  have := hb.length_le
  omega

/-- **Along attended steps** the bill of a completion that nobody awaits stands as it is charged. -/
theorem billOf_le_of_attended {g : BudgetGuard} {s r : Run} {es : List Event} (hs : s.Sound g)
    (hlive : ∀ (k : ℕ) (m : Message), s.calls[k]? = some (Status.finished m) →
      ∃ n, (s.pc n).call? = some k)
    (ha : Throughout step Attended s es) (h : exec step s es = some r) {k : ℕ}
    (hk : k < s.calls.length) :
    r.billOf k ≤ s.chargedOf k + if ∃ n, (s.pc n).call? = some k then r.billOf k else 0 := by
  split_ifs with hw
  · omega
  · have hnone : ∀ n, (s.pc n).call? ≠ some k := fun n hn => hw ⟨n, hn⟩
    have hsame := calls_of_unawaited hs ha h hk hnone
    have hnf : ∀ m, s.calls[k]? ≠ some (.finished m) := fun m hm => hw (hlive k m hm)
    rw [← billOf_eq_chargedOf hnf, billOf, billOf, hsame]
    omega

/-- **The crossing**: what is billed beyond the spend before it was in flight then. -/
theorem bill_le_of_crossing {g : BudgetGuard} {s t r : Run} {e : Event} {es : List Event}
    (hs : s.Sound g)
    (hlive : ∀ (k : ℕ) (m : Message), s.calls[k]? = some (Status.finished m) →
      ∃ n, (s.pc n).call? = some k)
    (ha : Throughout step Attended s (e :: es)) (he : s.step e = some t)
    (hc : g.ceiling ≤ t.guard.spent) (h : exec step t es = some r) :
    r.bill ≤ s.charged + ∑ k ∈ s.inFlight, r.billOf k := by
  have hrun : exec step s (e :: es) = some r := exec_cons_eq_some.mpr ⟨t, he, h⟩
  have hsum := Finset.sum_le_sum fun k hk =>
    billOf_le_of_attended hs hlive ha hrun (Finset.mem_range.mp hk)
  rw [Finset.sum_add_distrib, ← Finset.sum_filter] at hsum
  rw [bill, calls_length_of_crossing hs he hc h]
  exact hsum

/-- **The ceiling holds exactly of the runs that lose no completion.** -/
theorem withinCeiling_iff (g : BudgetGuard) (q : String) (es : List Event) (r : Run)
    (h : exec step (Run.start g q) es = some r) (hend : r.phase.nodes = []) :
    WithinCeiling g q es r ↔ Throughout step Attended (Run.start g q) es := by
  have hr := sound_of_exec h
  refine ⟨fun hw => ?_, fun ha => ?_⟩
  · by_contra hn
    obtain ⟨k, m, hk, -⟩ := lost_of_not_attended h hn
    exact hw.recorded k m hk
  · have hlive := live_of_attended h ha
    have hrec : ∀ (k : ℕ) (m : Message), r.calls[k]? ≠ some (Status.finished m) := fun k m hk => by
      obtain ⟨n, hn⟩ := hlive k m hk
      rw [hr.staged.call?_eq_none hend n] at hn
      cases hn
    have hbill : r.bill = r.charged :=
      Finset.sum_congr rfl fun k _ => billOf_eq_chargedOf (hrec k)
    have hspent := hr.spent
    refine ⟨fun s e s' ht hlt => ?_, hrec, by omega, by omega, fun s e s' ht hlt hge => ?_⟩
    · obtain ⟨es₁, es₂, -, h₁, h₂, -⟩ := ht.rest h
      obtain ⟨hs', book, hb⟩ := (sound_of_exec h₁).step h₂
      rw [← hs'.ceiling]
      exact hb.below_of_issued hlt
    · obtain ⟨es₁, es₂, rfl, h₁, h₂, h₃⟩ := ht.rest h
      have hs := sound_of_exec h₁
      have hle := bill_le_of_crossing hs (live_of_attended h₁ ha.left) (ha.right h₁) h₂ hge h₃
      have hspent' := hs.spent
      omega

/-- Both workers cross a ceiling of 2,000, the retrieval node's second completion in flight, and
synthesis is refused. -/
def crossingRun : List Event :=
  [.begin .retrievalAgent, .begin .apiAgent, .connected, .provider 0 (answer 1000 true),
    .deliver .retrievalAgent, .provider 1 (answer 1000 true), .deliver .apiAgent,
    .provider 2 (answer 1000 true), .deliver .retrievalAgent, .barrier, .begin .synthesisAgent,
    .abort]

theorem withinCeiling_docsRun :
    ∃ r, exec step (Run.start ⟨2000, 0, by decide⟩ "refund policy") crossingRun = some r ∧
      r.guard.spent = 4500 ∧ WithinCeiling ⟨2000, 0, by decide⟩ "refund policy" crossingRun r := by
  have hend : (exec step (Run.start ⟨2000, 0, by decide⟩ "refund policy") crossingRun).map
      (fun r => (r.phase.nodes, r.guard.spent)) = some ([], 4500) := by decide
  obtain ⟨r, hr, hvals⟩ := Option.map_eq_some_iff.mp hend
  obtain ⟨hnodes, hspent⟩ := Prod.mk.inj hvals
  exact ⟨r, hr, hspent, (withinCeiling_iff _ _ _ r hr hnodes).mpr (by decide)⟩

/-- The retrieval node's deadline fires while its pipeline generates in a thread, which finishes. -/
def orphanRun : List Event :=
  [.begin .retrievalAgent, .provider 0 (answer 1000 true), .deliver .retrievalAgent,
    .deadline .retrievalAgent, .provider 1 (answer 1000 true), .barrier, .begin .synthesisAgent,
    .provider 2 (answer 1000 true), .deliver .synthesisAgent, .barrier]

/-- **A billed completion goes unrecorded**: 4,500 billed, 3,000 recorded. -/
theorem orphan_unrecorded :
    ¬ ∀ (g : BudgetGuard) (q : String) (es : List Event) (r : Run),
      exec step (Run.start g q) es = some r → r.phase.nodes = [] → WithinCeiling g q es r := by
  intro h
  have hrun : (exec step (Run.start ⟨100000, 0, by decide⟩ "tax policy") orphanRun).map
      (fun r => (r.phase.nodes, r.guard.spent, r.bill)) = some ([], 3000, 4500) := by decide
  obtain ⟨r, hr, hvals⟩ := Option.map_eq_some_iff.mp hrun
  simp only [Prod.mk.injEq] at hvals
  obtain ⟨hnodes, hspent, hbill⟩ := hvals
  have h' := (h _ _ _ r hr hnodes).once
  rw [hspent, hbill] at h'
  exact absurd h' (by decide)

end Run

end Agent
