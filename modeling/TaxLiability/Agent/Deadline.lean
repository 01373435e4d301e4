import Mathlib.Algebra.Order.Ring.Rat
import Mathlib.Data.List.Forall2
import TaxLiability.Machinery.Dict
import TaxLiability.Machinery.Objects

/-!
# Agent/Deadline — a node body under its budget

    body ──returns──▸ contribution
         ──raises───▸ raised            TimeoutError ──▸ { a copy of the sentinel }
         ──expires──▸ cancelled ──▸ TimeoutError ──▸ ┘

The wrapper knows its own timeout by the type of the exception, which is also the type a body may
raise; and the copy is of the sentinel's fields alone, so what a field holds is in every copy.  What
is left for the wrapper to be faithful is `Distinguishable` and a sentinel that holds no mutable
object, unless no two invocations miss the budget (`deadline_faithful_iff`).
-/

open Objects

namespace Agent.Deadline

/-! ## Values and objects -/

/-- A value: immutable, with its parts if it is a tuple, or the address of a mutable object. -/
inductive Value
  | immutable (text : String) (parts : List Value)
  | ref (addr : ℕ)

mutual

/-- The mutable objects a value holds. -/
def Value.refs : Value → List ℕ
  | .immutable _ parts => refsList parts
  | .ref addr => [addr]

def refsList : List Value → List ℕ
  | [] => []
  | v :: vs => v.refs ++ refsList vs

end

/-- A mutable object. -/
inductive Obj
  | dict (fields : Dict String Value)
  | list (items : List Value)

/-- The mutable objects an object holds. -/
def Obj.refs : Obj → List ℕ
  | .dict fields => refsList (fields.map Prod.snd)
  | .list items => refsList items

/-! ## The body -/

/-- What is raised. -/
inductive Exc
  /-- the builtin `TimeoutError` or a subclass of it, whoever raises it -/
  | timeoutError (detail : String)
  | cancelledError
  | other (detail : String)

/-- How a body ends. -/
inductive Ending
  | returned (contribution : Value)
  | raised (e : Exc)

/-- **A node body under way**: when and how it ends if nothing cancels it (`none` is never), and how
it ends when it is cancelled first. -/
structure Body where
  time : Option ℚ
  ending : Ending
  onCancel : Ending
  time_nonneg : ∀ t ∈ time, 0 ≤ t

/-- **The body finishes within the budget.**  The timer wins a tie. -/
def Body.FinishesWithin (b : Body) (seconds : ℚ) : Prop := ∃ t ∈ b.time, t < seconds

instance (b : Body) (seconds : ℚ) : Decidable (b.FinishesWithin seconds) :=
  inferInstanceAs (Decidable (∃ t ∈ b.time, t < seconds))

/-- **`asyncio.wait_for`**: what the body does, or when the timer comes first, what it does about
being cancelled, a cancellation it lets through being a `TimeoutError` to the caller. -/
def waitFor (b : Body) (seconds : ℚ) : Ending :=
  -- a budget that is not positive cancels the body before its first step
  if seconds ≤ 0 then .raised (.timeoutError "")
  else if b.FinishesWithin seconds then b.ending
  else
    match b.onCancel with
    | .raised .cancelledError => .raised (.timeoutError "")
    | ending => ending

/-! ## The wrapper -/

/-- What a node's span is tagged with. -/
structure Tag where
  deadline_exceeded : Bool
  limit_s : ℚ
  deriving DecidableEq

/-- What an invocation ends with. -/
inductive Result
  | contribution (v : Value)
  | sentinel (copy : ℕ) (tag : Option Tag)
  | raised (e : Exc)

/-- A body's own end, as an invocation's. -/
def Ending.result : Ending → Result
  | .returned v => .contribution v
  | .raised e => .raised e

/-- **The arguments of the decorator.**  The sentinel's own dict is held by nothing else, so it is
its fields. -/
structure Decorator where
  seconds : ℚ
  sentinel : Dict String Value

/-- **The wrapper.** -/
def wrapper (D : Decorator) (run : Bool) (b : Body) (h : Heap Obj) : Result × Heap Obj :=
  match waitFor b D.seconds with
  | .returned v => (.contribution v, h)
  | .raised (.timeoutError _) =>
    let (copy, h) := h.alloc (.dict D.sentinel)
    (.sentinel copy (if run then some ⟨true, D.seconds⟩ else none), h)
  | .raised e => (.raised e, h)

/-- One invocation: its body, whether a run is being traced, and what else happens to the objects
before it ends. -/
structure Invocation where
  body : Body
  run : Bool
  effects : Effects Obj

/-- **The invocations of a node, in the order they end**, each with the objects there are then. -/
def invocations (D : Decorator) : Heap Obj → List Invocation → List (Result × Heap Obj)
  | _, [] => []
  | h, i :: is =>
    let x := wrapper D i.run i.body (i.effects.apply h)
    x :: invocations D x.2 is

/-! ## Faithfulness -/

/-- A fresh dict with the fields of the sentinel. -/
def ReturnsSentinel (D : Decorator) (x : Result × Heap Obj) : Prop :=
  ∃ copy tag, x.1 = .sentinel copy tag ∧ x.2.objects copy = .dict D.sentinel

/-- **An invocation is faithful to its body.** -/
structure Faithful (D : Decorator) (b : Body) (x : Result × Heap Obj) : Prop where
  sentinel_iff : ReturnsSentinel D x ↔ ¬ b.FinishesWithin D.seconds
  own : b.FinishesWithin D.seconds → x.1 = b.ending.result

/-- **Two invocations return sentinels that share mutable state**, at some depth. -/
def Shares (x y : Result × Heap Obj) : Prop :=
  ∃ c t c' t' a, x.1 = .sentinel c t ∧ y.1 = .sentinel c' t' ∧
    Reach Obj.refs x.2 c a ∧ Reach Obj.refs y.2 c' a

/-- **The body's end can be told from the budget's**: it raises no `TimeoutError` in time, and lets
the cancellation through. -/
structure Distinguishable (seconds : ℚ) (b : Body) : Prop where
  inTime : b.FinishesWithin seconds → ∀ detail, b.ending ≠ .raised (.timeoutError detail)
  expired : 0 < seconds → ¬ b.FinishesWithin seconds →
    b.onCancel = .raised .cancelledError ∨ ∃ detail, b.onCancel = .raised (.timeoutError detail)

variable {D : Decorator} {b : Body} {run : Bool} {h : Heap Obj} {seconds : ℚ}

/-! ## What `wait_for` raises -/

theorem pos_of_finishesWithin (hin : b.FinishesWithin seconds) : 0 < seconds := by
  obtain ⟨t, ht, hlt⟩ := hin
  exact lt_of_le_of_lt (b.time_nonneg t ht) hlt

/-- In time, the body's end is the wait's. -/
theorem waitFor_of_finishesWithin (hin : b.FinishesWithin seconds) :
    waitFor b seconds = b.ending := by
  rw [waitFor, if_neg (not_le.mpr (pos_of_finishesWithin hin)), if_pos hin]

/-- Past the budget, it is a `TimeoutError` exactly when the body lets the cancellation through. -/
theorem waitFor_expired_iff (hout : ¬ b.FinishesWithin seconds) :
    (∃ detail, waitFor b seconds = .raised (.timeoutError detail)) ↔
      (0 < seconds → b.onCancel = .raised .cancelledError
        ∨ ∃ detail, b.onCancel = .raised (.timeoutError detail)) := by
  rw [waitFor, if_neg hout]
  split
  case isTrue hle => simp [not_lt.mpr hle]
  case isFalse hlt =>
    split
    case h_1 hcancel => simp [hcancel]
    case h_2 hcancel =>
      have hne : b.onCancel ≠ .raised .cancelledError := hcancel
      simp [not_le.mp hlt, hne]

/-- **The sentinel is returned on a `TimeoutError`**, whosever it is. -/
theorem returnsSentinel_iff : ReturnsSentinel D (wrapper D run b h) ↔
    ∃ detail, waitFor b D.seconds = .raised (.timeoutError detail) := by
  rw [wrapper]
  split
  case h_1 v hwait => simp [ReturnsSentinel, hwait]
  case h_2 detail hwait => simp [ReturnsSentinel, hwait]
  case h_3 e hne hwait => simpa [ReturnsSentinel, hwait] using hne

/-- …and anything else is passed on. -/
theorem wrapper_eq_result
    (hne : ¬ ∃ detail, waitFor b D.seconds = .raised (.timeoutError detail)) :
    wrapper D run b h = ((waitFor b D.seconds).result, h) := by
  rw [wrapper]
  split
  case h_1 v hwait => rw [hwait, Ending.result]
  case h_2 detail hwait => exact absurd ⟨detail, hwait⟩ hne
  case h_3 e _ hwait => rw [hwait, Ending.result]

/-- **An invocation is faithful exactly when its body's end can be told from the budget's.** -/
theorem faithful_iff : Faithful D b (wrapper D run b h) ↔ Distinguishable D.seconds b := by
  by_cases hin : b.FinishesWithin D.seconds
  · have hwait : waitFor b D.seconds = b.ending := waitFor_of_finishesWithin hin
    constructor
    · rintro ⟨hsentinel, -⟩
      refine ⟨fun _ detail hending => ?_, fun _ hout => absurd hin hout⟩
      exact hsentinel.mp (returnsSentinel_iff.mpr ⟨detail, hwait.trans hending⟩) hin
    · rintro ⟨htime, -⟩
      have hne : ¬ ∃ detail, waitFor b D.seconds = .raised (.timeoutError detail) := by
        rintro ⟨detail, h⟩
        exact htime hin detail (hwait.symm.trans h)
      refine ⟨iff_of_false (fun h => hne (returnsSentinel_iff.mp h)) (not_not.mpr hin), fun _ => ?_⟩
      rw [wrapper_eq_result hne, hwait]
  · constructor
    · rintro ⟨hsentinel, -⟩
      refine ⟨fun h => absurd h hin, fun hpos _ => ?_⟩
      exact (waitFor_expired_iff hin).mp (returnsSentinel_iff.mp (hsentinel.mpr hin)) hpos
    · rintro ⟨-, hexpired⟩
      refine ⟨iff_of_true ?_ hin, fun h => absurd h hin⟩
      exact returnsSentinel_iff.mpr ((waitFor_expired_iff hin).mpr fun hpos => hexpired hpos hin)

/-! ## Along the invocations -/

/-- The invocations are faithful exactly when each of their bodies can be told from its budget. -/
theorem forall₂_faithful_iff {is : List Invocation} :
    List.Forall₂ (fun i x => Faithful D i.body x) is (invocations D h is) ↔
      ∀ i ∈ is, Distinguishable D.seconds i.body := by
  induction is generalizing h with
  | nil => simp [invocations]
  | cons i is ih => simp only [invocations, List.forall₂_cons, faithful_iff, ih,
      List.forall_mem_cons]

/-- Objects are only added. -/
theorem next_le_wrapper : h.next ≤ (wrapper D run b h).2.next := by
  rw [wrapper]
  split
  · exact Nat.le_refl _
  · exact Nat.le_succ _
  · exact Nat.le_refl _

/-- **The copy is fresh, and holds what the sentinel does.** -/
theorem sentinel_of_wrapper {copy : ℕ} {tag : Option Tag}
    (hx : (wrapper D run b h).1 = .sentinel copy tag) :
    h.next = copy ∧ copy < (wrapper D run b h).2.next
      ∧ (wrapper D run b h).2.objects copy = .dict D.sentinel := by
  rw [wrapper] at hx ⊢
  split at hx
  case h_1 => cases hx
  case h_2 hwait =>
    cases hx
    exact ⟨rfl, Nat.lt_succ_self _, alloc_objects_self⟩
  case h_3 => cases hx

/-- What is returned comes of one of the invocations, over the objects there were by then. -/
theorem exists_invocation {is : List Invocation} {x : Result × Heap Obj}
    (hx : x ∈ invocations D h is) :
    ∃ i ∈ is, ∃ h' : Heap Obj, h.next ≤ h'.next ∧ x = wrapper D i.run i.body h' := by
  induction is generalizing h with
  | nil => cases hx
  | cons i is ih =>
    rcases List.mem_cons.mp hx with rfl | hx
    · exact ⟨i, List.mem_cons_self, i.effects.apply h, i.effects.grows h, rfl⟩
    · obtain ⟨j, hj, h', hle, rfl⟩ := ih hx
      refine ⟨j, List.mem_cons_of_mem i hj, h', ?_, rfl⟩
      exact (i.effects.grows h).trans (next_le_wrapper.trans hle)

/-- …and each of them returns something. -/
theorem exists_result {is : List Invocation} {i : Invocation} (hi : i ∈ is) :
    ∃ h' : Heap Obj, wrapper D i.run i.body h' ∈ invocations D h is := by
  induction is generalizing h with
  | nil => cases hi
  | cons j is ih =>
    rcases List.mem_cons.mp hi with rfl | hi
    · exact ⟨i.effects.apply h, List.mem_cons_self⟩
    · obtain ⟨h', hmem⟩ := ih hi
      exact ⟨h', List.mem_cons_of_mem _ hmem⟩

/-! ## Sharing -/

/-- The mutable objects the fields of the sentinel hold. -/
def Decorator.refs (D : Decorator) : List ℕ := (Obj.dict D.sentinel).refs

/-- Where the sentinel holds no mutable object, a copy is all that can be reached from it. -/
theorem eq_of_reach_copy (hrefs : D.refs = []) {copy a : ℕ} {tag : Option Tag}
    (hx : (wrapper D run b h).1 = .sentinel copy tag)
    (hreach : Reach Obj.refs (wrapper D run b h).2 copy a) : a = copy := by
  refine eq_of_reach ?_ hreach
  rw [(sentinel_of_wrapper hx).2.2]
  exact hrefs

/-- …so no two invocations share anything. -/
theorem pairwise_of_refs_nil (hrefs : D.refs = []) {is : List Invocation} :
    (invocations D h is).Pairwise fun x y => ¬ Shares x y := by
  induction is generalizing h with
  | nil => exact List.Pairwise.nil
  | cons i is ih =>
    refine List.pairwise_cons.mpr ⟨?_, ih⟩
    rintro y hy ⟨c, t, c', t', a, hc, hc', ha, ha'⟩
    obtain ⟨j, -, h', hle, rfl⟩ := exists_invocation hy
    have hlt := (sentinel_of_wrapper hc).2.1
    have hge := (sentinel_of_wrapper hc').1
    have heq : c = c' := (eq_of_reach_copy hrefs hc ha).symm.trans (eq_of_reach_copy hrefs hc' ha')
    omega

/-- **Every copy of a sentinel reaches the objects it holds.** -/
theorem shares_of_mem_refs {a : ℕ} (ha : a ∈ D.refs) {x y : Result × Heap Obj}
    (hx : ReturnsSentinel D x) (hy : ReturnsSentinel D y) : Shares x y := by
  obtain ⟨c, t, hc, hobj⟩ := hx
  obtain ⟨c', t', hc', hobj'⟩ := hy
  refine ⟨c, t, c', t', a, hc, hc', reach_of_mem ?_, reach_of_mem ?_⟩
  · rw [hobj]
    exact ha
  · rw [hobj']
    exact ha

/-- A result that is no sentinel shares nothing. -/
theorem not_shares {x y : Result × Heap Obj}
    (hxy : (∀ copy tag, x.1 ≠ .sentinel copy tag) ∨ ∀ copy tag, y.1 ≠ .sentinel copy tag) :
    ¬ Shares x y := by
  rintro ⟨c, t, c', t', -, hc, hc', -⟩
  rcases hxy with hx | hy
  · exact hx c t hc
  · exact hy c' t' hc'

/-- A body that can be told from its budget and finishes within it has no sentinel. -/
theorem ne_sentinel (hdist : Distinguishable D.seconds b) (hin : b.FinishesWithin D.seconds)
    (copy : ℕ) (tag : Option Tag) : (wrapper D run b h).1 ≠ .sentinel copy tag := by
  have hown : (wrapper D run b h).1 = b.ending.result := (faithful_iff.mpr hdist).own hin
  rw [hown]
  cases b.ending <;> simp [Ending.result]

/-- **Where the sentinel holds a mutable object, nothing is shared exactly when no two invocations
miss the budget.** -/
theorem pairwise_iff_of_mem_refs {a : ℕ} (ha : a ∈ D.refs) {is : List Invocation}
    (hdist : ∀ i ∈ is, Distinguishable D.seconds i.body) :
    ((invocations D h is).Pairwise fun x y => ¬ Shares x y) ↔
      is.Pairwise fun i j =>
        i.body.FinishesWithin D.seconds ∨ j.body.FinishesWithin D.seconds := by
  induction is generalizing h with
  | nil => simp [invocations]
  | cons i is ih =>
    obtain ⟨hi, his⟩ := List.forall_mem_cons.mp hdist
    rw [invocations, List.pairwise_cons, List.pairwise_cons, ih his]
    refine and_congr_left fun _ => ⟨fun hshare j hj => ?_, fun hin y hy => ?_⟩
    · obtain ⟨h', hmem⟩ := exists_result (D := D) hj
      by_contra hout
      obtain ⟨hi_out, hj_out⟩ := not_or.mp hout
      exact hshare _ hmem (shares_of_mem_refs ha ((faithful_iff.mpr hi).sentinel_iff.mpr hi_out)
        ((faithful_iff.mpr (his j hj)).sentinel_iff.mpr hj_out))
    · obtain ⟨j, hj, h', -, rfl⟩ := exists_invocation hy
      refine not_shares ?_
      rcases hin j hj with hi_in | hj_in
      · exact .inl (ne_sentinel hi hi_in)
      · exact .inr (ne_sentinel (his j hj) hj_in)

/-- **The wrapper is faithful, and its sentinels share no mutable state, exactly when** every body's
end can be told from the budget's and the sentinel holds no mutable object, or no two invocations
miss the budget. -/
theorem deadline_faithful_iff (D : Decorator) (h : Heap Obj) (is : List Invocation) :
    (List.Forall₂ (fun i x => Faithful D i.body x) is (invocations D h is)
      ∧ (invocations D h is).Pairwise fun x y => ¬ Shares x y) ↔
    (∀ i ∈ is, Distinguishable D.seconds i.body)
      ∧ (D.refs = [] ∨ is.Pairwise fun i j =>
          i.body.FinishesWithin D.seconds ∨ j.body.FinishesWithin D.seconds) := by
  rw [forall₂_faithful_iff]
  refine and_congr_right fun hdist => ?_
  rcases hrefs : D.refs with _ | ⟨a, rest⟩
  · exact iff_of_true (pairwise_of_refs_nil hrefs) (.inl rfl)
  · have ha : a ∈ D.refs := hrefs ▸ List.mem_cons_self
    rw [pairwise_iff_of_mem_refs ha hdist]
    simp

/-! ## The three nodes -/

/-- `{"docs": []}`, the list at its address. -/
def retrievalSentinel (docs : ℕ) : Dict String Value := [("docs", .ref docs)]

/-- `{"tool_results": {}}` -/
def apiSentinel (tool_results : ℕ) : Dict String Value := [("tool_results", .ref tool_results)]

/-- `{"answer": timeout_answer}`, a text. -/
def synthesisSentinel (timeout_answer : String) : Dict String Value :=
  [("answer", .immutable timeout_answer [])]

/-- Only the answer node's sentinel holds no mutable object. -/
theorem refs_sentinels (seconds : ℚ) (addr : ℕ) (timeout_answer : String) :
    Decorator.refs ⟨seconds, retrievalSentinel addr⟩ = [addr]
      ∧ Decorator.refs ⟨seconds, apiSentinel addr⟩ = [addr]
      ∧ Decorator.refs ⟨seconds, synthesisSentinel timeout_answer⟩ = [] := ⟨rfl, rfl, rfl⟩

/-- The retrieval node, its sentinel's list the one object there is. -/
def retrieval : Decorator := ⟨3, retrievalSentinel 0⟩

def loaded : Heap Obj := ⟨1, fun _ => .list []⟩

/-- A body whose database times out after one second. -/
def databaseTimeout : Body :=
  ⟨some 1, .raised (.timeoutError "connection"), .raised .cancelledError, by simp⟩

/-- A body that never ends. -/
def hangs : Body := ⟨none, .raised .cancelledError, .raised .cancelledError, by simp⟩

/-- **The retrieval node returns its sentinel for a body that finished within the three seconds, and
one list in the sentinels of two that did not.** -/
theorem retrieval_unfaithful :
    ¬ Faithful retrieval databaseTimeout (wrapper retrieval false databaseTimeout loaded)
      ∧ ¬ (invocations retrieval loaded [⟨hangs, false, .none⟩, ⟨hangs, false, .none⟩]).Pairwise
        fun x y => ¬ Shares x y := by
  have hin : databaseTimeout.FinishesWithin retrieval.seconds := by decide
  have hout : ¬ hangs.FinishesWithin retrieval.seconds := by decide
  constructor
  · intro h
    exact (faithful_iff.mp h).inTime hin "connection" rfl
  · intro h
    have hdist : ∀ i ∈ [Invocation.mk hangs false .none, ⟨hangs, false, .none⟩],
        Distinguishable retrieval.seconds i.body := by
      intro i hi
      obtain rfl : i = ⟨hangs, false, .none⟩ := by simpa using hi
      exact ⟨fun hwithin => absurd hwithin hout, fun _ _ => .inl rfl⟩
    have hpair := (pairwise_iff_of_mem_refs List.mem_cons_self hdist).mp h
    simp [hout] at hpair

end Agent.Deadline
