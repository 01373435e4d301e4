import Mathlib.Algebra.BigOperators.Group.List.Basic
import TaxLiability.Orders.Atomic

/-!
# Orders/OrderRepository — what the tables say of an order, and of a key

The reads are counts and sums over the committed rows.  After any run of the ledger the rows are
those of the calls that have committed one of their own, each once (`refunds_perm`); so an order is
refunded what its creators asked for, in cents, and the calls answered with another's row add
nothing (`refunded_eq`).
-/

open Machine

namespace Orders

/-- A row of `orders`. -/
structure OrderRow where
  orderId : String
  tenantId : String
  total : BigDecimal
  status : String
  deriving DecidableEq, Repr

/-- The primary key. -/
def OrderRow.key (row : OrderRow) : String × String := (row.orderId, row.tenantId)

/-- **The view of an order.** -/
@[ext]
structure OrderView where
  orderId : String
  tenantId : String
  total : String
  status : String
  orderId_notBlank : ¬ Java.IsBlank orderId
  tenantId_notBlank : ¬ Java.IsBlank tenantId
  status_notBlank : ¬ Java.IsBlank status

instance : DecidableEq OrderView := fun _ _ => decidable_of_iff' _ OrderView.ext_iff

/-- **`OrderView.of`.** -/
def OrderView.of (orderId tenantId : String) (total : BigDecimal) (status : String) :
    Except OrdersException OrderView :=
  if h₁ : Java.IsBlank orderId then .error (.illegalArgument "orderId must not be blank")
  else if h₂ : Java.IsBlank tenantId then .error (.illegalArgument "tenantId must not be blank")
  else if h₃ : Java.IsBlank status then .error (.illegalArgument "status must not be blank")
  else .ok ⟨orderId, tenantId, Money.render total, status, h₁, h₂, h₃⟩

/-- **The two tables.** -/
structure Tables where
  orders : List OrderRow
  refunds : List RefundRow

/-- The rows of an order that were refunded. -/
def refundsOf (refunds : List RefundRow) (orderId tenantId : String) : List RefundRow :=
  refunds.filter fun row => row.orderId = orderId ∧ row.tenantId = tenantId

namespace Tables

/-- **`findByIdForTenant`**: the one row of the key. -/
def findByIdForTenant (t : Tables) (orderId tenantId : String) :
    Except OrdersException (Option OrderView) :=
  match t.orders.filter fun row => row.orderId = orderId ∧ row.tenantId = tenantId with
  | [] => .ok none
  | [row] => (OrderView.of row.orderId row.tenantId row.total row.status).map some
  | _ => .error .dataAccess

/-- **`existsForTenant`.** -/
def existsForTenant (t : Tables) (orderId tenantId : String) : Bool :=
  0 < (t.orders.filter fun row => row.orderId = orderId ∧ row.tenantId = tenantId).length

/-- **`refundedTotal`**: `COALESCE(SUM(amount), 0)`, at two places. -/
def refundedTotal (t : Tables) (orderId tenantId : String) : BigDecimal :=
  (((refundsOf t.refunds orderId tenantId).map (·.amount)).foldl BigDecimal.add ⟨0, 0⟩).setScale
    Money.SCALE

/-- **`countForOrder`.** -/
def countForOrder (t : Tables) (orderId tenantId : String) : ℕ :=
  (refundsOf t.refunds orderId tenantId).length

/-- **`countForIdempotencyKey`.** -/
def countForIdempotencyKey (t : Tables) (tenantId idempotencyKey : String) : ℕ :=
  (t.refunds.filter fun row =>
    row.tenantId = tenantId ∧ row.idempotencyKey = idempotencyKey).length

end Tables

/-! ## Sums in cents -/

/-- Amounts at two places add up in cents. -/
theorem foldl_add_eq {amounts : List BigDecimal} (h : ∀ x ∈ amounts, x.scale = Money.SCALE)
    (cents : ℤ) : amounts.foldl BigDecimal.add ⟨cents, Money.SCALE⟩
      = ⟨cents + (amounts.map (·.unscaled)).sum, Money.SCALE⟩ := by
  induction amounts generalizing cents with
  | nil => simp
  | cons x amounts ih =>
    have hx : x.scale = Money.SCALE := h x List.mem_cons_self
    have hadd : BigDecimal.add ⟨cents, Money.SCALE⟩ x = ⟨cents + x.unscaled, Money.SCALE⟩ := by
      simp [BigDecimal.add, hx]
    rw [List.foldl_cons, hadd, ih fun y hy => h y (List.mem_cons_of_mem x hy), List.map_cons,
      List.sum_cons, add_assoc]

/-- **The total of an order is its rows' cents**, if they are all at two places. -/
theorem refundedTotal_eq {t : Tables} (h : ∀ row ∈ t.refunds, row.amount.scale = Money.SCALE)
    (orderId tenantId : String) : t.refundedTotal orderId tenantId
      = ⟨((refundsOf t.refunds orderId tenantId).map (·.amount.unscaled)).sum, Money.SCALE⟩ := by
  unfold Tables.refundedTotal
  have hrows : ∀ x ∈ (refundsOf t.refunds orderId tenantId).map (·.amount),
      x.scale = Money.SCALE := by
    intro x hx
    obtain ⟨row, hrow, rfl⟩ := List.mem_map.mp hx
    exact h row (List.mem_of_mem_filter hrow)
  generalize hamounts : (refundsOf t.refunds orderId tenantId).map (·.amount) = amounts at hrows
  have hcents : (refundsOf t.refunds orderId tenantId).map (·.amount.unscaled)
      = amounts.map (·.unscaled) := by
    rw [← hamounts, List.map_map]
    rfl
  rw [hcents]
  cases amounts with
  | nil => rfl
  | cons x amounts =>
    have hx : x.scale = Money.SCALE := hrows x List.mem_cons_self
    have hadd : BigDecimal.add ⟨0, 0⟩ x = ⟨x.unscaled, Money.SCALE⟩ := by
      simp [BigDecimal.add, hx, Money.SCALE]
    rw [List.foldl_cons, hadd, foldl_add_eq fun y hy => hrows y (List.mem_cons_of_mem x hy),
      List.map_cons, List.sum_cons]
    exact BigDecimal.setScale_self _

/-! ## Whose rows they are -/

/-- The call an event moves. -/
def Event.call : Event → Option ℕ
  | .order _ _ => none
  | .request i _ _ _ _ | .existsForTenant i | .insertIfAbsent i _ | .findByIdempotencyKey i
  | .commit i | .abort i => some i

namespace Ledger

/-- **A step moves its own call only.** -/
theorem Does.frame {s t : Ledger} {e : Event} (h : Does s e t) {i : ℕ} (hi : e.call ≠ some i) :
    t.calls i = s.calls i := by
  have hne : ∀ {j : ℕ}, some j ≠ some i → i ≠ j := fun h heq => h (congrArg some heq.symm)
  cases h with
  | ordered _ _ => rfl
  | readBack _ =>
    unfold Ledger.readBack
    split
    · exact goto_ne _ _ (hne hi)
    · unfold orFail
      split <;> exact goto_ne _ _ (hne hi)
    · exact goto_ne _ _ (hne hi)
  | malformed _ _ => exact goto_ne _ _ (hne hi)
  | begun _ _ => exact goto_ne _ _ (hne hi)
  | absent _ _ => exact goto_ne _ _ (hne hi)
  | worthless _ _ _ => exact goto_ne _ _ (hne hi)
  | checked _ _ _ => exact goto_ne _ _ (hne hi)
  | unstorable _ _ => exact goto_ne _ _ (hne hi)
  | refused _ _ _ => exact goto_ne _ _ (hne hi)
  | idTaken _ _ _ _ => exact goto_ne _ _ (hne hi)
  | unviewable _ _ _ _ _ => exact goto_ne _ _ (hne hi)
  | inserted _ _ _ _ _ _ _ => exact goto_ne _ _ (hne hi)
  | committed _ => exact goto_ne _ _ (hne hi)
  | aborted _ _ => exact goto_ne _ _ (hne hi)

/-- A call no event moves is where it was. -/
theorem calls_eq_of_exec {s t : Ledger} {es : List Event} {i : ℕ}
    (hes : ∀ e ∈ es, e.call ≠ some i) (h : exec step s es = some t) :
    t.calls i = s.calls i := by
  induction es generalizing s with
  | nil =>
    cases h
    rfl
  | cons e es ih =>
    obtain ⟨m, hm, h⟩ := exec_cons_eq_some.mp h
    rw [ih (fun e' he' => hes e' (List.mem_cons_of_mem e he')) h,
      (does_of_step hm).frame (hes e List.mem_cons_self)]

/-- **The refund a call is about** is the one its request began, from then on. -/
theorem Does.refundOf_eq {s t : Ledger} {e : Event} (h : Does s e t) {i : ℕ} {c : Refund}
    (hc : refundOf (t.calls i) = some c) : refundOf (s.calls i) = some c
      ∨ ∃ headerKey body, e = .request i c.orderId c.tenantId headerKey body
        ∧ CreateRefundRequest.effective c.orderId headerKey body = .ok c.request := by
  by_cases hi : e.call = some i
  case neg => exact .inl (h.frame hi ▸ hc)
  case pos =>
    -- a call that fails is about nothing, and any other stays with its refund
    have hmoved : ∀ {call : Call} {c' : Refund}, refundOf call = some c' →
        refundOf ((s.goto i call).calls i) = some c → c' = c := by
      intro call c' hcall hc
      rw [goto_self, hcall] at hc
      exact Option.some.inj hc
    have hfailed : ∀ {e : OrdersException}, refundOf ((s.goto i (.failed e)).calls i) ≠ some c := by
      intro e
      rw [goto_self]
      exact nofun
    cases h with
    | ordered _ _ => cases hi
    | malformed _ _ => cases hi; exact absurd hc hfailed
    | @begun _ orderId tenantId headerKey body request _ hrequest =>
      cases hi
      obtain rfl := hmoved rfl hc
      exact .inr ⟨headerKey, body, rfl, hrequest⟩
    | absent _ _ => cases hi; exact absurd hc hfailed
    | worthless _ _ _ => cases hi; exact absurd hc hfailed
    | checked h₀ _ _ => cases hi; exact .inl (hmoved rfl hc ▸ h₀ ▸ rfl)
    | unstorable _ _ => cases hi; exact absurd hc hfailed
    | refused h₀ _ _ => cases hi; exact .inl (hmoved rfl hc ▸ h₀ ▸ rfl)
    | idTaken _ _ _ _ => cases hi; exact absurd hc hfailed
    | unviewable _ _ _ _ _ => cases hi; exact absurd hc hfailed
    | inserted h₀ _ _ _ _ _ _ => cases hi; exact .inl (hmoved rfl hc ▸ h₀ ▸ rfl)
    | readBack h₀ =>
      cases hi
      unfold Ledger.readBack at hc
      split at hc
      · exact absurd hc hfailed
      · next row _ =>
        cases hview : row.view with
        | error e =>
          rw [hview] at hc
          exact absurd hc hfailed
        | ok view =>
          rw [hview] at hc
          exact .inl (hmoved rfl hc ▸ h₀ ▸ rfl)
      · exact absurd hc hfailed
    | committed h₀ => cases hi; exact .inl (hmoved rfl hc ▸ h₀ ▸ rfl)
    | aborted _ _ => cases hi; exact absurd hc hfailed

/-- **Every refund a call is about was requested**, before the run or in it. -/
theorem requested_of_exec {s t : Ledger} {es : List Event} {i : ℕ} {c : Refund}
    (h : exec step s es = some t) (hc : refundOf (t.calls i) = some c) :
    refundOf (s.calls i) = some c
      ∨ ∃ headerKey body, Event.request i c.orderId c.tenantId headerKey body ∈ es
        ∧ CreateRefundRequest.effective c.orderId headerKey body = .ok c.request := by
  induction es generalizing s with
  | nil =>
    cases h
    exact .inl hc
  | cons e es ih =>
    obtain ⟨m, hm, h⟩ := exec_cons_eq_some.mp h
    obtain hcall | ⟨headerKey, body, hmem, hrequest⟩ := ih h
    · obtain hold | ⟨headerKey, body, rfl, hrequest⟩ := (does_of_step hm).refundOf_eq hcall
      · exact .inl hold
      · exact .inr ⟨headerKey, body, List.mem_cons_self, hrequest⟩
    · exact .inr ⟨headerKey, body, List.mem_cons_of_mem e hmem, hrequest⟩

/-- **The rows of the calls below `n`** that have answered with one of their own, by call. -/
def rowsMade (s : Ledger) (n : ℕ) : List RefundRow :=
  (List.range n).filterMap fun i => made (s.calls i)

/-- **The ledger holds the rows of the calls that made one**, each once. -/
theorem Sound.refunds_perm {s : Ledger} (hs : s.Sound) {n : ℕ}
    (hidle : ∀ i, n ≤ i → s.calls i = .idle) : s.refunds.Perm (s.rowsMade n) := by
  have hnodup : (s.rowsMade n).Nodup := by
    refine List.Nodup.filterMap (fun i j row hi hj => ?_) List.nodup_range
    exact hs.makers i j row row hi hj rfl
  refine (List.perm_ext_iff_of_nodup (hs.refunds_nodup.of_map _) hnodup).mpr fun row => ?_
  constructor
  · intro hrow
    obtain ⟨i, hi⟩ := hs.created row hrow
    have hin : i < n := by
      by_contra hle
      rw [hidle i (not_lt.mp hle)] at hi
      cases hi
    exact List.mem_filterMap.mpr ⟨i, List.mem_range.mpr hin, hi⟩
  · intro hrow
    obtain ⟨i, -, hi⟩ := List.mem_filterMap.mp hrow
    exact hs.made_mem hi

/-- **What a call has refunded of an order**, in cents: what it asked for, if it has inserted its
row; and nothing if it was answered with another's. -/
def refundedBy (orderId tenantId : String) : Call → Option ℤ
  | .answered c (some _) _ =>
    if c.orderId = orderId ∧ c.tenantId = tenantId then
      match Money.normalise c.request.amount with
      | .ok amount => some amount.unscaled
      | .error _ => none
    else none
  | _ => none

/-- A call that has made a row has refunded the row's amount, of the row's order. -/
theorem Sound.refundedBy_eq {s : Ledger} (hs : s.Sound) (i : ℕ) (orderId tenantId : String) :
    refundedBy orderId tenantId (s.calls i)
      = ((made (s.calls i)).filter fun row =>
          row.orderId = orderId ∧ row.tenantId = tenantId).map (·.amount.unscaled) := by
  have hcall := hs.calls i
  match hi : s.calls i with
  | .answered c (some row) view =>
    rw [hi] at hcall
    obtain ⟨-, hown, -⟩ := hcall
    have horder : row.orderId = c.orderId := hown.orderId
    have htenant : row.tenantId = c.tenantId := congrArg Prod.fst hown.key
    simp only [refundedBy, made, Option.filter_some, horder, htenant, hown.amount]
    split <;> simp_all
  | .answered c none view => rfl
  | .idle | .begun _ | .checked _ _ | .refused _ | .returning _ _ _ | .failed _ => rfl

/-- What the calls have refunded of an order is in the rows they made. -/
theorem Sound.filterMap_refundedBy {s : Ledger} (hs : s.Sound) (n : ℕ)
    (orderId tenantId : String) :
    (List.range n).filterMap (fun i => refundedBy orderId tenantId (s.calls i))
      = (refundsOf (s.rowsMade n) orderId tenantId).map (·.amount.unscaled) := by
  rw [refundsOf, rowsMade, List.filter_filterMap, List.map_filterMap]
  exact List.filterMap_congr fun i _ => hs.refundedBy_eq i orderId tenantId

/-- The amounts are at two places. -/
theorem Sound.scale_eq {s : Ledger} (hs : s.Sound) {row : RefundRow} (h : row ∈ s.refunds) :
    row.amount.scale = Money.SCALE := by
  obtain ⟨i, hi⟩ := hs.created row h
  obtain ⟨c, view, hcall⟩ := eq_answered_of_made hi
  have hsound := hs.calls i
  rw [hcall] at hsound
  have hamount := hsound.2.1.amount
  unfold Money.normalise at hamount
  split_ifs at hamount
  rw [← Except.ok.inj hamount]
  exact BigDecimal.setScale_scale _ _

/-- **Refunds are conserved.**  After any run of calls below `n`, whatever was retried, lost or
raced: an order is refunded the sum of what its creators asked for, rounded to cents, and counts as
many refunds; and a key counts one refund if a call of its tenant has committed a row of its own
under it, whether the call got to know or not, else none. -/
theorem refunded_eq {es : List Event} {s : Ledger} {n : ℕ} (h : exec step start es = some s)
    (hes : ∀ e ∈ es, ∀ i ∈ e.call, i < n) (orders : List OrderRow) :
    (∀ orderId tenantId,
        Tables.refundedTotal ⟨orders, s.refunds⟩ orderId tenantId
          = ⟨((List.range n).filterMap fun i =>
              refundedBy orderId tenantId (s.calls i)).sum, Money.SCALE⟩
        ∧ Tables.countForOrder ⟨orders, s.refunds⟩ orderId tenantId
          = ((List.range n).filterMap fun i =>
              refundedBy orderId tenantId (s.calls i)).length)
      ∧ ∀ tenantId idempotencyKey,
        Tables.countForIdempotencyKey ⟨orders, s.refunds⟩ tenantId idempotencyKey ≤ 1
        ∧ (Tables.countForIdempotencyKey ⟨orders, s.refunds⟩ tenantId idempotencyKey = 1
          ↔ ∃ i c row view, s.calls i = .answered c (some row) view
              ∧ c.key = (tenantId, idempotencyKey)) := by
  have hs := sound_of_exec h
  have hidle : ∀ i, n ≤ i → s.calls i = .idle := fun i hi =>
    calls_eq_of_exec (fun e he hcall => absurd (hes e he i hcall) (not_lt.mpr hi)) h
  refine ⟨fun orderId tenantId => ?_, fun tenantId idempotencyKey => ?_⟩
  · have hperm : ((refundsOf s.refunds orderId tenantId).map (·.amount.unscaled)).Perm
        ((List.range n).filterMap fun i => refundedBy orderId tenantId (s.calls i)) := by
      rw [hs.filterMap_refundedBy]
      exact ((hs.refunds_perm hidle).filter _).map _
    rw [refundedTotal_eq fun row hrow => hs.scale_eq hrow, hperm.sum_eq, ← hperm.length_eq,
      List.length_map]
    exact ⟨rfl, rfl⟩
  · have hfound : s.refunds.filter (fun row =>
        row.tenantId = tenantId ∧ row.idempotencyKey = idempotencyKey)
        = s.findKey (tenantId, idempotencyKey) :=
      List.filter_congr fun row _ => decide_eq_decide.mpr Prod.mk_inj.symm
    rw [Tables.countForIdempotencyKey, hfound]
    have hmade : ∀ row ∈ s.refunds, row.key = (tenantId, idempotencyKey) →
        ∃ i c row view, s.calls i = .answered c (some row) view
          ∧ c.key = (tenantId, idempotencyKey) := by
      intro row hrow hkey
      obtain ⟨i, hi⟩ := hs.created row hrow
      obtain ⟨c, view, hcall⟩ := eq_answered_of_made hi
      have hsound := hs.calls i
      rw [hcall] at hsound
      exact ⟨i, c, row, view, hcall, hsound.2.1.key.symm.trans hkey⟩
    match hrows : s.findKey (tenantId, idempotencyKey) with
    | [] =>
      refine ⟨Nat.zero_le 1, iff_of_false nofun ?_⟩
      rintro ⟨i, c, row, view, hcall, hkey⟩
      have hsound := hs.calls i
      rw [hcall] at hsound
      obtain ⟨hrow, hown, -⟩ := hsound
      have hone := hs.findKey hrow
      rw [hown.key, hkey, hrows] at hone
      cases hone
    | row :: rows =>
      obtain ⟨hrow, hkey⟩ := List.mem_filter.mp (hrows ▸ List.mem_cons_self)
      have hone := hs.findKey hrow
      rw [of_decide_eq_true hkey, hrows] at hone
      rw [hone]
      exact ⟨Nat.le_refl 1, iff_of_true rfl (hmade row hrow (of_decide_eq_true hkey))⟩

/-- The race of two calls under one key refunds the order ten dollars, once. -/
theorem refunded_docsRun : ∃ s, exec step start docsRun = some s
    ∧ Tables.refundedTotal ⟨[], s.refunds⟩ "ord-1" "tenant-a" = ⟨1000, 2⟩
    ∧ Tables.countForIdempotencyKey ⟨[], s.refunds⟩ "tenant-a" "k-1" ≤ 1 := by
  have hrun : ((exec step start docsRun).map fun s => (List.range 4).filterMap fun i =>
      refundedBy "ord-1" "tenant-a" (s.calls i)) = some [1000] := by decide
  obtain ⟨s, hs, hcalls⟩ := Option.map_eq_some_iff.mp hrun
  obtain ⟨htotal, hkeys⟩ := refunded_eq hs (n := 4) (by decide) []
  refine ⟨s, hs, ?_, (hkeys _ _).1⟩
  rw [(htotal _ _).1, hcalls]
  rfl

end Ledger

end Orders
