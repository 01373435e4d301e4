import TaxLiability.Machinery.Simulation
import TaxLiability.Orders.RefundLedger

/-!
# Orders/Atomic — the ledger's calls, as if each refund were made at once

    request ── begun ── checked ── returning ── answered        the statements of one call
                                          └─ here ─┘            its refund in the books

`Books` is what the service is for: one refund at a time, each of the tenant's own order, inserted
under a new key or answered with the refund that is there.  The ledger's transactions, run side by
side, are a run of it in which every call is answered as it was (`refunds_linearizable`), by a
refund that takes effect at a step between its request and its answer.  An answer is what the
service has for its caller once the transaction is over; it may be lost on its way.
-/

open Machine

namespace Orders

/-! ## The books -/

/-- **The books**: the orders, the refunds made, oldest first, and what each call was answered. -/
structure Books where
  orders : List (String × String)
  refunds : List RefundRow
  answers : ℕ → Option (Except OrdersException RefundView)

namespace Books

def start : Books := ⟨[], [], fun _ => none⟩

/-- The row of a refund. -/
def row (c : Refund) (amount : BigDecimal) (refundId : String) : RefundRow :=
  ⟨refundId, c.orderId, c.tenantId, amount, c.request.reason, "refunded",
    c.request.idempotencyKey⟩

/-- **A refund made at once**: what it is answered, and the row it adds. -/
def refund (b : Books) (c : Refund) (refundId : String) :
    Except OrdersException RefundView × Option RefundRow :=
  if ¬ b.orders.any fun placed => placed = (c.orderId, c.tenantId) then
    (.error (.orderNotFound c.orderId), none)
  else match Money.normalise c.request.amount with
    | .error e => (.error e, none)
    | .ok amount =>
      if ¬ (row c amount refundId).Storable then (.error .dataAccess, none)
      else match b.refunds.find? fun made => made.key = c.key with
        | some made => (made.view, none)
        | none =>
          if refundId ∈ b.refunds.map (·.refundId) then (.error .dataAccess, none)
          else ((row c amount refundId).view,
            if (row c amount refundId).view.isOk then some (row c amount refundId) else none)

theorem any_placed {placed : String × String} {orders : List (String × String)} :
    (orders.any fun p => p = placed) = true ↔ placed ∈ orders := by simp

/-- What happens at once. -/
inductive Op
  | order (orderId tenantId : String)
  /-- a request that says nothing the service could do -/
  | malformed (i : ℕ) (orderId : String) (headerKey : Option String) (body : CreateRefundRequest)
  | refund (i : ℕ) (c : Refund) (refundId : String)
  /-- a call that is lost without a trace: its transaction is aborted -/
  | lost (i : ℕ)
  deriving DecidableEq

/-- The call an operation answers. -/
def Op.call : Op → Option ℕ
  | .order _ _ => none
  | .malformed i _ _ _ | .refund i _ _ | .lost i => some i

/-- Call `i` is answered, once. -/
def answer (b : Books) (i : ℕ) (a : Except OrdersException RefundView) : Option Books :=
  if (b.answers i).isSome then none
  else some { b with answers := Function.update b.answers i (some a) }

/-- **One operation.** -/
def step (b : Books) : Op → Option Books
  | .order orderId tenantId => some { b with orders := (orderId, tenantId) :: b.orders }
  | .malformed i orderId headerKey body =>
    match CreateRefundRequest.effective orderId headerKey body with
    | .error e => b.answer i (.error e)
    | .ok _ => none
  | .refund i c refundId =>
    ({ b with refunds := b.refunds ++ (b.refund c refundId).2.toList }).answer i
      (b.refund c refundId).1
  | .lost i => b.answer i (.error .aborted)

end Books

namespace Ledger

/-- What a call was answered. -/
def answer : Call → Option (Except OrdersException RefundView)
  | .answered _ _ view => some (.ok view)
  | .failed e => some (.error e)
  | _ => none

/-- The refund a call is about. -/
def refundOf : Call → Option Refund
  | .begun c | .checked c _ | .refused c | .returning c _ _ | .answered c _ _ => some c
  | .idle | .failed _ => none

/-- **The books of a ledger**: what is committed, and what was answered. -/
def books (s : Ledger) : Books := ⟨s.orders, s.refunds, fun i => answer (s.calls i)⟩

/-- The operation of call `i`, if the step to `t` ends it. -/
def ended (s t : Ledger) (i : ℕ) (refundId : String) : List Books.Op :=
  if (answer (t.calls i)).isSome then
    (refundOf (s.calls i)).toList.map fun c => .refund i c refundId
  else []

/-- The id of the row a call is about to commit. -/
def heldId (s : Ledger) (i : ℕ) : String := ((holds (s.calls i)).map (·.refundId)).getD ""

/-- **What a step does to the books.** -/
def effect (s : Ledger) (e : Event) (t : Ledger) : List Books.Op :=
  match e with
  | .order orderId tenantId => [.order orderId tenantId]
  | .request i orderId _ headerKey body =>
    if (answer (t.calls i)).isSome then [.malformed i orderId headerKey body] else []
  | .existsForTenant i | .findByIdempotencyKey i => s.ended t i ""
  | .insertIfAbsent i uuid => s.ended t i ("rfnd-" ++ uuid)
  | .commit i => s.ended t i (s.heldId i)
  | .abort i => [.lost i]

/-! ## What a step does -/

/-- **The steps of the ledger**, with what each has found. -/
inductive Does (s : Ledger) : Event → Ledger → Prop
  | ordered (orderId tenantId : String) :
    Does s (.order orderId tenantId) { s with orders := (orderId, tenantId) :: s.orders }
  | malformed {i : ℕ} {orderId tenantId : String} {headerKey : Option String}
    {body : CreateRefundRequest} {e : OrdersException} (hi : s.calls i = .idle)
    (he : CreateRefundRequest.effective orderId headerKey body = .error e) :
    Does s (.request i orderId tenantId headerKey body) (s.goto i (.failed e))
  | begun {i : ℕ} {orderId tenantId : String} {headerKey : Option String}
    {body request : CreateRefundRequest} (hi : s.calls i = .idle)
    (hrequest : CreateRefundRequest.effective orderId headerKey body = .ok request) :
    Does s (.request i orderId tenantId headerKey body)
      (s.goto i (.begun ⟨orderId, tenantId, request⟩))
  | absent {i : ℕ} {c : Refund} (hi : s.calls i = .begun c)
    (horder : (c.orderId, c.tenantId) ∉ s.orders) :
    Does s (.existsForTenant i) (s.goto i (.failed (.orderNotFound c.orderId)))
  | worthless {i : ℕ} {c : Refund} {e : OrdersException} (hi : s.calls i = .begun c)
    (horder : (c.orderId, c.tenantId) ∈ s.orders)
    (he : Money.normalise c.request.amount = .error e) :
    Does s (.existsForTenant i) (s.goto i (.failed e))
  | checked {i : ℕ} {c : Refund} {amount : BigDecimal} (hi : s.calls i = .begun c)
    (horder : (c.orderId, c.tenantId) ∈ s.orders)
    (hamount : Money.normalise c.request.amount = .ok amount) :
    Does s (.existsForTenant i) (s.goto i (.checked c amount))
  | unstorable {i : ℕ} {uuid : String} {c : Refund} {amount : BigDecimal}
    (hi : s.calls i = .checked c amount) (hstorable : ¬ (c.row amount uuid).Storable) :
    Does s (.insertIfAbsent i uuid) (s.goto i (.failed .dataAccess))
  | refused {i : ℕ} {uuid : String} {c : Refund} {amount : BigDecimal}
    (hi : s.calls i = .checked c amount) (hstorable : (c.row amount uuid).Storable)
    (hkey : c.key ∈ s.refunds.map RefundRow.key) :
    Does s (.insertIfAbsent i uuid) (s.goto i (.refused c))
  | idTaken {i : ℕ} {uuid : String} {c : Refund} {amount : BigDecimal}
    (hi : s.calls i = .checked c amount) (hstorable : (c.row amount uuid).Storable)
    (hkey : c.key ∉ s.refunds.map RefundRow.key)
    (hid : "rfnd-" ++ uuid ∈ s.refunds.map (·.refundId)) :
    Does s (.insertIfAbsent i uuid) (s.goto i (.failed .dataAccess))
  | unviewable {i : ℕ} {uuid : String} {c : Refund} {amount : BigDecimal} {e : OrdersException}
    (hi : s.calls i = .checked c amount) (hstorable : (c.row amount uuid).Storable)
    (hkey : c.key ∉ s.refunds.map RefundRow.key)
    (hid : "rfnd-" ++ uuid ∉ s.refunds.map (·.refundId))
    (he : (c.row amount uuid).view = .error e) :
    Does s (.insertIfAbsent i uuid) (s.goto i (.failed e))
  | inserted {i : ℕ} {uuid : String} {c : Refund} {amount : BigDecimal} {view : RefundView}
    (hi : s.calls i = .checked c amount) (hstorable : (c.row amount uuid).Storable)
    (hkey : c.key ∉ s.refunds.map RefundRow.key)
    (hopen : c.key ∉ s.uncommitted.map RefundRow.key)
    (hid : "rfnd-" ++ uuid ∉ s.refunds.map (·.refundId))
    (hidopen : "rfnd-" ++ uuid ∉ s.uncommitted.map (·.refundId))
    (hview : (c.row amount uuid).view = .ok view) :
    Does s (.insertIfAbsent i uuid) { s.goto i (.returning c (some (c.row amount uuid)) view) with
      uncommitted := c.row amount uuid :: s.uncommitted }
  | readBack {i : ℕ} {c : Refund} (hi : s.calls i = .refused c) :
    Does s (.findByIdempotencyKey i) (s.readBack i c)
  | committed {i : ℕ} {c : Refund} {created : Option RefundRow} {view : RefundView}
    (hi : s.calls i = .returning c created view) :
    Does s (.commit i) { (s.drop created).goto i (.answered c created view) with
      refunds := s.refunds ++ created.toList }
  | aborted {i : ℕ} {c : Refund} (hc : refundOf (s.calls i) = some c)
    (hopen : answer (s.calls i) = none) :
    Does s (.abort i) ((s.drop (holds (s.calls i))).goto i (.failed .aborted))

theorem drop_none (s : Ledger) : s.drop none = s := by simp [drop]

section DoesOfStep

variable {s t : Ledger} {i : ℕ}

theorem does_of_request {orderId tenantId : String} {headerKey : Option String}
    {body : CreateRefundRequest}
    (h : s.step (.request i orderId tenantId headerKey body) = some t) :
    Does s (.request i orderId tenantId headerKey body) t := by
  simp only [Ledger.step] at h
  split at h
  · next hi =>
    cases h
    cases heffective : CreateRefundRequest.effective orderId headerKey body with
    | error e => exact .malformed hi heffective
    | ok request => exact .begun hi heffective
  · cases h

theorem does_of_existsForTenant (h : s.step (.existsForTenant i) = some t) :
    Does s (.existsForTenant i) t := by
  simp only [Ledger.step] at h
  split at h
  · next c hi =>
    split at h
    · next horder =>
      cases h
      cases hamount : Money.normalise c.request.amount with
      | error e => exact .worthless hi horder hamount
      | ok amount => exact .checked hi horder hamount
    · next horder =>
      cases h
      exact .absent hi horder
  · cases h

theorem does_of_insertIfAbsent {uuid : String} (h : s.step (.insertIfAbsent i uuid) = some t) :
    Does s (.insertIfAbsent i uuid) t := by
  simp only [Ledger.step] at h
  split at h
  · next c amount hi =>
    unfold Ledger.insertIfAbsent at h
    split_ifs at h with hstorable hkey hwait
    · cases h
      exact .refused hi hstorable hkey
    · cases h
      obtain ⟨hopen, hidopen⟩ := not_or.mp hwait
      unfold Ledger.insertRow
      split
      · next hid => exact .idTaken hi hstorable hkey hid
      · next hid =>
        cases hview : (c.row amount uuid).view with
        | error e => exact .unviewable hi hstorable hkey hid hview
        | ok view => exact .inserted hi hstorable hkey hopen hid hidopen hview
    · cases h
      exact .unstorable hi hstorable
  · cases h

theorem does_of_abort (h : s.step (.abort i) = some t) : Does s (.abort i) t := by
  -- a call that has inserted nothing leaves nothing
  have hlost (call : Call) (hi : s.calls i = call) {c : Refund} (hc : refundOf call = some c)
      (hopen : answer call = none) (hheld : holds call = none) :
      Does s (.abort i) (s.goto i (.failed .aborted)) := by
    have hdoes := Does.aborted (s := s) (i := i) (hi ▸ hc) (hi ▸ hopen)
    rwa [hi, hheld, drop_none] at hdoes
  simp only [Ledger.step] at h
  split at h
  · next hi =>
    cases h
    exact hlost _ hi rfl rfl rfl
  · next hi =>
    cases h
    exact hlost _ hi rfl rfl rfl
  · next hi =>
    cases h
    exact hlost _ hi rfl rfl rfl
  · next c created view hi =>
    cases h
    have hdoes := Does.aborted (s := s) (i := i) (c := c) (by rw [hi]; rfl) (by rw [hi]; rfl)
    rwa [hi] at hdoes
  · cases h

theorem does_of_step {e : Event} (h : s.step e = some t) : Does s e t := by
  cases e with
  | order orderId tenantId =>
    cases h
    exact .ordered orderId tenantId
  | request i orderId tenantId headerKey body => exact does_of_request h
  | existsForTenant i => exact does_of_existsForTenant h
  | insertIfAbsent i uuid => exact does_of_insertIfAbsent h
  | findByIdempotencyKey i =>
    simp only [Ledger.step] at h
    split at h
    · next c hi =>
      cases h
      exact .readBack hi
    · cases h
  | commit i =>
    simp only [Ledger.step] at h
    split at h
    · next c created view hi =>
      cases h
      exact .committed hi
    · cases h
  | abort i => exact does_of_abort h

end DoesOfStep

/-! ## The invariant -/

/-- **What a call past the checks has found**: its order, and an amount the column takes; the row
it holds is its own. -/
def CallPlaced (orders : List (String × String)) : Call → Prop
  | .checked c _ => (c.orderId, c.tenantId) ∈ orders
  | .refused c | .returning c none _ => (c.orderId, c.tenantId) ∈ orders
    ∧ ∃ amount, Money.normalise c.request.amount = .ok amount
      ∧ ∀ refundId, (Books.row c amount refundId).Storable
  | .returning c (some row) _ => (c.orderId, c.tenantId) ∈ orders
    ∧ row = Books.row c row.amount row.refundId ∧ row.Storable
  | .idle | .begun _ | .answered _ _ _ | .failed _ => True

theorem CallPlaced.mono {orders orders' : List (String × String)} (h : orders ⊆ orders')
    {call : Call} (hcall : CallPlaced orders call) : CallPlaced orders' call := by
  match call with
  | .checked c _ => exact h hcall
  | .refused c => exact ⟨h hcall.1, hcall.2⟩
  | .returning c none _ => exact ⟨h hcall.1, hcall.2⟩
  | .returning c (some row) _ => exact ⟨h hcall.1, hcall.2⟩
  | .idle | .begun _ | .answered _ _ _ | .failed _ => trivial

/-- **Every call is placed**, and no refund id is used twice, committed or not. -/
structure Placed (s : Ledger) : Prop where
  calls : ∀ i, CallPlaced s.orders (s.calls i)
  ids : ((s.refunds ++ s.uncommitted).map (·.refundId)).Nodup

theorem placed_start : start.Placed := ⟨fun _ => trivial, List.nodup_nil⟩

/-- A call that moves leaves the others placed. -/
theorem Placed.of_moved {s t : Ledger} (hs : s.Placed) {i : ℕ} {call : Call}
    (hcalls : t.calls = Function.update s.calls i call) (horders : t.orders = s.orders)
    (hcall : CallPlaced s.orders call)
    (hids : ((t.refunds ++ t.uncommitted).map (·.refundId)).Nodup) : t.Placed := by
  refine ⟨fun j => ?_, hids⟩
  rw [hcalls, horders]
  by_cases hj : j = i
  · rw [hj, Function.update_self]
    exact hcall
  · rw [Function.update_of_ne hj]
    exact hs.calls j

theorem Placed.goto {s : Ledger} (hs : s.Placed) {i : ℕ} {call : Call}
    (hcall : CallPlaced s.orders call) : (s.goto i call).Placed :=
  hs.of_moved rfl rfl hcall hs.ids

/-- **A refused call reads back the row** that is committed under its key. -/
theorem Sound.readBack_eq {s : Ledger} (hs : s.Sound) {i : ℕ} {c : Refund}
    (hi : s.calls i = .refused c) : ∃ row ∈ s.refunds, row.key = c.key
      ∧ s.readBack i c = s.orFail i row.view fun view => s.goto i (.returning c none view) := by
  have hcall := hs.calls i
  rw [hi] at hcall
  obtain ⟨row, hrow, hkey⟩ := hcall
  refine ⟨row, hrow, hkey, ?_⟩
  rw [Ledger.readBack, ← hkey, hs.findKey hrow]

/-- **Every step keeps the calls placed.** -/
theorem Placed.step {s t : Ledger} {e : Event} (hsound : s.Sound) (hs : s.Placed)
    (h : Does s e t) : t.Placed := by
  cases h with
  | ordered orderId tenantId =>
    exact ⟨fun j => (hs.calls j).mono (List.subset_cons_self _ _), hs.ids⟩
  | malformed _ _ => exact hs.goto trivial
  | begun _ _ => exact hs.goto trivial
  | absent _ _ => exact hs.goto trivial
  | worthless _ _ _ => exact hs.goto trivial
  | checked _ horder _ => exact hs.goto horder
  | unstorable _ _ => exact hs.goto trivial
  | @refused i _ c amount hi hstorable _ =>
    have hplaced := hs.calls i
    have hcall := hsound.calls i
    rw [hi] at hplaced hcall
    exact hs.goto ⟨hplaced, amount, hcall, fun _ => hstorable⟩
  | idTaken _ _ _ _ => exact hs.goto trivial
  | unviewable _ _ _ _ _ => exact hs.goto trivial
  | @inserted i uuid c amount view hi hstorable _ _ hid hidopen _ =>
    have hplaced := hs.calls i
    rw [hi] at hplaced
    refine hs.of_moved rfl rfl ⟨hplaced, rfl, hstorable⟩ ?_
    have hnew : "rfnd-" ++ uuid ∉ (s.refunds ++ s.uncommitted).map (·.refundId) := by
      rw [List.map_append, List.mem_append, not_or]
      exact ⟨hid, hidopen⟩
    refine ((List.perm_middle.map _).nodup_iff).mpr ?_
    exact List.nodup_cons.mpr ⟨hnew, hs.ids⟩
  | @readBack i c hi =>
    have hplaced := hs.calls i
    rw [hi] at hplaced
    obtain ⟨row, -, -, heq⟩ := hsound.readBack_eq hi
    rw [heq]
    cases row.view with
    | error e => exact hs.goto trivial
    | ok view => exact hs.goto hplaced
  | @committed i c created view hi =>
    refine hs.of_moved rfl rfl trivial ?_
    cases created with
    | none =>
      rw [drop_none, Option.toList_none, List.append_nil]
      exact hs.ids
    | some row =>
      have hcall := hsound.calls i
      rw [hi] at hcall
      have hnodup : s.uncommitted.Nodup := hsound.uncommitted_nodup.of_map _
      have hperm : (s.refunds ++ [row] ++ (s.drop (some row)).uncommitted).Perm
          (s.refunds ++ s.uncommitted) := by
        have herase : (s.drop (some row)).uncommitted = s.uncommitted.erase row := by
          rw [hnodup.erase_eq_filter]
          exact List.filter_congr fun row' _ => by simp [bne, beq_eq_decide]
        rw [herase, List.append_assoc]
        exact ((List.perm_cons_erase hcall.1).symm).append_left _
      exact ((hperm.map _).nodup_iff).mpr hs.ids
  | aborted _ _ =>
    refine hs.of_moved rfl rfl trivial (hs.ids.sublist (List.Sublist.map _ ?_))
    exact List.Sublist.append_left List.filter_sublist _

theorem placed_of_exec {es : List Event} {s : Ledger} (h : exec Ledger.step start es = some s) :
    s.Placed := by
  have hkept : ∀ {s t : Ledger} {e : Event}, s.Sound ∧ s.Placed → s.step e = some t →
      t.Sound ∧ t.Placed := fun hs hstep =>
    ⟨hs.1.step hstep, hs.2.step hs.1 (does_of_step hstep)⟩
  exact (exec_invariant hkept ⟨sound_start, placed_start⟩ h).2

/-! ## The books of a step -/

section Effect

variable {s t : Ledger} {i : ℕ} {call : Call}

/-- The books know nothing of a call that is still open. -/
theorem books_goto (hopen : answer (s.calls i) = none) (hcall : answer call = none) :
    (s.goto i call).books = s.books := by
  have hanswers : (fun j => answer ((s.goto i call).calls j)) = fun j => answer (s.calls j) := by
    funext j
    by_cases hj : j = i
    · rw [hj, goto_self, hopen, hcall]
    · rw [goto_ne _ _ hj]
  simp only [books, hanswers]
  rfl

/-- **A call that ends** is answered in the books, once. -/
theorem books_answer {refunds : List RefundRow} {a : Except OrdersException RefundView}
    (hopen : answer (s.calls i) = none) (hcalls : t.calls = Function.update s.calls i call)
    (horders : t.orders = s.orders) (hcall : answer call = some a)
    (hrefunds : t.refunds = refunds) :
    ({ s.books with refunds := refunds } : Books).answer i a = some t.books := by
  have hanswers : Function.update (fun j => answer (s.calls j)) i (some a)
      = fun j => answer (t.calls j) := by
    funext j
    rw [hcalls]
    by_cases hj : j = i
    · rw [hj, Function.update_self, Function.update_self, hcall]
    · rw [Function.update_of_ne hj, Function.update_of_ne hj]
  have hnone : ¬ (s.books.answers i).isSome := by simp [books, hopen]
  rw [Books.answer, if_neg hnone]
  simp only [books, hanswers, horders, hrefunds]

/-- A call that ends leaving the refunds as they are. -/
theorem books_goto_answer {a : Except OrdersException RefundView}
    (hopen : answer (s.calls i) = none) (hcall : answer call = some a) :
    s.books.answer i a = some (s.goto i call).books :=
  books_answer hopen rfl rfl hcall rfl

/-- **A call that ends with its refund.** -/
theorem exec_ended {c : Refund} {refundId : String} {a : Except OrdersException RefundView}
    {created : Option RefundRow} (hc : refundOf (s.calls i) = some c)
    (hopen : answer (s.calls i) = none) (hcalls : t.calls = Function.update s.calls i call)
    (horders : t.orders = s.orders) (hcall : answer call = some a)
    (hrefunds : t.refunds = s.refunds ++ created.toList)
    (hrefund : s.books.refund c refundId = (a, created)) :
    exec Books.step s.books (s.ended t i refundId) = some t.books := by
  have hended : s.ended t i refundId = [.refund i c refundId] := by
    rw [ended, hcalls, Function.update_self, hcall, hc]
    rfl
  rw [hended, exec_cons, Books.step, hrefund]
  exact Option.bind_eq_some_iff.mpr ⟨_, books_answer hopen hcalls horders hcall hrefunds, rfl⟩

/-- A call that fails has made no refund. -/
theorem exec_failed {c : Refund} {refundId : String} {e : OrdersException}
    (hc : refundOf (s.calls i) = some c) (hopen : answer (s.calls i) = none)
    (hrefund : s.books.refund c refundId = (.error e, none)) :
    exec Books.step s.books (s.ended (s.goto i (.failed e)) i refundId)
      = some (s.goto i (.failed e)).books :=
  exec_ended hc hopen rfl rfl rfl (List.append_nil _).symm hrefund

/-- A call that goes on does nothing. -/
theorem exec_ended_open {refundId : String} (hopen : answer (s.calls i) = none)
    (hcall : answer call = none) :
    exec Books.step s.books (s.ended (s.goto i call) i refundId)
      = some (s.goto i call).books := by
  rw [ended, goto_self, hcall, books_goto hopen hcall]
  rfl

end Effect

/-! ## One step -/

section Refund

variable {b : Books} {c : Refund} {refundId : String}

theorem refund_of_absent (horder : (c.orderId, c.tenantId) ∉ b.orders) :
    b.refund c refundId = (.error (.orderNotFound c.orderId), none) :=
  if_pos (mt Books.any_placed.mp horder)

theorem refund_of_worthless {e : OrdersException} (horder : (c.orderId, c.tenantId) ∈ b.orders)
    (he : Money.normalise c.request.amount = .error e) :
    b.refund c refundId = (.error e, none) := by
  rw [Books.refund, if_neg (not_not.mpr (Books.any_placed.mpr horder)), he]

variable {amount : BigDecimal} (horder : (c.orderId, c.tenantId) ∈ b.orders)
  (hamount : Money.normalise c.request.amount = .ok amount)

include horder hamount

theorem refund_of_unstorable (h : ¬ (Books.row c amount refundId).Storable) :
    b.refund c refundId = (.error .dataAccess, none) := by
  rw [Books.refund, if_neg (not_not.mpr (Books.any_placed.mpr horder)), hamount]
  exact if_pos h

variable (hstorable : (Books.row c amount refundId).Storable)

include hstorable

/-- **A key that is there** answers with its refund. -/
theorem refund_of_made {made : RefundRow}
    (hmade : b.refunds.find? (fun made => made.key = c.key) = some made) :
    b.refund c refundId = (made.view, none) := by
  rw [Books.refund, if_neg (not_not.mpr (Books.any_placed.mpr horder)), hamount]
  dsimp only
  rw [if_neg (not_not.mpr hstorable), hmade]

variable (hkey : c.key ∉ b.refunds.map RefundRow.key)

include hkey

/-- **A new key**, if its row has an id of its own, is refunded. -/
theorem refund_of_new : b.refund c refundId
    = if refundId ∈ b.refunds.map (·.refundId) then (.error .dataAccess, none)
      else ((Books.row c amount refundId).view,
        if (Books.row c amount refundId).view.isOk then some (Books.row c amount refundId)
        else none) := by
  have hnone : b.refunds.find? (fun made => made.key = c.key) = none := by
    refine List.find?_eq_none.mpr fun made hmade heq => hkey ?_
    exact of_decide_eq_true heq ▸ List.mem_map_of_mem hmade
  rw [Books.refund, if_neg (not_not.mpr (Books.any_placed.mpr horder)), hamount]
  dsimp only
  rw [if_neg (not_not.mpr hstorable), hnone]

end Refund

/-- **The row of a key** is the one found under it. -/
theorem Sound.find_eq {s : Ledger} (hs : s.Sound) {row : RefundRow} {c : Refund}
    (hrow : row ∈ s.refunds) (hkey : row.key = c.key) :
    s.refunds.find? (fun made => made.key = c.key) = some row := by
  rw [← List.head?_filter, ← hkey]
  exact congrArg List.head? (hs.findKey hrow)

section ExecEffect

variable {s t : Ledger} {i : ℕ}

/-- **An insert** that fails is answered as its refund in the books; one that does not is not
answered yet. -/
theorem exec_insertIfAbsent {uuid : String} (hsound : s.Sound) (hs : s.Placed)
    (h : Does s (.insertIfAbsent i uuid) t) :
    exec Books.step s.books (s.ended t i ("rfnd-" ++ uuid)) = some t.books := by
  have hplaced := hs.calls i
  have hcall := hsound.calls i
  cases h with
  | @unstorable _ _ c amount hi hstorable =>
    rw [hi] at hplaced hcall
    exact exec_failed (by rw [hi]; rfl) (by rw [hi]; rfl)
      (refund_of_unstorable hplaced hcall hstorable)
  | refused hi _ _ => exact exec_ended_open (by rw [hi]; rfl) rfl
  | @idTaken _ _ c amount hi hstorable hkey hid =>
    rw [hi] at hplaced hcall
    refine exec_failed (by rw [hi]; rfl) (by rw [hi]; rfl) ?_
    exact (refund_of_new (b := s.books) hplaced hcall hstorable hkey).trans (if_pos hid)
  | @unviewable _ _ c amount e hi hstorable hkey hid he =>
    rw [hi] at hplaced hcall
    have hview : (Books.row c amount ("rfnd-" ++ uuid)).view = .error e := he
    have hfresh : "rfnd-" ++ uuid ∉ s.books.refunds.map (·.refundId) := hid
    refine exec_failed (by rw [hi]; rfl) (by rw [hi]; rfl) ?_
    rw [refund_of_new (b := s.books) hplaced hcall hstorable hkey, if_neg hfresh, hview]
    rfl
  | @inserted _ _ c amount view hi _ _ _ _ _ _ =>
    have hopen : exec Books.step s.books
        (s.ended (s.goto i (.returning c (some (c.row amount uuid)) view)) i ("rfnd-" ++ uuid))
        = some (s.goto i (.returning c (some (c.row amount uuid)) view)).books :=
      exec_ended_open (by rw [hi]; rfl) rfl
    exact hopen

/-- **A read-back** whose row cannot be shown is answered so in the books. -/
theorem exec_readBack {c : Refund} (hsound : s.Sound) (hs : s.Placed)
    (hi : s.calls i = .refused c) :
    exec Books.step s.books (s.ended (s.readBack i c) i "") = some (s.readBack i c).books := by
  have hplaced := hs.calls i
  rw [hi] at hplaced
  obtain ⟨horder, amount, hamount, hstorable⟩ := hplaced
  obtain ⟨row, hrow, hkey, heq⟩ := hsound.readBack_eq hi
  rw [heq]
  cases hview : row.view with
  | ok view => exact exec_ended_open (by rw [hi]; rfl) rfl
  | error e =>
    refine exec_failed (by rw [hi]; rfl) (by rw [hi]; rfl) ?_
    rw [refund_of_made horder hamount (hstorable "") (hsound.find_eq hrow hkey), hview]

/-- **A call about to commit** is answered in the books as it will be: with its own row if it holds
one, else with the one that is there. -/
theorem refund_of_returning {c : Refund} {created : Option RefundRow} {view : RefundView}
    (hsound : s.Sound) (hs : s.Placed) (hi : s.calls i = .returning c created view) :
    s.books.refund c (s.heldId i) = (.ok view, created) := by
  have hplaced := hs.calls i
  have hcall := hsound.calls i
  rw [hi] at hplaced hcall
  cases created with
  | none =>
    obtain ⟨horder, amount, hamount, hstorable⟩ := hplaced
    obtain ⟨row, hrow, hkey, hview⟩ := hcall
    rw [refund_of_made horder hamount (hstorable _) (hsound.find_eq hrow hkey), hview]
  | some row =>
    obtain ⟨horder, hrow, hstorable⟩ := hplaced
    obtain ⟨hmem, hown, hview⟩ := hcall
    have hid : s.heldId i = row.refundId := by rw [heldId, hi]; rfl
    have hfresh : row.refundId ∉ s.books.refunds.map (·.refundId) := by
      have hids := hs.ids
      rw [List.map_append, List.nodup_append] at hids
      exact fun hmade => hids.2.2 _ hmade _ (List.mem_map_of_mem hmem) rfl
    have hkey : c.key ∉ s.refunds.map RefundRow.key := hown.key ▸ hsound.apart row hmem
    rw [hrow] at hstorable hview
    rw [hid, refund_of_new horder hown.amount hstorable hkey, if_neg hfresh, hview, ← hrow]
    rfl

/-- **Every step of the ledger is a step of the books**, or none. -/
theorem exec_effect {e : Event} (hsound : s.Sound) (hs : s.Placed) (h : Does s e t) :
    exec Books.step s.books (effect s e t) = some t.books := by
  cases h with
  | ordered orderId tenantId => rfl
  | malformed hi he =>
    rw [effect, goto_self, if_pos (by rfl), exec_cons, Books.step, he]
    exact Option.bind_eq_some_iff.mpr ⟨_, books_goto_answer (by rw [hi]; rfl) rfl, rfl⟩
  | begun hi _ =>
    rw [effect, goto_self, if_neg (by simp [answer]), books_goto (by rw [hi]; rfl) rfl]
    rfl
  | absent hi horder =>
    exact exec_failed (by rw [hi]; rfl) (by rw [hi]; rfl) (refund_of_absent horder)
  | worthless hi horder he =>
    exact exec_failed (by rw [hi]; rfl) (by rw [hi]; rfl) (refund_of_worthless horder he)
  | checked hi _ _ => exact exec_ended_open (by rw [hi]; rfl) rfl
  | unstorable hi hstorable => exact exec_insertIfAbsent hsound hs (.unstorable hi hstorable)
  | refused hi hstorable hkey => exact exec_insertIfAbsent hsound hs (.refused hi hstorable hkey)
  | idTaken hi hstorable hkey hid =>
    exact exec_insertIfAbsent hsound hs (.idTaken hi hstorable hkey hid)
  | unviewable hi hstorable hkey hid he =>
    exact exec_insertIfAbsent hsound hs (.unviewable hi hstorable hkey hid he)
  | inserted hi hstorable hkey hopen hid hidopen hview =>
    exact exec_insertIfAbsent hsound hs (.inserted hi hstorable hkey hopen hid hidopen hview)
  | readBack hi => exact exec_readBack hsound hs hi
  | committed hi =>
    exact exec_ended (by rw [hi]; rfl) (by rw [hi]; rfl) rfl rfl rfl rfl
      (refund_of_returning hsound hs hi)
  | @aborted i c hc hopen =>
    have hlost := books_answer (t := (s.drop (holds (s.calls i))).goto i (.failed .aborted))
      hopen rfl rfl rfl rfl
    exact exec_cons_eq_some.mpr ⟨_, hlost, rfl⟩

end ExecEffect

/-- **An operation answers its call** in the step it stands for, and not before. -/
theorem call_of_mem_effect {s t : Ledger} {e : Event} (h : Does s e t)
    {op : Books.Op} (hop : op ∈ effect s e t) :
    ∀ i ∈ op.call, answer (s.calls i) = none ∧ (answer (t.calls i)).isSome := by
  have hopen : ∀ {i : ℕ} {call : Call}, s.calls i = call → answer call = none →
      answer (s.calls i) = none := fun hi h => hi ▸ h
  have hended : ∀ {i : ℕ} {refundId : String}, answer (s.calls i) = none →
      op ∈ s.ended t i refundId → ∀ j ∈ op.call,
        answer (s.calls j) = none ∧ (answer (t.calls j)).isSome := by
    intro i refundId hnone hop j hj
    unfold ended at hop
    split at hop
    · next hsome =>
      obtain ⟨c, -, rfl⟩ := List.mem_map.mp hop
      obtain rfl := Option.some.inj hj
      exact ⟨hnone, hsome⟩
    · cases hop
  cases h with
  | ordered orderId tenantId =>
    cases List.mem_singleton.mp hop
    exact nofun
  | @malformed i orderId tenantId headerKey body e hi he =>
    rw [effect, goto_self, if_pos (by rfl)] at hop
    cases List.mem_singleton.mp hop
    rintro _ ⟨⟩
    exact ⟨hopen hi rfl, by rw [goto_self]; rfl⟩
  | @begun i orderId tenantId headerKey body request hi _ =>
    rw [effect, goto_self, if_neg (by simp [answer])] at hop
    cases hop
  | absent hi _ => exact hended (hopen hi rfl) hop
  | worthless hi _ _ => exact hended (hopen hi rfl) hop
  | checked hi _ _ => exact hended (hopen hi rfl) hop
  | unstorable hi _ => exact hended (hopen hi rfl) hop
  | refused hi _ _ => exact hended (hopen hi rfl) hop
  | idTaken hi _ _ _ => exact hended (hopen hi rfl) hop
  | unviewable hi _ _ _ _ => exact hended (hopen hi rfl) hop
  | inserted hi _ _ _ _ _ _ => exact hended (hopen hi rfl) hop
  | readBack hi => exact hended (hopen hi rfl) hop
  | committed hi => exact hended (hopen hi rfl) hop
  | @aborted i c _ hnone =>
    cases List.mem_singleton.mp hop
    rintro _ ⟨⟩
    exact ⟨hnone, by rw [goto_self]; rfl⟩

/-! ## The run -/

/-- **The refund ledger is linearizable.**  However the statements of the calls interleave, the run
is a run of the books: the same rows in the same order, and every call answered as it was; and each
call's operation stands at a step of the run before which the call was open and after which it is
answered. -/
theorem refunds_linearizable {es : List Event} {s : Ledger} (h : exec step start es = some s) :
    exec Books.step Books.start (trace step effect start es) = some s.books
      ∧ ∀ t e t', Takes step start es t e t' → ∀ op ∈ effect t e t', ∀ i ∈ op.call,
          answer (t.calls i) = none ∧ (answer (t'.calls i)).isSome := by
  have hsimulates : Simulates step Books.step effect (fun _ => True)
      fun s b => s.Sound ∧ s.Placed ∧ b = s.books := by
    rintro s e t b - ⟨hsound, hplaced, rfl⟩ hstep
    have hdoes := does_of_step hstep
    exact ⟨t.books, exec_effect hsound hplaced hdoes, hsound.step hstep,
      hplaced.step hsound hdoes, rfl⟩
  constructor
  · obtain ⟨b, hb, -, -, rfl⟩ := hsimulates.exec (fun _ _ => trivial)
      ⟨sound_start, placed_start, rfl⟩ h
    exact hb
  · rintro t e t' ⟨es₁, es₂, -, h₁, hstep⟩ op hop
    exact call_of_mem_effect (does_of_step hstep) hop

theorem refunds_linearizable_docsRun : ∃ s, exec step start docsRun = some s
    ∧ exec Books.step Books.start (trace step effect start docsRun) = some s.books := by
  have hrun : (exec step start docsRun).isSome := by decide
  obtain ⟨s, hs⟩ := Option.isSome_iff_exists.mp hrun
  exact ⟨s, hs, (refunds_linearizable hs).1⟩

end Ledger

end Orders
