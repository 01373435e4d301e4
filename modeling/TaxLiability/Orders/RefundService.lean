import TaxLiability.Machinery.BigDecimal
import TaxLiability.Machinery.Java
import TaxLiability.Machinery.Machine

/-!
# Orders/RefundService — refunds of any number of callers on one ledger

    request ──▸ existsForTenant ──▸ insertIfAbsent ──1 row──▸ returning ──commit──▸ answered
                                          └──0 rows──▸ findByIdempotencyKey ──▸ returning ─┘

Each call is one READ COMMITTED transaction; a step is one statement of it, its commit or its abort,
and the calls run side by side.  `ON CONFLICT (tenant_id, idempotency_key) DO NOTHING` inserts
nothing next to a committed row of the key, and waits for an uncommitted one.  A commit is one from
when the database has made it: whether its acknowledgement reaches the service, and the answer the
caller, is not told apart.
-/

open Machine

namespace Orders

/-- What a call throws. -/
inductive OrdersException
  | illegalArgument (message : String)
  /-- amount must be greater than zero -/
  | amountNotPositive (amount : BigDecimal)
  | orderNotFound (orderId : String)
  | illegalState (message : String)
  /-- a constraint of the table, or more rows than asked for -/
  | dataAccess
  /-- the transaction is taken back: the connection or the process is lost before the commit, or the
  commit fails -/
  | aborted
  deriving DecidableEq, Repr

/-! ## Money -/

namespace Money

def SCALE : ℤ := 2

/-- **`Money.normalise`.** -/
def normalise (amount : BigDecimal) : Except OrdersException BigDecimal :=
  if amount.signum ≤ 0 then .error (.amountNotPositive amount) else .ok (amount.setScale SCALE)

/-- **`Money.render`.** -/
def render (amount : BigDecimal) : String := (amount.setScale SCALE).toPlainString

end Money

/-! ## Requests and views -/

def MIN_REASON_LENGTH : ℕ := 4

def MAX_REASON_LENGTH : ℕ := 200

/-- **A refund request**: it cannot exist in an invalid state. -/
@[ext]
structure CreateRefundRequest where
  orderId : String
  amount : BigDecimal
  reason : String
  idempotencyKey : String
  orderId_notBlank : ¬ Java.IsBlank orderId
  idempotencyKey_notBlank : ¬ Java.IsBlank idempotencyKey
  reason_length : MIN_REASON_LENGTH ≤ Java.length reason ∧ Java.length reason ≤ MAX_REASON_LENGTH
  amount_pos : 0 < amount.signum

instance : DecidableEq CreateRefundRequest := fun _ _ =>
  decidable_of_iff' _ CreateRefundRequest.ext_iff

/-- **The compact constructor of `CreateRefundRequest`.** -/
def CreateRefundRequest.create (orderId : String) (amount : BigDecimal)
    (reason idempotencyKey : String) : Except OrdersException CreateRefundRequest :=
  if h₁ : Java.IsBlank orderId then .error (.illegalArgument "orderId must not be blank")
  else if h₂ : Java.IsBlank idempotencyKey then
    .error (.illegalArgument "idempotencyKey must not be blank")
  else if h₃ : MIN_REASON_LENGTH ≤ Java.length reason ∧ Java.length reason ≤ MAX_REASON_LENGTH then
    if h₄ : 0 < amount.signum then .ok ⟨orderId, amount, reason, idempotencyKey, h₁, h₂, h₃, h₄⟩
    else .error (.amountNotPositive amount)
  else .error (.illegalArgument ("reason must be between " ++ toString MIN_REASON_LENGTH ++ " and "
    ++ toString MAX_REASON_LENGTH ++ " characters, got " ++ toString (Java.length reason)))

/-- **The effective request** of `createRefund`: the path's order, and the header's key if it is
there. -/
def CreateRefundRequest.effective (orderId : String) (headerKey : Option String)
    (body : CreateRefundRequest) : Except OrdersException CreateRefundRequest :=
  let key := match headerKey with
    | some headerKey => if Java.IsBlank headerKey then body.idempotencyKey else headerKey
    | none => body.idempotencyKey
  create orderId body.amount body.reason key

/-- The request made of what is taken has its fields. -/
theorem CreateRefundRequest.fields_of_create {orderId reason idempotencyKey : String}
    {amount : BigDecimal} {request : CreateRefundRequest}
    (h : create orderId amount reason idempotencyKey = .ok request) :
    request.orderId = orderId ∧ request.amount = amount ∧ request.reason = reason
      ∧ request.idempotencyKey = idempotencyKey := by
  unfold create at h
  split_ifs at h
  cases h
  exact ⟨rfl, rfl, rfl, rfl⟩

/-- **The path's order is acted on**, whichever the body names. -/
theorem CreateRefundRequest.orderId_of_effective {orderId : String} {headerKey : Option String}
    {body request : CreateRefundRequest} (h : effective orderId headerKey body = .ok request) :
    request.orderId = orderId :=
  (fields_of_create h).1

/-- A row of `refunds`. -/
structure RefundRow where
  refundId : String
  orderId : String
  tenantId : String
  amount : BigDecimal
  reason : String
  status : String
  idempotencyKey : String
  deriving DecidableEq, Repr

/-- The key of the unique index. -/
def RefundRow.key (row : RefundRow) : String × String := (row.tenantId, row.idempotencyKey)

/-- **What the table takes**: `amount` is `NUMERIC(12, 2)` and positive. -/
def RefundRow.Storable (row : RefundRow) : Prop :=
  0 < row.amount.unscaled ∧ row.amount.unscaled < 10 ^ 12

instance (row : RefundRow) : Decidable row.Storable := inferInstanceAs (Decidable (_ ∧ _))

/-- **The view of a refund.** -/
@[ext]
structure RefundView where
  orderId : String
  refundId : String
  amount : String
  reason : String
  status : String
  orderId_notBlank : ¬ Java.IsBlank orderId
  refundId_notBlank : ¬ Java.IsBlank refundId

instance : DecidableEq RefundView := fun _ _ => decidable_of_iff' _ RefundView.ext_iff

/-- **`RefundView.of`.** -/
def RefundView.of (orderId refundId : String) (amount : BigDecimal) (reason status : String) :
    Except OrdersException RefundView :=
  if h₁ : Java.IsBlank orderId then .error (.illegalArgument "orderId must not be blank")
  else if h₂ : Java.IsBlank refundId then .error (.illegalArgument "refundId must not be blank")
  else .ok ⟨orderId, refundId, Money.render amount, reason, status, h₁, h₂⟩

/-- The view of a row, as the row mapper builds it. -/
def RefundRow.view (row : RefundRow) : Except OrdersException RefundView :=
  RefundView.of row.orderId row.refundId row.amount row.reason row.status

/-! ## The ledger -/

/-- The arguments of `RefundService.refund`. -/
structure Refund where
  orderId : String
  tenantId : String
  request : CreateRefundRequest
  deriving DecidableEq

/-- The key a call inserts under. -/
def Refund.key (c : Refund) : String × String := (c.tenantId, c.request.idempotencyKey)

/-- The row a call inserts. -/
def Refund.row (c : Refund) (amount : BigDecimal) (uuid : String) : RefundRow :=
  ⟨"rfnd-" ++ uuid, c.orderId, c.tenantId, amount, c.request.reason, "refunded",
    c.request.idempotencyKey⟩

/-- Where a call is. -/
inductive Call
  | idle
  /-- its transaction is open -/
  | begun (c : Refund)
  /-- the order is the tenant's -/
  | checked (c : Refund) (amount : BigDecimal)
  /-- the insert inserted nothing -/
  | refused (c : Refund)
  /-- `refund` has returned, with the row it has inserted if it has -/
  | returning (c : Refund) (created : Option RefundRow) (view : RefundView)
  /-- committed; answered 200 with the view, unless the answer, or the commit's acknowledgement
  before it, is lost -/
  | answered (c : Refund) (created : Option RefundRow) (view : RefundView)
  | failed (e : OrdersException)
  deriving DecidableEq

/-- **The ledger**: the committed orders and refunds, oldest first, the refunds of open
transactions, and the calls. -/
structure Ledger where
  orders : List (String × String)
  refunds : List RefundRow
  uncommitted : List RefundRow
  calls : ℕ → Call

/-- No orders, no refunds. -/
def Ledger.start : Ledger := ⟨[], [], [], fun _ => .idle⟩

/-- What happens next. -/
inductive Event
  | order (orderId tenantId : String)
  /-- `createRefund` is called -/
  | request (i : ℕ) (orderId tenantId : String) (headerKey : Option String)
      (body : CreateRefundRequest)
  | existsForTenant (i : ℕ)
  | insertIfAbsent (i : ℕ) (uuid : String)
  | findByIdempotencyKey (i : ℕ)
  /-- the database commits, whether the service gets to know of it or not -/
  | commit (i : ℕ)
  /-- the transaction is aborted before it is committed -/
  | abort (i : ℕ)
  deriving DecidableEq

namespace Ledger

/-- Move call `i`. -/
def goto (s : Ledger) (i : ℕ) (c : Call) : Ledger :=
  { s with calls := Function.update s.calls i c }

theorem goto_self (s : Ledger) (i : ℕ) (c : Call) : (s.goto i c).calls i = c :=
  Function.update_self _ _ _

theorem goto_ne (s : Ledger) {i j : ℕ} (c : Call) (h : j ≠ i) :
    (s.goto i c).calls j = s.calls j := Function.update_of_ne h _ _

/-- Call `i` ends with what was thrown, or goes on. -/
def orFail {α : Type} (s : Ledger) (i : ℕ) (r : Except OrdersException α) (k : α → Ledger) :
    Ledger :=
  match r with
  | .ok a => k a
  | .error e => s.goto i (.failed e)

/-- The committed rows under a key. -/
def findKey (s : Ledger) (key : String × String) : List RefundRow :=
  s.refunds.filter fun row => row.key = key

/-- An insert that conflicts with no committed row: it goes in, unless the refund id is taken. -/
def insertRow (s : Ledger) (i : ℕ) (c : Refund) (row : RefundRow) : Ledger :=
  if row.refundId ∈ s.refunds.map (·.refundId) then s.goto i (.failed .dataAccess)
  else s.orFail i row.view fun view =>
    { s.goto i (.returning c (some row) view) with uncommitted := row :: s.uncommitted }

/-- **`insertIfAbsent`** of `row`; `none` while it waits for an open transaction. -/
def insertIfAbsent (s : Ledger) (i : ℕ) (c : Refund) (row : RefundRow) : Option Ledger :=
  if ¬ row.Storable then some (s.goto i (.failed .dataAccess))
  else if row.key ∈ s.refunds.map RefundRow.key then some (s.goto i (.refused c))
  else if row.key ∈ s.uncommitted.map RefundRow.key
      ∨ row.refundId ∈ s.uncommitted.map (·.refundId) then none
  else some (s.insertRow i c row)

/-- **`findByIdempotencyKey`**, and what `refund` makes of it. -/
def readBack (s : Ledger) (i : ℕ) (c : Refund) : Ledger :=
  match s.findKey c.key with
  | [] => s.goto i (.failed (.illegalState ("idempotency key was rejected as a duplicate but no"
      ++ " stored refund could be read back for it; the unique index and the lookup disagree")))
  | [row] => s.orFail i row.view fun view => s.goto i (.returning c none view)
  | _ => s.goto i (.failed .dataAccess)

/-- The row a call has inserted leaves the open transactions. -/
def drop (s : Ledger) (created : Option RefundRow) : Ledger :=
  { s with uncommitted := s.uncommitted.filter fun row => row ∉ created.toList }

/-- **One step.** -/
def step (s : Ledger) : Event → Option Ledger
  | .order orderId tenantId => some { s with orders := (orderId, tenantId) :: s.orders }
  | .request i orderId tenantId headerKey body =>
    match s.calls i with
    | .idle =>
      some (s.orFail i (CreateRefundRequest.effective orderId headerKey body) fun request =>
        s.goto i (.begun ⟨orderId, tenantId, request⟩))
    | _ => none
  | .existsForTenant i =>
    match s.calls i with
    | .begun c =>
      if (c.orderId, c.tenantId) ∈ s.orders then
        some (s.orFail i (Money.normalise c.request.amount) fun amount =>
          s.goto i (.checked c amount))
      else some (s.goto i (.failed (.orderNotFound c.orderId)))
    | _ => none
  | .insertIfAbsent i uuid =>
    match s.calls i with
    | .checked c amount => s.insertIfAbsent i c (c.row amount uuid)
    | _ => none
  | .findByIdempotencyKey i =>
    match s.calls i with
    | .refused c => some (s.readBack i c)
    | _ => none
  | .commit i =>
    match s.calls i with
    | .returning c created view => some { (s.drop created).goto i (.answered c created view) with
        refunds := s.refunds ++ created.toList }
    | _ => none
  | .abort i =>
    match s.calls i with
    | .begun _ | .checked _ _ | .refused _ => some (s.goto i (.failed .aborted))
    | .returning _ created _ => some ((s.drop created).goto i (.failed .aborted))
    | _ => none

end Ledger

end Orders
