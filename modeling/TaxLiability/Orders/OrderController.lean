import TaxLiability.Orders.OrderRepository

/-!
# Orders/OrderController — each tenant's service, as if it were the only one

    request ──▸ TenantAuthFilter ──▸ OrderController ──▸ rows of (order, X-Tenant) ──▸ response
                      └─ 401                 └─ 404, 400, 500

Every read and write of a handler names the tenant of its header, so what a tenant is answered, over
any sequence of requests by any tenants, is what a service with its orders alone answers to its
requests alone (`responses_of_tenant`).
-/

namespace Orders

/-! ## Requests and responses -/

/-- **`getMessage`** of what a call throws. -/
def OrdersException.message : OrdersException → Option String
  | .illegalArgument message | .illegalState message => some message
  | .amountNotPositive amount =>
    some ("amount must be greater than zero, got " ++ amount.toString)
  | .orderNotFound orderId => some ("order not found: " ++ orderId)
  | .dataAccess | .aborted => none

/-- A body of `createRefund` as Jackson reads it, a member that is left out being null; or one it
cannot parse. -/
inductive RefundBody
  | unparsed
  | members (orderId : Option String) (amount : Option BigDecimal)
      (reason idempotencyKey : Option String)
  deriving DecidableEq

/-- **The request a body stands for**, or the message of `unreadable`. -/
def RefundBody.read : RefundBody → Except String CreateRefundRequest
  | .unparsed => .error "request body could not be parsed"
  | .members none _ _ _ => .error "orderId must not be null"
  | .members (some _) none _ _ => .error "amount must not be null"
  | .members (some _) (some _) none _ => .error "reason must not be null"
  | .members (some _) (some _) (some _) none => .error "idempotencyKey must not be null"
  | .members (some orderId) (some amount) (some reason) (some idempotencyKey) =>
    match CreateRefundRequest.create orderId amount reason idempotencyKey with
    | .ok request => .ok request
    | .error e => .error (e.message.getD "invalid request body")

/-- Where a request is routed. -/
inductive Handler
  | getOrder (orderId : String)
  | createRefund (orderId : String) (headerKey : Option String) (body : RefundBody)
  | countRefunds (orderId : String) (idempotencyKey : Option String)
  deriving DecidableEq

/-- **A request**, with the UUID the service draws if it inserts a refund. -/
structure HttpRequest where
  uri : String
  authorization : Option String
  tenant : Option String
  handler : Handler
  uuid : String
  deriving DecidableEq

/-- **A response**, by its status and body. -/
inductive Response
  /-- 200 -/
  | order (view : OrderView)
  | refund (view : RefundView)
  | count (n : ℕ)
  /-- 400, of the advice -/
  | badRequest (error : String)
  /-- 400, of a header or parameter that is required -/
  | missing (name : String)
  /-- 401 -/
  | unauthorized (error : String)
  /-- 404 -/
  | notFound (orderId : String)
  /-- 500 -/
  | internalServerError
  deriving DecidableEq

/-- **`ApiExceptionHandler`.** -/
def Response.ofException : OrdersException → Response
  | .orderNotFound orderId => .notFound orderId
  | .illegalArgument message => .badRequest message
  | .amountNotPositive amount =>
    .badRequest ("amount must be greater than zero, got " ++ amount.toString)
  | .illegalState _ | .dataAccess | .aborted => .internalServerError

/-! ## The filter -/

def BEARER_PREFIX : String := "bearer "

def TENANT_HEADER : String := "X-Tenant"

/-- Whether a text starts with the prefix, in lower case. -/
def StartsWithBearer (authorization : String) : Prop :=
  Java.StartsWith (String.ofList (authorization.toList.map Char.toLower)) BEARER_PREFIX

instance (authorization : String) : Decidable (StartsWithBearer authorization) :=
  inferInstanceAs (Decidable (Java.StartsWith _ _))

/-- **`TenantAuthFilter`**: what it rejects a request with. -/
def tenantAuthFilter (r : HttpRequest) : Option Response :=
  if Java.StartsWith r.uri "/actuator" then none
  else match r.authorization with
    | none => some (.unauthorized "missing or malformed Authorization bearer header")
    | some authorization =>
      if ¬ StartsWithBearer authorization then
        some (.unauthorized "missing or malformed Authorization bearer header")
      else if Java.IsBlank (String.ofList (authorization.toList.drop BEARER_PREFIX.toList.length))
      then some (.unauthorized "bearer token is empty")
      else match r.tenant with
        | none => some (.unauthorized ("missing " ++ TENANT_HEADER ++ " header"))
        | some tenant =>
          if Java.IsBlank tenant then
            some (.unauthorized ("missing " ++ TENANT_HEADER ++ " header"))
          else none

/-! ## The handlers -/

namespace Tables

/-- The books of the tables, for a refund made at once. -/
def books (t : Tables) : Books := ⟨t.orders.map OrderRow.key, t.refunds, fun _ => none⟩

/-- **`getOrder`.** -/
def getOrder (t : Tables) (orderId tenantId : String) : Response :=
  match t.findByIdForTenant orderId tenantId with
  | .ok (some view) => .order view
  | .ok none => .notFound orderId
  | .error e => .ofException e

/-- **`createRefund`.** -/
def createRefund (t : Tables) (orderId tenantId : String) (headerKey : Option String)
    (body : RefundBody) (uuid : String) : Tables × Response :=
  match body.read with
  | .error message => (t, .badRequest message)
  | .ok request =>
    match CreateRefundRequest.effective orderId headerKey request with
    | .error e => (t, .ofException e)
    | .ok effective =>
      match t.books.refund ⟨orderId, tenantId, effective⟩ ("rfnd-" ++ uuid) with
      | (.ok view, created) => ({ t with refunds := t.refunds ++ created.toList }, .refund view)
      | (.error e, created) => ({ t with refunds := t.refunds ++ created.toList }, .ofException e)

/-- **`countRefunds`.** -/
def countRefunds (t : Tables) (orderId tenantId : String) (idempotencyKey : Option String) :
    Response :=
  match idempotencyKey with
  | none => .missing "idempotency_key"
  | some idempotencyKey =>
    if t.existsForTenant orderId tenantId then
      .count (t.countForIdempotencyKey tenantId idempotencyKey)
    else .notFound orderId

/-- **One request.** -/
def serve (t : Tables) (r : HttpRequest) : Tables × Response :=
  match tenantAuthFilter r with
  | some rejected => (t, rejected)
  | none =>
    match r.tenant with
    | none => (t, .missing TENANT_HEADER)
    | some tenantId =>
      match r.handler with
      | .getOrder orderId => (t, t.getOrder orderId tenantId)
      | .createRefund orderId headerKey body =>
        t.createRefund orderId tenantId headerKey body r.uuid
      | .countRefunds orderId idempotencyKey => (t, t.countRefunds orderId tenantId idempotencyKey)

/-- **The requests one after another**, each with its response. -/
def responses : Tables → List HttpRequest → List (HttpRequest × Response)
  | _, [] => []
  | t, r :: rs => (r, (t.serve r).2) :: responses (t.serve r).1 rs

/-! ## What a tenant sees of the tables -/

/-- **The rows of a tenant.** -/
def ofTenant (t : Tables) (tenantId : String) : Tables :=
  ⟨t.orders.filter (·.tenantId = tenantId), t.refunds.filter (·.tenantId = tenantId)⟩

/-- **No refund id of a tenant is another's**, by whose each UUID is. -/
def IdsOwned (owner : String → String) (t : Tables) : Prop :=
  ∀ row ∈ t.refunds, ∃ uuid, row.refundId = "rfnd-" ++ uuid ∧ owner uuid = row.tenantId

section Reads

variable (t : Tables) (orderId tenantId : String)

/-- A filter that asks for the tenant is one of the tenant's rows. -/
theorem filter_ofTenant {α : Type} (rows : List α) (tenantOf : α → String) (p : α → Prop)
    [DecidablePred p] :
    (rows.filter (tenantOf · = tenantId)).filter (fun row => p row ∧ tenantOf row = tenantId)
      = rows.filter fun row => p row ∧ tenantOf row = tenantId := by
  rw [List.filter_filter]
  refine List.filter_congr fun row _ => ?_
  by_cases h : tenantOf row = tenantId <;> simp [h]

theorem getOrder_ofTenant : (t.ofTenant tenantId).getOrder orderId tenantId
    = t.getOrder orderId tenantId := by
  unfold getOrder findByIdForTenant ofTenant
  rw [filter_ofTenant tenantId t.orders (·.tenantId) (·.orderId = orderId)]

theorem countRefunds_ofTenant (idempotencyKey : Option String) :
    (t.ofTenant tenantId).countRefunds orderId tenantId idempotencyKey
      = t.countRefunds orderId tenantId idempotencyKey := by
  have hcount : ∀ key, (t.ofTenant tenantId).countForIdempotencyKey tenantId key
      = t.countForIdempotencyKey tenantId key := by
    intro key
    have hrows := filter_ofTenant tenantId t.refunds (·.tenantId) (·.idempotencyKey = key)
    simp only [countForIdempotencyKey, ofTenant, and_comm (b := _ = key)] at hrows ⊢
    rw [hrows]
  unfold countRefunds existsForTenant
  simp only [hcount]
  simp only [ofTenant, filter_ofTenant tenantId t.orders (·.tenantId) (·.orderId = orderId)]

end Reads

/-! ## What a request writes -/

/-- A refund made at once is its call's own, under the id it was given. -/
theorem row_of_refund {b : Books} {c : Refund} {refundId : String} {row : RefundRow}
    (h : (b.refund c refundId).2 = some row) :
    row.tenantId = c.tenantId ∧ row.refundId = refundId := by
  unfold Books.refund at h
  split at h
  · cases h
  · split at h
    · cases h
    · split at h
      · cases h
      · split at h
        · cases h
        · split at h
          · cases h
          · dsimp only at h
            split at h
            · cases h
              exact ⟨rfl, rfl⟩
            · cases h

/-- **A request writes one refund of its tenant, or nothing.** -/
theorem serve_eq (t : Tables) (r : HttpRequest) : ∃ created : Option RefundRow,
    (t.serve r).1 = { t with refunds := t.refunds ++ created.toList }
      ∧ ∀ row ∈ created, r.tenant = some row.tenantId ∧ row.refundId = "rfnd-" ++ r.uuid := by
  have hnothing : ∃ created : Option RefundRow,
      t = { t with refunds := t.refunds ++ created.toList }
        ∧ ∀ row ∈ created, r.tenant = some row.tenantId ∧ row.refundId = "rfnd-" ++ r.uuid :=
    ⟨none, by rw [Option.toList_none, List.append_nil], nofun⟩
  unfold serve
  split
  · exact hnothing
  · split
    · exact hnothing
    · next tenantId htenant =>
      split
      · exact hnothing
      · next orderId headerKey body _ =>
        unfold createRefund
        split
        · exact hnothing
        · split
          · exact hnothing
          · next effective _ =>
            have hrow : ∀ row ∈ (t.books.refund ⟨orderId, tenantId, effective⟩
                ("rfnd-" ++ r.uuid)).2,
                r.tenant = some row.tenantId ∧ row.refundId = "rfnd-" ++ r.uuid := by
              intro row hrow
              obtain ⟨hown, hid⟩ := row_of_refund hrow
              exact ⟨hown ▸ htenant, hid⟩
            split
            · next view created hrefund =>
              rw [hrefund] at hrow
              exact ⟨created, rfl, hrow⟩
            · next e created hrefund =>
              rw [hrefund] at hrow
              exact ⟨created, rfl, hrow⟩
      · exact hnothing

section Step

variable {owner : String → String} {t : Tables} {r : HttpRequest} {tenantId : String}
  (hids : t.IdsOwned owner)

include hids

/-- The ids stay owned. -/
theorem IdsOwned.serve (howner : ∀ tenantId ∈ r.tenant, owner r.uuid = tenantId) :
    (t.serve r).1.IdsOwned owner := by
  obtain ⟨created, heq, hrow⟩ := t.serve_eq r
  rw [heq]
  intro row hmem
  obtain hold | hnew := List.mem_append.mp hmem
  · exact hids row hold
  · obtain ⟨htenant, hid⟩ := hrow row (Option.mem_toList.mp hnew)
    exact ⟨r.uuid, hid, howner row.tenantId htenant⟩

omit hids in
/-- **Another tenant's request** changes nothing a tenant sees. -/
theorem ofTenant_serve_other (h : r.tenant ≠ some tenantId) :
    (t.serve r).1.ofTenant tenantId = t.ofTenant tenantId := by
  obtain ⟨created, heq, hrow⟩ := t.serve_eq r
  have hnone : created.toList.filter (·.tenantId = tenantId) = [] := by
    refine List.filter_eq_nil_iff.mpr fun row hmem hown => h ?_
    rw [(hrow row (Option.mem_toList.mp hmem)).1, of_decide_eq_true hown]
  rw [heq]
  simp only [ofTenant, List.filter_append, hnone, List.append_nil]

/-- **A refund is made of the tenant's rows alone**, if its id is of the tenant. -/
theorem refund_ofTenant {c : Refund} {uuid : String} (howner : owner uuid = c.tenantId) :
    (t.ofTenant c.tenantId).books.refund c ("rfnd-" ++ uuid)
      = t.books.refund c ("rfnd-" ++ uuid) := by
  have horder : (c.orderId, c.tenantId) ∈ (t.ofTenant c.tenantId).books.orders
      ↔ (c.orderId, c.tenantId) ∈ t.books.orders := by
    simp only [books, ofTenant, List.mem_map, List.mem_filter, decide_eq_true_eq, OrderRow.key,
      Prod.mk.injEq]
    constructor
    · rintro ⟨row, ⟨hrow, -⟩, h⟩
      exact ⟨row, hrow, h⟩
    · rintro ⟨row, hrow, h⟩
      exact ⟨row, ⟨hrow, h.2⟩, h⟩
  have hfind : (t.ofTenant c.tenantId).books.refunds.find? (fun made => made.key = c.key)
      = t.books.refunds.find? fun made => made.key = c.key := by
    simp only [books, ofTenant, List.find?_filter]
    congr 1
    funext row
    by_cases h : row.key = c.key
    · have htenant : row.tenantId = c.tenantId := congrArg Prod.fst h
      simp [h, htenant]
    · simp [h]
  have hid : "rfnd-" ++ uuid ∈ (t.ofTenant c.tenantId).books.refunds.map (·.refundId)
      ↔ "rfnd-" ++ uuid ∈ t.books.refunds.map (·.refundId) := by
    simp only [books, ofTenant, List.mem_map, List.mem_filter, decide_eq_true_eq]
    constructor
    · rintro ⟨row, ⟨hrow, -⟩, h⟩
      exact ⟨row, hrow, h⟩
    · rintro ⟨row, hrow, h⟩
      obtain ⟨uuid', hrefundId, hown⟩ := hids row hrow
      obtain rfl := (String.append_right_inj _).mp (hrefundId.symm.trans h)
      exact ⟨row, ⟨hrow, hown.symm.trans howner⟩, h⟩
  simp only [Books.refund, Books.any_placed, horder, hfind, hid]

/-- **A tenant's request** is answered, and writes, by the tenant's rows alone. -/
theorem serve_ofTenant (htenant : r.tenant = some tenantId) (howner : owner r.uuid = tenantId) :
    (t.ofTenant tenantId).serve r = ((t.serve r).1.ofTenant tenantId, (t.serve r).2) := by
  unfold serve
  split
  · rfl
  · rw [htenant]
    dsimp only
    split
    · next orderId _ => rw [getOrder_ofTenant]
    · next orderId headerKey body _ =>
      unfold createRefund
      split
      · rfl
      · split
        · rfl
        · next effective _ =>
          have hrefund := refund_ofTenant hids (c := ⟨orderId, tenantId, effective⟩) howner
          dsimp only at hrefund
          have hown : ∀ row ∈ (t.books.refund ⟨orderId, tenantId, effective⟩
              ("rfnd-" ++ r.uuid)).2, row.tenantId = tenantId := fun row h => (row_of_refund h).1
          rw [hrefund]
          generalize t.books.refund ⟨orderId, tenantId, effective⟩ ("rfnd-" ++ r.uuid) = made
            at hown
          obtain ⟨answer, created⟩ := made
          have hkept : created.toList.filter (·.tenantId = tenantId) = created.toList :=
            List.filter_eq_self.mpr fun row hmem =>
              decide_eq_true (hown row (Option.mem_toList.mp hmem))
          cases answer <;> simp only [ofTenant, List.filter_append, hkept]
    · rw [countRefunds_ofTenant]

end Step

/-! ## The run -/

/-- **A service of its own.**  Over any requests of any tenants, in any order, a tenant's requests
are answered as a service with its rows alone answers them alone, as long as no UUID drawn for one
tenant is drawn for another. -/
theorem responses_of_tenant (owner : String → String) {t : Tables} {rs : List HttpRequest}
    (tenantId : String) (hids : t.IdsOwned owner)
    (howner : ∀ r ∈ rs, ∀ tenantId ∈ r.tenant, owner r.uuid = tenantId) :
    (t.responses rs).filter (fun x => x.1.tenant = some tenantId)
      = (t.ofTenant tenantId).responses (rs.filter fun r => r.tenant = some tenantId) := by
  induction rs generalizing t with
  | nil => rfl
  | cons r rs ih =>
    have hserved := hids.serve (howner r List.mem_cons_self)
    have hrest := ih hserved fun r' hr' => howner r' (List.mem_cons_of_mem r hr')
    rw [responses, List.filter_cons, List.filter_cons, hrest]
    by_cases h : r.tenant = some tenantId
    · have hserve := serve_ofTenant hids h (howner r List.mem_cons_self tenantId h)
      rw [if_pos (decide_eq_true h), if_pos (decide_eq_true h), responses, hserve]
    · have hdrop : ¬ decide (r.tenant = some tenantId) = true := fun hd => h (of_decide_eq_true hd)
      rw [if_neg hdrop, if_neg hdrop, ofTenant_serve_other h]

/-- Two tenants with an order of one name. -/
def docsTables : Tables :=
  ⟨[⟨"ord-1", "tenant-a", ⟨4250, 2⟩, "paid"⟩, ⟨"ord-1", "tenant-b", ⟨100, 2⟩, "open"⟩], []⟩

/-- A request for a refund of ten dollars of `ord-1` under `k-1`. -/
def docsRefund (tenantId uuid : String) : HttpRequest where
  uri := "/orders/ord-1/refunds"
  authorization := some "Bearer t"
  tenant := some tenantId
  handler := .createRefund "ord-1" none
    (.members (some "ord-1") (some ⟨1000, 2⟩) (some "duplicate") (some "k-1"))
  uuid := uuid

theorem responses_of_tenant_docs :
    (docsTables.responses [docsRefund "tenant-b" "u0", docsRefund "tenant-a" "u1",
        docsRefund "tenant-a" "u2"]).filter (fun x => x.1.tenant = some "tenant-a")
      = (docsTables.ofTenant "tenant-a").responses
          [docsRefund "tenant-a" "u1", docsRefund "tenant-a" "u2"]
    ∧ ((docsTables.ofTenant "tenant-a").responses
          [docsRefund "tenant-a" "u1", docsRefund "tenant-a" "u2"]).map (fun x => x.2)
        = [.refund ⟨"ord-1", "rfnd-u1", "10.00", "duplicate", "refunded", by decide, by decide⟩,
          .refund ⟨"ord-1", "rfnd-u1", "10.00", "duplicate", "refunded", by decide, by decide⟩] :=
  ⟨responses_of_tenant (fun uuid => if uuid = "u0" then "tenant-b" else "tenant-a") "tenant-a"
    nofun (by decide), by decide⟩

end Tables

end Orders
