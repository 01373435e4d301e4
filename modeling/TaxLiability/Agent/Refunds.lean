import TaxLiability.Agent.Idempotency
import TaxLiability.Mcp.Agreement
import TaxLiability.Mcp.Routes
import TaxLiability.Orders.OrderController

/-!
# Agent/Refunds — one refund for one call, from the model's proposal to the ledger and back

    proposal ──inject_context──▸ tools/call ──validate──▸ POST ──route, filter, body──▸ ledger
        ▴────── RefundView ◂────── 200 ◂────── view of the row under the key ◂────────────┘

A tool call the model repeats, a node that is replayed and a retry after a deadline send the same
proposal on the same thread, and with it the same key.  Whatever else is sent to the order service
meanwhile under other keys or for other tenants, the calls that are answered are answered with one
refund exactly when they are the same call, and with the amount that was proposed
(`refunded_once`), unless the payloads two keys are derived from collide.
-/

open Machine

namespace Agent

/-! ## A call of the refund tool -/

def REFUND_TOOL : String := "orders.create_refund"

/-- **A call of the refund tool**: what the model proposed, on which thread and for which tenant,
and what the session runs in. -/
structure RefundCall where
  thread_id : String
  tenant_id : String
  proposed : Arguments
  context : Mcp.Context

namespace RefundCall

/-- The arguments sent. -/
def sent (p : RefundCall) : Arguments :=
  injectContext p.proposed refundDeclared p.tenant_id p.thread_id REFUND_TOOL

/-- The text its key is derived from. -/
def payload (p : RefundCall) : List Char := Agent.payload p.thread_id REFUND_TOOL p.proposed

/-- The key its refund is inserted under. -/
def key (p : RefundCall) : String × String :=
  (p.tenant_id, idempotencyKey p.thread_id REFUND_TOOL p.proposed)

/-- **The same call**, up to the order of keys and the session. -/
structure Same (p q : RefundCall) : Prop where
  thread_id : p.thread_id = q.thread_id
  tenant_id : p.tenant_id = q.tenant_id
  proposed : p.proposed.Same q.proposed

end RefundCall

/-! ## The way to the ledger -/

/-- **What stands between an agent and the ledger**: the libraries of the tool server, and the HTTP
server and reader of the order service. -/
structure Deployment where
  pydantic : Mcp.Pydantic
  builtins : Mcp.Builtins
  container : Mcp.Container
  constraints : Mcp.StreamReadConstraints

/-- A member of a body that is a text. -/
def textOf (body : Json.Fields) (name : String) : Option String :=
  match Dict.get? body name with
  | some (.str s) => some s
  | _ => none

/-- **The transaction a request opens** in the ledger as call `i`, past the filter and the reading
of its body. -/
def transaction (r : Orders.HttpRequest) (i : ℕ) : Option Orders.Event :=
  match Orders.tenantAuthFilter r, r.tenant, r.handler with
  | none, some tenantId, .createRefund orderId headerKey body =>
    match body.read with
    | .ok request => some (.request i orderId tenantId headerKey request)
    | .error _ => none
  | _, _, _ => none

/-- The body of the response to a refund. -/
def viewJson (view : Orders.RefundView) : Json :=
  .obj [("order_id", .str view.orderId), ("refund_id", .str view.refundId),
    ("amount", .str view.amount), ("reason", .str view.reason), ("status", .str view.status)]

namespace Deployment

variable (D : Deployment)

/-- **The body of a refund, as the order service reads it**: the amount's text is a `BigDecimal`. -/
def readBody : Option Json → Orders.RefundBody
  | some (.obj body) =>
    match (textOf body "amount").map D.constraints.readDecimal with
    | some none => .unparsed
    | some (some amount) => .members (textOf body "orderId") (some amount) (textOf body "reason")
        (textOf body "idempotencyKey")
    | none => .members (textOf body "orderId") none (textOf body "reason")
        (textOf body "idempotencyKey")
  | _ => .unparsed

/-- **A request as it gets to a handler**, if the client sends it and there is a route. -/
def receive (q : Mcp.Request) : Option Orders.HttpRequest :=
  if Mcp.Sendable q.url then
    (D.container.resolve q).map fun route =>
      { uri := String.ofList (Mcp.target q.url)
        authorization := some q.headers.authorization
        tenant := some q.headers.xTenant
        handler := match route with
          | .getOrder orderId => .getOrder orderId
          | .createRefund orderId => .createRefund orderId q.idempotencyKey (D.readBody q.json)
          | .countRefunds orderId => .countRefunds orderId none
        -- the insert draws it
        uuid := "" }
  else none

/-- **The transaction a call of the tool opens**, if nothing on the way refuses it. -/
def opens (p : RefundCall) (i : ℕ) : Option Orders.Event :=
  match Mcp.Tool.createRefund.call D.pydantic p.context p.sent.fields with
  | .ok (_, .http q) => (D.receive q).bind fun r => transaction r i
  | _ => none

/-- **What the tool makes of the order service's answer**: a 200 with a view, of any text. -/
def reply (p : RefundCall) (text : String) (view : Orders.RefundView) : Mcp.Raising Json :=
  Mcp.Tool.createRefund.run D.pydantic D.builtins p.context p.sent.fields
    (.response ⟨200, text, some (viewJson view)⟩)

end Deployment

/-! ## What is sent -/

namespace RefundCall

theorem sent_get? (p : RefundCall) (k : String) : Dict.get? p.sent.fields k
    = if IDEMPOTENCY_ARG = k then
        some (.str (idempotencyKey p.thread_id REFUND_TOOL p.proposed))
      else if TENANT_ARG = k then some (.str p.tenant_id) else p.proposed.get? k :=
  injectContext_get? (by decide) (by decide) p.proposed p.tenant_id p.thread_id REFUND_TOOL k

theorem sent_eq (p : RefundCall) {key : String}
    (h : idempotencyKey p.thread_id REFUND_TOOL p.proposed = key) :
    p.sent = (p.proposed.set TENANT_ARG (.str p.tenant_id)).set IDEMPOTENCY_ARG (.str key) := by
  subst h
  rw [sent, injectContext, if_pos (by decide), if_pos (by decide)]

/-- Without a collision, two calls have one key exactly when they are the same. -/
theorem key_eq_iff {p q : RefundCall} (h : ¬ Collide p.payload q.payload) :
    p.key = q.key ↔ p.Same q := by
  have htool : '|' ∉ REFUND_TOOL.toList := by decide
  have hkey : idempotencyKey p.thread_id REFUND_TOOL p.proposed
      = idempotencyKey q.thread_id REFUND_TOOL q.proposed ↔ p.payload = q.payload := by
    constructor
    · intro hkeys
      by_contra hne
      exact h ⟨hne, hkeys⟩
    · exact fun hpayload => congrArg keyOf hpayload
  rw [key, key, Prod.mk.injEq, hkey, payload, payload, payload_eq_iff_call htool htool]
  constructor
  · rintro ⟨htenant, hthread, -, hproposed⟩
    exact ⟨hthread, htenant, hproposed⟩
  · intro hsame
    exact ⟨hsame.tenant_id, hsame.thread_id, rfl, hsame.proposed⟩

/-- The same calls send the same arguments. -/
theorem Same.sent {p q : RefundCall} (h : p.Same q) : p.sent.Same q.sent := by
  have hkey : idempotencyKey p.thread_id REFUND_TOOL p.proposed
      = idempotencyKey q.thread_id REFUND_TOOL q.proposed := by
    rw [h.thread_id]
    exact idempotencyKey_eq_iff.mpr (.inl h.proposed)
  refine Arguments.same_iff.mpr fun k => ?_
  have hproposed := Arguments.same_iff.mp h.proposed k
  unfold Arguments.Agree Arguments.get? at hproposed ⊢
  rw [p.sent_get?, q.sent_get?, hkey, h.tenant_id]
  split
  · rfl
  · split
    · rfl
    · exact hproposed

end RefundCall

/-- A decimal is read of a value as of the same value. -/
theorem decimal_canon (v : Json) : Mcp.decimal (.json v.canon) = Mcp.decimal (.json v) := by
  cases v <;> rfl

/-- A field that is a text is one in the same arguments. -/
theorem str_of_agree {a b : Arguments} {k s t : String} (h : a.Agree b k)
    (ha : Dict.get? a.fields k = some (.str s)) (hb : Dict.get? b.fields k = some (.str t)) :
    s = t := by
  unfold Arguments.Agree Arguments.get? at h
  rw [ha, hb, Option.map_some, Option.map_some, Option.some.injEq] at h
  exact Json.same_str_iff.mp h

/-- **The same arguments make the same args.** -/
theorem given_same {P : Mcp.Pydantic} {a b : Arguments} {x y : Mcp.CreateRefundArgs}
    (h : a.Same b) (hx : x.Given P a.fields) (hy : y.Given P b.fields) :
    x.order_id.1 = y.order_id.1 ∧ x.amount.1 = y.amount.1 ∧ x.reason.1 = y.reason.1 := by
  have hagree := Arguments.same_iff.mp h
  refine ⟨str_of_agree (hagree _) hx.order_id hy.order_id, ?_,
    str_of_agree (hagree _) hx.reason hy.reason⟩
  obtain ⟨v, hv, hd⟩ := hx.amount
  obtain ⟨w, hw, he⟩ := hy.amount
  have hcanon := hagree "amount"
  unfold Arguments.Agree Arguments.get? at hcanon
  rw [hv, hw, Option.map_some, Option.map_some, Option.some.injEq] at hcanon
  rw [← decimal_canon, hcanon, decimal_canon, he] at hd
  exact (Option.some.inj hd).symm

/-! ## What the ledger gets -/

/-- **What a call of the tool opens**: its tenant's transaction, under its key, for its amount. -/
structure Opened (D : Deployment) (p : RefundCall) (args : Mcp.CreateRefundArgs) (orderId : String)
    (body : Orders.CreateRefundRequest) : Prop where
  given : args.Given D.pydantic p.sent.fields
  call : Mcp.Tool.createRefund.call D.pydantic p.context p.sent.fields
    = .ok (.createRefund args, (Mcp.Args.createRefund args).request p.context)
  amount : body.amount = Mcp.bigDecimal args.amount.1
  reason : body.reason = args.reason.1
  order : Mcp.Routable D.container args.order_id.1 → orderId = args.order_id.1

/-- The body of a refund is read as the tool has written it. -/
theorem readBody_payload (D : Deployment) (args : Mcp.CreateRefundArgs) :
    D.readBody (some (.obj args.payload))
      = match D.constraints.readDecimal (String.ofList args.amount.1.str) with
        | none => .unparsed
        | some amount => .members (some args.order_id.1) (some amount) (some args.reason.1)
            (some (Mcp.uuidText args.idempotency_key)) := by
  have hamount : textOf args.payload "amount" = some (String.ofList args.amount.1.str) := rfl
  simp only [Deployment.readBody, hamount, Option.map_some]
  cases D.constraints.readDecimal (String.ofList args.amount.1.str) <;> rfl

/-- A body that is read has the amount and the reason of its args. -/
theorem fields_of_readBody {D : Deployment} {args : Mcp.CreateRefundArgs}
    {body : Orders.CreateRefundRequest}
    (h : (D.readBody (some (.obj args.payload))).read = .ok body) :
    body.amount = Mcp.bigDecimal args.amount.1 ∧ body.reason = args.reason.1 := by
  rw [readBody_payload, Mcp.readDecimal_str D.constraints args.amount.2] at h
  split_ifs at h
  · unfold Orders.RefundBody.read at h
    dsimp only at h
    split at h
    · next hcreate =>
      cases h
      obtain ⟨-, hamount, hreason, -⟩ := Orders.CreateRefundRequest.fields_of_create hcreate
      exact ⟨hamount, hreason⟩
    · cases h
  · cases h

/-- **A call that opens a transaction**, taken apart. -/
theorem exists_opened {D : Deployment} {p : RefundCall} {i : ℕ} {e : Orders.Event}
    (h : D.opens p i = some e) :
    ∃ args orderId body, Opened D p args orderId body ∧
      e = .request i orderId args.tenant_id.1 (some (Mcp.uuidText args.idempotency_key)) body := by
  unfold Deployment.opens at h
  split at h
  case h_2 => cases h
  case h_1 a q hcall =>
    obtain ⟨hvalid, -, hrequest⟩ := Mcp.Tool.call_eq_ok.mp hcall
    obtain ⟨args, hgiven, rfl⟩ := Mcp.Tool.validate_createRefund_eq_ok.mp hvalid
    cases hrequest
    obtain ⟨r, hr, h⟩ := Option.bind_eq_some_iff.mp h
    unfold Deployment.receive at hr
    split at hr
    case isFalse => cases hr
    case isTrue hsend =>
      obtain ⟨route, hroute, rfl⟩ := Option.map_eq_some_iff.mp hr
      unfold transaction at h
      split at h
      case h_2 => cases h
      case h_1 tenantId orderId headerKey body _ htenant hhandler =>
        cases htenant
        cases route with
        | getOrder _ => cases hhandler
        | countRefunds _ => cases hhandler
        | createRefund routed =>
          cases hhandler
          split at h
          case h_2 => cases h
          case h_1 request hread =>
            cases h
            obtain ⟨hamount, hreason⟩ := fields_of_readBody hread
            refine ⟨args, orderId, request, ⟨hgiven, hcall, hamount, hreason, fun hroutable => ?_⟩,
              rfl⟩
            have hmeant : (Mcp.Args.createRefund args).route
                = some (.createRefund args.order_id.1) := rfl
            obtain ⟨rest, habout⟩ := Mcp.about_of_route (C := p.context) hmeant rfl
            have hresolved := (Mcp.resolve_iff habout).mpr hroutable
            cases hresolved.symm.trans hroute
            rfl

/-- **A call of valid arguments** opens what its request is received as. -/
theorem opens_of_given {D : Deployment} {p : RefundCall} {args : Mcp.CreateRefundArgs} {i : ℕ}
    {q : Mcp.Request} (hgiven : args.Given D.pydantic p.sent.fields)
    (hclaim : Mcp.Sse.crossTenantClaim p.context.request_tenant args.tenant_id.1 = "")
    (hrequest : (Mcp.Args.createRefund args).request p.context = .http q) :
    D.opens p i = (D.receive q).bind fun r => transaction r i := by
  have hcall : Mcp.Tool.createRefund.call D.pydantic p.context p.sent.fields
      = .ok (.createRefund args, .http q) :=
    Mcp.Tool.call_eq_ok.mpr
      ⟨Mcp.Tool.validate_createRefund_eq_ok.mpr ⟨args, hgiven, rfl⟩, hclaim, hrequest.symm⟩
  rw [Deployment.opens, hcall]

/-- **A call in the ledger is the call that was opened**: its key and its request's fields. -/
theorem Opened.request_eq {D : Deployment} {p : RefundCall} {args : Mcp.CreateRefundArgs}
    {orderId : String} {body request : Orders.CreateRefundRequest}
    (huuid : ∀ u < 2 ^ 128, D.pydantic.uuid (Mcp.uuidText u) = some u)
    (h : Opened D p args orderId body)
    (hrequest : Orders.CreateRefundRequest.effective orderId
      (some (Mcp.uuidText args.idempotency_key)) body = .ok request) :
    (args.tenant_id.1, request.idempotencyKey) = p.key
      ∧ request.amount = Mcp.bigDecimal args.amount.1 ∧ request.reason = args.reason.1 := by
  have htenant : args.tenant_id.1 = p.tenant_id := by
    have hsent := h.given.tenant_id
    rw [p.sent_get?, if_neg (by decide), if_pos (by rfl)] at hsent
    exact (Json.str.inj (Option.some.inj hsent)).symm
  have hkey : Mcp.uuidText args.idempotency_key
      = idempotencyKey p.thread_id REFUND_TOOL p.proposed := by
    obtain ⟨v, hv, hu⟩ := h.given.idempotency_key
    rw [p.sent_get?, if_pos (by rfl)] at hv
    cases hv
    have hread := huuid _ (Uuid.uuid5_lt IDEMPOTENCY_NS p.payload)
    change D.pydantic.uuid (idempotencyKey p.thread_id REFUND_TOOL p.proposed) = _ at hread
    rw [Mcp.uuid, hread] at hu
    rw [← Except.ok.inj hu]
    rfl
  rw [Orders.CreateRefundRequest.effective, if_neg (Mcp.uuidText_not_blank _)] at hrequest
  obtain ⟨-, hamount, hreason, hown⟩ := Orders.CreateRefundRequest.fields_of_create hrequest
  refine ⟨?_, hamount.trans h.amount, hreason.trans h.reason⟩
  rw [hown, htenant, hkey]
  rfl

/-! ## The way back -/

/-- A view has all of the row it is of. -/
theorem fields_of_view {row : Orders.RefundRow} {view : Orders.RefundView}
    (h : row.view = .ok view) : view.orderId = row.orderId ∧ view.refundId = row.refundId
      ∧ view.amount = Orders.Money.render row.amount ∧ view.reason = row.reason
      ∧ view.status = row.status := by
  unfold Orders.RefundRow.view Orders.RefundView.of at h
  split_ifs at h
  cases h
  exact ⟨rfl, rfl, rfl, rfl, rfl⟩

/-- **A view is a valid reply** if its amount is a decimal. -/
theorem validate_viewJson {view : Orders.RefundView} {d : Decimal}
    (h : Decimal.parse view.amount.toList = some d) : Mcp.RefundView.validate (viewJson view)
      = .ok ⟨view.orderId, view.refundId, d, view.reason, view.status⟩ := by
  have hamount : Mcp.anyDecimal (.json (.str view.amount)) = .ok d := by
    rw [Mcp.anyDecimal, Mcp.decimal, h]
    rfl
  refine Machine.map_eq_ok.mpr
    ⟨(view.orderId, view.refundId, d, view.reason, view.status, ()), ?_, rfl⟩
  simp only [Validation.both_eq_ok, Validation.field_eq_ok, Validation.forbidExtra_eq_ok]
  exact ⟨⟨_, rfl, rfl⟩, ⟨_, rfl, rfl⟩, ⟨_, rfl, hamount⟩, ⟨_, rfl, rfl⟩, ⟨_, rfl, rfl⟩,
    by simp [Mcp.fromJson]⟩

/-- **The reply to a call that was opened**: the view's refund, with its amount as a decimal. -/
theorem Opened.reply_eq {D : Deployment} {p : RefundCall} {args : Mcp.CreateRefundArgs}
    {orderId : String} {body : Orders.CreateRefundRequest} {view : Orders.RefundView} {d : Decimal}
    (h : Opened D p args orderId body) (hd : Decimal.parse view.amount.toList = some d)
    (text : String) : D.reply p text view
      = .ok (Mcp.RefundView.dump ⟨view.orderId, view.refundId, d, view.reason, view.status⟩) := by
  rw [Deployment.reply, Mcp.Tool.run, h.call]
  exact Machine.map_eq_ok.mpr ⟨_, validate_viewJson hd, rfl⟩

/-! ## Runs -/

/-- **A run in which some calls are agents'**: each request with an origin is the one its origin
opens, no other client uses the key of one, and no two of them collide. -/
structure Driven (D : Deployment) (origin : ℕ → Option RefundCall) (es : List Orders.Event) :
    Prop where
  ours : ∀ i orderId tenantId headerKey body,
    Orders.Event.request i orderId tenantId headerKey body ∈ es →
    ∀ p ∈ origin i, D.opens p i = some (.request i orderId tenantId headerKey body)
  others : ∀ i orderId tenantId headerKey body request,
    Orders.Event.request i orderId tenantId headerKey body ∈ es → origin i = none →
    Orders.CreateRefundRequest.effective orderId headerKey body = .ok request →
    ∀ j, ∀ p ∈ origin j, (tenantId, request.idempotencyKey) ≠ p.key
  apart : ∀ i j, ∀ p ∈ origin i, ∀ q ∈ origin j, ¬ Collide p.payload q.payload

/-- **A call that is settled**: there is one refund under its key, of its tenant and of what was
proposed, and the reply is of that refund. -/
structure Settled (D : Deployment) (s : Orders.Ledger) (p : RefundCall) (view : Orders.RefundView)
    (args : Mcp.CreateRefundArgs) (row : Orders.RefundRow) : Prop where
  given : args.Given D.pydantic p.sent.fields
  one : s.findKey p.key = [row]
  tenant_id : row.tenantId = p.tenant_id
  order_id : Mcp.Routable D.container args.order_id.1 → row.orderId = args.order_id.1
  amount : row.amount.value = args.amount.1.value
  reason : row.reason = args.reason.1
  reply : ∀ text, ∃ d : Decimal, d.value = args.amount.1.value
    ∧ D.reply p text view
      = .ok (Mcp.RefundView.dump ⟨row.orderId, row.refundId, d, row.reason, row.status⟩)

section Run

variable {D : Deployment} {origin : ℕ → Option RefundCall} {es : List Orders.Event}
  {s : Orders.Ledger} (huuid : ∀ u < 2 ^ 128, D.pydantic.uuid (Mcp.uuidText u) = some u)
  (hdriven : Driven D origin es) (h : exec Orders.Ledger.step Orders.Ledger.start es = some s)

include huuid hdriven h

/-- **An agent's call is in the ledger as it was opened.** -/
theorem exists_opened_of_call {i : ℕ} {p : RefundCall} {c : Orders.Refund} (hp : p ∈ origin i)
    (hc : Orders.Ledger.refundOf (s.calls i) = some c) : ∃ args body,
      Opened D p args c.orderId body ∧ c.key = p.key
        ∧ c.request.amount = Mcp.bigDecimal args.amount.1 ∧ c.request.reason = args.reason.1 := by
  obtain hstart | ⟨headerKey, body, hmem, hrequest⟩ := Orders.Ledger.requested_of_exec h hc
  · cases hstart
  · obtain ⟨args, orderId, body', hopened, heq⟩ :=
      exists_opened (hdriven.ours i _ _ _ _ hmem p hp)
    obtain ⟨-, rfl, htenant, rfl, rfl⟩ := Orders.Event.request.inj heq
    obtain ⟨hkey, hamount, hreason⟩ := hopened.request_eq huuid hrequest
    have hown : c.key = (args.tenant_id.1, c.request.idempotencyKey) := Prod.ext htenant rfl
    exact ⟨args, body, hopened, hown.trans hkey, hamount, hreason⟩

/-- **A refund under an agent's key is of what was proposed**, whichever call made it. -/
theorem row_of_proposal {i : ℕ} {p : RefundCall} {args : Mcp.CreateRefundArgs}
    {row : Orders.RefundRow} (hp : p ∈ origin i) (hgiven : args.Given D.pydantic p.sent.fields)
    (hrow : row ∈ s.refunds) (hkey : row.key = p.key) :
    (Mcp.Routable D.container args.order_id.1 → row.orderId = args.order_id.1)
      ∧ row.reason = args.reason.1
      ∧ ∃ cents : ℕ, cents < 10 ^ 28 ∧ args.amount.1.value * 100 = cents
        ∧ row.amount = ⟨cents, 2⟩ := by
  have hs := Orders.Ledger.sound_of_exec h
  obtain ⟨j, hj⟩ := hs.created row hrow
  obtain ⟨c, view, hcall⟩ := Orders.Ledger.eq_answered_of_made hj
  have hsound := hs.calls j
  rw [hcall] at hsound
  obtain ⟨-, hown, -⟩ := hsound
  have hc : Orders.Ledger.refundOf (s.calls j) = some c := by
    rw [hcall]
    rfl
  have hckey : c.key = p.key := hown.key.symm.trans hkey
  cases horigin : origin j with
  | none =>
    obtain hstart | ⟨headerKey, body, hmem, hrequest⟩ := Orders.Ledger.requested_of_exec h hc
    · cases hstart
    · exact absurd hckey (hdriven.others j _ _ _ _ _ hmem horigin hrequest i p hp)
  | some q =>
    obtain ⟨args', body, hopened, hqkey, hamount, hreason⟩ :=
      exists_opened_of_call huuid hdriven h horigin hc
    -- the call that made it is the same one, so its args are the same
    have hsame : q.Same p :=
      (RefundCall.key_eq_iff (hdriven.apart j i q horigin p hp)).mp (hqkey.symm.trans hckey)
    obtain ⟨horder', hamount', hreason'⟩ := given_same hsame.sent hopened.given hgiven
    have hcents := (Mcp.payable_iff _).mp args.amount.2
    obtain ⟨n, -, hlt, hvalue⟩ := hcents
    obtain ⟨cents, -, hcents, hnormal⟩ := Mcp.normalise_bigDecimal args.amount.2
    obtain rfl : n = cents := by exact_mod_cast hvalue.symm.trans hcents
    refine ⟨fun hroutable => ?_, hown.reason.trans (hreason.trans hreason'), n, hlt, hvalue, ?_⟩
    · rw [hown.orderId, hopened.order (horder' ▸ hroutable), horder']
    · have hrowamount := hown.amount
      rw [hamount, hamount', hnormal] at hrowamount
      exact (Except.ok.inj hrowamount).symm

/-- **A call that is answered** was opened, and its answer is the view of a refund under its key. -/
theorem exists_row_of_answered {i : ℕ} {p : RefundCall} {c : Orders.Refund}
    {created : Option Orders.RefundRow} {view : Orders.RefundView} (hp : p ∈ origin i)
    (hi : s.calls i = .answered c created view) : ∃ args body row,
      Opened D p args c.orderId body ∧ row ∈ s.refunds ∧ row.key = p.key
        ∧ row.view = .ok view := by
  have hc : Orders.Ledger.refundOf (s.calls i) = some c := by
    rw [hi]
    rfl
  obtain ⟨args, body, hopened, hkey, -, -⟩ := exists_opened_of_call huuid hdriven h hp hc
  obtain ⟨row, hrow, hrowkey, hview⟩ := (Orders.Ledger.sound_of_exec h).describes hi
  exact ⟨args, body, row, hopened, hrow, hrowkey.trans hkey, hview⟩

/-- **…and is settled by that refund.** -/
theorem settled_of_row {i : ℕ} {p : RefundCall} {args : Mcp.CreateRefundArgs} {orderId : String}
    {body : Orders.CreateRefundRequest} {row : Orders.RefundRow} {view : Orders.RefundView}
    (hp : p ∈ origin i) (hopened : Opened D p args orderId body) (hrow : row ∈ s.refunds)
    (hkey : row.key = p.key) (hview : row.view = .ok view) : Settled D s p view args row := by
  obtain ⟨horder, hrefund, hamount, hreason, hstatus⟩ := fields_of_view hview
  obtain ⟨horderId, hproposed, cents, hlt, hvalue, hcents⟩ :=
    row_of_proposal huuid hdriven h hp hopened.given hrow hkey
  have hhundred : (10 : ℚ) ^ (-2 : ℤ) = 1 / 100 := by norm_num
  refine ⟨hopened.given, hkey ▸ (Orders.Ledger.sound_of_exec h).findKey hrow,
    congrArg Prod.fst hkey, horderId, ?_, hproposed, fun text => ⟨⟨false, cents, -2⟩, ?_, ?_⟩⟩
  · rw [hcents, BigDecimal.value, Int.cast_natCast, ← hvalue, hhundred]
    ring
  · rw [Decimal.value, if_neg Bool.false_ne_true, one_mul, ← hvalue, hhundred]
    ring
  · have hrender : view.amount = (BigDecimal.mk cents (2 : ℕ)).toPlainString := by
      rw [hamount, hcents, Orders.Money.render]
      exact congrArg _ (BigDecimal.setScale_self ⟨cents, 2⟩)
    have hparse := BigDecimal.parse_toPlainString (n := cents) (by decide : 0 < 2)
      (hlt.trans (by norm_num)) (by decide)
    rw [← hrender] at hparse
    rw [hopened.reply_eq hparse text, horder, hrefund, hreason, hstatus]
    rfl

/-- **One refund for one call.**  In every run of the order service in which no other client takes
an agent's tenant and key, and no two of the agents' payloads collide, however its transactions
interleave: an agent's call that is answered is settled; and two of them are answered with one
refund exactly if they are the same call. -/
theorem refunded_once {i : ℕ} {p : RefundCall} {c : Orders.Refund}
    {created : Option Orders.RefundRow} {view : Orders.RefundView} (hp : p ∈ origin i)
    (hi : s.calls i = .answered c created view) :
    (∃ args row, Settled D s p view args row)
      ∧ ∀ j q c' created' view', q ∈ origin j → s.calls j = .answered c' created' view' →
        (view'.refundId = view.refundId ↔ q.Same p) := by
  obtain ⟨args, body, row, hopened, hrow, hkey, hview⟩ :=
    exists_row_of_answered huuid hdriven h hp hi
  refine ⟨⟨args, row, settled_of_row huuid hdriven h hp hopened hrow hkey hview⟩, ?_⟩
  intro j q c' created' view' hq hj
  obtain ⟨args', body', row', -, hrow', hkey', hview'⟩ :=
    exists_row_of_answered huuid hdriven h hq hj
  rw [← RefundCall.key_eq_iff (hdriven.apart j i q hq p hp), (fields_of_view hview').2.1,
    (fields_of_view hview).2.1, ← hkey, ← hkey']
  constructor
  · intro hid
    have hnodup := (Orders.Ledger.placed_of_exec h).ids
    rw [List.map_append] at hnodup
    exact congrArg _ (List.inj_on_of_nodup_map hnodup.of_append_left hrow' hrow hid)
  · intro hkeys
    rw [(Orders.Ledger.sound_of_exec h).row_unique hrow' hrow hkeys]

end Run

/-- A deployment with a library that reads UUIDs. -/
def docsDeployment : Deployment where
  pydantic := ⟨Uuid.fromString, fun _ => none, fun _ => none⟩
  builtins := ⟨fun _ => "", fun _ => none, fun _ => none, fun _ => none⟩
  container := Mcp.rfc3986
  constraints := Mcp.thousand

/-- A refund of ten dollars, proposed on a thread. -/
def docsCall (thread_id : String) : RefundCall where
  thread_id := thread_id
  tenant_id := "tenant-a"
  proposed := ⟨[("order_id", .str "ord-1"), ("amount", .str "10.00"), ("reason", .str "duplicate")],
    by simp [Dict.Nodup]⟩
  context := Mcp.stdio

/-- …and proposed again, its arguments in another order. -/
def docsRetry (thread_id : String) : RefundCall where
  thread_id := thread_id
  tenant_id := "tenant-a"
  proposed := ⟨(docsCall thread_id).proposed.fields.reverse, by simp [docsCall, Dict.Nodup]⟩
  context := Mcp.stdio

theorem docsOrder_length : 1 ≤ "ord-1".length ∧ "ord-1".length ≤ 64 := by decide

theorem docsReason_length : 4 ≤ "duplicate".length ∧ "duplicate".length ≤ 200 := by decide

theorem docsTenant_mem : "tenant-a" ∈ Mcp.TENANTS := by decide

theorem docsAmount_payable : Mcp.Payable ⟨false, 1000, -2⟩ :=
  (Mcp.payable_iff _).mpr ⟨1000, by norm_num, by norm_num, by norm_num [Decimal.value]⟩

/-- What is validated of it, under a key. -/
def docsArgs (idempotency_key : ℕ) : Mcp.CreateRefundArgs where
  order_id := ⟨"ord-1", docsOrder_length⟩
  amount := ⟨⟨false, 1000, -2⟩, docsAmount_payable⟩
  reason := ⟨"duplicate", docsReason_length⟩
  tenant_id := ⟨"tenant-a", docsTenant_mem⟩
  idempotency_key := idempotency_key

theorem docsOrder_notBlank : ¬ Java.IsBlank "ord-1" := by decide

theorem docsReason_javaLength : Orders.MIN_REASON_LENGTH ≤ Java.length "duplicate"
    ∧ Java.length "duplicate" ≤ Orders.MAX_REASON_LENGTH := by
  decide

theorem docsAmount_pos : 0 < (⟨1000, 2⟩ : BigDecimal).signum := by decide

/-- The request of call `i` for it, under a key. -/
def docsRequest (i : ℕ) (key : String) (h : ¬ Java.IsBlank key) : Orders.Event :=
  .request i "ord-1" "tenant-a" (some key) ⟨"ord-1", ⟨1000, 2⟩, "duplicate", key,
    docsOrder_notBlank, h, docsReason_javaLength, docsAmount_pos⟩

/-- The call races its retry, which loses; and the same refund is proposed on another thread. -/
def docsEvents : List Orders.Event :=
  [.order "ord-1" "tenant-a",
    docsRequest 0 "3b248b31-1a16-5fde-966d-6b4df3cb3fa6" (by decide),
    docsRequest 1 "3b248b31-1a16-5fde-966d-6b4df3cb3fa6" (by decide),
    docsRequest 2 "627ff106-2ce6-5839-8d15-45a6eab0d01b" (by decide),
    .existsForTenant 0, .existsForTenant 1, .existsForTenant 2, .insertIfAbsent 1 "u1",
    .insertIfAbsent 2 "u2", .commit 1, .commit 2, .insertIfAbsent 0 "u0",
    .findByIdempotencyKey 0, .commit 0]

/-- Whose each call of that run is. -/
def docsCalls : List RefundCall := [docsCall "t-1", docsRetry "t-1", docsCall "t-2"]

def docsOrigin (i : ℕ) : Option RefundCall := docsCalls[i]?

theorem docsKey : idempotencyKey "t-1" REFUND_TOOL (docsCall "t-1").proposed
    = "3b248b31-1a16-5fde-966d-6b4df3cb3fa6" := by
  decide +kernel

theorem docsKey_retry : idempotencyKey "t-1" REFUND_TOOL (docsRetry "t-1").proposed
    = "3b248b31-1a16-5fde-966d-6b4df3cb3fa6" := by
  decide +kernel

theorem docsKey_other : idempotencyKey "t-2" REFUND_TOOL (docsCall "t-2").proposed
    = "627ff106-2ce6-5839-8d15-45a6eab0d01b" := by
  decide +kernel

theorem docsCall_opens : docsDeployment.opens (docsCall "t-1") 0
    = some (docsRequest 0 "3b248b31-1a16-5fde-966d-6b4df3cb3fa6" (by decide)) := by
  have hgiven : (docsArgs 0x3b248b311a165fde966d6b4df3cb3fa6).Given docsDeployment.pydantic
      (docsCall "t-1").sent.fields := by
    rw [RefundCall.sent_eq (docsCall "t-1") docsKey]
    exact ⟨rfl, ⟨.str "10.00", rfl, by decide⟩, rfl, rfl,
      ⟨.str "3b248b31-1a16-5fde-966d-6b4df3cb3fa6", rfl, by rfl⟩, by decide⟩
  rw [opens_of_given hgiven (by decide) rfl]
  decide +kernel

theorem docsRetry_opens : docsDeployment.opens (docsRetry "t-1") 1
    = some (docsRequest 1 "3b248b31-1a16-5fde-966d-6b4df3cb3fa6" (by decide)) := by
  have hgiven : (docsArgs 0x3b248b311a165fde966d6b4df3cb3fa6).Given docsDeployment.pydantic
      (docsRetry "t-1").sent.fields := by
    rw [RefundCall.sent_eq (docsRetry "t-1") docsKey_retry]
    exact ⟨rfl, ⟨.str "10.00", rfl, by decide⟩, rfl, rfl,
      ⟨.str "3b248b31-1a16-5fde-966d-6b4df3cb3fa6", rfl, by rfl⟩, by decide⟩
  rw [opens_of_given hgiven (by decide) rfl]
  decide +kernel

theorem docsOther_opens : docsDeployment.opens (docsCall "t-2") 2
    = some (docsRequest 2 "627ff106-2ce6-5839-8d15-45a6eab0d01b" (by decide)) := by
  have hgiven : (docsArgs 0x627ff1062ce658398d1545a6eab0d01b).Given docsDeployment.pydantic
      (docsCall "t-2").sent.fields := by
    rw [RefundCall.sent_eq (docsCall "t-2") docsKey_other]
    exact ⟨rfl, ⟨.str "10.00", rfl, by decide⟩, rfl, rfl,
      ⟨.str "627ff106-2ce6-5839-8d15-45a6eab0d01b", rfl, by rfl⟩, by decide⟩
  rw [opens_of_given hgiven (by decide) rfl]
  decide +kernel

theorem docsEvents_driven : Driven docsDeployment docsOrigin docsEvents where
  ours i orderId tenantId headerKey body hmem p hp := by
    simp only [docsEvents, docsRequest, List.mem_cons, List.not_mem_nil, or_false, reduceCtorEq,
      false_or, Orders.Event.request.injEq] at hmem
    rcases hmem with ⟨rfl, rfl, rfl, rfl, rfl⟩ | ⟨rfl, rfl, rfl, rfl, rfl⟩
      | ⟨rfl, rfl, rfl, rfl, rfl⟩
    · cases hp
      exact docsCall_opens
    · cases hp
      exact docsRetry_opens
    · cases hp
      exact docsOther_opens
  others i orderId tenantId headerKey body request hmem horigin := by
    simp only [docsEvents, docsRequest, List.mem_cons, List.not_mem_nil, or_false, reduceCtorEq,
      false_or, Orders.Event.request.injEq] at hmem
    rcases hmem with ⟨rfl, -⟩ | ⟨rfl, -⟩ | ⟨rfl, -⟩ <;> cases horigin
  apart i j p hp q hq := by
    have hall : ∀ x ∈ docsCalls.map RefundCall.payload, ∀ y ∈ docsCalls.map RefundCall.payload,
        x = y ∨ keyOf x ≠ keyOf y := by
      decide +kernel
    rintro ⟨hne, hkey⟩
    exact (hall _ (List.mem_map_of_mem (List.mem_of_getElem? hp)) _
      (List.mem_map_of_mem (List.mem_of_getElem? hq))).elim hne fun h => h hkey

/-- A call that is answered with a view. -/
theorem eq_answered_of_answer {call : Orders.Call} {view : Orders.RefundView}
    (h : Orders.Ledger.answer call = some (.ok view)) :
    ∃ c created, call = .answered c created view := by
  cases call with
  | answered c created view' =>
    cases h
    exact ⟨c, created, rfl⟩
  | _ => cases h

/-- The view of a refund of it. -/
def docsView (refundId : String) (h : ¬ Java.IsBlank refundId) : Orders.RefundView :=
  ⟨"ord-1", refundId, "10.00", "duplicate", "refunded", docsOrder_notBlank, h⟩

theorem docsEvents_answered : ∃ s, exec Orders.Ledger.step Orders.Ledger.start docsEvents = some s
    ∧ [0, 1, 2].map (fun i => Orders.Ledger.answer (s.calls i))
      = [some (.ok (docsView "rfnd-u1" (by decide))), some (.ok (docsView "rfnd-u1" (by decide))),
        some (.ok (docsView "rfnd-u2" (by decide)))] :=
  Option.map_eq_some_iff.mp (by decide +kernel)

theorem docsRetry_same (thread_id : String) : (docsRetry thread_id).Same (docsCall thread_id) where
  thread_id := rfl
  tenant_id := rfl
  proposed := by
    refine Arguments.same_iff.mpr fun k => congrArg (Option.map Json.canon) (Option.ext fun v => ?_)
    rw [Arguments.get?, Arguments.get?, ← Dict.mem_iff (docsRetry thread_id).proposed.nodup,
      ← Dict.mem_iff (docsCall thread_id).proposed.nodup]
    exact List.mem_reverse

theorem docsDeployment_uuid (u : ℕ) (h : u < 2 ^ 128) :
    docsDeployment.pydantic.uuid (Mcp.uuidText u) = some u := by
  have hread : docsDeployment.pydantic.uuid = Uuid.fromString := rfl
  rw [hread, Mcp.uuidText, Uuid.fromString_format h]

theorem refunded_once_docsEvents : ∃ s view view' view'',
    exec Orders.Ledger.step Orders.Ledger.start docsEvents = some s
      ∧ [0, 1, 2].map (fun i => Orders.Ledger.answer (s.calls i))
        = [some (.ok view), some (.ok view'), some (.ok view'')]
      ∧ view'.refundId = view.refundId ∧ view''.refundId ≠ view.refundId := by
  obtain ⟨s, hs, hcalls⟩ := docsEvents_answered
  have hanswered := hcalls
  simp only [List.map_cons, List.map_nil, List.cons.injEq, and_true] at hanswered
  obtain ⟨h₀, h₁, h₂⟩ := hanswered
  obtain ⟨c, created, hc₀⟩ := eq_answered_of_answer h₀
  obtain ⟨c', created', hc₁⟩ := eq_answered_of_answer h₁
  obtain ⟨c'', created'', hc₂⟩ := eq_answered_of_answer h₂
  have hsettled := (refunded_once docsDeployment_uuid docsEvents_driven hs
    (show docsCall "t-1" ∈ docsOrigin 0 from rfl) hc₀).2
  refine ⟨s, _, _, _, hs, hcalls, ?_, fun heq => ?_⟩
  · exact (hsettled 1 _ _ _ _ rfl hc₁).mpr (docsRetry_same "t-1")
  · exact absurd ((hsettled 2 _ _ _ _ rfl hc₂).mp heq).thread_id (by decide)

end Agent
