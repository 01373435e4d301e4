import TaxLiability.Machinery.JsonText
import TaxLiability.Mcp.Tools

/-!
# Mcp/Amounts — the amount of a refund, from the arguments to the wire

    "10.00" ──Decimal──▸ (1000, -2) ──str──▸ "10.00"
    10.5    ──Decimal("10.5")──▸ (105, -1): the validator that refuses floats never sees one

The generated model takes a float, as the decimal of its shortest text, and hands the input model a
`Decimal`.  `no_number_money_iff` says which arguments the promise holds for all the same.
-/

open Validation Mcp.Sse

namespace Mcp

/-- A field of the body of a request. -/
def Upstream.body (u : Upstream) (key : String) : Option Json :=
  match u with
  | .http r => r.json.bind (get · key)
  | .rag _ _ _ => none

/-- The decimal text of an amount, where it is sent as a string or an integer. -/
def amountText : Json → Option (List Char)
  | .str s => some s.toList
  | .int n => some (Json.intText n)
  | _ => none

/-- **A call of the refund tool sends a request**: nothing refuses the call, nor the client the
URL. -/
def Sends (P : Pydantic) (C : Context) (arguments : Json.Fields) (q : Request) : Prop :=
  ∃ args, Tool.createRefund.call P C arguments = .ok (args, .http q) ∧ Sendable q.url

/-- **No JSON-number money**: a float is never sent, and what is goes on as the text it came as. -/
structure NoNumberMoney (P : Pydantic) (C : Context) (arguments : Json.Fields) : Prop where
  rejected : ∀ x, Dict.get? arguments "amount" = some (.float x) → ∀ q, ¬ Sends P C arguments q
  unchanged : ∀ q, Sends P C arguments q →
    ∀ v t, Dict.get? arguments "amount" = some v → amountText v = some t →
      (Upstream.http q).body "amount" = some (.str (String.ofList t))

/-- The client takes the URL of an order named so. -/
def OrderSendable (arguments : Json.Fields) : Prop :=
  ∀ order_id, Dict.get? arguments "order_id" = some (.str order_id) → Sendable order_id

/-- **The other arguments of a refund are valid**, and the bearer's tenant is no other one. -/
def RestValid (P : Pydantic) (C : Context) (arguments : Json.Fields) : Prop :=
  ∃ (order_id : Str 1 64) (reason : Str 4 200) (tenant_id : TenantId) (key : Json) (u : ℕ),
    Dict.get? arguments "order_id" = some (.str order_id.1)
      ∧ Dict.get? arguments "reason" = some (.str reason.1)
      ∧ Dict.get? arguments "tenant_id" = some (.str tenant_id.1)
      ∧ (Dict.get? arguments "idempotency_key" = some key ∧ uuid P (.json key) = .ok u)
      ∧ (∀ f ∈ arguments,
        f.1 ∈ ["order_id", "amount", "reason", "tenant_id", "idempotency_key"])
      ∧ crossTenantClaim C.request_tenant tenant_id.1 = ""

/-- **An amount the promise holds for**: a float whose shortest text is no payable decimal, a string
that is none either or is canonical, or anything else. -/
def AmountKept : Json → Prop
  | .float x => ∀ d, Decimal.parse x.text = some d → ¬ Payable d
  | .str s => ∀ d, Decimal.parse s.toList = some d → Payable d → Decimal.Canonical s.toList
  | _ => True

/-- **A refund gets to its request** when its amount is payable and the rest is valid. -/
theorem call_createRefund_iff {P : Pydantic} {C : Context} {arguments : Json.Fields} {d : Decimal} :
    (∃ a : CreateRefundArgs, a.amount.1 = d
        ∧ Tool.createRefund.call P C arguments
          = .ok (.createRefund a, (Args.createRefund a).request C))
      ↔ RestValid P C arguments ∧ Payable d
        ∧ ∃ v, Dict.get? arguments "amount" = some v ∧ decimal (.json v) = some d := by
  simp only [Tool.call_eq_ok, Tool.validate_createRefund_eq_ok]
  constructor
  · rintro ⟨a, rfl, ⟨b, h, hb⟩, htenant, -⟩
    cases hb
    obtain ⟨key, hkey, hu⟩ := h.idempotency_key
    exact ⟨⟨a.order_id, a.reason, a.tenant_id, key, a.idempotency_key, h.order_id, h.reason,
      h.tenant_id, ⟨hkey, hu⟩, h.extra, htenant⟩, a.amount.2, h.amount⟩
  · rintro ⟨⟨order_id, reason, tenant_id, key, u, ho, hr, ht, hk, hextra, htenant⟩, hd, hv⟩
    exact ⟨⟨order_id, ⟨d, hd⟩, reason, tenant_id, u⟩, rfl,
      ⟨_, ⟨ho, hv, hr, ht, ⟨key, hk⟩, hextra⟩, rfl⟩, htenant, trivial⟩

/-- The request of a refund that gets to it, of the order it names. -/
theorem createRefund_of_call {P : Pydantic} {C : Context} {arguments : Json.Fields}
    {p : Args × Upstream} (h : Tool.createRefund.call P C arguments = .ok p) :
    ∃ a : CreateRefundArgs, p = (.createRefund a, (Args.createRefund a).request C)
      ∧ Dict.get? arguments "order_id" = some (.str a.order_id.1) := by
  obtain ⟨hargs, -, hu⟩ := Tool.call_eq_ok.mp h
  obtain ⟨a, hgiven, ha⟩ := Tool.validate_createRefund_eq_ok.mp hargs
  exact ⟨a, Prod.ext ha.symm (hu.trans (by rw [ha])), hgiven.order_id⟩

/-- The amount a request carries. -/
theorem body_amount (C : Context) (a : CreateRefundArgs) :
    ((Args.createRefund a).request C).body "amount" = some (.str (String.ofList a.amount.1.str)) :=
  rfl

/-- The URL of a refund can be sent if its order's id can. -/
theorem sendable_refunds_iff {order_id : String} :
    Sendable ("/orders/" ++ order_id ++ "/refunds") ↔ Sendable order_id := by
  have hfront : Sendable "/orders/" := by decide
  have hback : Sendable "/refunds" := by decide
  unfold Sendable at *
  simp only [String.toList_append, List.mem_append]
  constructor
  · exact fun hall c hc => hall c (.inl (.inr hc))
  · rintro hall c ((hc | hc) | hc)
    · exact hfront c hc
    · exact hall c hc
    · exact hback c hc

/-- **A refund is sent** when its call gets to a request and its order's id can be sent. -/
theorem sends_iff {P : Pydantic} {C : Context} {arguments : Json.Fields} {q : Request} :
    Sends P C arguments q ↔ OrderSendable arguments ∧ ∃ a : CreateRefundArgs,
      Tool.createRefund.call P C arguments
          = .ok (.createRefund a, (Args.createRefund a).request C)
        ∧ (Args.createRefund a).request C = .http q := by
  constructor
  · rintro ⟨args, hcall, hsendable⟩
    obtain ⟨a, ha, horder⟩ := createRefund_of_call hcall
    obtain ⟨rfl, hq⟩ := Prod.mk.inj ha
    refine ⟨fun order_id hid => ?_, a, hq ▸ hcall, hq.symm⟩
    cases hq
    cases horder.symm.trans hid
    exact sendable_refunds_iff.mp hsendable
  · rintro ⟨hsendable, a, hcall, hq⟩
    obtain ⟨b, hb, horder⟩ := createRefund_of_call hcall
    cases hb
    cases hq
    exact ⟨_, hcall, sendable_refunds_iff.mpr (hsendable _ horder)⟩

/-- A payable amount is a cent at least. -/
theorem one_le_of_payable {d : Decimal} (h : Payable d) : 1 ≤ d.value * 100 := by
  obtain ⟨n, hn, -, hvalue⟩ := (payable_iff d).mp h
  rw [hvalue]
  exact_mod_cast hn

theorem intText_of_pos {n : ℤ} (h : 0 < n) : Json.intText n = Nat.toDigits 10 n.natAbs := by
  obtain ⟨k, rfl⟩ := Int.eq_ofNat_of_zero_le h.le
  rfl

/-- **An amount is sent as it came**, if it is kept. -/
theorem str_eq_of_amountKept {v : Json} {t : List Char} {d : Decimal} (hkept : AmountKept v)
    (ht : amountText v = some t) (hd : decimal (.json v) = some d) (hpay : Payable d) :
    d.str = t := by
  cases v with
  | str s =>
    cases ht
    exact (Decimal.str_eq_iff_of_parse hd hpay.1 (one_le_of_payable hpay)).mpr (hkept d hd hpay)
  | int n =>
    cases ht
    obtain rfl : Decimal.ofInt n = d := Option.some.inj hd
    have hpos : 0 < n := Decimal.positive_ofInt_iff.mp hpay.1
    rw [Decimal.str_ofInt hpos, intText_of_pos hpos]
  | _ => cases ht

/-- A promise that holds keeps the amount of a refund that could be sent. -/
theorem NoNumberMoney.amountKept {P : Pydantic} {C : Context} {arguments : Json.Fields} {v : Json}
    (h : NoNumberMoney P C arguments) (hrest : RestValid P C arguments)
    (hsendable : OrderSendable arguments) (hv : Dict.get? arguments "amount" = some v) :
    AmountKept v := by
  cases v with
  | float x =>
    intro d hd hpay
    obtain ⟨a, -, hcall⟩ := call_createRefund_iff.mpr ⟨hrest, hpay, _, hv, hd⟩
    exact h.rejected x hv _ (sends_iff.mpr ⟨hsendable, a, hcall, rfl⟩)
  | str s =>
    intro d hd hpay
    obtain ⟨a, rfl, hcall⟩ := call_createRefund_iff.mpr ⟨hrest, hpay, _, hv, hd⟩
    have hsent := (body_amount C a).symm.trans
      (h.unchanged _ (sends_iff.mpr ⟨hsendable, a, hcall, rfl⟩) _ _ hv rfl)
    rw [Option.some.injEq, Json.str.injEq, String.ofList_inj] at hsent
    exact (Decimal.str_eq_iff_of_parse hd hpay.1 (one_le_of_payable hpay)).mp hsent
  | _ => trivial

/-- **The promise holds for a refund** exactly when the call is refused for something else, the
client refuses its order's id, or its amount is kept. -/
theorem no_number_money_iff (P : Pydantic) (C : Context) (arguments : Json.Fields) :
    NoNumberMoney P C arguments
      ↔ (RestValid P C arguments → OrderSendable arguments →
          ∀ v, Dict.get? arguments "amount" = some v → AmountKept v) := by
  refine ⟨fun h hrest hsendable v hv => h.amountKept hrest hsendable hv, fun h => ?_⟩
  have hkept : ∀ q, Sends P C arguments q → ∀ v, Dict.get? arguments "amount" = some v →
      ∃ a : CreateRefundArgs, (Args.createRefund a).request C = .http q ∧ AmountKept v
        ∧ decimal (.json v) = some a.amount.1 := by
    intro q hq v hv
    obtain ⟨hsendable, a, hcall, hrequest⟩ := sends_iff.mp hq
    obtain ⟨hrest, -, w, hw, hd⟩ := call_createRefund_iff.mp ⟨a, rfl, hcall⟩
    obtain rfl := Option.some.inj (hw.symm.trans hv)
    exact ⟨a, hrequest, h hrest hsendable w hw, hd⟩
  constructor
  · intro x hx q hq
    obtain ⟨a, -, hk, hd⟩ := hkept q hq _ hx
    exact hk _ hd a.amount.2
  · intro q hq v t hv ht
    obtain ⟨a, hrequest, hk, hd⟩ := hkept q hq _ hv
    rw [← hrequest, body_amount, str_eq_of_amountKept hk ht hd a.amount.2]

/-- A library that knows one UUID. -/
def oneUuid : Pydantic where
  uuid := fun s => if s = "c0ffee00-0000-4000-8000-000000000001" then
    some 0xc0ffee00000040008000000000000001 else none
  int := fun _ => none
  loads := fun _ => none

/-- A caller without a bearer of its own. -/
def stdio : Context := ⟨"", "", "jwt", "https://llm-proxy.internal", "/v1/completions", "30.0"⟩

/-- The arguments of a refund of `amount`. -/
def refundOf (amount : Json) : Json.Fields :=
  [("order_id", .str "ord-synth-9001"), ("amount", amount), ("reason", .str "duplicate"),
    ("tenant_id", .str "tenant-a"),
    ("idempotency_key", .str "c0ffee00-0000-4000-8000-000000000001")]

/-- The JSON number `10.5`. -/
def tenAndAHalf : Json.Float := ⟨"10.5".toList, by decide, by decide, by decide⟩

/-- **A refund of the JSON number `10.5` is sent.** -/
theorem float_amount_sent : ¬ NoNumberMoney oneUuid stdio (refundOf (.float tenAndAHalf)) := by
  intro h
  have hok :
      (Tool.createRefund.call oneUuid stdio (refundOf (.float tenAndAHalf))).isOk = true := by
    decide +kernel
  have horder : OrderSendable (refundOf (.float tenAndAHalf)) := by
    rintro order_id ⟨⟩
    decide
  cases hcall : Tool.createRefund.call oneUuid stdio (refundOf (.float tenAndAHalf)) with
  | error e =>
    rw [hcall] at hok
    cases hok
  | ok p =>
    obtain ⟨a, rfl, -⟩ := createRefund_of_call hcall
    exact h.rejected tenAndAHalf rfl _ (sends_iff.mpr ⟨horder, a, hcall, rfl⟩)

end Mcp
