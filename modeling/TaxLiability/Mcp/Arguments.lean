import TaxLiability.Machinery.Decimal
import TaxLiability.Machinery.Json
import TaxLiability.Machinery.Machine
import TaxLiability.Machinery.Validation

/-!
# Mcp/Arguments — what a tool must be given

    arguments ──generated model──▸ typed values ──the tool's input model──▸ args

Arguments are validated twice: by the model the SDK generates from the handler's signature, which
carries the constraints of the input model's fields but not its validators, and by the input model
itself, from the values the first has made.  A model reports every flaw it finds.
-/

open Validation

namespace Mcp

/-! ## Values -/

/-- **What a call raises**, a `ValidationError` apart. -/
inductive Exc
  | mcpError (code : ℤ) (message : String)
  /-- `decimal.InvalidOperation` -/
  | invalidOperation
  | other
  deriving DecidableEq, Repr

/-- The result of a call that may raise: `.flaws` is a `ValidationError`. -/
abbrev Raising (α : Type) := Except (Failure Exc) α

/-- …of the check of a field. -/
abbrev Checked (α : Type) := Except (CheckFailure Exc) α

/-- One turn of a conversation. -/
structure ChatMessage where
  role : { s : String // s ∈ ["user", "assistant", "system"] }
  content : { s : String // 1 ≤ s.length ∧ s.length ≤ 8000 }
  deriving DecidableEq

/-- **A value of a field**: JSON, or what another model has made of it. -/
inductive Value
  | json (v : Json)
  | decimal (d : Decimal)
  | uuid (u : ℕ)
  | messages (turns : List ChatMessage)

/-- **What the library does with texts**: the UUID a text names, the integer a value that is none
stands for, and the JSON value of a text. -/
structure Pydantic where
  uuid : String → Option ℕ
  int : Json → Option ℤ
  loads : String → Option Json

/-- The arguments of a call, as they come. -/
def fromJson (arguments : Json.Fields) : Dict String Value :=
  arguments.map fun f => (f.1, .json f.2)

theorem get?_fromJson (arguments : Json.Fields) (name : String) :
    Dict.get? (fromJson arguments) name = (Dict.get? arguments name).map .json := by
  induction arguments with
  | nil => rfl
  | cons f arguments ih =>
    rw [fromJson, List.map_cons, Dict.get?_cons, Dict.get?_cons]
    split
    · rfl
    · exact ih

/-! ## Fields -/

/-- A text with its length, in code points, in bounds. -/
abbrev Str (min max : ℕ) := { s : String // min ≤ s.length ∧ s.length ≤ max }

/-- An integer in bounds. -/
abbrev IntIn (min max : ℤ) := { n : ℤ // min ≤ n ∧ n ≤ max }

/-- The tenants `TENANT_PATTERN` lets through. -/
def TENANTS : List String := ["tenant-a", "tenant-b", "tenant-c"]

abbrev TenantId := { s : String // s ∈ TENANTS }

/-- `str` with `min_length` and `max_length`. -/
def str (min max : ℕ) : Value → Checked (Str min max)
  | .json (.str s) =>
    if h : min ≤ s.length ∧ s.length ≤ max then .ok ⟨s, h⟩ else .error (.flaw .constraint)
  | _ => .error (.flaw .constraint)

/-- `str` with `pattern=TENANT_PATTERN`. -/
def tenantId : Value → Checked TenantId
  | .json (.str s) => if h : s ∈ TENANTS then .ok ⟨s, h⟩ else .error (.flaw .constraint)
  | _ => .error (.flaw .constraint)

/-- `int` with `ge` and `le`. -/
def int (P : Pydantic) (min max : ℤ) (v : Value) : Checked (IntIn min max) :=
  let n := match v with
    | .json (.int n) => some n
    | .json v => P.int v
    | _ => none
  match n with
  | some n => if h : min ≤ n ∧ n ≤ max then .ok ⟨n, h⟩ else .error (.flaw .constraint)
  | none => .error (.flaw .constraint)

/-- `UUID`. -/
def uuid (P : Pydantic) : Value → Checked ℕ
  | .uuid u => .ok u
  | .json (.str s) => (P.uuid s).elim (.error (.flaw .constraint)) .ok
  | _ => .error (.flaw .constraint)

/-- The decimal lax mode makes of a value: a float's is that of its shortest text. -/
def decimal : Value → Option Decimal
  | .decimal d => some d
  | .json (.str s) => Decimal.parse s.toList
  | .json (.int n) => some (Decimal.ofInt n)
  | .json (.float x) => Decimal.parse x.text
  | _ => none

/-- `Decimal` with `gt=0`. -/
def positiveDecimal (v : Value) : Checked { d : Decimal // d.Positive } :=
  match decimal v with
  | some d => if h : d.Positive then .ok ⟨d, h⟩ else .error (.flaw .constraint)
  | none => .error (.flaw .constraint)

/-! ## The refund's amount -/

def MONEY_SCALE : ℕ := 2

/-- The digits of the decimal context in force. -/
def PREC : ℕ := 28

/-- **An amount a refund may have**: positive, and not changed by rounding to `MONEY_SCALE`
places. -/
def Payable (d : Decimal) : Prop :=
  d.Positive ∧ ∃ q, d.quantize PREC (-MONEY_SCALE) = some q ∧ d.Equal q

abbrev Amount := { d : Decimal // Payable d }

/-- **`is_inexact_binary`.** -/
def isInexactBinary : Value → Bool
  | .json (.float _) => true
  | _ => false

/-- **`_reject_inexact_binary`.** -/
def rejectInexactBinary (value : Value) : Checked Value :=
  if isInexactBinary value then
    .error (.flaw (.value_error ("amount must be a decimal string such as '10.00', not a JSON "
      ++ "number: an IEEE 754 binary fraction cannot represent a money value exactly")))
  else .ok value

/-- **`_enforce_money_scale`.** -/
def enforceMoneyScale (value : { d : Decimal // d.Positive }) : Checked Amount :=
  match hq : value.1.quantize PREC (-MONEY_SCALE) with
  | none => .error (.raised .invalidOperation)
  | some q =>
    if he : value.1.Equal q then .ok ⟨value.1, value.2, q, hq, he⟩
    else .error (.flaw (.value_error ("amount must have at most " ++ toString MONEY_SCALE
      ++ " decimal places; got " ++ String.ofList value.1.str)))

/-- The field `amount` of `CreateRefundArgs`, its validators before and after. -/
def amount (value : Value) : Checked Amount :=
  (rejectInexactBinary value).bind fun value =>
    (positiveDecimal value).bind enforceMoneyScale

/-- **Payable amounts are whole numbers of cents**, of 28 digits at most. -/
theorem payable_iff (d : Decimal) :
    Payable d ↔ ∃ cents : ℕ, 0 < cents ∧ cents < 10 ^ 28 ∧ d.value * 100 = cents := by
  have hscale : (10 : ℚ) ^ (-(-(MONEY_SCALE : ℤ))) = 100 := by norm_num [MONEY_SCALE]
  constructor
  · rintro ⟨hpos, q, hq, heq⟩
    obtain ⟨hlt, hq⟩ := Option.ite_none_right_eq_some.mp hq
    obtain rfl := Option.some.inj hq
    obtain ⟨n, hn⟩ := (Decimal.equal_rescale_iff hpos _).mp heq
    rw [Decimal.rescale_eq hpos hn] at hlt
    rw [hscale] at hn
    refine ⟨n, Nat.pos_of_ne_zero fun h0 => ?_, hlt, hn⟩
    have := (Decimal.positive_iff d).mp hpos
    rw [h0, Nat.cast_zero] at hn
    linarith
  · rintro ⟨n, hn0, hlt, hn⟩
    have hpos : d.Positive := (Decimal.positive_iff d).mpr (by
      have : (0 : ℚ) < n := Nat.cast_pos.mpr hn0
      linarith)
    rw [← hscale] at hn
    refine ⟨hpos, _, Option.ite_none_right_eq_some.mpr ⟨?_, rfl⟩,
      (Decimal.equal_rescale_iff hpos _).mpr ⟨n, hn⟩⟩
    rw [Decimal.rescale_eq hpos hn]
    exact hlt

theorem enforceMoneyScale_eq_ok {value : { d : Decimal // d.Positive }} {a : Amount} :
    enforceMoneyScale value = .ok a ↔ value.1 = a.1 := by
  unfold enforceMoneyScale
  split
  case h_1 hq =>
    refine iff_of_false nofun fun heq => ?_
    obtain ⟨-, q, hq', -⟩ := a.2
    rw [← heq, hq] at hq'
    cases hq'
  case h_2 q hq =>
    split
    case isTrue he => rw [Except.ok.injEq, Subtype.ext_iff]
    case isFalse he =>
      refine iff_of_false nofun fun heq => he ?_
      obtain ⟨-, q', hq', he'⟩ := a.2
      rw [← heq, hq, Option.some.injEq] at hq'
      rwa [heq, hq']

/-- **The rounding that does not fit** the context's digits. -/
theorem enforceMoneyScale_eq_raised {value : { d : Decimal // d.Positive }} {e : Exc} :
    enforceMoneyScale value = .error (.raised e)
      ↔ e = .invalidOperation ∧ (10 ^ 28 - 1 / 2 : ℚ) ≤ value.1.value * 100 := by
  have hscale : (10 : ℚ) ^ (-(-(MONEY_SCALE : ℤ))) = 100 := by norm_num [MONEY_SCALE]
  have hnone : value.1.quantize PREC (-MONEY_SCALE) = none
      ↔ (10 ^ 28 - 1 / 2 : ℚ) ≤ value.1.value * 100 := by
    have hle := Decimal.le_rescale_iff value.2 (-MONEY_SCALE) (10 ^ 28)
    rw [hscale, Nat.cast_pow, Nat.cast_ofNat] at hle
    rw [← hle, Decimal.quantize, PREC]
    split
    case isTrue h => exact iff_of_false nofun (not_le.mpr h)
    case isFalse h => exact iff_of_true rfl (not_lt.mp h)
  rw [← hnone]
  unfold enforceMoneyScale
  split
  case h_1 hq =>
    simp only [Except.error.injEq, CheckFailure.raised.injEq, hq, and_true, eq_comm]
  case h_2 q hq =>
    refine iff_of_false (fun h => ?_) (by rw [hq]; exact fun h => nomatch h.2)
    split at h <;> cases h

theorem positiveDecimal_eq_ok {v : Value} {d : { d : Decimal // d.Positive }} :
    positiveDecimal v = .ok d ↔ decimal v = some d.1 := by
  unfold positiveDecimal
  split
  case h_1 d' hd =>
    rw [hd, Option.some.injEq]
    split
    case isTrue h => rw [Except.ok.injEq, Subtype.ext_iff]
    case isFalse h => exact iff_of_false nofun fun heq => h (heq ▸ d.2)
  case h_2 hd => exact iff_of_false nofun (by rw [hd]; exact nofun)

theorem positiveDecimal_answers (v : Value) : CheckAnswers (positiveDecimal v) := by
  unfold positiveDecimal
  split
  · split <;> exact nofun
  · exact nofun

/-- **The amounts that pass**, floats apart. -/
theorem amount_eq_ok {v : Value} {a : Amount} :
    amount v = .ok a ↔ isInexactBinary v = false ∧ decimal v = some a.1 := by
  unfold amount rejectInexactBinary
  cases isInexactBinary v with
  | true => exact iff_of_false nofun fun h => absurd h.1 (by decide)
  | false =>
    rw [if_neg Bool.false_ne_true, and_iff_right rfl]
    change (positiveDecimal v).bind enforceMoneyScale = .ok a ↔ _
    constructor
    · intro h
      obtain ⟨d, hd, ha⟩ := Machine.bind_eq_ok.mp h
      rw [← enforceMoneyScale_eq_ok.mp ha]
      exact positiveDecimal_eq_ok.mp hd
    · intro h
      exact Machine.bind_eq_ok.mpr
        ⟨⟨a.1, a.2.1⟩, positiveDecimal_eq_ok.mpr h, enforceMoneyScale_eq_ok.mpr rfl⟩

/-- **The amounts the check has no answer to**: they would round to more than 28 digits. -/
theorem amount_eq_raised {v : Value} {e : Exc} :
    amount v = .error (.raised e) ↔ e = .invalidOperation ∧ isInexactBinary v = false ∧
      ∃ d, decimal v = some d ∧ (10 ^ 28 - 1 / 2 : ℚ) ≤ d.value * 100 := by
  unfold amount rejectInexactBinary
  cases isInexactBinary v with
  | true => exact iff_of_false nofun fun h => absurd h.2.1 (by decide)
  | false =>
    rw [if_neg Bool.false_ne_true]
    change (positiveDecimal v).bind enforceMoneyScale = _ ↔ _
    rcases hd : positiveDecimal v with f | d
    · refine iff_of_false (fun h => ?_) fun ⟨_, _, d, hdec, hle⟩ => ?_
      · cases h
        exact positiveDecimal_answers v e hd
      · have hpos : d.Positive := (Decimal.positive_iff d).mpr (by linarith)
        rw [positiveDecimal_eq_ok.mpr (show decimal v = some (⟨d, hpos⟩ : { d // _ }).1 from hdec)]
          at hd
        cases hd
    · have hdec := positiveDecimal_eq_ok.mp hd
      refine enforceMoneyScale_eq_raised.trans ⟨fun ⟨he, h⟩ => ⟨he, rfl, d.1, hdec, h⟩, ?_⟩
      rintro ⟨he, -, d', hd', h⟩
      rw [Option.some.inj (hdec.symm.trans hd')]
      exact ⟨he, h⟩

/-! ## Conversations -/

/-- The turns of a conversation a call may send. -/
abbrev Turns := { turns : List ChatMessage // 1 ≤ turns.length ∧ turns.length ≤ 50 }

/-- A turn, from JSON. -/
def ChatMessage.ofJson : Json → Option ChatMessage
  | .obj fields =>
    match Dict.get? fields "role", Dict.get? fields "content" with
    | some (.str role), some (.str content) =>
      if h : role ∈ ["user", "assistant", "system"] ∧ (1 ≤ content.length ∧ content.length ≤ 8000)
          ∧ ∀ f ∈ fields, f.1 ∈ ["role", "content"] then
        some ⟨⟨role, h.1⟩, ⟨content, h.2.1⟩⟩
      else none
    | _, _ => none
  | _ => none

/-- A text in the place of an array, an object or `null` is that, where it is the text of one. -/
def preParse (P : Pydantic) : Json → Json
  | .str s =>
    match P.loads s with
    | some (.arr xs) => .arr xs
    | some (.obj fields) => .obj fields
    | some .null => .null
    | _ => .str s
  | v => v

/-- `list[ChatMessage]` with `min_length` and `max_length`. -/
def messages (P : Pydantic) (v : Value) : Checked Turns :=
  let turns := match v with
    | .messages turns => some turns
    | .json v =>
      match preParse P v with
      | .arr xs => xs.mapM ChatMessage.ofJson
      | _ => none
    | _ => none
  match turns with
  | some turns =>
    if h : 1 ≤ turns.length ∧ turns.length ≤ 50 then .ok ⟨turns, h⟩ else .error (.flaw .constraint)
  | none => .error (.flaw .constraint)

/-! ## Models -/

/-- **`GetOrderArgs`.** -/
structure GetOrderArgs where
  order_id : Str 1 64
  tenant_id : TenantId

def GetOrderArgs.validate (given : Dict String Value) : Raising GetOrderArgs :=
  (both (field given "order_id" (str 1 64)) <|
    both (field given "tenant_id" tenantId) <|
    forbidExtra ["order_id", "tenant_id"] given).map
  fun (order_id, tenant_id, _) => ⟨order_id, tenant_id⟩

/-- **`CreateRefundArgs`**: with `p` what its amount is known to be. -/
structure RefundArgs (p : Decimal → Prop) where
  order_id : Str 1 64
  amount : { d : Decimal // p d }
  reason : Str 4 200
  tenant_id : TenantId
  idempotency_key : ℕ

/-- The model of `orders.create_refund`, with the check of its amount. -/
def RefundArgs.validate {p : Decimal → Prop} (P : Pydantic)
    (amount : Value → Checked { d : Decimal // p d }) (given : Dict String Value) :
    Raising (RefundArgs p) :=
  (both (field given "order_id" (str 1 64)) <|
    both (field given "amount" amount) <|
    both (field given "reason" (str 4 200)) <|
    both (field given "tenant_id" tenantId) <|
    both (field given "idempotency_key" (uuid P)) <|
    forbidExtra ["order_id", "amount", "reason", "tenant_id", "idempotency_key"] given).map
  fun (order_id, amount, reason, tenant_id, idempotency_key, _) =>
    ⟨order_id, amount, reason, tenant_id, idempotency_key⟩

/-- **What the generated model takes for `amount`**: the field's bound, and no validator. -/
def RefundArgs.validateParameters (P : Pydantic) :
    Dict String Value → Raising (RefundArgs Decimal.Positive) :=
  RefundArgs.validate P positiveDecimal

abbrev CreateRefundArgs := RefundArgs Payable

/-- **`CreateRefundArgs(…)`.** -/
def CreateRefundArgs.validate (P : Pydantic) : Dict String Value → Raising CreateRefundArgs :=
  RefundArgs.validate P amount

/-- **`ChatArgs`.** -/
structure ChatArgs where
  messages : Turns
  max_tokens : IntIn 1 4096
  tenant_id : TenantId

def ChatArgs.validate (P : Pydantic) (given : Dict String Value) : Raising ChatArgs :=
  (both (field given "messages" (Mcp.messages P)) <|
    both (field given "max_tokens" (int P 1 4096)) <|
    both (field given "tenant_id" tenantId) <|
    forbidExtra ["messages", "max_tokens", "tenant_id"] given).map
  fun (messages, max_tokens, tenant_id, _) => ⟨messages, max_tokens, tenant_id⟩

/-- **`RagArgs`.** -/
structure RagArgs where
  question : Str 2 2000
  tenant_id : TenantId
  top_k : IntIn 1 20

def RagArgs.validate (P : Pydantic) (given : Dict String Value) : Raising RagArgs :=
  (both (field given "question" (str 2 2000)) <|
    both (field given "tenant_id" tenantId) <|
    both (fieldD given "top_k" (int P 1 20) ⟨6, by decide⟩) <|
    forbidExtra ["question", "tenant_id", "top_k"] given).map
  fun (question, tenant_id, top_k, _) => ⟨question, tenant_id, top_k⟩

/-! ## What the handlers hand on -/

/-- The keywords a handler builds its `GetOrderArgs` from. -/
def GetOrderArgs.keywords (a : GetOrderArgs) : Dict String Value :=
  [("order_id", .json (.str a.order_id.1)), ("tenant_id", .json (.str a.tenant_id.1))]

/-- …its `CreateRefundArgs`: the amount is the decimal the generated model has made. -/
def RefundArgs.keywords (a : RefundArgs Decimal.Positive) : Dict String Value :=
  [("order_id", .json (.str a.order_id.1)), ("amount", .decimal a.amount.1),
    ("reason", .json (.str a.reason.1)), ("tenant_id", .json (.str a.tenant_id.1)),
    ("idempotency_key", .uuid a.idempotency_key)]

/-- …its `ChatArgs`. -/
def ChatArgs.keywords (a : ChatArgs) : Dict String Value :=
  [("messages", .messages a.messages.1), ("max_tokens", .json (.int a.max_tokens.1)),
    ("tenant_id", .json (.str a.tenant_id.1))]

/-- …its `RagArgs`. -/
def RagArgs.keywords (a : RagArgs) : Dict String Value :=
  [("question", .json (.str a.question.1)), ("top_k", .json (.int a.top_k.1)),
    ("tenant_id", .json (.str a.tenant_id.1))]

/-! ## What passes -/

theorem str_eq_ok {min max : ℕ} {v : Value} {s : Str min max} :
    str min max v = .ok s ↔ v = .json (.str s.1) := by
  unfold str
  split
  case h_1 t =>
    rw [Value.json.injEq, Json.str.injEq]
    split
    case isTrue h => rw [Except.ok.injEq, Subtype.ext_iff]
    case isFalse h => exact iff_of_false nofun fun heq => h (heq ▸ s.2)
  case h_2 hv => exact iff_of_false nofun (hv s.1)

theorem tenantId_eq_ok {v : Value} {t : TenantId} :
    tenantId v = .ok t ↔ v = .json (.str t.1) := by
  unfold tenantId
  split
  case h_1 s =>
    rw [Value.json.injEq, Json.str.injEq]
    split
    case isTrue h => rw [Except.ok.injEq, Subtype.ext_iff]
    case isFalse h => exact iff_of_false nofun fun heq => h (heq ▸ t.2)
  case h_2 hv => exact iff_of_false nofun (hv t.1)

theorem GetOrderArgs.validate_eq_ok {given : Dict String Value} {a : GetOrderArgs} :
    GetOrderArgs.validate given = .ok a ↔
      Dict.get? given "order_id" = some (.json (.str a.order_id.1))
        ∧ Dict.get? given "tenant_id" = some (.json (.str a.tenant_id.1))
        ∧ ∀ f ∈ given, f.1 ∈ ["order_id", "tenant_id"] := by
  simp only [GetOrderArgs.validate, Machine.map_eq_ok, Prod.exists, both_eq_ok, field_eq_ok,
    str_eq_ok, tenantId_eq_ok, exists_eq_right, forbidExtra_eq_ok]
  constructor
  · rintro ⟨order_id, tenant_id, -, ⟨ho, ht, hextra⟩, rfl⟩
    exact ⟨ho, ht, hextra⟩
  · rintro ⟨ho, ht, hextra⟩
    exact ⟨a.order_id, a.tenant_id, (), ⟨ho, ht, hextra⟩, rfl⟩

theorem RefundArgs.validate_eq_ok {p : Decimal → Prop} {P : Pydantic}
    {amount : Value → Checked { d : Decimal // p d }} {given : Dict String Value}
    {a : RefundArgs p} :
    RefundArgs.validate P amount given = .ok a ↔
      Dict.get? given "order_id" = some (.json (.str a.order_id.1))
        ∧ (∃ v, Dict.get? given "amount" = some v ∧ amount v = .ok a.amount)
        ∧ Dict.get? given "reason" = some (.json (.str a.reason.1))
        ∧ Dict.get? given "tenant_id" = some (.json (.str a.tenant_id.1))
        ∧ (∃ v, Dict.get? given "idempotency_key" = some v ∧ uuid P v = .ok a.idempotency_key)
        ∧ ∀ f ∈ given,
          f.1 ∈ ["order_id", "amount", "reason", "tenant_id", "idempotency_key"] := by
  simp only [RefundArgs.validate, Machine.map_eq_ok, Prod.exists, both_eq_ok, field_eq_ok,
    str_eq_ok, tenantId_eq_ok, exists_eq_right, forbidExtra_eq_ok]
  constructor
  · rintro ⟨order_id, amount, reason, tenant_id, key, -, ⟨ho, ha, hr, ht, hk, hextra⟩, rfl⟩
    exact ⟨ho, ha, hr, ht, hk, hextra⟩
  · rintro ⟨ho, ha, hr, ht, hk, hextra⟩
    exact ⟨a.order_id, a.amount, a.reason, a.tenant_id, a.idempotency_key, (),
      ⟨ho, ha, hr, ht, hk, hextra⟩, rfl⟩

/-! ## Both models -/

/-- **Arguments that make these args of `orders.get_order`.** -/
structure GetOrderArgs.Given (arguments : Json.Fields) (a : GetOrderArgs) : Prop where
  order_id : Dict.get? arguments "order_id" = some (.str a.order_id.1)
  tenant_id : Dict.get? arguments "tenant_id" = some (.str a.tenant_id.1)
  extra : ∀ f ∈ arguments, f.1 ∈ ["order_id", "tenant_id"]

/-- **Arguments that make these args of `orders.create_refund`.** -/
structure RefundArgs.Given {p : Decimal → Prop} (P : Pydantic) (arguments : Json.Fields)
    (a : RefundArgs p) : Prop where
  order_id : Dict.get? arguments "order_id" = some (.str a.order_id.1)
  amount : ∃ v, Dict.get? arguments "amount" = some v ∧ decimal (.json v) = some a.amount.1
  reason : Dict.get? arguments "reason" = some (.str a.reason.1)
  tenant_id : Dict.get? arguments "tenant_id" = some (.str a.tenant_id.1)
  idempotency_key : ∃ v, Dict.get? arguments "idempotency_key" = some v
    ∧ uuid P (.json v) = .ok a.idempotency_key
  extra : ∀ f ∈ arguments,
    f.1 ∈ ["order_id", "amount", "reason", "tenant_id", "idempotency_key"]

theorem get?_fromJson_eq_some {arguments : Json.Fields} {name : String} {v : Value} :
    Dict.get? (fromJson arguments) name = some v
      ↔ ∃ w, Dict.get? arguments name = some w ∧ .json w = v := by
  rw [get?_fromJson, Option.map_eq_some_iff]

theorem get?_fromJson_str {arguments : Json.Fields} {name s : String} :
    Dict.get? (fromJson arguments) name = some (.json (.str s))
      ↔ Dict.get? arguments name = some (.str s) := by
  simp [get?_fromJson_eq_some]

theorem forall_mem_fromJson {arguments : Json.Fields} {names : List String} :
    (∀ f ∈ fromJson arguments, f.1 ∈ names) ↔ ∀ f ∈ arguments, f.1 ∈ names :=
  List.forall_mem_map

/-- **What the generated model of `orders.create_refund` takes.** -/
theorem RefundArgs.validateParameters_eq_ok {P : Pydantic} {arguments : Json.Fields}
    {a : RefundArgs Decimal.Positive} :
    RefundArgs.validateParameters P (fromJson arguments) = .ok a ↔ a.Given P arguments := by
  rw [RefundArgs.validateParameters, RefundArgs.validate_eq_ok, get?_fromJson_str,
    get?_fromJson_str, get?_fromJson_str, forall_mem_fromJson]
  simp only [get?_fromJson_eq_some, positiveDecimal_eq_ok]
  constructor
  · rintro ⟨ho, ⟨-, ⟨v, hv, rfl⟩, ha⟩, hr, ht, ⟨-, ⟨w, hw, rfl⟩, hk⟩, hextra⟩
    exact ⟨ho, ⟨v, hv, ha⟩, hr, ht, ⟨w, hw, hk⟩, hextra⟩
  · rintro ⟨ho, ⟨v, hv, ha⟩, hr, ht, ⟨w, hw, hk⟩, hextra⟩
    exact ⟨ho, ⟨_, ⟨v, hv, rfl⟩, ha⟩, hr, ht, ⟨_, ⟨w, hw, rfl⟩, hk⟩, hextra⟩

theorem GetOrderArgs.validate_fromJson_eq_ok {arguments : Json.Fields} {a : GetOrderArgs} :
    GetOrderArgs.validate (fromJson arguments) = .ok a ↔ a.Given arguments := by
  simp only [GetOrderArgs.validate_eq_ok, get?_fromJson_str, forall_mem_fromJson]
  constructor
  · rintro ⟨ho, ht, hextra⟩
    exact ⟨ho, ht, hextra⟩
  · rintro ⟨ho, ht, hextra⟩
    exact ⟨ho, ht, hextra⟩

/-- The second model repeats the checks of the first… -/
theorem GetOrderArgs.validate_keywords (a : GetOrderArgs) :
    GetOrderArgs.validate a.keywords = .ok a :=
  GetOrderArgs.validate_eq_ok.mpr ⟨rfl, rfl, by simp [GetOrderArgs.keywords]⟩

/-- …but for the amount, which has to be payable. -/
theorem CreateRefundArgs.validate_keywords_eq_ok {P : Pydantic} {a : RefundArgs Decimal.Positive}
    {b : CreateRefundArgs} : CreateRefundArgs.validate P a.keywords = .ok b ↔
      b.order_id = a.order_id ∧ b.amount.1 = a.amount.1 ∧ b.reason = a.reason
        ∧ b.tenant_id = a.tenant_id ∧ b.idempotency_key = a.idempotency_key := by
  have hextra : ∀ f ∈ a.keywords,
      f.1 ∈ ["order_id", "amount", "reason", "tenant_id", "idempotency_key"] := by
    simp [RefundArgs.keywords]
  have hamount : (∃ v, Dict.get? a.keywords "amount" = some v ∧ amount v = .ok b.amount)
      ↔ b.amount.1 = a.amount.1 := by
    have hget : Dict.get? a.keywords "amount" = some (.decimal a.amount.1) := rfl
    simp only [hget, Option.some.injEq, exists_eq_left', amount_eq_ok, isInexactBinary, decimal,
      true_and]
    exact eq_comm
  have hkey : (∃ v, Dict.get? a.keywords "idempotency_key" = some v
      ∧ uuid P v = .ok b.idempotency_key) ↔ b.idempotency_key = a.idempotency_key := by
    have hget : Dict.get? a.keywords "idempotency_key" = some (.uuid a.idempotency_key) := rfl
    simp only [hget, Option.some.injEq, exists_eq_left', uuid, Except.ok.injEq]
    exact eq_comm
  have hstr : ∀ {p : String → Prop} {s t : { s : String // p s }},
      some (Value.json (.str s.1)) = some (.json (.str t.1)) ↔ t = s := by
    intro p s t
    rw [Option.some.injEq, Value.json.injEq, Json.str.injEq, Subtype.ext_iff, eq_comm]
  rw [CreateRefundArgs.validate, RefundArgs.validate_eq_ok, and_iff_left hextra, hamount, hkey]
  exact and_congr hstr (and_congr_right' (and_congr hstr (and_congr_left' hstr)))

/-- **Both models of `orders.create_refund`.** -/
theorem CreateRefundArgs.validate_both_eq_ok {P : Pydantic} {arguments : Json.Fields}
    {b : CreateRefundArgs} :
    ((RefundArgs.validateParameters P (fromJson arguments)).bind fun a =>
      CreateRefundArgs.validate P a.keywords) = .ok b ↔ b.Given P arguments := by
  rw [Machine.bind_eq_ok]
  constructor
  · rintro ⟨a, ha, hb⟩
    have hgiven := RefundArgs.validateParameters_eq_ok.mp ha
    obtain ⟨ho, hd, hr, ht, hk⟩ := CreateRefundArgs.validate_keywords_eq_ok.mp hb
    exact ⟨ho ▸ hgiven.order_id, hd ▸ hgiven.amount, hr ▸ hgiven.reason, ht ▸ hgiven.tenant_id,
      hk ▸ hgiven.idempotency_key, hgiven.extra⟩
  · intro h
    refine ⟨⟨b.order_id, ⟨b.amount.1, b.amount.2.1⟩, b.reason, b.tenant_id, b.idempotency_key⟩,
      RefundArgs.validateParameters_eq_ok.mpr ?_,
      CreateRefundArgs.validate_keywords_eq_ok.mpr ⟨rfl, rfl, rfl, rfl, rfl⟩⟩
    exact ⟨h.order_id, h.amount, h.reason, h.tenant_id, h.idempotency_key, h.extra⟩

/-- **Both models of `orders.get_order`.** -/
theorem GetOrderArgs.validate_both_eq_ok {arguments : Json.Fields} {b : GetOrderArgs} :
    ((GetOrderArgs.validate (fromJson arguments)).bind fun a =>
      GetOrderArgs.validate a.keywords) = .ok b ↔ b.Given arguments := by
  rw [Machine.bind_eq_ok]
  simp only [GetOrderArgs.validate_keywords, Except.ok.injEq, exists_eq_right,
    GetOrderArgs.validate_fromJson_eq_ok]

/-! ## What is answered -/

theorem str_answers {min max : ℕ} (v : Value) : CheckAnswers (str min max v) := by
  unfold str
  split
  · split <;> exact nofun
  · exact nofun

theorem tenantId_answers (v : Value) : CheckAnswers (tenantId v) := by
  unfold tenantId
  split
  · split <;> exact nofun
  · exact nofun

theorem uuid_answers (P : Pydantic) (v : Value) : CheckAnswers (uuid P v) := by
  unfold uuid
  split
  · exact nofun
  · cases P.uuid _ <;> exact nofun
  · exact nofun

theorem int_answers (P : Pydantic) {min max : ℤ} (v : Value) : CheckAnswers (int P min max v) := by
  simp only [int]
  split
  · split <;> exact nofun
  · exact nofun

theorem messages_answers (P : Pydantic) (v : Value) : CheckAnswers (messages P v) := by
  simp only [messages]
  split
  · split <;> exact nofun
  · exact nofun

theorem GetOrderArgs.validate_answers (given : Dict String Value) :
    Answers (GetOrderArgs.validate given) :=
  answers_map (answers_both (answers_field str_answers) (answers_both
    (answers_field tenantId_answers) (answers_forbidExtra _ _)))

theorem ChatArgs.validate_answers (P : Pydantic) (given : Dict String Value) :
    Answers (ChatArgs.validate P given) :=
  answers_map (answers_both (answers_field (messages_answers P)) (answers_both
    (answers_field (int_answers P)) (answers_both (answers_field tenantId_answers)
      (answers_forbidExtra _ _))))

theorem RagArgs.validate_answers (P : Pydantic) (given : Dict String Value) :
    Answers (RagArgs.validate P given) :=
  answers_map (answers_both (answers_field str_answers) (answers_both
    (answers_field tenantId_answers) (answers_both (answers_fieldD (int_answers P))
      (answers_forbidExtra _ _))))

/-- **The refund model raises** what the check of the amount raises. -/
theorem RefundArgs.validate_eq_raised {p : Decimal → Prop} {P : Pydantic}
    {amount : Value → Checked { d : Decimal // p d }} {given : Dict String Value} {e : Exc} :
    RefundArgs.validate P amount given = .error (.raised e)
      ↔ ∃ v, Dict.get? given "amount" = some v ∧ amount v = .error (.raised e) := by
  have hrest : Answers (both (field given "reason" (str 4 200)) <|
      both (field given "tenant_id" tenantId) <|
      both (field given "idempotency_key" (uuid P)) <|
      forbidExtra ["order_id", "amount", "reason", "tenant_id", "idempotency_key"] given) :=
    answers_both (answers_field str_answers) (answers_both (answers_field tenantId_answers)
      (answers_both (answers_field (uuid_answers P)) (answers_forbidExtra _ _)))
  rw [RefundArgs.validate, map_eq_raised, both_eq_raised_right (answers_field str_answers),
    both_eq_raised_left hrest, field_eq_raised]

end Mcp
