import TaxLiability.Machinery.Uuid
import TaxLiability.Mcp.Arguments
import TaxLiability.Mcp.Sse

/-!
# Mcp/Tools — the four tools, up to the upstream request and from its answer on

    arguments ──validate──▸ args ──request──▸ upstream ──answer──▸ result, or what is raised

A handler validates, checks the tenant of the bearer against the one it is to act for, sends one
request and re-shapes the answer.
-/

open Validation Mcp.Sse

namespace Mcp

/-! ## Errors -/

/-- **`STATUS_TO_CODE`.** -/
def STATUS_TO_CODE : Dict ℕ ℤ :=
  [(400, 4001), (401, 4030), (403, 4030), (404, 4040), (409, 4090), (429, 4290)]

def DEFAULT_CODE : ℤ := 5030

def RAG_TIMEOUT_CODE : ℤ := 5040

def MAX_MESSAGE_CHARS : ℕ := 200

/-- The code of a status. -/
def codeOf (status : ℕ) : ℤ := (Dict.get? STATUS_TO_CODE status).getD DEFAULT_CODE

/-- The front of a message. -/
def truncate (message : String) : String := String.ofList (message.toList.take MAX_MESSAGE_CHARS)

/-- **`_map_http`.** -/
def mapHttp (status : ℕ) (body : String) : Failure Exc :=
  .raised (.mcpError (codeOf status) (truncate body))

/-- **`tenant_mismatch`.** -/
def tenantMismatch : Failure Exc :=
  .raised (.mcpError (codeOf 403)
    "bearer token is scoped to a different tenant than this call acts on")

/-- **`rag_timeout`.** -/
def ragTimeout (message : String) : Failure Exc :=
  .raised (.mcpError RAG_TIMEOUT_CODE (truncate message))

/-! ## Arguments -/

/-- The tools. -/
inductive Tool
  | getOrder
  | createRefund
  | chat
  | retrieveAndGenerate
  deriving DecidableEq

/-- The validated arguments of a call. -/
inductive Args
  | getOrder (args : GetOrderArgs)
  | createRefund (args : CreateRefundArgs)
  | chat (args : ChatArgs)
  | retrieveAndGenerate (args : RagArgs)

/-- The tenant a call is to act for. -/
def Args.tenant_id : Args → String
  | .getOrder args => args.tenant_id.1
  | .createRefund args => args.tenant_id.1
  | .chat args => args.tenant_id.1
  | .retrieveAndGenerate args => args.tenant_id.1

/-- **The arguments of a call through both models**: the generated one, and the tool's own. -/
def Tool.validate (P : Pydantic) (arguments : Json.Fields) : Tool → Raising Args
  | .getOrder =>
    (GetOrderArgs.validate (fromJson arguments)).bind fun a =>
      (GetOrderArgs.validate a.keywords).map .getOrder
  | .createRefund =>
    (RefundArgs.validateParameters P (fromJson arguments)).bind fun a =>
      (CreateRefundArgs.validate P a.keywords).map .createRefund
  | .chat =>
    (ChatArgs.validate P (fromJson arguments)).bind fun a =>
      (ChatArgs.validate P a.keywords).map .chat
  | .retrieveAndGenerate =>
    (RagArgs.validate P (fromJson arguments)).bind fun a =>
      (RagArgs.validate P a.keywords).map .retrieveAndGenerate

theorem bind_map {ε α β γ : Type} (x : Except ε α) (f : α → Except ε β) (g : β → γ) :
    (x.bind fun a => (f a).map g) = (x.bind f).map g := by
  cases x <;> rfl

theorem Tool.validate_getOrder_eq_ok {P : Pydantic} {arguments : Json.Fields} {args : Args} :
    Tool.getOrder.validate P arguments = .ok args
      ↔ ∃ a, a.Given arguments ∧ .getOrder a = args := by
  rw [Tool.validate, bind_map, Machine.map_eq_ok]
  simp only [GetOrderArgs.validate_both_eq_ok]

theorem Tool.validate_createRefund_eq_ok {P : Pydantic} {arguments : Json.Fields} {args : Args} :
    Tool.createRefund.validate P arguments = .ok args
      ↔ ∃ a : CreateRefundArgs, a.Given P arguments ∧ .createRefund a = args := by
  rw [Tool.validate, bind_map, Machine.map_eq_ok]
  simp only [CreateRefundArgs.validate_both_eq_ok]

/-! ## Requests -/

inductive Method
  | get
  | post
  deriving DecidableEq, Repr

/-- **A request of the HTTP client**: `url` is a path on the order service, or absolute. -/
structure Request where
  method : Method
  url : String
  headers : AuthHeaders
  idempotencyKey : Option String
  json : Option Json

/-- **What the client sends**: it refuses URLs with ASCII control characters. -/
def Sendable (url : String) : Prop := ∀ c ∈ url.toList, 0x20 ≤ c.toNat ∧ c.toNat ≠ 0x7f

instance (url : String) : Decidable (Sendable url) :=
  List.decidableBAll (fun c : Char => 0x20 ≤ c.toNat ∧ c.toNat ≠ 0x7f) url.toList

/-- What a handler asks of the systems behind it. -/
inductive Upstream
  | http (r : Request)
  /-- the retrieval pipeline -/
  | rag (question tenant_id : String) (top_k : ℤ)

/-- **What a call runs in**: the identity bound to it, `""` where there is none, and the
settings. -/
structure Context where
  request_jwt : String
  request_tenant : String
  bearer_jwt : String
  llm_proxy_url : String
  llm_proxy_chat_path : String
  tool_timeout_rag_s : String

/-- The headers of a call's request. -/
def Context.authHeaders (C : Context) (tenant_id : String) : AuthHeaders :=
  Sse.authHeaders C.request_jwt C.bearer_jwt tenant_id

/-- **`observe`**, as far as it decides: the bearer's tenant must not be another one. -/
def observe (C : Context) (tenant_id : String) : Raising Unit :=
  if crossTenantClaim C.request_tenant tenant_id = "" then .ok () else .error tenantMismatch

/-- The text without the slashes at its end. -/
def rstripSlash (s : List Char) : List Char := (s.reverse.dropWhile (· = '/')).reverse

/-- **`_wire_shape`**: whether the path asks for the chat shape. -/
def isChatShape (path : String) : Bool :=
  "/chat/completions".toList.isSuffixOf (rstripSlash path.toList)

/-- **`_flatten`.** -/
def flatten (messages : List ChatMessage) : String :=
  "\n\n".intercalate (messages.map fun m => m.role.1 ++ ": " ++ m.content.1)

def COST_FEATURE : String := "mcp.llm.chat"

/-- **`_request_body`.** -/
def requestBody (args : ChatArgs) (path : String) : Json :=
  if isChatShape path then
    .obj [("messages", .arr (args.messages.1.map fun m =>
        .obj [("role", .str m.role.1), ("content", .str m.content.1)])),
      ("max_tokens", .int args.max_tokens.1)]
  else .obj [("prompt", .str (flatten args.messages.1)), ("feature", .str COST_FEATURE)]

/-- The text of a UUID. -/
def uuidText (u : ℕ) : String := String.ofList (Uuid.format u)

/-- **The body of a refund request.** -/
def CreateRefundArgs.payload (args : CreateRefundArgs) : Json.Fields :=
  [("orderId", .str args.order_id.1), ("amount", .str (String.ofList args.amount.1.str)),
    ("reason", .str args.reason.1), ("idempotencyKey", .str (uuidText args.idempotency_key))]

/-- **The request a tool sends.** -/
def Args.request (C : Context) : Args → Upstream
  | .getOrder args => .http
    { method := .get
      url := "/orders/" ++ args.order_id.1
      headers := C.authHeaders args.tenant_id.1
      idempotencyKey := none
      json := none }
  | .createRefund args => .http
    { method := .post
      url := "/orders/" ++ args.order_id.1 ++ "/refunds"
      headers := C.authHeaders args.tenant_id.1
      idempotencyKey := some (uuidText args.idempotency_key)
      json := some (.obj (CreateRefundArgs.payload args)) }
  | .chat args => .http
    { method := .post
      url := C.llm_proxy_url ++ C.llm_proxy_chat_path
      headers := C.authHeaders args.tenant_id.1
      idempotencyKey := none
      json := some (requestBody args C.llm_proxy_chat_path) }
  | .retrieveAndGenerate args => .rag args.question.1 args.tenant_id.1 args.top_k.1

/-- **A call up to its request**: the arguments, and what is asked of the systems behind. -/
def Tool.call (P : Pydantic) (C : Context) (tool : Tool) (arguments : Json.Fields) :
    Raising (Args × Upstream) :=
  (tool.validate P arguments).bind fun args =>
    (observe C args.tenant_id).map fun _ => (args, args.request C)

theorem observe_eq_ok {C : Context} {tenant_id : String} {u : Unit} :
    observe C tenant_id = .ok u ↔ crossTenantClaim C.request_tenant tenant_id = "" := by
  unfold observe
  split <;> simp [*]

/-- **A call gets to its request** when its arguments are valid and the bearer's tenant is no other
one. -/
theorem Tool.call_eq_ok {P : Pydantic} {C : Context} {tool : Tool} {arguments : Json.Fields}
    {p : Args × Upstream} : tool.call P C arguments = .ok p ↔
      tool.validate P arguments = .ok p.1
        ∧ crossTenantClaim C.request_tenant p.1.tenant_id = "" ∧ p.2 = p.1.request C := by
  rw [Tool.call, Machine.bind_eq_ok]
  constructor
  · rintro ⟨args, hargs, h⟩
    obtain ⟨u, hu, rfl⟩ := Machine.map_eq_ok.mp h
    exact ⟨hargs, observe_eq_ok.mp hu, rfl⟩
  · rintro ⟨hargs, hu, hp⟩
    exact ⟨p.1, hargs, Machine.map_eq_ok.mpr ⟨(), observe_eq_ok.mpr hu, Prod.ext rfl hp.symm⟩⟩

/-! ## Answers -/

/-- A response: its status, its text and the JSON value of that, if it has one. -/
structure Response where
  status : ℕ
  text : String
  json : Option Json

/-- **What the systems behind a tool answer.** -/
inductive Answer
  | response (r : Response)
  /-- the HTTP client sends nothing, and raises -/
  | refused
  /-- there is no response -/
  | lost
  /-- the pipeline returns -/
  | result (v : Json)
  /-- the pipeline misses its deadline -/
  | timeout
  /-- the pipeline raises a `ValidationError` -/
  | invalid (errors : List (String × Flaw))
  /-- the pipeline raises something else -/
  | raised

/-- **What the language makes of JSON values**: their text, the floats of integers and of texts, and
the whole part of a float; `none` where it raises. -/
structure Builtins where
  str : Json → String
  floatOfInt : ℤ → Option Json.Float
  floatOfStr : String → Option Json.Float
  intOfFloat : Json.Float → Option ℤ

/-- `str`, unbounded. -/
def anyStr : Value → Checked String
  | .json (.str s) => .ok s
  | _ => .error (.flaw .constraint)

/-- `Decimal`, unbounded. -/
def anyDecimal (v : Value) : Checked Decimal := (decimal v).elim (.error (.flaw .constraint)) .ok

/-- The fields of a body that is to be an object. -/
def bodyFields : Json → Raising Json.Fields
  | .obj fields => .ok fields
  | _ => .error (.flaws [("", .constraint)])

/-- **`OrderView`.** -/
structure OrderView where
  order_id : String
  tenant_id : String
  total : Decimal
  status : String

/-- **`OrderView.model_validate`.** -/
def OrderView.validate (body : Json) : Raising OrderView :=
  (bodyFields body).bind fun fields =>
    let given := fromJson fields
    (both (field given "order_id" anyStr) <|
      both (field given "tenant_id" anyStr) <|
      both (field given "total" anyDecimal) <|
      both (field given "status" anyStr) <|
      forbidExtra ["order_id", "tenant_id", "total", "status"] given).map
    fun (order_id, tenant_id, total, status, _) => ⟨order_id, tenant_id, total, status⟩

/-- `model_dump(mode="json")`. -/
def OrderView.dump (v : OrderView) : Json :=
  .obj [("order_id", .str v.order_id), ("tenant_id", .str v.tenant_id),
    ("total", .str (String.ofList v.total.str)), ("status", .str v.status)]

/-- **`RefundView`.** -/
structure RefundView where
  order_id : String
  refund_id : String
  amount : Decimal
  reason : String
  status : String

/-- **`RefundView.model_validate`.** -/
def RefundView.validate (body : Json) : Raising RefundView :=
  (bodyFields body).bind fun fields =>
    let given := fromJson fields
    (both (field given "order_id" anyStr) <|
      both (field given "refund_id" anyStr) <|
      both (field given "amount" anyDecimal) <|
      both (field given "reason" anyStr) <|
      both (field given "status" anyStr) <|
      forbidExtra ["order_id", "refund_id", "amount", "reason", "status"] given).map
    fun (order_id, refund_id, amount, reason, status, _) =>
      ⟨order_id, refund_id, amount, reason, status⟩

/-- `model_dump(mode="json")`. -/
def RefundView.dump (v : RefundView) : Json :=
  .obj [("order_id", .str v.order_id), ("refund_id", .str v.refund_id),
    ("amount", .str (String.ofList v.amount.str)), ("reason", .str v.reason),
    ("status", .str v.status)]

/-- A field of a value, if it is an object that has it. -/
def get (v : Json) (key : String) : Option Json :=
  match v with
  | .obj fields => Dict.get? fields key
  | _ => none

/-- Whether the language takes a value for true. -/
def truthy : Json → Bool
  | .null => false
  | .bool b => b
  | .int n => n != 0
  | .float x => x.text != "0.0".toList && x.text != "-0.0".toList
  | .str s => s != ""
  | .arr xs => !xs.isEmpty
  | .obj fields => !fields.isEmpty

/-- **`as_token_count`.** -/
def asTokenCount (B : Builtins) : Json → ℤ
  | .int n => n
  | .float x => (B.intOfFloat x).getD 0
  | .str s => ((Decimal.parse s.toList).map Decimal.trunc).getD 0
  | _ => 0

/-- The reply `llm.chat` publishes. -/
def chatReply (text model : String) (input_tokens output_tokens : ℤ) : Json :=
  .obj [("text", .str text), ("model", .str model), ("input_tokens", .int input_tokens),
    ("output_tokens", .int output_tokens)]

/-- **`_parse_reply`.** -/
def parseReply (B : Builtins) (body : Json) (path : String) : Json :=
  let strOr (v : Option Json) := (v.map B.str).getD ""
  let countOr (v : Option Json) := (v.map (asTokenCount B)).getD 0
  if isChatShape path then
    let first := match get body "choices" with
      | some (.arr (first :: _)) => first
      | _ => .obj []
    let message := match first with
      | .obj _ => (get first "message").getD (.obj [])
      | _ => .obj []
    let usage := (get body "usage").getD .null
    chatReply (strOr (get message "content")) (strOr (get body "model"))
      (countOr (get usage "prompt_tokens")) (countOr (get usage "completion_tokens"))
  else
    let model := match get body "resolvedModel" with
      | some v => if truthy v then some v else get body "model"
      | none => get body "model"
    chatReply (strOr (get body "text")) (strOr model) (countOr (get body "inputTokens"))
      (countOr (get body "outputTokens"))

/-- What stands before the last occurrence of a text, if it occurs. -/
def beforeLast (sep : List Char) : List Char → Option (List Char)
  | [] => none
  | c :: s =>
    match beforeLast sep s with
    | some before => some (c :: before)
    | none => if sep.isPrefixOf (c :: s) then some [] else none

/-- **`_doc_id_of`.** -/
def docIdOf (chunk_id : String) : String :=
  let front := "chunk-".toList
  if front.isPrefixOf chunk_id.toList ∧ (beforeLast "-p".toList chunk_id.toList).isSome then
    let rest := chunk_id.toList.drop front.length
    String.ofList ((beforeLast "-p".toList rest).getD rest)
  else chunk_id

def zeroScore : Json.Float := ⟨"0.0".toList, by decide, by decide, by decide⟩

/-- **`to_score`**, `none` where it raises. -/
def toScore (B : Builtins) : Option Json → Option Json.Float
  | some (.float x) => some x
  | some (.int n) => B.floatOfInt n
  | some (.str s) => some ((B.floatOfStr s).getD zeroScore)
  | _ => some zeroScore

/-- A citation of the pipeline as it is published, `none` where the score raises. -/
def citation (B : Builtins) (item : Json) : Option Json :=
  let chunk_id := ((get item "chunk_id").map B.str).getD ""
  (toScore B (get item "score")).map fun score =>
    .obj [("chunk_id", .str chunk_id), ("doc_id", .str (docIdOf chunk_id)), ("score", .float score)]

/-- Whether a value is an object. -/
def isObject : Json → Bool
  | .obj _ => true
  | _ => false

/-- **The answer `rag.retrieve_and_generate` publishes**, from what the pipeline returns. -/
def ragAnswer (B : Builtins) (top_k : ℤ) (result : Json) : Raising Json :=
  let raw := match get result "citations" with
    | some (.arr items) => items.take top_k.toNat
    | _ => []
  let citations := (raw.filter isObject).mapM (citation B)
  let coverage := toScore B ((get result "coverage").bind (get · "jaccard"))
  match isObject result, citations, coverage with
  | true, some citations, some coverage =>
    .ok (.obj [("answer", .str (((get result "text").map B.str).getD "")),
      ("citations", .arr citations), ("coverage", .float coverage),
      ("rerank_timed_out", .bool (((get result "rerank_timed_out").map truthy).getD false))])
  | _, _, _ => .error (.raised .other)

/-- **From a response on**: any status but 200 is an error. -/
def fromResponse (view : Json → Raising Json) : Answer → Raising Json
  | .response r =>
    if r.status ≠ 200 then .error (mapHttp r.status r.text)
    else match r.json with
      | some body => view body
      | none => .error (.raised .other)
  | _ => .error (.raised .other)

/-- …from the pipeline's return on. -/
def fromPipeline (B : Builtins) (C : Context) (top_k : ℤ) : Answer → Raising Json
  | .result v => ragAnswer B top_k v
  | .timeout => .error (ragTimeout ("rag timed out after " ++ C.tool_timeout_rag_s ++ "s"))
  | .invalid errors => .error (.flaws errors)
  | _ => .error (.raised .other)

/-- **What a handler makes of the answer.** -/
def Args.answer (B : Builtins) (C : Context) : Args → Answer → Raising Json
  | .getOrder _ => fromResponse fun body => (OrderView.validate body).map OrderView.dump
  | .createRefund _ => fromResponse fun body => (RefundView.validate body).map RefundView.dump
  | .chat _ => fromResponse fun body => .ok (parseReply B body C.llm_proxy_chat_path)
  | .retrieveAndGenerate args => fromPipeline B C args.top_k.1

/-- **A call of a tool**, with what the system behind it answers to its one request. -/
def Tool.run (P : Pydantic) (B : Builtins) (C : Context) (tool : Tool) (arguments : Json.Fields)
    (answer : Answer) : Raising Json :=
  (tool.call P C arguments).bind fun p => p.1.answer B C answer

/-! ## The client's side -/

def INVALID_PARAMS : ℤ := -32602

/-- What the client sees. -/
inductive Reply
  | result (v : Json)
  /-- a JSON-RPC error -/
  | error (code : ℤ) (message : String)
  /-- a result that says there was an error, without a code -/
  | isError

/-- **`StructuredErrorFastMCP.call_tool`** and the handler around it: what was raised, by its type;
`str` is the text of a `ValidationError`. -/
def callTool (str : List (String × Flaw) → String) : Raising Json → Reply
  | .ok v => .result v
  | .error (.flaws errors) => .error INVALID_PARAMS (str errors)
  | .error (.raised (.mcpError code message)) => .error code message
  | .error (.raised .invalidOperation) | .error (.raised .other) => .isError

end Mcp
