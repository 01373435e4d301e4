import TaxLiability.Llm.Correlation
import TaxLiability.Machinery.Binary64
import TaxLiability.Machinery.Retry
import TaxLiability.Machinery.Sha256
import TaxLiability.Sidecar.Models

/-!
# Sidecar/LlmProxyClient — one estimate, posted until that is settled

    request ─▸ prompt ─▸ POST ──timeout, network, 5xx──▸ the same POST again
                          ├─ any other failure ─▸ raised
                          └─ 2xx ─▸ echo? ─▸ completion ─▸ estimate ─▸ result

What stands around the post happens once; the post is repeated as it is, and only a failure that may
pass is followed by another.  A result is read from the last answer, which echoes the request's own
id if it echoes any (`estimate_eq_ok`).
-/

open Validation Llm.Correlation

namespace Sidecar

/-- **What else the libraries do**: how a float in lax mode is read, how a record, a date and a
text in quotes are written. -/
structure ClientLibrary where
  models : Library
  float : Json → Option Float64
  dump : Taxpayer → String
  isoformat : Java.Instant → String
  repr : String → String

/-! ## The envelopes -/

/-- **`LiabilityEstimateRequest`.** -/
structure LiabilityEstimateRequest where
  correlation_id : CorrelationId
  taxpayer : Taxpayer
  model_id : Mcp.Str 1 128
  feature : Mcp.Str 1 64

def HIGH_CONFIDENCE : ℚ := binary64.round (9 / 10)

def MIN_RATIONALE_CHARS : ℕ := 16

abbrev Confidence := { q : ℚ // 0 ≤ q ∧ q ≤ 1 }

/-- **`LiabilityEstimateResult`**: one who is sure gives reasons. -/
structure LiabilityEstimateResult where
  correlation_id : CorrelationId
  taxpayer_id : Mcp.Str 1 64
  label : Mcp.Str 1 64
  confidence : Confidence
  rationale : Mcp.Str 1 1024
  estimated_liability : Amount
  model_id : Mcp.Str 1 128
  reasoned : HIGH_CONFIDENCE ≤ confidence.1 → MIN_RATIONALE_CHARS ≤ rationale.1.length

/-- **`ProxyCompletionResponse`.** -/
structure ProxyCompletionResponse where
  model : Mcp.Str 1 128
  resolved_model : Mcp.Str 1 128
  feature : Mcp.Str 1 64
  input_tokens : ℕ
  output_tokens : ℕ
  text : { s : String // 1 ≤ s.length }

/-- **`EstimateCompletion`**, what the model is asked to answer. -/
structure EstimateCompletion where
  label : Mcp.Str 1 64
  confidence : Confidence
  rationale : Mcp.Str 1 1024
  estimated_liability : Amount

/-! ## Their validation -/

/-- A text as it is, of one to so many characters. -/
def verbatim (max : ℕ) (v : Json) : Validated (Mcp.Str 1 max) := leaf (Mcp.str 1 max (.json v))

/-- A text that is not empty. -/
def nonEmpty : Json → Validated { s : String // 1 ≤ s.length }
  | .str s => if h : 1 ≤ s.length then .ok ⟨s, h⟩ else flaw .constraint
  | _ => flaw .constraint

/-- `int` with `ge=0`. -/
def count (L : Library) (v : Json) : Validated ℕ :=
  let n := match v with
    | .int n => some n
    | v => L.pydantic.int v
  match n with
  | some n => if 0 ≤ n then .ok n.toNat else flaw .constraint
  | none => flaw .constraint

/-- `float` with `ge=0.0` and `le=1.0`. -/
def unitFloat (L : ClientLibrary) (v : Json) : Validated Confidence :=
  match L.float v with
  | some (.finite q) => if h : 0 ≤ q ∧ q ≤ 1 then .ok ⟨q, h⟩ else flaw .constraint
  | _ => flaw .constraint

/-- The fields of `ProxyCompletionResponse`, by alias and name. -/
def ProxyCompletionResponse.names : List (String × String) :=
  [("model", "model"), ("resolvedModel", "resolved_model"), ("feature", "feature"),
    ("inputTokens", "input_tokens"), ("outputTokens", "output_tokens"), ("text", "text")]

/-- **The validation of a `ProxyCompletionResponse`.** -/
def ProxyCompletionResponse.validate (L : Library) : Json → Validated ProxyCompletionResponse
  | .obj given =>
    (both (aliased given ("model", "model") (verbatim 128))
      (both (aliased given ("resolvedModel", "resolved_model") (verbatim 128))
        (both (aliased given ("feature", "feature") (verbatim 64))
          (both (aliased given ("inputTokens", "input_tokens") (count L))
            (both (aliased given ("outputTokens", "output_tokens") (count L))
              (both (aliased given ("text", "text") nonEmpty)
                (noExtra ProxyCompletionResponse.names given))))))).map
      fun ⟨model, resolved_model, feature, input_tokens, output_tokens, text, _⟩ =>
        ⟨model, resolved_model, feature, input_tokens, output_tokens, text⟩
  | _ => flaw .constraint

/-- The fields of `EstimateCompletion`, by alias and name. -/
def EstimateCompletion.names : List (String × String) :=
  [("label", "label"), ("confidence", "confidence"), ("rationale", "rationale"),
    ("estimatedLiability", "estimated_liability")]

/-- **The validation of an `EstimateCompletion`.** -/
def EstimateCompletion.validate (L : ClientLibrary) : Json → Validated EstimateCompletion
  | .obj given =>
    (both (aliased given ("label", "label") (verbatim 64))
      (both (aliased given ("confidence", "confidence") (unitFloat L))
        (both (aliased given ("rationale", "rationale") (verbatim 1024))
          (both (aliased given ("estimatedLiability", "estimated_liability") amount)
            (noExtra EstimateCompletion.names given))))).map
      fun ⟨label, confidence, rationale, estimated_liability, _⟩ =>
        ⟨label, confidence, rationale, estimated_liability⟩
  | _ => flaw .constraint

/-- `_high_confidence_requires_rationale`. -/
def LiabilityEstimateResult.make (correlation_id : CorrelationId) (taxpayer_id label : Mcp.Str 1 64)
    (confidence : Confidence) (rationale : Mcp.Str 1 1024) (estimated_liability : Amount)
    (model_id : Mcp.Str 1 128) : Validated LiabilityEstimateResult :=
  if h : HIGH_CONFIDENCE ≤ confidence.1 → MIN_RATIONALE_CHARS ≤ rationale.1.length then
    .ok ⟨correlation_id, taxpayer_id, label, confidence, rationale, estimated_liability, model_id,
      h⟩
  else flaw (.value_error ("a result with confidence >= 0.9 requires a rationale of >= "
    ++ toString MIN_RATIONALE_CHARS ++ " chars"))

/-! ## A post -/

/-- **The settings** the client reads. -/
structure Settings where
  proxy_api_key : String
  proxy_max_retries : Mcp.IntIn 0 10
  tenant_id : Mcp.Str 1 64

/-- What an attempt raises. -/
inductive HttpError
  /-- `httpx.TimeoutException` -/
  | timeout (message : String)
  /-- `httpx.NetworkError` -/
  | network (message : String)
  | httpStatus (status_code : ℕ)
  | other (message : String)
  deriving DecidableEq, Repr

/-- **What a response is read for**; its content is none where that is not JSON. -/
structure Response where
  status_code : ℕ
  correlation : Option String
  cost_usd : Option String
  content : Option Json

/-- **`raise_for_status`.** -/
def raiseForStatus (response : Response) : Except HttpError Response :=
  if 200 ≤ response.status_code ∧ response.status_code < 300 then .ok response
  else .error (.httpStatus response.status_code)

/-- **What is posted.** -/
structure Post where
  path : String
  correlation_id : String
  authorization : String
  payload : Json.Fields

def COMPLETIONS_PATH : String := "/v1/completions"

/-- **`_build_prompt`.** -/
def buildPrompt (L : ClientLibrary) (taxpayer : Taxpayer) : String :=
  "You are a tax liability estimator. Given the taxpayer record below, respond with a "
    ++ "single JSON object and nothing else, with exactly these keys: "
    ++ "\"label\" (short category string), \"confidence\" (number between 0 and 1), "
    ++ "\"rationale\" (one or two sentences), \"estimatedLiability\" (decimal string, 2 places). "
    ++ "Taxpayer record: " ++ L.dump taxpayer

/-- **What `_post` sends**, each time. -/
def post (L : ClientLibrary) (S : Settings) (request : LiabilityEstimateRequest) : Post :=
  ⟨COMPLETIONS_PATH, request.correlation_id.1, "Bearer " ++ S.proxy_api_key,
    [("prompt", .str (buildPrompt L request.taxpayer)), ("model", .str request.model_id.1),
      ("feature", .str request.feature.1)]⟩

/-! ## Retries -/

/-- **`_is_transient`.** -/
def isTransient : HttpError → Bool
  | .timeout _ | .network _ => true
  | .httpStatus status_code => 500 ≤ status_code
  | .other _ => false

/-- `retry_if_exception`. -/
def again : Except HttpError Response → Bool
  | .error e => isTransient e
  | .ok _ => false

/-- `_post`, from what `httpx` makes of it. -/
def attempt (sent : Except HttpError Response) : Except HttpError Response :=
  sent.bind raiseForStatus

/-- **How often the post is repeated**: `stop_after_attempt` lets a first attempt be made whatever
the limit. -/
def repeatsOf (S : Settings) (sent : ℕ → Except HttpError Response) : ℕ :=
  Retry.repeats again (fun n => attempt (sent n)) (S.proxy_max_retries.1.toNat - 1) 0

/-! ## The log -/

/-- **`as_log_fields`**, with the one tag a call has. -/
def asLogFields (L : ClientLibrary) (S : Settings) (request : LiabilityEstimateRequest)
    (started_at : Java.Instant) : List (String × String) :=
  [("correlation_id", request.correlation_id.1), ("tenant_id", S.tenant_id.1),
    ("started_at", L.isoformat started_at), ("tags", request.feature.1)]

inductive Event
  | start (model_id prompt_hash : String)
  /-- the number of the attempt, and what it raised -/
  | retry (attempt : ℕ) (reason : Option HttpError)
  | correlation_mismatch (echoed_correlation_id : String)
  | ok (resolved_model : String) (input_tokens output_tokens : ℕ) (cost_usd : Option String)
      (label : String) (confidence : ℚ)
  deriving DecidableEq

/-- A line of the log. -/
structure LogLine where
  event : Event
  fields : List (String × String)
  deriving DecidableEq

/-- What an attempt raised, if it did. -/
def reason : Except HttpError Response → Option HttpError
  | .error e => some e
  | .ok _ => none

/-- The hash a prompt is known by in the log. -/
def promptHash (prompt : String) : String :=
  String.ofList ((Sha256.hexdigest (Uuid.utf8 prompt.toList)).take 16)

/-! ## An estimate -/

/-- Why there is no result. -/
inductive Raised
  | http (e : HttpError)
  | refused (e : Refused)
  deriving DecidableEq

/-- A model is refused for whatever flaw it has. -/
def orRefused {α : Type} (x : Validated α) : Except Refused α :=
  x.mapError fun _ => .validationError

/-- `model_validate_json` of a content. -/
def validateContent {α : Type} (validate : Json → Validated α) (content : Option Json) :
    Except Refused α :=
  content.elim (.error .validationError) fun v => orRefused (validate v)

/-- **What a response comes to**: the lines that are logged of it, and the result. -/
def settle (L : ClientLibrary) (request : LiabilityEstimateRequest) (response : Response) :
    List Event × Except Refused LiabilityEstimateResult :=
  match readCompletion L.repr response.correlation request.correlation_id.1
      (validateContent (ProxyCompletionResponse.validate L.models) response.content) with
  | .error (.valueError message) =>
    (response.correlation.toList.map .correlation_mismatch, .error (.valueError message))
  | .error .validationError => ([], .error .validationError)
  | .ok completion =>
    match validateContent (EstimateCompletion.validate L)
        (L.models.pydantic.loads completion.text.1) with
    | .error e => ([], .error e)
    | .ok estimate =>
      ([.ok completion.resolved_model.1 completion.input_tokens completion.output_tokens
          response.cost_usd estimate.label.1 estimate.confidence.1],
        orRefused (LiabilityEstimateResult.make request.correlation_id request.taxpayer.id
          estimate.label estimate.confidence estimate.rationale estimate.estimated_liability
          completion.resolved_model))

/-- …and what the last attempt comes to. -/
def settleAttempt (L : ClientLibrary) (request : LiabilityEstimateRequest) :
    Except HttpError Response → List Event × Except Raised LiabilityEstimateResult
  | .error e => ([], .error (.http e))
  | .ok response => (settle L request response).map id (Except.mapError .refused)

/-- **A run of `estimate`**: what is posted, what is logged, and what comes of it. -/
structure Run where
  posts : List Post
  log : List LogLine
  result : Except Raised LiabilityEstimateResult

/-- **`estimate`**, from what becomes of each post. -/
def estimate (L : ClientLibrary) (S : Settings) (request : LiabilityEstimateRequest)
    (started_at : Java.Instant) (sent : ℕ → Except HttpError Response) : Run :=
  let n := repeatsOf S sent
  let settled := settleAttempt L request (attempt (sent n))
  let events := .start request.model_id.1 (promptHash (buildPrompt L request.taxpayer))
    :: (List.range n).map (fun i => .retry (i + 1) (reason (attempt (sent i)))) ++ settled.1
  ⟨List.replicate (n + 1) (post L S request),
    events.map fun e => ⟨e, asLogFields L S request started_at⟩, settled.2⟩

/-! ## What comes of it -/

section Estimate

variable {L : ClientLibrary} {S : Settings} {request : LiabilityEstimateRequest}
  {started_at : Java.Instant} {sent : ℕ → Except HttpError Response}

theorem raiseForStatus_eq_ok {response response' : Response} :
    raiseForStatus response = .ok response'
      ↔ (200 ≤ response.status_code ∧ response.status_code < 300) ∧ response = response' := by
  unfold raiseForStatus
  split_ifs with h
  · rw [Except.ok.injEq, and_iff_right h]
  · exact iff_of_false (by simp) fun hok => h hok.1

/-- An answer is followed by another post only if it says that the server failed. -/
theorem again_attempt_ok {response : Response} (h : again (attempt (.ok response)) = true) :
    500 ≤ response.status_code := by
  have hbind : attempt (.ok response) = raiseForStatus response := rfl
  rw [hbind, raiseForStatus] at h
  split_ifs at h with hok
  · cases h
  · exact of_decide_eq_true h

/-- **Ten posts at most**, by the settings, and one at least. -/
theorem repeatsOf_lt (S : Settings) (sent : ℕ → Except HttpError Response) :
    repeatsOf S sent < max 1 S.proxy_max_retries.1.toNat := by
  have hle : repeatsOf S sent ≤ S.proxy_max_retries.1.toNat - 1 := Retry.repeats_le ..
  omega

theorem validateContent_eq_ok {α : Type} {validate : Json → Validated α} {content : Option Json}
    {a : α} : validateContent validate content = .ok a
      ↔ ∃ v, content = some v ∧ validate v = .ok a := by
  cases content with
  | none => simp [validateContent]
  | some v =>
    have hread : validateContent validate (some v) = orRefused (validate v) := rfl
    rw [hread, orRefused, mapError_eq_ok]
    simp

theorem readCompletion_eq_ok {α : Type} {quote : String → String} {echoed : Option String}
    {correlation_id : String} {body : Except Refused α} {a : α} :
    readCompletion quote echoed correlation_id body = .ok a
      ↔ (∀ e ∈ echoed, e = correlation_id) ∧ body = .ok a := by
  cases echoed with
  | none => simp [readCompletion]
  | some echoed =>
    rw [readCompletion]
    split_ifs with h
    · exact iff_of_false (by simp) fun hok => h (hok.1 echoed rfl)
    · rw [not_not] at h
      simp [h]

/-- **A result**, by the answer it is read from. -/
theorem settle_eq_ok {response : Response} {r : LiabilityEstimateResult}
    (h : (settle L request response).2 = .ok r) :
    (∀ echoed ∈ response.correlation, echoed = request.correlation_id.1)
      ∧ (∃ v completion, response.content = some v
        ∧ ProxyCompletionResponse.validate L.models v = .ok completion
        ∧ r.model_id = completion.resolved_model)
      ∧ r.correlation_id = request.correlation_id ∧ r.taxpayer_id = request.taxpayer.id := by
  rw [settle] at h
  split at h
  · cases h
  · cases h
  · rename_i completion hcompletion
    obtain ⟨hecho, hbody⟩ := readCompletion_eq_ok.mp hcompletion
    obtain ⟨v, hv, hvalid⟩ := validateContent_eq_ok.mp hbody
    split at h
    · cases h
    · have hmake := mapError_eq_ok.mp h
      rw [LiabilityEstimateResult.make] at hmake
      split_ifs at hmake
      · obtain rfl := Except.ok.inj hmake
        exact ⟨hecho, ⟨v, completion, hv, hvalid, rfl⟩, rfl, rfl⟩
      · cases hmake

/-- **An estimate that returns** has read the last answer. -/
theorem estimate_eq_ok {r : LiabilityEstimateResult}
    (h : (estimate L S request started_at sent).result = .ok r) :
    ∃ response, sent (repeatsOf S sent) = .ok response
      ∧ (200 ≤ response.status_code ∧ response.status_code < 300)
      ∧ (settle L request response).2 = .ok r := by
  have hsettled : (settleAttempt L request (attempt (sent (repeatsOf S sent)))).2 = .ok r := h
  cases hsent : sent (repeatsOf S sent) with
  | error e =>
    rw [hsent] at hsettled
    cases hsettled
  | ok response =>
    have hattempt : attempt (.ok response) = raiseForStatus response := rfl
    rw [hsent, hattempt] at hsettled
    cases hraise : raiseForStatus response with
    | error e =>
      rw [hraise] at hsettled
      cases hsettled
    | ok response' =>
      rw [hraise] at hsettled
      obtain ⟨hstatus, rfl⟩ := raiseForStatus_eq_ok.mp hraise
      exact ⟨response, rfl, hstatus, mapError_eq_ok.mp hsettled⟩

end Estimate

end Sidecar
