import TaxLiability.Security.RateLimitFilter
import TaxLiability.Sidecar.LlmProxyClient

/-!
# Llm/LlmProxyController — what an estimate costs, however often it is posted

    sidecar ──POST──▸ controller ──▸ model ──▸ cost line
       ▴                  │                       │
       └── lost ✂ ────────┴──── 200 ── 4xx ── 5xx ┘

A post that is lost may have been charged, and is posted again; an answer that comes back is charged
only if it is the last.  So an estimate is charged once, and once more for each answer that was lost
on its way back (`estimate_charged`).  The calls a post comes to are those the application makes of
it as a request (`calls_completions`).
-/

open Llm.Correlation Validation

namespace Llm

/-! ## The controller -/

/-- **`CompletionRequest`**: what its constructor lets through. -/
structure CompletionRequest where
  prompt : String
  model : String
  feature : String
  prompt_notBlank : ¬ Java.IsBlank prompt
  feature_notBlank : ¬ Java.IsBlank feature

/-- **The constructor of `CompletionRequest`**, which fills in the model. -/
def CompletionRequest.create (prompt model feature : Option String) : Option CompletionRequest :=
  match prompt, feature with
  | some prompt, some feature =>
    if h : ¬ Java.IsBlank prompt ∧ ¬ Java.IsBlank feature then
      some ⟨prompt, Security.modelOf model, feature, h.1, h.2⟩
    else none
  | _, _ => none

theorem CompletionRequest.create_of_notBlank {prompt feature : String}
    (h : ¬ Java.IsBlank prompt ∧ ¬ Java.IsBlank feature) (model : Option String) :
    CompletionRequest.create (some prompt) model (some feature)
      = some ⟨prompt, Security.modelOf model, feature, h.1, h.2⟩ := dif_pos h

/-- **`CompletionResponse`.** -/
structure CompletionResponse where
  model : String
  resolvedModel : String
  feature : String
  inputTokens : ℕ
  outputTokens : ℕ
  text : Option String
  deriving DecidableEq

/-- The body of an answer, as it is written. -/
def CompletionResponse.json (c : CompletionResponse) : Json :=
  .obj [("model", .str c.model), ("resolvedModel", .str c.resolvedModel),
    ("feature", .str c.feature), ("inputTokens", .int c.inputTokens),
    ("outputTokens", .int c.outputTokens), ("text", c.text.elim .null .str)]

/-- **What `completions` does**: whether it calls the model, its `X-Cost-Usd`, and what it returns
or throws. -/
structure Completed where
  calls : List Security.Call
  header : Option String
  result : Except Thrown CompletionResponse

/-- **`completions`**: its model is priced before it is called. -/
def completions (service tenant : String) (request : CompletionRequest) (instant : Java.Instant)
    (latencyMs : ℕ) (answer : ProviderAnswer) : Completed :=
  match ratesFor request.model with
  | .error e => ⟨[], none, .error e⟩
  | .ok _ =>
    match CallContext.create instant service tenant request.feature with
    | .error e => ⟨[], none, .error e⟩
    | .ok ctx =>
      let observed := observe ctx (complete request.prompt request.model latencyMs answer)
      ⟨[⟨answer, observed.lines⟩], observed.header, observed.result.map fun resp =>
        ⟨resp.modelId, resp.resolvedModelId, request.feature, resp.inputTokens, resp.outputTokens,
          resp.text⟩⟩

/-- **The status of what is thrown**: `badRequest` handles an `IllegalArgumentException`. -/
def Thrown.status : Thrown → ℕ
  | .illegalArgument _ | .unpriced _ => 400
  | .illegalState _ | .arithmetic | .provider => 500

/-- **The response**, with the correlation id of the filter; a body that is no `CompletionRequest`
is a bad request.  The content of a failure is not read. -/
def respond (correlation : Option String) : Option Completed → Sidecar.Response
  | none => ⟨400, correlation, none, none⟩
  | some completed =>
    match completed.result with
    | .error thrown => ⟨thrown.status, correlation, completed.header, none⟩
    | .ok response => ⟨200, correlation, completed.header, some response.json⟩

/-- **The calls of the model** are those the route was said to make. -/
theorem calls_completions (S : Security.Container) (r : Security.Request) (jwt : Security.Jwt)
    {prompt model feature : Option String} (hbody : r.body = .completion prompt model feature) :
    S.completions r jwt = ((CompletionRequest.create prompt model feature).map fun request =>
      (completions S.service (Security.tenantOf jwt) request r.instant r.latencyMs
        r.answer).calls).getD [] := by
  rw [Security.Container.completions, hbody]
  cases prompt with
  | none => rfl
  | some prompt =>
    cases feature with
    | none => rfl
    | some feature =>
      dsimp only
      by_cases hblank : ¬ Java.IsBlank prompt ∧ ¬ Java.IsBlank feature
      · rw [CompletionRequest.create_of_notBlank hblank, Option.map_some, Option.getD_some,
          completions]
        dsimp only
        cases hrates : ratesFor (Security.modelOf model) with
        | error e =>
          have hpriced : ¬ Priceable (Security.modelOf model) := fun h => by
            obtain ⟨a, b, hok, -⟩ := ratesFor_of_priceable h
            rw [hok] at hrates
            cases hrates
          rw [if_neg fun h => hpriced h.2.2]
        | ok rates =>
          rw [if_pos ⟨hblank.1, hblank.2, priceable_of_ratesFor hrates⟩, Security.Container.buy]
          cases CallContext.create r.instant S.service (Security.tenantOf jwt) feature <;> rfl
      · rw [CompletionRequest.create, dif_neg hblank, if_neg fun h => hblank ⟨h.1, h.2.1⟩]
        rfl

/-- A call that goes through the middleware leaves one line and answers, or throws and leaves
none. -/
theorem observe_cases (ctx : CallContext) (upstream : Except Thrown UpstreamResponse) :
    ((observe ctx upstream).lines = [] ∧ ∃ thrown, (observe ctx upstream).result = .error thrown)
      ∨ ∃ line, (observe ctx upstream).lines = [line] ∧ line.ctx = ctx
        ∧ Llm.costUsdE5 line.resp = .ok line.costUsdE5
        ∧ (observe ctx upstream).result = .ok line.resp := by
  cases upstream with
  | error thrown => exact .inl ⟨rfl, thrown, rfl⟩
  | ok resp =>
    rw [observe]
    cases hcost : Llm.costUsdE5 resp with
    | error thrown => exact .inl ⟨rfl, thrown, rfl⟩
    | ok cost =>
      dsimp only
      split_ifs
      · exact .inl ⟨rfl, _, rfl⟩
      · exact .inr ⟨_, rfl, rfl, hcost, rfl⟩

/-- **What a request to the model comes to**: it is refused before the model is called, or the call
is charged and answered, or neither. -/
inductive Comes (tenant : String) (request : CompletionRequest) (answer : ProviderAnswer)
    (c : Completed) : Prop
  | refused (thrown : Thrown) (calls : c.calls = []) (result : c.result = .error thrown)
  | charged (line : CostLine) (priceable : Priceable request.model)
    (calls : c.calls = [⟨answer, [line]⟩]) (chargeable : answer.Chargeable)
    (cost : Llm.costUsdE5 line.resp = .ok line.costUsdE5)
    (tenant : line.ctx.tenant = tenant) (feature : line.ctx.feature = request.feature)
    (result : c.result = .ok ⟨line.resp.modelId, line.resp.resolvedModelId, request.feature,
      line.resp.inputTokens, line.resp.outputTokens, line.resp.text⟩)
  | threw (thrown : Thrown) (priceable : Priceable request.model)
    (calls : c.calls = [⟨answer, []⟩]) (chargeable : ¬ answer.Chargeable)
    (result : c.result = .error thrown)

theorem completions_comes (service tenant : String) (request : CompletionRequest)
    (instant : Java.Instant) (latencyMs : ℕ) (answer : ProviderAnswer) :
    Comes tenant request answer (completions service tenant request instant latencyMs answer) := by
  rw [completions]
  cases hrates : ratesFor request.model with
  | error e => exact .refused e rfl rfl
  | ok rates =>
    dsimp only
    cases hctx : CallContext.create instant service tenant request.feature with
    | error e => exact .refused e rfl rfl
    | ok ctx =>
      have hpriceable := priceable_of_ratesFor hrates
      have hcharged :=
        attributed_observe_iff request.prompt_notBlank hpriceable latencyMs ctx answer
      dsimp only
      rcases observe_cases ctx (complete request.prompt request.model latencyMs answer) with
        ⟨hlines, thrown, hresult⟩ | ⟨line, hlines, hline, hcost, hresult⟩
      · rw [hlines] at hcharged
        rw [hlines, hresult]
        refine .threw thrown hpriceable rfl (fun h => ?_) rfl
        obtain ⟨line, hnil, -⟩ := hcharged.mpr h
        cases hnil
      · rw [hlines] at hcharged
        rw [hlines, hresult]
        have hparts : ctx.tenant = tenant ∧ ctx.feature = request.feature := by
          rw [CallContext.create] at hctx
          split_ifs at hctx
          obtain rfl := Except.ok.inj hctx
          exact ⟨rfl, rfl⟩
        rw [← hline] at hparts
        exact .charged line hpriceable rfl (hcharged.mp ⟨line, rfl, hcost⟩) hcost hparts.1 hparts.2
          rfl

/-- What is completed is the same whatever the prompt says. -/
theorem completions_congr (service tenant : String) {request request' : CompletionRequest}
    (hmodel : request'.model = request.model) (hfeature : request'.feature = request.feature)
    (instant : Java.Instant) (latencyMs : ℕ) (answer : ProviderAnswer) :
    completions service tenant request' instant latencyMs answer
      = completions service tenant request instant latencyMs answer := by
  simp only [completions, hmodel, hfeature, complete, requireText_eq request.prompt_notBlank,
    requireText_eq request'.prompt_notBlank, bind, Except.bind]

/-! ## An estimate -/

/-- **A failure on the way**: no response with a good status. -/
abbrev Lost := { sent : Except Sidecar.HttpError Sidecar.Response //
  ∀ response, Sidecar.attempt sent ≠ .ok response }

/-- **What becomes of a post.** -/
inductive Exchange
  /-- it does not get to the controller -/
  | stopped (got : Lost)
  /-- it is handled, and the answer does not get back -/
  | lost (instant : Java.Instant) (latencyMs : ℕ) (answer : ProviderAnswer) (got : Lost)
  | delivered (instant : Java.Instant) (latencyMs : ℕ) (answer : ProviderAnswer)
    (correlation : Option String)

def Exchange.isLost : Exchange → Bool
  | .lost _ _ _ _ => true
  | .stopped _ | .delivered _ _ _ _ => false

/-- **An estimate and what becomes of its posts**: the sidecar's side, the service and the token the
proxy charges by, and an exchange for each post there may be. -/
structure Estimate where
  library : Sidecar.ClientLibrary
  settings : Sidecar.Settings
  request : Sidecar.LiabilityEstimateRequest
  started_at : Java.Instant
  service : String
  jwt : Security.Jwt
  exchange : ℕ → Exchange

namespace Estimate

variable (E : Estimate)

def post : Sidecar.Post := Sidecar.post E.library E.settings E.request

/-- A text of the payload. -/
def text (payload : Json.Fields) (name : String) : Option String :=
  match Dict.get? payload name with
  | some (.str s) => some s
  | _ => none

/-- **What the controller does with the post**, if its body is one. -/
def handle (instant : Java.Instant) (latencyMs : ℕ) (answer : ProviderAnswer) : Option Completed :=
  (CompletionRequest.create (text E.post.payload "prompt") (text E.post.payload "model")
    (text E.post.payload "feature")).map fun request =>
      completions E.service (Security.tenantOf E.jwt) request instant latencyMs answer

/-- The calls of the model a post comes to. -/
def callsOf : Exchange → List Security.Call
  | .stopped _ => []
  | .lost instant latencyMs answer _ | .delivered instant latencyMs answer _ =>
    ((E.handle instant latencyMs answer).map Completed.calls).getD []

/-- What comes back. -/
def sentOf : Exchange → Except Sidecar.HttpError Sidecar.Response
  | .stopped got | .lost _ _ _ got => got.1
  | .delivered instant latencyMs answer correlation =>
    .ok (respond correlation (E.handle instant latencyMs answer))

def sent (n : ℕ) : Except Sidecar.HttpError Sidecar.Response := E.sentOf (E.exchange n)

def run : Sidecar.Run :=
  Sidecar.estimate E.library E.settings E.request E.started_at E.sent

/-- The last post. -/
def last : ℕ := Sidecar.repeatsOf E.settings E.sent

/-- **The lines the `n`-th post leaves.** -/
def lines (n : ℕ) : List CostLine := (E.callsOf (E.exchange n)).flatMap Security.Call.lines

/-- **What an estimate costs.** -/
structure Charged : Prop where
  /-- the same post, as often as the settings allow at most -/
  posts : E.run.posts = List.replicate (E.last + 1) E.post
    ∧ E.last < max 1 E.settings.proxy_max_retries.1.toNat
  /-- one that is repeated has failed in a way that may pass -/
  repeated : ∀ n < E.last, ∃ e, Sidecar.attempt (E.sent n) = .error e ∧ Sidecar.isTransient e = true
  /-- a post calls the model once at most, and one that can be priced -/
  calls : ∀ n, (E.callsOf (E.exchange n)).length ≤ 1
    ∧ (E.callsOf (E.exchange n) ≠ [] → Priceable (Security.modelOf (some E.request.model_id.1)))
  /-- a call leaves a line exactly if its answer can be charged, and that is its price -/
  priced : ∀ n, ∀ call ∈ E.callsOf (E.exchange n),
    (call.answer.Chargeable ∧ Attributed call.lines)
      ∨ (¬ call.answer.Chargeable ∧ call.lines = [])
  /-- what is charged before the last post was lost on its way back -/
  lost : (List.range (E.last + 1)).flatMap E.lines
    = ((List.range E.last).filter fun n => (E.exchange n).isLost).flatMap E.lines ++ E.lines E.last
  /-- what is returned is charged once, to the tenant of the token, under the model that served -/
  returned : ∀ r, E.run.result = .ok r → ∃ line, E.lines E.last = [line]
    ∧ Llm.costUsdE5 line.resp = .ok line.costUsdE5 ∧ line.ctx.tenant = Security.tenantOf E.jwt
    ∧ line.ctx.feature = E.request.feature.1 ∧ line.resp.resolvedModelId = r.model_id.1
    ∧ r.correlation_id = E.request.correlation_id ∧ r.taxpayer_id = E.request.taxpayer.id

variable {E} {instant : Java.Instant} {latencyMs : ℕ} {answer : ProviderAnswer}
  {correlation : Option String} {n : ℕ}

theorem create_eq_some {prompt model feature : String} {request : CompletionRequest}
    (h : CompletionRequest.create (some prompt) (some model) (some feature) = some request) :
    request.model = Security.modelOf (some model) ∧ request.feature = feature := by
  rw [CompletionRequest.create] at h
  split_ifs at h
  obtain rfl := Option.some.inj h
  exact ⟨rfl, rfl⟩

/-- **A post that is handled.** -/
theorem handle_cases (E : Estimate) (instant : Java.Instant) (latencyMs : ℕ)
    (answer : ProviderAnswer) : E.handle instant latencyMs answer = none
      ∨ ∃ request completed, E.handle instant latencyMs answer = some completed
        ∧ Comes (Security.tenantOf E.jwt) request answer completed
        ∧ request.model = Security.modelOf (some E.request.model_id.1)
        ∧ request.feature = E.request.feature.1 := by
  cases hcreate : CompletionRequest.create (text E.post.payload "prompt")
      (text E.post.payload "model") (text E.post.payload "feature") with
  | none =>
    rw [handle, hcreate]
    exact .inl rfl
  | some request =>
    obtain ⟨hmodel, hfeature⟩ := create_eq_some hcreate
    refine .inr ⟨request, _, ?_, completions_comes E.service _ request instant latencyMs answer,
      hmodel, hfeature⟩
    rw [handle, hcreate]
    rfl

/-- **A call** is the only one of its post, is of a model with a price, and is charged exactly if
its answer can be. -/
theorem callsOf_cases (E : Estimate) (exchange : Exchange) : E.callsOf exchange = []
    ∨ ∃ call, E.callsOf exchange = [call]
      ∧ Priceable (Security.modelOf (some E.request.model_id.1))
      ∧ ((call.answer.Chargeable ∧ Attributed call.lines)
        ∨ (¬ call.answer.Chargeable ∧ call.lines = [])) := by
  have handled (instant : Java.Instant) (latencyMs : ℕ) (answer : ProviderAnswer) :
      ((E.handle instant latencyMs answer).map Completed.calls).getD [] = []
        ∨ ∃ call, ((E.handle instant latencyMs answer).map Completed.calls).getD [] = [call]
          ∧ Priceable (Security.modelOf (some E.request.model_id.1))
          ∧ ((call.answer.Chargeable ∧ Attributed call.lines)
            ∨ (¬ call.answer.Chargeable ∧ call.lines = [])) := by
    rcases E.handle_cases instant latencyMs answer with
      hnone | ⟨request, completed, hsome, hcomes, hmodel, -⟩
    · rw [hnone]
      exact .inl rfl
    · rw [hsome, Option.map_some, Option.getD_some, ← hmodel]
      cases hcomes with
      | refused thrown hcalls => exact .inl hcalls
      | charged line hpriceable hcalls hchargeable hcost =>
        exact .inr ⟨_, hcalls, hpriceable, .inl ⟨hchargeable, line, rfl, hcost⟩⟩
      | threw thrown hpriceable hcalls hchargeable =>
        exact .inr ⟨_, hcalls, hpriceable, .inr ⟨hchargeable, rfl⟩⟩
  cases exchange with
  | stopped got => exact .inl rfl
  | lost instant latencyMs answer got => exact handled instant latencyMs answer
  | delivered instant latencyMs answer correlation => exact handled instant latencyMs answer

/-- **An answer that comes back** is charged, and what the line says, or it leaves no line and is a
failure. -/
theorem delivered_cases (hn : E.exchange n = .delivered instant latencyMs answer correlation) :
    (E.lines n = [] ∧ ∃ response, E.sent n = .ok response ∧ response.content = none)
      ∨ ∃ line, E.lines n = [line] ∧ Llm.costUsdE5 line.resp = .ok line.costUsdE5
        ∧ line.ctx.tenant = Security.tenantOf E.jwt ∧ line.ctx.feature = E.request.feature.1
        ∧ ∃ header, E.sent n = .ok ⟨200, correlation, header,
          some (CompletionResponse.json ⟨line.resp.modelId, line.resp.resolvedModelId,
            E.request.feature.1, line.resp.inputTokens, line.resp.outputTokens,
            line.resp.text⟩)⟩ := by
  rw [lines, sent, hn, callsOf, sentOf]
  rcases E.handle_cases instant latencyMs answer with
    hnone | ⟨request, completed, hsome, hcomes, -, hfeature⟩
  · rw [hnone]
    exact .inl ⟨rfl, _, rfl, rfl⟩
  · rw [hsome, Option.map_some, Option.getD_some, respond]
    cases hcomes with
    | refused thrown hcalls hresult =>
      rw [hcalls, hresult]
      exact .inl ⟨rfl, _, rfl, rfl⟩
    | charged line hpriceable hcalls hchargeable hcost htenant hfeature' hresult =>
      rw [hcalls, hresult, ← hfeature]
      exact .inr ⟨line, rfl, hcost, htenant, hfeature', _, rfl⟩
    | threw thrown hpriceable hcalls hchargeable hresult =>
      rw [hcalls, hresult]
      exact .inl ⟨rfl, _, rfl, rfl⟩

theorem again_of_lt_last (hn : n < E.last) :
    Sidecar.again (Sidecar.attempt (E.sent n)) = true := by
  have h := Retry.again_of_lt_repeats hn
  rwa [Nat.zero_add] at h

/-- **Before the last post**, only what was lost was charged. -/
theorem lines_of_lt_last (hn : n < E.last) (hlost : (E.exchange n).isLost = false) :
    E.lines n = [] := by
  have hagain := again_of_lt_last hn
  cases hexchange : E.exchange n with
  | stopped got =>
    rw [lines, hexchange]
    rfl
  | lost instant latencyMs answer got =>
    rw [hexchange] at hlost
    cases hlost
  | delivered instant latencyMs answer correlation =>
    rcases delivered_cases hexchange with ⟨hnil, -⟩ | ⟨line, -, -, -, -, header, hsent⟩
    · exact hnil
    · rw [hsent] at hagain
      have hstatus : 500 ≤ 200 := Sidecar.again_attempt_ok hagain
      exact absurd hstatus (by decide)

/-- The parts of a list that leave something. -/
theorem flatMap_filter {α β : Type} (f : α → List β) (p : α → Bool) (l : List α)
    (h : ∀ a ∈ l, p a = false → f a = []) : l.flatMap f = (l.filter p).flatMap f := by
  induction l with
  | nil => rfl
  | cons a l ih =>
    have hl := ih fun b hb => h b (List.mem_cons_of_mem a hb)
    rw [List.flatMap_cons, hl]
    cases hp : p a with
    | true => rw [List.filter_cons_of_pos hp, List.flatMap_cons]
    | false =>
      rw [List.filter_cons_of_neg (Bool.eq_false_iff.mp hp), h a List.mem_cons_self hp,
        List.nil_append]

/-- What is read of an answer names the model that served. -/
theorem resolved_of_validate {L : Sidecar.Library} {c : CompletionResponse}
    {completion : Sidecar.ProxyCompletionResponse}
    (h : Sidecar.ProxyCompletionResponse.validate L c.json = .ok completion) :
    completion.resolved_model.1 = c.resolvedModel := by
  rw [CompletionResponse.json, Sidecar.ProxyCompletionResponse.validate, Machine.map_eq_ok] at h
  obtain ⟨⟨model, resolved_model, rest⟩, hboth, rfl⟩ := h
  have hresolved := (both_eq_ok.mp (both_eq_ok.mp hboth).2).1
  rw [Sidecar.aliased_eq_ok rfl, Sidecar.verbatim, Sidecar.leaf_eq_ok, Mcp.str] at hresolved
  split_ifs at hresolved
  exact (congrArg Subtype.val (Except.ok.inj hresolved)).symm

/-- **An estimate is charged once**, and once more for each answer that was lost on its way back:
whatever becomes of its posts. -/
theorem estimate_charged (E : Estimate) : E.Charged where
  posts := ⟨rfl, Sidecar.repeatsOf_lt E.settings E.sent⟩
  repeated n hn := by
    have hagain := again_of_lt_last hn
    cases hattempt : Sidecar.attempt (E.sent n) with
    | error e => exact ⟨e, rfl, by rwa [hattempt] at hagain⟩
    | ok response =>
      rw [hattempt] at hagain
      cases hagain
  calls n := by
    rcases E.callsOf_cases (E.exchange n) with hnil | ⟨call, hcall, hpriceable, -⟩
    · rw [hnil]
      exact ⟨Nat.zero_le 1, fun h => absurd rfl h⟩
    · rw [hcall]
      exact ⟨le_rfl, fun _ => hpriceable⟩
  priced n call hmem := by
    rcases E.callsOf_cases (E.exchange n) with hnil | ⟨call', hcall, -, hcharged⟩
    · rw [hnil] at hmem
      cases hmem
    · rw [hcall] at hmem
      obtain rfl := List.mem_singleton.mp hmem
      exact hcharged
  lost := by
    rw [List.range_succ, List.flatMap_append, List.flatMap_singleton]
    congr 1
    exact flatMap_filter _ _ _ fun n hn hlost => lines_of_lt_last (List.mem_range.mp hn) hlost
  returned r hr := by
    obtain ⟨response, hsent, hstatus, hsettle⟩ := Sidecar.estimate_eq_ok hr
    obtain ⟨-, ⟨v, completion, hv, hvalid, hmodel⟩, hid, htaxpayer⟩ := Sidecar.settle_eq_ok hsettle
    change E.sent E.last = .ok response at hsent
    have hgood : Sidecar.attempt (E.sent E.last) = .ok response := by
      rw [hsent]
      exact Sidecar.raiseForStatus_eq_ok.mpr ⟨hstatus, rfl⟩
    have hdelivered : ∃ instant latencyMs answer correlation,
        E.exchange E.last = .delivered instant latencyMs answer correlation := by
      cases hexchange : E.exchange E.last with
      | stopped got =>
        rw [sent, hexchange] at hgood
        exact absurd hgood (got.2 response)
      | lost instant latencyMs answer got =>
        rw [sent, hexchange] at hgood
        exact absurd hgood (got.2 response)
      | delivered instant latencyMs answer correlation =>
        exact ⟨instant, latencyMs, answer, correlation, rfl⟩
    obtain ⟨instant, latencyMs, answer, correlation, hexchange⟩ := hdelivered
    rcases delivered_cases hexchange with
      ⟨-, response', hsent', hcontent⟩ | ⟨line, hline, hcost, htenant, hfeature, header, hsent'⟩
    · obtain rfl := Except.ok.inj (hsent.symm.trans hsent')
      rw [hcontent] at hv
      cases hv
    · obtain rfl := Except.ok.inj (hsent.symm.trans hsent')
      obtain rfl := Option.some.inj hv
      refine ⟨line, hline, hcost, htenant, hfeature, ?_, hid, htaxpayer⟩
      rw [hmodel]
      exact (resolved_of_validate hvalid).symm

/-- What the model answers. -/
def docsText : String :=
  "\x7b\"label\":\"income\",\"confidence\":1,\"rationale\":\"One bracket applies to all of it.\","
    ++ "\"estimatedLiability\":\"950.00\"\x7d"

/-- The libraries, as far as they are asked here. -/
def docsLibrary : Sidecar.ClientLibrary where
  models := ⟨⟨fun _ => none, fun _ => none, fun s => if s = docsText then
      some (.obj [("label", .str "income"), ("confidence", .int 1),
        ("rationale", .str "One bracket applies to all of it."),
        ("estimatedLiability", .str "950.00")])
    else none⟩, fun _ => none, fun _ => ""⟩
  float
    | .int 1 => some (.finite 1)
    | _ => none
  dump taxpayer := "\x7b\"id\":\"" ++ taxpayer.id.1 ++ "\"\x7d"
  isoformat _ := "1970-01-01T00:00:00+00:00"
  repr s := "'" ++ s ++ "'"

/-- The model's answer, with its tokens. -/
def docsAnswer : ProviderAnswer :=
  .answered ⟨some 150, some 40⟩ (some "claude-haiku-4-5-20251001") (some docsText)

/-- An estimate whose first answer is lost. -/
def docsEstimate : Estimate where
  library := docsLibrary
  settings := ⟨"key", ⟨3, by decide⟩, ⟨"tenant-a", by decide⟩⟩
  request :=
    { correlation_id := ⟨"corr-7", by decide⟩
      taxpayer :=
        { id := ⟨"tp-1", by decide⟩
          tenant_id := ⟨⟨"tenant-a", by decide⟩, by decide⟩
          display_name := ⟨"Ada", by decide⟩
          filing_status := ⟨"SINGLE", by decide⟩
          home_jurisdiction := ⟨"federal", by decide⟩
          created_at := 0
          liabilities := []
          tags := []
          ordered := nofun }
      model_id := ⟨"claude-haiku-4-5", by decide⟩
      feature := ⟨"estimate", by decide⟩ }
  started_at := 0
  service := "taxcalc"
  jwt := ⟨some "sidecar", some "tenant-a", ["taxpayers.read"], ["TAXPAYER_READER"]⟩
  exchange
    | 0 => .lost 1 900 docsAnswer ⟨.error (.timeout "read timed out"), nofun⟩
    | _ => .delivered 2 900 docsAnswer (some "corr-7")

/-- What a post comes to that is answered. -/
def docsCompleted (instant : Java.Instant) : Completed :=
  completions "taxcalc" "tenant-a"
    ⟨"Estimate.", "claude-haiku-4-5", "estimate", by decide, by decide⟩ instant 900 docsAnswer

theorem prompt_notBlank (L : Sidecar.ClientLibrary) (taxpayer : Sidecar.Taxpayer) :
    ¬ Java.IsBlank (Sidecar.buildPrompt L taxpayer) :=
  Java.not_isBlank_append (Java.not_isBlank_append (Java.not_isBlank_append
    (Java.not_isBlank_append (Java.not_isBlank_append (by decide +kernel) _) _) _) _) _

/-- **A post is taken**, and comes to what another with its model and its feature would. -/
theorem handle_eq (E : Estimate) (hblank : ¬ Java.IsBlank E.request.feature.1)
    (request : CompletionRequest)
    (hmodel : request.model = Security.modelOf (some E.request.model_id.1))
    (hfeature : request.feature = E.request.feature.1) (instant : Java.Instant) (latencyMs : ℕ)
    (answer : ProviderAnswer) : E.handle instant latencyMs answer = some
      (completions E.service (Security.tenantOf E.jwt) request instant latencyMs answer) := by
  have hcreate := CompletionRequest.create_of_notBlank
    ⟨prompt_notBlank E.library E.request.taxpayer, hblank⟩ (some E.request.model_id.1)
  have hhandle : E.handle instant latencyMs answer
      = (CompletionRequest.create (some (Sidecar.buildPrompt E.library E.request.taxpayer))
        (some E.request.model_id.1) (some E.request.feature.1)).map fun request =>
          completions E.service (Security.tenantOf E.jwt) request instant latencyMs answer := rfl
  rw [hhandle, hcreate, Option.map_some]
  exact congrArg some (completions_congr _ _ hmodel.symm hfeature.symm instant latencyMs answer)

theorem handle_docsEstimate (instant : Java.Instant) :
    docsEstimate.handle instant 900 docsAnswer = some (docsCompleted instant) :=
  handle_eq docsEstimate (by decide) _ (by decide) rfl instant 900 docsAnswer

/-- What comes back of the posts. -/
theorem sent_docsEstimate : docsEstimate.sent = fun n => match n with
    | 0 => .error (.timeout "read timed out")
    | _ => .ok (respond (some "corr-7") (some (docsCompleted 2))) := by
  funext n
  cases n with
  | zero => rfl
  | succ n =>
    rw [← handle_docsEstimate]
    rfl

/-- Each post leaves a line. -/
theorem lines_docsEstimate (n : ℕ) :
    (docsEstimate.lines n).map CostLine.costUsdE5 = [35] := by
  have hcalls : ∀ instant, ((((docsEstimate.handle instant 900 docsAnswer).map Completed.calls).getD
      []).flatMap Security.Call.lines).map CostLine.costUsdE5 = [35] := by
    intro instant
    rw [handle_docsEstimate]
    rfl
  cases n with
  | zero => exact hcalls 1
  | succ n => exact hcalls 2

/-- Both posts are charged, and the second is returned. -/
theorem estimate_charged_docsEstimate : docsEstimate.Charged ∧ docsEstimate.last = 1
    ∧ (∃ r, docsEstimate.run.result = .ok r ∧ r.label.1 = "income")
    ∧ ∀ n, (docsEstimate.lines n).map CostLine.costUsdE5 = [35] := by
  have hlast : docsEstimate.last = 1 := by
    rw [last, sent_docsEstimate]
    decide +kernel
  have hresult : docsEstimate.run.result.toOption.map (·.label.1) = some "income" := by
    rw [run, sent_docsEstimate]
    decide +kernel
  obtain ⟨r, hr, hlabel⟩ := Option.map_eq_some_iff.mp hresult
  exact ⟨estimate_charged docsEstimate, hlast, ⟨r, Machine.toOption_eq_some_iff.mp hr, hlabel⟩,
    lines_docsEstimate⟩

end Estimate

end Llm
