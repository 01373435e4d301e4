import Mathlib.Tactic.Ring
import TaxLiability.Machinery.Decimal
import TaxLiability.Machinery.Java

/-!
# Llm/CostMiddleware — what a call of the model costs, and where that is written

    complete ──▸ UpstreamResponse ──costUsdE5──▸ cost line ──▸ X-Cost-Usd
        └─ throws       └─ no price, negative counts, beyond a long ─ throws: no line

A cost is a whole number of `1e-5` USD.  Every answer of a priced model whose token counts are
`int`s is priced, and has one line (`attributed_observe_iff`).
-/

namespace Llm

/-- What a call throws. -/
inductive Thrown
  | illegalArgument (message : String)
  | illegalState (message : String)
  /-- no price for the model -/
  | unpriced (modelId : String)
  | arithmetic
  /-- the provider's own exception -/
  | provider
  deriving DecidableEq, Repr

/-! ## Prices -/

/-- **The rates of a model**, in USD for a thousand tokens. -/
structure Rates where
  inputPer1K : BigDecimal
  outputPer1K : BigDecimal
  deriving DecidableEq, Repr

/-- **The price book.** -/
def RATES : List (String × Rates) :=
  [("claude-haiku-4-5", ⟨⟨1, 3⟩, ⟨5, 3⟩⟩), ("claude-sonnet-5", ⟨⟨2, 3⟩, ⟨10, 3⟩⟩)]

def ratesFor (modelId : String) : Except Thrown Rates :=
  match RATES.lookup modelId with
  | some rates => .ok rates
  | none => .error (.unpriced modelId)

/-- **A model with a price.** -/
def Priceable (modelId : String) : Prop := modelId ∈ RATES.map Prod.fst

instance (modelId : String) : Decidable (Priceable modelId) :=
  inferInstanceAs (Decidable (_ ∈ _))

/-! ## A call -/

/-- **A completed call**, with the tokens it billed. -/
structure UpstreamResponse where
  modelId : String
  resolvedModelId : String
  inputTokens : ℕ
  outputTokens : ℕ
  latencyMs : ℕ
  success : Bool
  text : Option String
  deriving DecidableEq, Repr

/-- `requireNonNegative`. -/
def requireNonNegative (value : ℤ) (field : String) : Except Thrown ℕ :=
  if value < 0 then
    .error (.illegalArgument (field ++ " must not be negative, was " ++ toString value))
  else .ok value.toNat

/-- `requireText`. -/
def requireText (value field : String) : Except Thrown Unit :=
  if Java.IsBlank value then .error (.illegalArgument (field ++ " must not be blank")) else .ok ()

/-- **The constructor of `UpstreamResponse`.** -/
def UpstreamResponse.create (modelId : String) (resolvedModelId : Option String)
    (inputTokens outputTokens latencyMs : ℤ) (success : Bool) (text : Option String) :
    Except Thrown UpstreamResponse := do
  requireText modelId "modelId"
  let resolved := match resolvedModelId with
    | some resolved => if Java.IsBlank resolved then modelId else resolved
    | none => modelId
  let input ← requireNonNegative inputTokens "inputTokens"
  let output ← requireNonNegative outputTokens "outputTokens"
  let latency ← requireNonNegative latencyMs "latencyMs"
  pure ⟨modelId, resolved, input, output, latency, success, text⟩

/-- **What a call is charged to**: no part of it is blank. -/
structure CallContext where
  instant : Java.Instant
  service : String
  tenant : String
  feature : String
  service_notBlank : ¬ Java.IsBlank service
  tenant_notBlank : ¬ Java.IsBlank tenant
  feature_notBlank : ¬ Java.IsBlank feature

/-- **The constructor of `CallContext`.** -/
def CallContext.create (instant : Java.Instant) (service tenant feature : String) :
    Except Thrown CallContext :=
  if h₁ : Java.IsBlank service then .error (.illegalArgument "service must not be blank")
  else if h₂ : Java.IsBlank tenant then .error (.illegalArgument "tenant must not be blank")
  else if h₃ : Java.IsBlank feature then .error (.illegalArgument "feature must not be blank")
  else .ok ⟨instant, service, tenant, feature, h₁, h₂, h₃⟩

/-! ## The provider -/

/-- The tokens a provider reports, as far as it does. -/
structure Usage where
  promptTokens : Option Int32
  completionTokens : Option Int32
  deriving DecidableEq

/-- **What the provider does.** -/
inductive ProviderAnswer
  /-- it throws, and bills nothing -/
  | failed
  /-- it answers without what a `ChatResponse` is read for -/
  | unreadable
  | answered (usage : Usage) (model : Option String) (text : Option String)
  deriving DecidableEq

/-- The provider has answered, and bills it. -/
def ProviderAnswer.Billed : ProviderAnswer → Prop
  | .failed => False
  | .unreadable | .answered _ _ _ => True

instance : DecidablePred ProviderAnswer.Billed
  | .failed => isFalse id
  | .unreadable | .answered _ _ _ => isTrue trivial

/-- `safeLong`. -/
def safeLong (n : Option Int32) : ℤ := n.elim 0 Int32.toInt

/-- **An answer that can be charged**: its counts are none or not negative. -/
def ProviderAnswer.Chargeable : ProviderAnswer → Prop
  | .failed | .unreadable => False
  | .answered usage _ _ =>
    0 ≤ safeLong usage.promptTokens ∧ 0 ≤ safeLong usage.completionTokens

instance : DecidablePred ProviderAnswer.Chargeable
  | .failed | .unreadable => isFalse id
  | .answered _ _ _ => inferInstanceAs (Decidable (_ ∧ _))

/-- **`AnthropicChatUpstream.complete`.** -/
def complete (prompt modelId : String) (latencyMs : ℕ) (answer : ProviderAnswer) :
    Except Thrown UpstreamResponse := do
  requireText prompt "prompt"
  requireText modelId "modelId"
  match answer with
  | .failed => throw .provider
  | .unreadable => throw (.illegalState "Anthropic call returned a null ChatResponse")
  | .answered usage model text =>
    UpstreamResponse.create modelId model (safeLong usage.promptTokens)
      (safeLong usage.completionTokens) latencyMs true text

/-! ## The cost -/

def COST_SCALE : ℤ := 5

def WORKING_SCALE : ℤ := 8

/-- **`costUsdE5`.** -/
def costUsdE5 (resp : UpstreamResponse) : Except Thrown ℤ := do
  let rates ← ratesFor resp.modelId
  let inputCost := rates.inputPer1K.multiply ⟨resp.inputTokens, 0⟩
  let outputCost := rates.outputPer1K.multiply ⟨resp.outputTokens, 0⟩
  let costUsd := (inputCost.add outputCost).divide ⟨1000, 0⟩ WORKING_SCALE
  match ((costUsd.setScale COST_SCALE).movePointRight 5).longValueExact with
  | some cost => pure cost
  | none => throw .arithmetic

/-- **A cost line**: what is rendered for the log. -/
structure CostLine where
  ctx : CallContext
  resp : UpstreamResponse
  costUsdE5 : ℤ

/-- `CostResponseHeader.format`. -/
def format (costUsdE5 : ℤ) : String := (BigDecimal.mk costUsdE5 COST_SCALE).toPlainString

/-- What a call leaves behind: the lines it emitted, its `X-Cost-Usd`, and what it returns. -/
structure Observed where
  lines : List CostLine
  header : Option String
  result : Except Thrown UpstreamResponse

/-- **`observe`.** -/
def observe (ctx : CallContext) (upstream : Except Thrown UpstreamResponse) : Observed :=
  match upstream with
  | .error thrown => ⟨[], none, .error thrown⟩
  | .ok resp =>
    match Llm.costUsdE5 resp with
    | .error thrown => ⟨[], none, .error thrown⟩
    | .ok cost =>
      if cost < 0 then
        ⟨[], none, .error (.illegalArgument
          ("costUsdE5 must not be negative, was " ++ toString cost))⟩
      else ⟨[⟨ctx, resp, cost⟩], some (format cost), .ok resp⟩

/-- **Charged once**: one line, with the price of its tokens. -/
def Attributed (lines : List CostLine) : Prop :=
  ∃ line, lines = [line] ∧ Llm.costUsdE5 line.resp = .ok line.costUsdE5

/-! ## The price in whole numbers -/

/-- Three places divided by a thousand are exact to eight… -/
theorem divide_thousand (n : ℕ) :
    (BigDecimal.mk n 3).divide ⟨1000, 0⟩ WORKING_SCALE = ⟨(100 * n : ℕ), 8⟩ := by
  have hdivide : (BigDecimal.mk n 3).divide ⟨1000, 0⟩ WORKING_SCALE
      = ⟨BigDecimal.divHalfUp (n * 1 * 10 ^ 5) 1000, 8⟩ := rfl
  have hcast : (n * 1 * 10 ^ 5 : ℤ) = (n * 100000 : ℕ) := by
    push_cast
    ring
  have hexact : (2 * (n * 100000) + 1000) / (2 * 1000) = 100 * n := by omega
  rw [hdivide, hcast, BigDecimal.divHalfUp_natCast (by decide), hexact]

/-- …and then rounded to five. -/
theorem setScale_cost (n : ℕ) :
    (BigDecimal.mk (100 * n : ℕ) 8).setScale COST_SCALE = ⟨((n + 5) / 10 : ℕ), 5⟩ := by
  have hscale : (BigDecimal.mk (100 * n : ℕ) 8).setScale COST_SCALE
      = ⟨BigDecimal.divHalfUp (100 * n : ℕ) 1000, 5⟩ := rfl
  have hrounded : (2 * (100 * n) + 1000) / (2 * 1000) = (n + 5) / 10 := by omega
  rw [hscale, BigDecimal.divHalfUp_natCast (by decide), hrounded]

theorem longValueExact_movePointRight (n : ℕ) :
    ((BigDecimal.mk n 5).movePointRight 5).longValueExact
      = if n < 2 ^ 63 then some (n : ℤ) else none := by
  have hmoved : (BigDecimal.mk n 5).movePointRight 5 = ⟨n, 0⟩ := rfl
  have hwhole : (BigDecimal.mk n 0).setScale 0 = ⟨n, 0⟩ := BigDecimal.setScale_self _
  have hexact : (BigDecimal.mk n 0).longValueExact
      = if -2 ^ 63 ≤ (n : ℤ) ∧ (n : ℤ) < 2 ^ 63 then some (n : ℤ) else none := by
    rw [BigDecimal.longValueExact, hwhole]
    exact if_pos (.inl (le_refl _))
  have hrange : (-2 ^ 63 ≤ (n : ℤ) ∧ (n : ℤ) < 2 ^ 63) ↔ n < 2 ^ 63 := by omega
  rw [hmoved, hexact]
  exact if_congr hrange rfl rfl

/-- A call of a model with rates costs what they say. -/
theorem costUsdE5_of_rates {resp : UpstreamResponse} {rates : Rates}
    (h : ratesFor resp.modelId = .ok rates) :
    costUsdE5 resp = match ((((rates.inputPer1K.multiply ⟨resp.inputTokens, 0⟩).add
        (rates.outputPer1K.multiply ⟨resp.outputTokens, 0⟩)).divide ⟨1000, 0⟩
          WORKING_SCALE).setScale COST_SCALE |>.movePointRight 5).longValueExact with
      | some cost => .ok cost
      | none => .error .arithmetic := by
  rw [costUsdE5, h]
  rfl

/-- **A cost is rounded once**: rates have three places, so the first rounding is exact. -/
theorem costUsdE5_eq {resp : UpstreamResponse} {a b : ℕ}
    (h : ratesFor resp.modelId = .ok ⟨⟨a, 3⟩, ⟨b, 3⟩⟩) :
    costUsdE5 resp = if (a * resp.inputTokens + b * resp.outputTokens + 5) / 10 < 2 ^ 63
      then .ok ((a * resp.inputTokens + b * resp.outputTokens + 5) / 10 : ℕ)
      else .error .arithmetic := by
  have hsum : (BigDecimal.multiply ⟨a, 3⟩ ⟨resp.inputTokens, 0⟩).add
      (BigDecimal.multiply ⟨b, 3⟩ ⟨resp.outputTokens, 0⟩)
      = ⟨(a * resp.inputTokens + b * resp.outputTokens : ℕ), 3⟩ := by
    simp [BigDecimal.multiply, BigDecimal.add]
  rw [costUsdE5_of_rates h]
  simp only [hsum, divide_thousand, setScale_cost, longValueExact_movePointRight]
  split_ifs <;> rfl

theorem ratesFor_of_priceable {modelId : String} (h : Priceable modelId) :
    ∃ a b : ℕ, ratesFor modelId = .ok ⟨⟨a, 3⟩, ⟨b, 3⟩⟩ ∧ a ≤ 10 ∧ b ≤ 10 := by
  have hmodels : modelId = "claude-haiku-4-5" ∨ modelId = "claude-sonnet-5" := by
    simpa [Priceable, RATES] using h
  obtain rfl | rfl := hmodels
  · exact ⟨1, 5, by decide, by decide, by decide⟩
  · exact ⟨2, 10, by decide, by decide, by decide⟩

/-! ## One rounding -/

theorem priceable_of_ratesFor {modelId : String} {rates : Rates}
    (h : ratesFor modelId = .ok rates) : Priceable modelId := by
  unfold ratesFor at h
  cases hlookup : RATES.lookup modelId with
  | none => rw [hlookup] at h; cases h
  | some rates =>
    obtain ⟨before, after, hRATES, -⟩ := List.lookup_eq_some_iff.mp hlookup
    have hmem : (modelId, rates) ∈ RATES := by simp [hRATES]
    exact List.mem_map_of_mem hmem

/-- **What a call costs exactly**, in units of `1e-5` USD. -/
def exactCostE5 (rates : Rates) (resp : UpstreamResponse) : ℚ :=
  (resp.inputTokens * rates.inputPer1K.value + resp.outputTokens * rates.outputPer1K.value)
    / 1000 * 10 ^ 5

/-- **A price as it is written**: digits, a point, and five digits. -/
def Plain (text : List Char) : Prop :=
  ∃ whole fraction, text = whole ++ '.' :: fraction ∧ whole ≠ []
    ∧ whole.all Char.isDigit ∧ fraction.length = 5 ∧ fraction.all Char.isDigit

theorem plain_format (cost : ℕ) : Plain (format cost).toList := by
  have htext := @BigDecimal.toList_toPlainString 5 cost (by decide)
  have hlength := @BigDecimal.length_fractionDigits 5 cost (by decide)
  have hne : BigDecimal.fractionDigits cost 5 ≠ [] := fun h => by
    rw [h] at hlength
    cases hlength
  rw [Decimal.point, if_neg hne] at htext
  exact ⟨_, _, htext, Nat.toDigits_ne_nil, Numeral.all_isDigit_toDigits _, hlength,
    BigDecimal.all_isDigit_fractionDigits cost 5⟩

/-- **A price reads back**, as the same number of units. -/
theorem ofString_format (cost : ℕ) :
    BigDecimal.ofString (format cost).toList = some ⟨cost, COST_SCALE⟩ := by
  have hread := @BigDecimal.read_toPlainString cost 5 (by decide)
  have hformat : (format cost).toList = (BigDecimal.mk cost (5 : ℕ)).toPlainString.toList := rfl
  rw [hformat, BigDecimal.ofString, hread]
  simp [COST_SCALE]

/-- **A call is priced exactly**, rounded once and half up, unless that is beyond a `long`; and a
price is written with five places and no exponent, and reads back. -/
theorem costUsdE5_exact (resp : UpstreamResponse) (rates : Rates)
    (h : ratesFor resp.modelId = .ok rates) :
    (costUsdE5 resp = if BigDecimal.halfUp (exactCostE5 rates resp) < 2 ^ 63
      then .ok (BigDecimal.halfUp (exactCostE5 rates resp)) else .error .arithmetic)
    ∧ ∀ cost : ℕ, Plain (format cost).toList
      ∧ BigDecimal.ofString (format cost).toList = some ⟨cost, COST_SCALE⟩ := by
  refine ⟨?_, fun cost => ⟨plain_format cost, ofString_format cost⟩⟩
  obtain ⟨a, b, hrates, -, -⟩ := ratesFor_of_priceable (priceable_of_ratesFor h)
  obtain rfl : rates = ⟨⟨a, 3⟩, ⟨b, 3⟩⟩ := Except.ok.inj (h.symm.trans hrates)
  have hexact : exactCostE5 ⟨⟨a, 3⟩, ⟨b, 3⟩⟩ resp
      = ((a * resp.inputTokens + b * resp.outputTokens : ℕ) : ℚ) / (10 : ℕ) := by
    simp only [exactCostE5, BigDecimal.value]
    push_cast
    norm_num
    ring
  have hround : (2 * (a * resp.inputTokens + b * resp.outputTokens) + 10) / (2 * 10)
      = (a * resp.inputTokens + b * resp.outputTokens + 5) / 10 := by omega
  rw [hexact, BigDecimal.halfUp_div _ (by decide), hround, costUsdE5_eq hrates]
  exact if_congr (by exact_mod_cast Iff.rfl) rfl rfl

/-- A call of four tokens, two of them written. -/
def helloResponse : UpstreamResponse :=
  ⟨"claude-haiku-4-5", "claude-haiku-4-5", 2, 2, 100, true, some "Hello."⟩

/-- It costs twelve millionths of a dollar, and is charged one unit. -/
theorem costUsdE5_helloResponse : costUsdE5 helloResponse = .ok 1 ∧ format 1 = "0.00001" := by
  have h := (costUsdE5_exact helloResponse ⟨⟨1, 3⟩, ⟨5, 3⟩⟩ rfl).1
  have hexact : exactCostE5 ⟨⟨1, 3⟩, ⟨5, 3⟩⟩ helloResponse = ((12 : ℕ) : ℚ) / (10 : ℕ) := by
    norm_num [exactCostE5, BigDecimal.value, helloResponse]
  rw [hexact, BigDecimal.halfUp_div _ (by decide)] at h
  exact ⟨h, by decide⟩

/-! ## One line for an answer -/

theorem requireText_eq {value : String} (h : ¬ Java.IsBlank value) (field : String) :
    requireText value field = .ok () := if_neg h

theorem requireNonNegative_eq {value : ℤ} (h : 0 ≤ value) (field : String) :
    requireNonNegative value field = .ok value.toNat := if_neg (not_lt.mpr h)

theorem Priceable.notBlank {modelId : String} (h : Priceable modelId) :
    ¬ Java.IsBlank modelId := by
  have hmodels : modelId = "claude-haiku-4-5" ∨ modelId = "claude-sonnet-5" := by
    simpa [Priceable, RATES] using h
  obtain rfl | rfl := hmodels <;> decide

section Complete

variable {prompt modelId : String} (hprompt : ¬ Java.IsBlank prompt) (hmodel : Priceable modelId)
  (latencyMs : ℕ)

include hprompt hmodel

/-- An answer that can be charged is a completed call. -/
theorem complete_of_chargeable {usage : Usage} {model text : Option String}
    (h : (ProviderAnswer.answered usage model text).Chargeable) :
    ∃ resp, complete prompt modelId latencyMs (.answered usage model text) = .ok resp
      ∧ resp.modelId = modelId ∧ resp.inputTokens = (safeLong usage.promptTokens).toNat
      ∧ resp.outputTokens = (safeLong usage.completionTokens).toNat := by
  simp only [complete, UpstreamResponse.create, requireText_eq hprompt,
    requireText_eq hmodel.notBlank, requireNonNegative_eq h.1, requireNonNegative_eq h.2,
    requireNonNegative_eq (Int.natCast_nonneg latencyMs), bind, Except.bind]
  exact ⟨_, rfl, rfl, rfl, rfl⟩

/-- Any other throws. -/
theorem complete_of_not_chargeable {answer : ProviderAnswer} (h : ¬ answer.Chargeable) :
    ∃ thrown, complete prompt modelId latencyMs answer = .error thrown := by
  simp only [complete, requireText_eq hprompt, requireText_eq hmodel.notBlank, bind, Except.bind]
  cases answer with
  | failed => exact ⟨_, rfl⟩
  | unreadable => exact ⟨_, rfl⟩
  | answered usage model text =>
    simp only [UpstreamResponse.create, requireText_eq hmodel.notBlank, bind, Except.bind]
    by_cases hinput : 0 ≤ safeLong usage.promptTokens
    · have houtput : safeLong usage.completionTokens < 0 := not_le.mp fun hn => h ⟨hinput, hn⟩
      rw [requireNonNegative_eq hinput, requireNonNegative, if_pos houtput]
      exact ⟨_, rfl⟩
    · rw [requireNonNegative, if_pos (not_le.mp hinput)]
      exact ⟨_, rfl⟩

/-- **A call is charged once** exactly if its answer can be. -/
theorem attributed_observe_iff (ctx : CallContext) (answer : ProviderAnswer) :
    Attributed (observe ctx (complete prompt modelId latencyMs answer)).lines
      ↔ answer.Chargeable := by
  by_cases h : answer.Chargeable
  · refine iff_of_true ?_ h
    obtain _ | _ | ⟨usage, model, text⟩ := answer
    · exact h.elim
    · exact h.elim
    · obtain ⟨resp, hresp, hid, hinput, houtput⟩ :=
        complete_of_chargeable hprompt hmodel latencyMs h
      obtain ⟨a, b, hrates, ha, hb⟩ := ratesFor_of_priceable (hid.symm ▸ hmodel)
      have hcost := costUsdE5_eq hrates
      have hint : ∀ n : Option Int32, (safeLong n).toNat < 2 ^ 31 := by
        rintro (_ | n)
        · decide
        · have := n.toInt_lt
          simp only [safeLong, Option.elim]
          omega
      have hsmall : (a * resp.inputTokens + b * resp.outputTokens + 5) / 10 < 2 ^ 63 := by
        have hin := Nat.mul_le_mul ha (hint usage.promptTokens).le
        have hout := Nat.mul_le_mul hb (hint usage.completionTokens).le
        rw [← hinput] at hin
        rw [← houtput] at hout
        omega
      rw [if_pos hsmall] at hcost
      refine ⟨⟨ctx, resp, _⟩, ?_, hcost⟩
      rw [hresp, observe, hcost]
      exact congrArg Observed.lines (if_neg (not_lt.mpr (Int.natCast_nonneg _)))
  · refine iff_of_false ?_ h
    obtain ⟨thrown, hthrown⟩ := complete_of_not_chargeable hprompt hmodel latencyMs h
    rw [hthrown]
    rintro ⟨line, ⟨⟩, -⟩

end Complete

end Llm
