import TaxLiability.Llm.CostMiddleware
import TaxLiability.Mcp.Chat
import TaxLiability.Mcp.Observability

/-!
# Mcp/Spend — what the lines of `llm.chat` say was spent

    X-Cost-Usd ──as_minor_units──▸ end line ──┐
    X-Cost-Usd ──as_minor_units──▸ end line ──┼─sum──▸ dashboard
    X-Cost-Usd ──as_minor_units──▸ end line ──┘

A price has five places and a minor unit two: each is cut before they are summed, so the sum falls
short of the prices by all that was cut together (`proxySpend_drift`).
-/

open Rounding Mcp.Sse Mcp.Numeric Mcp.Observability Mcp.Chat

namespace Mcp.Spend

/-! ## The price of a call -/

/-- **A header is read exactly**: `format` prints the cost with five places. -/
theorem parse_format {cost : ℕ} (h : cost < 2 ^ 63) :
    Decimal.parse (Llm.format cost).toList = some ⟨false, cost, -5⟩ :=
  @BigDecimal.parse_toPlainString cost 5 (by decide) (h.trans (by norm_num)) (by decide)

theorem decimalOf_format {cost : ℕ} (h : cost < 2 ^ 63) :
    decimalOf (.str (Llm.format cost)) = .ok (.finite (cost * 10 ^ (-5 : ℤ))) := by
  rw [decimalOf, decimalOfStr, parse_format h]
  simp [Decimal.value]

theorem cost_lt {cost : ℕ} (h : cost < 2 ^ 63) :
    |(cost : ℚ) * 10 ^ (-3 : ℤ)| < (10 : ℚ) ^ (25 : ℤ) := by
  have hcost : (cost : ℚ) < 9223372036854775808 := by exact_mod_cast h
  rw [abs_of_nonneg (mul_nonneg (Nat.cast_nonneg _) (zpow_pos (by norm_num) _).le)]
  norm_num
  linarith

/-- The context keeps every digit of such a cost. -/
theorem round_cost {cost : ℕ} (h : cost < 2 ^ 63) :
    context.round (cost * 10 ^ (-3 : ℤ)) = cost * 10 ^ (-3 : ℤ) := by
  rcases Nat.eq_zero_or_pos cost with rfl | hpos
  · simp
  · have hne : (cost : ℚ) * 10 ^ (-3 : ℤ) ≠ 0 :=
      mul_ne_zero (by exact_mod_cast hpos.ne') (zpow_pos (by norm_num) _).ne'
    have hexp : context.exponent (cost * 10 ^ (-3 : ℤ)) ≤ 25 - 28 :=
      Format.exponent_le (F := context) (e := 25) hne (cost_lt h) (by decide)
    exact Format.round_multiple (F := context) (m := cost) (e := -3) rfl hexp

theorem pow_le_overflow : (10 : ℚ) ^ (25 : ℤ) ≤ overflow := by
  have hle : ∀ e : ℤ, 25 ≤ e → (10 : ℚ) ^ (25 : ℤ) ≤ 10 ^ e := fun e he =>
    zpow_le_zpow_right₀ (by norm_num) he
  exact hle 1000000 (by decide)

/-- A thousand of its last places are a minor unit. -/
theorem trunc_cost (cost : ℕ) : trunc ((cost : ℚ) * 10 ^ (-3 : ℤ)) = (cost / 1000 : ℕ) := by
  have hdiv : (cost : ℚ) * 10 ^ (-3 : ℤ) = (cost : ℚ) / (1000 : ℕ) := by
    norm_num
    ring
  rw [hdiv, trunc, if_pos (by positivity), Rat.floor_natCast_div_natCast]
  rfl

/-- **A price is cut to whole minor units.** -/
theorem asMinorUnits_format {cost : ℕ} (h : cost < 2 ^ 63) :
    asMinorUnits (.str (Llm.format cost)) = .ok (cost / 1000 : ℕ) := by
  have hunits : (cost : ℚ) * 10 ^ (-5 : ℤ) * MINOR_UNITS_PER_MAJOR = cost * 10 ^ (-3 : ℤ) := by
    norm_num [MINOR_UNITS_PER_MAJOR]
    ring
  have hsmall : |(cost : ℚ) * 10 ^ (-3 : ℤ)| < overflow :=
    (cost_lt h).trans_le pow_le_overflow
  have htruthy : truthy (.str (Llm.format cost)) = true := by
    have hne : Llm.format cost ≠ "" := fun he => by
      have hread := decimalOf_format h
      rw [he] at hread
      cases decimalOf_empty.symm.trans hread
    simpa [truthy] using hne
  rw [asMinorUnits, if_pos htruthy, decimalOf_format h]
  simp only [Except.bind, Dec.minorUnits, hunits, round_cost h, if_pos hsmall, Dec.toInt,
    trunc_cost, orZero]

/-! ## The calls of `llm.chat` -/

/-- A reply, dumped. -/
def dump (r : ChatReply) : Json :=
  .obj [("text", .str r.text), ("model", .str r.model), ("input_tokens", .int r.input_tokens),
    ("output_tokens", .int r.output_tokens)]

/-- **How `_chat` ends** once the cost is in the span. -/
def chatExit (quote : String → String) (path : String) (r : Response) : Except Raised Json :=
  if r.status ≠ 200 then .error (Raised.ofFailure (mapHttp r.status r.text))
  else match r.json with
    | none => .error (.exception "JSONDecodeError" "")
    | some body =>
      let fields := match body with
        | .obj fields => fields
        | _ => []
      match Chat.parseReply quote fields path with
      | .error _ => .error (.exception "TypeError" "")
      | .ok reply => .ok (dump reply)

/-- **The body of `_chat`** from the answer on: what it writes in its span, and how it ends. -/
def chatBody (quote : String → String) (path : String) (turns max_tokens : ℤ)
    (costUsd : Option String) (r : Response) : Body Unit Json := fun span =>
  let asked : Extra Unit := [("turns", .int turns),
    ("wire_shape", .str (if isChatShape path then "chat" else "completions")),
    ("max_tokens", .int max_tokens), ("http_status", .int r.status)]
  match asMinorUnits (costUsd.elim .null .str) with
  | .error _ => sets asked (.error (.exception "TypeError" "")) span
  | .ok units =>
    sets (asked ++ [("cost_usd_minor", .int units), ("cost_source", .str COST_SOURCE_PROXY)])
      (chatExit quote path r) span

/-- **A priced call** for the bearer's own tenant: what was asked, and what the proxy answered at
which price. -/
structure PricedCall where
  tenant_id : String
  claimed : String
  own : crossTenantClaim claimed tenant_id = ""
  turns : ℤ
  max_tokens : ℤ
  response : Response
  costUsdE5 : ℕ
  long : costUsdE5 < 2 ^ 63
  duration_ms : ℤ

/-- `X-Cost-Usd`. -/
def PricedCall.header (c : PricedCall) : String := Llm.format c.costUsdE5

/-- **The lines of a call.** -/
def PricedCall.lines (quote : String → String) (path : String) (c : PricedCall) :
    List (Line Unit) :=
  (Observability.observe structlog "llm.chat" c.tenant_id c.claimed c.duration_ms
    (chatBody quote path c.turns c.max_tokens (some c.header) c.response)).1

/-- What a line adds to the spend total. -/
def spend (line : Line Unit) : ℤ :=
  match Dict.get? line.fields "cost_usd_minor", Dict.get? line.fields "cost_source" with
  | some (.int units), some (.str source) => if source = COST_SOURCE_PROXY then units else 0
  | _, _ => 0

/-- **The dashboard's total**: the sum over the lines priced by the proxy. -/
def proxySpend (lines : List (Line Unit)) : ℤ := (lines.map spend).sum

/-- **The exact total** of the headers. -/
def exactSpend (calls : List PricedCall) : ℚ :=
  (calls.map fun c => ((Decimal.parse c.header.toList).map Decimal.value).getD 0).sum

/-- What ends `_chat` is an `Exception`, if it is not a return. -/
theorem chatExit_ne_baseException (quote : String → String) (path : String) (r : Response)
    (typeName message : String) :
    chatExit quote path r ≠ .error (.baseException typeName message) := by
  unfold chatExit
  split_ifs
  · simp [mapHttp, Raised.ofFailure]
  · split
    · simp
    · dsimp only
      split <;> simp

/-- What a call writes in its span. -/
def PricedCall.writes (path : String) (c : PricedCall) : Extra Unit :=
  [("turns", .int c.turns),
    ("wire_shape", .str (if isChatShape path then "chat" else "completions")),
    ("max_tokens", .int c.max_tokens), ("http_status", .int c.response.status),
    ("cost_usd_minor", .int (c.costUsdE5 / 1000 : ℕ)), ("cost_source", .str COST_SOURCE_PROXY)]

/-- The body of a priced call. -/
theorem chatBody_header (quote : String → String) (path : String) (c : PricedCall) :
    chatBody quote path c.turns c.max_tokens (some c.header) c.response
      = sets (c.writes path) (chatExit quote path c.response) := by
  funext span
  simp only [chatBody, Option.elim_some, PricedCall.header, asMinorUnits_format c.long]
  rfl

/-- **A priced call writes two lines**, the second with its price in whole minor units. -/
theorem exists_lines (quote : String → String) (path : String) (c : PricedCall) :
    ∃ start line, c.lines quote path = [start, line]
      ∧ spend start = 0 ∧ spend line = (c.costUsdE5 / 1000 : ℕ) := by
  have hload : Loggable structlog "llm.chat" c.tenant_id c.duration_ms
      (sets (c.writes path) (chatExit quote path c.response) seed) :=
    loggable_of_sets structlog (by decide) (by simp [PricedCall.writes, spanNames]) _ _ _
      (chatExit_ne_baseException quote path c.response)
  obtain ⟨keywords, hk⟩ := hload.exists_keywords
  have htried : tried c.claimed c.tenant_id
      (sets (c.writes path) (chatExit quote path c.response))
        = sets (c.writes path) (chatExit quote path c.response) seed :=
    if_neg (not_not.mpr c.own)
  have hlines : Observability.observe structlog "llm.chat" c.tenant_id c.claimed c.duration_ms
      (sets (c.writes path) (chatExit quote path c.response)) = _ :=
    observe_of_endKeywords (by rw [htried]; exact hk)
      (by rw [htried]; exact hload.clear keywords hk)
  simp only [PricedCall.lines, chatBody_header, hlines, htried]
  refine ⟨_, _, rfl, ?_, ?_⟩
  · simp [spend, Dict.get?_cons]
  · obtain ⟨hcost, hsource⟩ := get?_append_endKeywords (sets (c.writes path)
      (chatExit quote path c.response) seed).1 hk
    rw [spend, hcost, hsource]
    simp [sets, Dict.get?_merge, PricedCall.writes, Dict.get?_cons]

/-- A call adds its whole minor units. -/
theorem proxySpend_flatMap (quote : String → String) (path : String) (calls : List PricedCall) :
    proxySpend (calls.flatMap (PricedCall.lines quote path))
      = (calls.map fun c => ((c.costUsdE5 / 1000 : ℕ) : ℤ)).sum := by
  induction calls with
  | nil => rfl
  | cons c calls ih =>
    obtain ⟨start, line, hlines, hstart, hline⟩ := exists_lines quote path c
    rw [proxySpend] at ih ⊢
    rw [List.flatMap_cons, List.map_append, List.sum_append, ih, hlines]
    simp [hstart, hline]

/-- The value of a header. -/
theorem value_header (c : PricedCall) :
    ((Decimal.parse c.header.toList).map Decimal.value).getD 0
      = (c.costUsdE5 : ℚ) * 10 ^ (-5 : ℤ) := by
  rw [PricedCall.header, parse_format c.long]
  simp [Decimal.value]

/-- **What is cut off all the calls together**, in thousandths of a minor unit. -/
def cutOff (calls : List PricedCall) : ℕ := (calls.map fun c => c.costUsdE5 % 1000).sum

/-- What a call falls short by. -/
theorem value_header_sub (c : PricedCall) :
    100 * ((Decimal.parse c.header.toList).map Decimal.value).getD 0 - (c.costUsdE5 / 1000 : ℕ)
      = ((c.costUsdE5 % 1000 : ℕ) : ℚ) / 1000 := by
  have hdiv : ((c.costUsdE5 / 1000 : ℕ) : ℚ) * 1000 + (c.costUsdE5 % 1000 : ℕ) = c.costUsdE5 := by
    exact_mod_cast Nat.div_add_mod' c.costUsdE5 1000
  rw [value_header, ← hdiv]
  norm_num
  ring

/-- **The sum falls short by what was cut.** -/
theorem exactSpend_sub_proxySpend (quote : String → String) (path : String)
    (calls : List PricedCall) :
    100 * exactSpend calls - proxySpend (calls.flatMap (PricedCall.lines quote path))
      = (cutOff calls : ℚ) / 1000 := by
  rw [proxySpend_flatMap]
  unfold exactSpend cutOff
  induction calls with
  | nil => simp
  | cons c calls ih =>
    have hc := value_header_sub c
    simp only [List.map_cons, List.sum_cons, Int.cast_add, Int.cast_natCast, Nat.cast_add]
    rw [add_div, ← ih, ← hc]
    ring

/-- **The sum of the logged minor units falls short of the prices** by what was cut off them, and
is less than a minor unit away exactly if that is less than one. -/
theorem proxySpend_drift (quote : String → String) (path : String) (calls : List PricedCall) :
    100 * exactSpend calls - proxySpend (calls.flatMap (PricedCall.lines quote path))
        = (cutOff calls : ℚ) / 1000
      ∧ (|(proxySpend (calls.flatMap (PricedCall.lines quote path)) : ℚ) - 100 * exactSpend calls|
          < 1 ↔ cutOff calls < 1000) := by
  have h := exactSpend_sub_proxySpend quote path calls
  refine ⟨h, ?_⟩
  have hcast : (cutOff calls : ℚ) / 1000 < 1 ↔ cutOff calls < 1000 := by
    rw [div_lt_one (by norm_num)]
    exact_mod_cast Iff.rfl
  rw [abs_sub_comm, h, abs_of_nonneg (by positivity), hcast]

/-- A call for a hair less than a cent. -/
def almostACent : PricedCall :=
  ⟨"tenant-a", "", rfl, 1, 256, ⟨200, "", none⟩, 999, by decide, 40⟩

/-- **Two calls for almost a cent each** are logged as nothing. -/
theorem two_calls_drift :
    ¬ |(proxySpend ([almostACent, almostACent].flatMap (PricedCall.lines id "/v1/completions")) : ℚ)
      - 100 * exactSpend [almostACent, almostACent]| < 1 := by
  rw [abs_sub_comm, exactSpend_sub_proxySpend]
  norm_num [cutOff, almostACent]

end Mcp.Spend
