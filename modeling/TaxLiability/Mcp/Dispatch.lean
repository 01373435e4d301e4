import TaxLiability.Mcp.Amounts

/-!
# Mcp/Dispatch — the error codes a client sees

    validate ──ValidationError──┐
    request ──▸ status ──_map_http──▸ code     ├──▸ INVALID_PARAMS
    response ──model_validate──ValidationError─┘

The dispatch tells exceptions apart by their type, and an answer that is no view raises the type
that rejected arguments do.  `truthful_iff` says which calls are told the truth.
-/

open Validation Machine Mcp.Sse

namespace Mcp

/-! ## The truth -/

/-- The arguments pass both models. -/
def ArgumentsValid (P : Pydantic) (tool : Tool) (arguments : Json.Fields) : Prop :=
  ∃ args, tool.validate P arguments = .ok args

/-- The call's request is sent. -/
def Sent (P : Pydantic) (C : Context) (tool : Tool) (arguments : Json.Fields) (answer : Answer) :
    Prop :=
  (∃ p, tool.call P C arguments = .ok p) ∧ answer ≠ .refused

/-- **The error codes of a call tell the truth.** -/
structure Truthful (P : Pydantic) (B : Builtins) (C : Context)
    (str : List (String × Flaw) → String) (tool : Tool) (arguments : Json.Fields)
    (answer : Answer) : Prop where
  /-- the arguments are blamed exactly when they are invalid… -/
  blamed : (∃ message, callTool str (tool.run P B C arguments answer)
      = .error INVALID_PARAMS message) ↔ ¬ ArgumentsValid P tool arguments
  /-- …and then nothing was sent -/
  unsent : ¬ ArgumentsValid P tool arguments → ¬ Sent P C tool arguments answer
  /-- a status is reported by its code -/
  status : ∀ p q, tool.call P C arguments = .ok (p, .http q) → ∀ r, answer = .response r →
    r.status ≠ 200 → ∃ message, callTool str (tool.run P B C arguments answer)
      = .error ((Dict.get? STATUS_TO_CODE r.status).getD 5030) message
  /-- what fails after the request was sent is not blamed on the arguments -/
  after : Sent P C tool arguments answer → ∀ message,
    callTool str (tool.run P B C arguments answer) ≠ .error INVALID_PARAMS message

/-! ## The condition -/

/-- **An answer that raises no `ValidationError`**: a 200 of an orders tool carries its view. -/
def WellFormed : Tool → Answer → Prop
  | .getOrder, .response r => r.status = 200 → ∀ body, r.json = some body →
    ∃ view, OrderView.validate body = .ok view
  | .createRefund, .response r => r.status = 200 → ∀ body, r.json = some body →
    ∃ view, RefundView.validate body = .ok view
  | .retrieveAndGenerate, .invalid _ => False
  | _, _ => True

/-- **A call that is told the truth**: a refund's amount rounds within 28 digits, and a request that
gets through is answered by what its tool expects. -/
structure ToldApart (P : Pydantic) (C : Context) (tool : Tool) (arguments : Json.Fields)
    (answer : Answer) : Prop where
  rounds : tool = .createRefund → ∀ a : RefundArgs Decimal.Positive, a.Given P arguments →
    a.amount.1.value * 100 < 10 ^ 28 - 1 / 2
  answered : ∀ args, tool.validate P arguments = .ok args →
    crossTenantClaim C.request_tenant args.tenant_id = "" → WellFormed tool answer

/-! ## What is raised where -/

/-- The tool of some args. -/
def Args.tool : Args → Tool
  | .getOrder _ => .getOrder
  | .createRefund _ => .createRefund
  | .chat _ => .chat
  | .retrieveAndGenerate _ => .retrieveAndGenerate

theorem anyStr_answers (v : Value) : CheckAnswers (anyStr v) := by
  unfold anyStr
  split <;> exact nofun

theorem anyDecimal_answers (v : Value) : CheckAnswers (anyDecimal v) := by
  unfold anyDecimal
  cases decimal v <;> exact nofun

theorem OrderView.validate_answers (body : Json) : Answers (OrderView.validate body) := by
  unfold OrderView.validate bodyFields
  split
  · exact answers_map (answers_both (answers_field anyStr_answers) (answers_both
      (answers_field anyStr_answers) (answers_both (answers_field anyDecimal_answers) (answers_both
        (answers_field anyStr_answers) (answers_forbidExtra _ _)))))
  · exact nofun

theorem RefundView.validate_answers (body : Json) : Answers (RefundView.validate body) := by
  unfold RefundView.validate bodyFields
  split
  · exact answers_map (answers_both (answers_field anyStr_answers) (answers_both
      (answers_field anyStr_answers) (answers_both (answers_field anyDecimal_answers) (answers_both
        (answers_field anyStr_answers) (answers_both (answers_field anyStr_answers)
          (answers_forbidExtra _ _))))))
  · exact nofun

/-- A reply is flawed when it is a 200 whose body is no view. -/
theorem fromResponse_eq_flaws_iff {α : Type} {view : Json → Raising α} {dump : α → Json}
    (hview : ∀ body, Answers (view body)) {answer : Answer} :
    (∃ errors, fromResponse (fun body => (view body).map dump) answer = .error (.flaws errors))
      ↔ ∃ r body, answer = .response r ∧ r.status = 200 ∧ r.json = some body
        ∧ ¬ ∃ v, view body = .ok v := by
  have hmap : ∀ body, (∃ errors, (view body).map dump = .error (.flaws errors))
      ↔ ¬ ∃ v, view body = .ok v := by
    intro body
    rw [← eq_flaws_iff_of_answers (hview body)]
    cases view body <;> simp [Except.map]
  unfold fromResponse
  split
  case h_2 hne => exact iff_of_false nofun fun ⟨r, _, hr, _⟩ => hne r hr
  case h_1 r =>
    split
    case isTrue hstatus =>
      refine iff_of_false (fun ⟨errors, h⟩ => nomatch h) fun ⟨r', _, hr, hok, _⟩ => ?_
      cases hr
      exact hstatus hok
    case isFalse hstatus =>
      split
      case h_2 hnone =>
        refine iff_of_false nofun fun ⟨r', body, hr, _, hbody, _⟩ => ?_
        cases hr
        rw [hnone] at hbody
        cases hbody
      case h_1 body hbody =>
        rw [hmap]
        constructor
        · exact fun h => ⟨r, body, rfl, not_not.mp hstatus, hbody, h⟩
        · rintro ⟨r', body', hr, -, hbody', h⟩
          cases hr
          obtain rfl := Option.some.inj (hbody.symm.trans hbody')
          exact h

/-- The pipeline's results are re-shaped without a flaw. -/
theorem ragAnswer_answers (B : Builtins) (top_k : ℤ) (result : Json)
    {errors : List (String × Flaw)} : ragAnswer B top_k result ≠ .error (.flaws errors) := by
  simp only [ragAnswer]
  split <;> exact nofun

/-- **What an answer's flaws are reported as**: those of an answer that is not well formed. -/
theorem answer_eq_flaws_iff (B : Builtins) (C : Context) (args : Args) (answer : Answer) :
    (∃ errors, args.answer B C answer = .error (.flaws errors))
      ↔ ¬ WellFormed args.tool answer := by
  cases args with
  | getOrder args =>
    rw [Args.answer, fromResponse_eq_flaws_iff OrderView.validate_answers]
    cases answer <;> simp [Args.tool, WellFormed]
  | createRefund args =>
    rw [Args.answer, fromResponse_eq_flaws_iff RefundView.validate_answers]
    cases answer <;> simp [Args.tool, WellFormed]
  | chat args =>
    refine iff_of_false ?_ (not_not.mpr (by cases answer <;> trivial))
    rintro ⟨errors, h⟩
    simp only [Args.answer, fromResponse] at h
    split at h
    · split at h
      · cases h
      · split at h <;> cases h
    · cases h
  | retrieveAndGenerate args =>
    cases answer with
    | result v =>
      refine iff_of_false ?_ (not_not.mpr trivial)
      rintro ⟨errors, h⟩
      exact ragAnswer_answers _ _ _ h
    | invalid errors => exact iff_of_true ⟨errors, rfl⟩ id
    | _ =>
      refine iff_of_false ?_ (not_not.mpr trivial)
      rintro ⟨errors, ⟨⟩⟩

theorem codeOf_pos (status : ℕ) : 0 < codeOf status := by
  have hall : ∀ f ∈ STATUS_TO_CODE, 0 < f.2 := by decide
  unfold codeOf
  rcases h : Dict.get? STATUS_TO_CODE status with _ | code
  · decide
  · exact hall _ ((Dict.mem_iff (by unfold Dict.Nodup; decide)).mpr h)

/-- No answer is reported with a code of JSON-RPC's own. -/
theorem answer_code_pos {B : Builtins} {C : Context} {args : Args} {answer : Answer} {code : ℤ}
    {message : String}
    (h : args.answer B C answer = .error (.raised (.mcpError code message))) : 0 < code := by
  have hresponse : ∀ {view : Json → Raising Json}, (∀ body, Answers (view body)) →
      fromResponse view answer = .error (.raised (.mcpError code message)) → 0 < code := by
    intro view hview h
    unfold fromResponse at h
    split at h
    case h_2 => cases h
    case h_1 r =>
      split at h
      case isTrue => cases h; exact codeOf_pos _
      case isFalse =>
        split at h
        case h_1 body _ => exact absurd h (hview body _)
        case h_2 => cases h
  cases args with
  | getOrder args =>
    exact hresponse (fun body => answers_map (OrderView.validate_answers body)) h
  | createRefund args =>
    exact hresponse (fun body => answers_map (RefundView.validate_answers body)) h
  | chat args =>
    refine hresponse (fun body => ?_) (show fromResponse
      (fun body => .ok (parseReply B body C.llm_proxy_chat_path)) answer = _ from h)
    exact fun _ => nofun
  | retrieveAndGenerate args =>
    cases answer with
    | result v =>
      simp only [Args.answer, fromPipeline, ragAnswer] at h
      split at h <;> cases h
    | timeout => cases h; decide
    | _ => cases h

/-- **What validation raises that is no flaw**: a refund's amount that does not round. -/
theorem validate_eq_raised_iff {P : Pydantic} {tool : Tool} {arguments : Json.Fields} {e : Exc} :
    tool.validate P arguments = .error (.raised e) ↔ e = .invalidOperation ∧ tool = .createRefund
      ∧ ∃ a : RefundArgs Decimal.Positive, a.Given P arguments
        ∧ (10 ^ 28 - 1 / 2 : ℚ) ≤ a.amount.1.value * 100 := by
  have hbind : ∀ {α β : Type} {x : Raising α} {f : α → Raising β}, Answers x →
      (x.bind f = .error (.raised e) ↔ ∃ a, x = .ok a ∧ f a = .error (.raised e)) := by
    intro α β x f hx
    rcases x with (errors | e') | a
    · simp [Except.bind]
    · exact absurd rfl (hx e')
    · simp [Except.bind]
  cases tool with
  | getOrder =>
    refine iff_of_false (fun h => ?_) fun h => nomatch h.2.1
    obtain ⟨a, -, ha⟩ := (hbind (GetOrderArgs.validate_answers _)).mp h
    exact GetOrderArgs.validate_answers _ _ (map_eq_raised.mp ha)
  | chat =>
    refine iff_of_false (fun h => ?_) fun h => nomatch h.2.1
    obtain ⟨a, -, ha⟩ := (hbind (ChatArgs.validate_answers P _)).mp h
    exact ChatArgs.validate_answers P _ _ (map_eq_raised.mp ha)
  | retrieveAndGenerate =>
    refine iff_of_false (fun h => ?_) fun h => nomatch h.2.1
    obtain ⟨a, -, ha⟩ := (hbind (RagArgs.validate_answers P _)).mp h
    exact RagArgs.validate_answers P _ _ (map_eq_raised.mp ha)
  | createRefund =>
    have hfirst : Answers (RefundArgs.validateParameters P (fromJson arguments)) := fun e' he => by
      obtain ⟨v, -, hv⟩ := RefundArgs.validate_eq_raised.mp he
      exact positiveDecimal_answers v e' hv
    rw [Tool.validate, hbind hfirst]
    simp only [map_eq_raised, RefundArgs.validateParameters_eq_ok, CreateRefundArgs.validate,
      RefundArgs.validate_eq_raised, amount_eq_raised, true_and]
    constructor
    · rintro ⟨a, ha, v, hv, he, -, d, hd, hle⟩
      cases hv
      cases hd
      exact ⟨he, a, ha, hle⟩
    · rintro ⟨he, a, ha, hle⟩
      exact ⟨a, ha, _, rfl, he, rfl, _, rfl, hle⟩

/-- The args of a tool's arguments are that tool's. -/
theorem tool_of_validate {P : Pydantic} {tool : Tool} {arguments : Json.Fields} {args : Args}
    (h : tool.validate P arguments = .ok args) : args.tool = tool := by
  cases tool <;>
  · obtain ⟨a, -, ha⟩ := Machine.bind_eq_ok.mp h
    obtain ⟨b, -, rfl⟩ := map_eq_ok.mp ha
    rfl

/-! ## Whole calls -/

variable {P : Pydantic} {B : Builtins} {C : Context} {tool : Tool} {arguments : Json.Fields}
  {answer : Answer}

/-- **How a call runs**: it stops at its arguments, at its tenant, or goes on to its answer. -/
theorem run_cases (P : Pydantic) (B : Builtins) (C : Context) (tool : Tool)
    (arguments : Json.Fields) (answer : Answer) :
    (∃ e, tool.validate P arguments = .error e ∧ tool.run P B C arguments answer = .error e)
      ∨ (∃ args, tool.validate P arguments = .ok args
        ∧ crossTenantClaim C.request_tenant args.tenant_id ≠ ""
        ∧ tool.run P B C arguments answer = .error tenantMismatch)
      ∨ ∃ args, tool.validate P arguments = .ok args
        ∧ crossTenantClaim C.request_tenant args.tenant_id = ""
        ∧ tool.call P C arguments = .ok (args, args.request C)
        ∧ tool.run P B C arguments answer = args.answer B C answer := by
  rcases hargs : tool.validate P arguments with e | args
  · refine .inl ⟨e, rfl, ?_⟩
    rw [Tool.run, Tool.call, hargs]
    rfl
  · by_cases htenant : crossTenantClaim C.request_tenant args.tenant_id = ""
    · have hcall : tool.call P C arguments = .ok (args, args.request C) :=
        Tool.call_eq_ok.mpr ⟨hargs, htenant, rfl⟩
      refine .inr (.inr ⟨args, rfl, htenant, hcall, ?_⟩)
      rw [Tool.run, hcall]
      rfl
    · refine .inr (.inl ⟨args, rfl, htenant, ?_⟩)
      rw [Tool.run, Tool.call, hargs]
      simp only [Except.bind, observe, if_neg htenant, Except.map]

/-- **Whose flaws a call reports**: its arguments', or its answer's. -/
theorem run_eq_flaws_iff :
    (∃ errors, tool.run P B C arguments answer = .error (.flaws errors))
      ↔ (∃ errors, tool.validate P arguments = .error (.flaws errors))
        ∨ ∃ args, tool.validate P arguments = .ok args
          ∧ crossTenantClaim C.request_tenant args.tenant_id = "" ∧ ¬ WellFormed tool answer := by
  rcases run_cases P B C tool arguments answer with
    ⟨e, hargs, hrun⟩ | ⟨args, hargs, htenant, hrun⟩ | ⟨args, hargs, htenant, -, hrun⟩
  · simp [hargs, hrun]
  · rw [hrun, hargs]
    refine iff_of_false nofun ?_
    rintro (⟨errors, h⟩ | ⟨args', h, htenant', -⟩)
    · cases h
    · cases h
      exact htenant htenant'
  · rw [hrun, answer_eq_flaws_iff, tool_of_validate hargs, hargs]
    constructor
    · exact fun h => .inr ⟨args, rfl, htenant, h⟩
    · rintro (⟨errors, h⟩ | ⟨args', -, -, h⟩)
      · cases h
      · exact h

/-- A code a tool raises is none of JSON-RPC's own. -/
theorem run_code_pos {code : ℤ} {message : String}
    (h : tool.run P B C arguments answer = .error (.raised (.mcpError code message))) :
    0 < code := by
  rcases run_cases P B C tool arguments answer with
    ⟨e, hargs, hrun⟩ | ⟨args, -, -, hrun⟩ | ⟨args, -, -, -, hrun⟩
  · cases hrun.symm.trans h
    cases (validate_eq_raised_iff.mp hargs).1
  · cases hrun.symm.trans h
    exact codeOf_pos 403
  · exact answer_code_pos (hrun.symm.trans h)

/-- **What `INVALID_PARAMS` is reported for**: a `ValidationError`, wherever it comes from. -/
theorem invalidParams_iff {str : List (String × Flaw) → String} :
    (∃ message, callTool str (tool.run P B C arguments answer) = .error INVALID_PARAMS message)
      ↔ ∃ errors, tool.run P B C arguments answer = .error (.flaws errors) := by
  rcases hrun : tool.run P B C arguments answer with (errors | e) | v
  · simp [callTool]
  · refine iff_of_false (fun ⟨message, h⟩ => ?_) nofun
    cases e with
    | mcpError code text =>
      cases h
      exact absurd (run_code_pos hrun) (by decide)
    | invalidOperation => cases h
    | other => cases h
  · simp [callTool]

/-- A status that is no 200 is reported by its code. -/
theorem run_of_status {p : Args} {q : Request} {r : Response}
    (hcall : tool.call P C arguments = .ok (p, .http q)) (hr : r.status ≠ 200) :
    tool.run P B C arguments (.response r) = .error (mapHttp r.status r.text) := by
  have hreq := (Tool.call_eq_ok.mp hcall).2.2
  rw [Tool.run, hcall]
  cases p with
  | retrieveAndGenerate args => cases hreq
  | _ =>
    change fromResponse _ (.response r) = _
    rw [fromResponse, if_pos hr]

theorem argumentsValid_of_call {p : Args × Upstream} (h : tool.call P C arguments = .ok p) :
    ArgumentsValid P tool arguments :=
  ⟨p.1, (Tool.call_eq_ok.mp h).1⟩

/-- **The arguments are blamed for what they are**, in a call that is told apart. -/
theorem ToldApart.blamed_iff {str : List (String × Flaw) → String}
    (h : ToldApart P C tool arguments answer) :
    (∃ message, callTool str (tool.run P B C arguments answer) = .error INVALID_PARAMS message)
      ↔ ¬ ArgumentsValid P tool arguments := by
  rw [invalidParams_iff, run_eq_flaws_iff]
  constructor
  · rintro (⟨errors, herrors⟩ | ⟨args, hargs, htenant, hill⟩)
    · rintro ⟨args, hargs⟩
      cases hargs.symm.trans herrors
    · exact absurd (h.answered args hargs htenant) hill
  · intro hinvalid
    rcases hargs : tool.validate P arguments with (errors | e) | args
    · exact .inl ⟨errors, rfl⟩
    · obtain ⟨-, htool, a, ha, hle⟩ := validate_eq_raised_iff.mp hargs
      exact absurd (h.rounds htool a ha) (not_lt.mpr hle)
    · exact absurd ⟨args, hargs⟩ hinvalid

/-- A call that is told the truth about is told apart. -/
theorem Truthful.toldApart {str : List (String × Flaw) → String}
    (h : Truthful P B C str tool arguments answer) : ToldApart P C tool arguments answer := by
  constructor
  · rintro rfl a ha
    by_contra hle
    have hraised := validate_eq_raised_iff.mpr ⟨rfl, rfl, a, ha, not_lt.mp hle⟩
    have hinvalid : ¬ ArgumentsValid P .createRefund arguments := by
      rintro ⟨args, hargs⟩
      cases hargs.symm.trans hraised
    rcases run_eq_flaws_iff.mp (invalidParams_iff.mp (h.blamed.mpr hinvalid)) with
      ⟨errors, herrors⟩ | ⟨args, hargs, -⟩
    · cases herrors.symm.trans hraised
    · exact hinvalid ⟨args, hargs⟩
  · intro args hargs htenant
    by_contra hill
    have hflaws : ∃ errors, tool.run P B C arguments answer = .error (.flaws errors) :=
      run_eq_flaws_iff.mpr (.inr ⟨args, hargs, htenant, hill⟩)
    exact h.blamed.mp (invalidParams_iff.mpr hflaws) ⟨args, hargs⟩

/-- **The error codes tell the truth** exactly when a refund's amount rounds within 28 digits, and a
request that gets through is answered by what its tool expects. -/
theorem truthful_iff (P : Pydantic) (B : Builtins) (C : Context)
    (str : List (String × Flaw) → String) (tool : Tool) (arguments : Json.Fields)
    (answer : Answer) :
    Truthful P B C str tool arguments answer ↔ ToldApart P C tool arguments answer := by
  refine ⟨Truthful.toldApart, fun h => ⟨h.blamed_iff, ?_, ?_, ?_⟩⟩
  · rintro hinvalid ⟨⟨p, hp⟩, -⟩
    exact hinvalid (argumentsValid_of_call hp)
  · rintro p q hcall r rfl hr
    rw [run_of_status hcall hr]
    exact ⟨_, rfl⟩
  · rintro ⟨⟨p, hp⟩, -⟩ message hmessage
    exact h.blamed_iff.mp ⟨message, hmessage⟩ (argumentsValid_of_call hp)

/-- **A refund that was made is reported as malformed arguments**, when its answer is no view. -/
theorem refund_blamed_on_arguments :
    ¬ Truthful oneUuid ⟨fun _ => "", fun _ => none, fun _ => none, fun _ => none⟩ stdio
      (fun _ => "") .createRefund (refundOf (.str "10.00"))
      (.response ⟨200, "\x7b\x7d", some (.obj [])⟩) := by
  intro h
  have hok : (Tool.createRefund.validate oneUuid (refundOf (.str "10.00"))).toOption.isSome := by
    decide +kernel
  obtain ⟨args, hargs⟩ := Option.isSome_iff_exists.mp hok
  rw [toOption_eq_some_iff] at hargs
  have hview : (RefundView.validate (.obj [])).isOk = false := by decide
  have hill : ¬ WellFormed .createRefund (.response ⟨200, "\x7b\x7d", some (.obj [])⟩) := by
    intro hwell
    obtain ⟨view, hv⟩ := hwell rfl _ rfl
    rw [hv] at hview
    cases hview
  exact h.blamed.mp (invalidParams_iff.mpr (run_eq_flaws_iff.mpr (.inr ⟨args, hargs, rfl, hill⟩)))
    ⟨args, hargs⟩

end Mcp
