import TaxLiability.Mcp.Tools

/-!
# Mcp/Observability — the lines around a tool call

    observe ──▸ start ──▸ the bearer's tenant? ──▸ body ──┬─ returns ───────▸ end
                               └─ another one ─▸ 4030 ──▸ ├─ McpError ──────▸ end, with its code
                                                          ├─ Exception ─────▸ end, with its type
                                                          └─ anything else ─▸ nothing

A cancellation is no `Exception`, so a call that is cut off leaves its start line alone.  A call is
logged once, with what it cost, exactly if its body ends in one of the three ways that are caught
and leaves the line something to say and room to say it (`loggedOnce_iff`).
-/

open Mcp.Sse

namespace Mcp.Observability

variable {Object α : Type}

/-! ## Lines -/

/-- **A value of a line**: `object` is one this model does not look into. -/
inductive Value (Object : Type)
  | int (n : ℤ)
  | str (s : String)
  | object (o : Object)
  deriving DecidableEq

/-- The fields a body adds to its end line. -/
abbrev Extra (Object : Type) := Dict String (Value Object)

/-- A line of the log. -/
structure Line (Object : Type) where
  event : String
  fields : Dict String (Value Object)
  deriving DecidableEq

/-- **What ends a body or an observed call**, a return apart. -/
inductive Raised
  | mcpError (code : ℤ) (message : String)
  /-- the `TypeError` of a keyword argument given twice -/
  | multipleValues (name : String)
  /-- any other `Exception` -/
  | exception (typeName message : String)
  /-- what is no `Exception`: a cancellation, an interrupt, the end of a generator -/
  | baseException (typeName message : String)
  deriving DecidableEq, Repr

/-- What the refusals of `Mcp/Tools` are here. -/
def Raised.ofFailure : Failure Exc → Raised
  | .raised (.mcpError code message) => .mcpError code message
  | .raised .invalidOperation => .exception "InvalidOperation" ""
  | .raised .other => .exception "Exception" ""
  | .flaws _ => .exception "ValidationError" ""

def COST_SOURCE_NONE : String := "none"

def COST_SOURCE_PROXY : String := "proxy-header"

/-- The names `observe` passes to the logger itself, and those it has every end line carry. -/
def observedNames : List String :=
  ["tool", "tenant_id", "duration_ms", "mcp_error_code", "error_type", "cost_usd_minor",
    "cost_source"]

/-- **The logger**, by the names of its method's own arguments: no field may have one of them. -/
structure Log where
  arguments : List String
  free : ∀ name ∈ observedNames, name ∉ arguments

/-- **`log.info(event, **keywords, **extra)`**: the line, if no name of `extra` is taken. -/
def Log.info (log : Log) (event : String) (keywords extra : Extra Object) :
    Except Raised (Line Object) :=
  match (extra.map Prod.fst).find? fun name =>
      name ∈ log.arguments || name ∈ keywords.map Prod.fst with
  | some name => .error (.multipleValues name)
  | none => .ok ⟨event, keywords ++ extra⟩

/-- The names an extra field must not have. -/
def Log.Clear (log : Log) (keywords extra : Extra Object) : Prop :=
  ∀ name ∈ extra.map Prod.fst, name ∉ log.arguments ∧ name ∉ keywords.map Prod.fst

/-- A line is written exactly if no name is taken… -/
theorem Log.info_eq_ok {log : Log} {event : String} {keywords extra : Extra Object}
    {line : Line Object} : log.info event keywords extra = .ok line
      ↔ log.Clear keywords extra ∧ line = ⟨event, keywords ++ extra⟩ := by
  unfold Log.info Log.Clear
  split
  · next name h =>
    have hmem : name ∈ extra.map Prod.fst := List.mem_of_find?_eq_some h
    have htaken := List.find?_some h
    refine iff_of_false (fun he => by cases he) fun hc => ?_
    obtain ⟨h₁, h₂⟩ := hc.1 name hmem
    simp [h₁, h₂] at htaken
  · next h =>
    have hclear : ∀ name ∈ extra.map Prod.fst,
        name ∉ log.arguments ∧ name ∉ keywords.map Prod.fst := by
      intro name hname
      simpa using List.find?_eq_none.mp h name hname
    rw [and_iff_right hclear, Except.ok.injEq, eq_comm]

/-! ## `observe` -/

/-- What the body finds in its span. -/
def seed : Extra Object := [("cost_usd_minor", .int 0), ("cost_source", .str COST_SOURCE_NONE)]

/-- **`tenant_mismatch`.** -/
def tenantMismatch : Raised := Raised.ofFailure Mcp.tenantMismatch

/-- **A tool call's body**: what it makes of its span, and how it ends. -/
abbrev Body (Object α : Type) := Extra Object → Extra Object × Except Raised α

/-- **What is tried**: the check of the tenant, and the body if it passes. -/
def tried (claimed tenant_id : String) (body : Body Object α) : Extra Object × Except Raised α :=
  if crossTenantClaim claimed tenant_id ≠ "" then (seed, .error tenantMismatch) else body seed

/-- The fields of every end line. -/
def called (tool tenant_id : String) (duration_ms : ℤ) : Extra Object :=
  [("tool", .str tool), ("tenant_id", .str tenant_id), ("duration_ms", .int duration_ms)]

/-- **The end line of what is caught**, with the field that says what it was; none of what is
not. -/
def endKeywords (tool tenant_id : String) (duration_ms : ℤ) :
    Except Raised α → Option (Extra Object)
  | .error (.mcpError code _) =>
    some (called tool tenant_id duration_ms ++ [("mcp_error_code", .int code)])
  | .error (.multipleValues _) =>
    some (called tool tenant_id duration_ms ++ [("error_type", .str "TypeError")])
  | .error (.exception typeName _) =>
    some (called tool tenant_id duration_ms ++ [("error_type", .str typeName)])
  -- `CancelledError`, `KeyboardInterrupt` and `GeneratorExit` pass both `except` clauses
  | .error (.baseException _ _) => none
  | .ok _ => some (called tool tenant_id duration_ms)

/-- **`observe`** around a body: the lines it writes, and how the call ends. -/
def observe (log : Log) (tool tenant_id claimed : String) (duration_ms : ℤ)
    (body : Body Object α) : List (Line Object) × Except Raised α :=
  match log.info "tool.invoke.start" [("tool", .str tool), ("tenant_id", .str tenant_id)] [] with
  | .error e => ([], .error e)
  | .ok start =>
    let (extra, exit) := tried claimed tenant_id body
    match endKeywords tool tenant_id duration_ms exit with
    | none => ([start], exit)
    | some keywords =>
      match log.info "tool.invoke.end" keywords extra with
      | .error e => ([start], .error e)
      | .ok line => ([start, line], exit)

/-! ## What is logged of a call -/

/-- **The call is logged once**: a start line and an end line with what it cost, and it ends as
what was tried ended. -/
def LoggedOnce (log : Log) (tool tenant_id claimed : String) (duration_ms : ℤ)
    (body : Body Object α) : Prop :=
  ∃ start line,
    observe log tool tenant_id claimed duration_ms body
      = ([start, line], (tried claimed tenant_id body).2)
    ∧ start.event = "tool.invoke.start" ∧ line.event = "tool.invoke.end"
    ∧ (Dict.get? line.fields "cost_usd_minor").isSome
    ∧ (Dict.get? line.fields "cost_source").isSome

/-- **A body that can be logged**: it ends in a way that is caught, leaves what it cost in its
span, and takes no name the end line needs. -/
structure Loggable (log : Log) (tool tenant_id : String) (duration_ms : ℤ)
    (left : Extra Object × Except Raised α) : Prop where
  caught : ∀ typeName message, left.2 ≠ .error (.baseException typeName message)
  cost : (Dict.get? left.1 "cost_usd_minor").isSome
  source : (Dict.get? left.1 "cost_source").isSome
  clear : ∀ keywords, endKeywords tool tenant_id duration_ms left.2 = some keywords →
    log.Clear keywords left.1

/-- The start line has no extra field to fail on. -/
theorem info_start (log : Log) (event : String) (keywords : Extra Object) :
    log.info event keywords [] = .ok ⟨event, keywords⟩ := by
  simp [Log.info]

/-- What has an end line. -/
theorem endKeywords_eq_none_iff {tool tenant_id : String} {duration_ms : ℤ}
    {exit : Except Raised α} :
    (endKeywords tool tenant_id duration_ms exit : Option (Extra Object)) = none
      ↔ ∃ typeName message, exit = .error (.baseException typeName message) := by
  rcases exit with (_ | _ | _ | _) | _ <;> simp [endKeywords]

/-- The end line's own fields do not say what the call cost: the span does. -/
theorem get?_endKeywords {tool tenant_id : String} {duration_ms : ℤ} {exit : Except Raised α}
    {keywords : Extra Object} (h : endKeywords tool tenant_id duration_ms exit = some keywords) :
    Dict.get? keywords "cost_usd_minor" = none ∧ Dict.get? keywords "cost_source" = none := by
  rcases exit with (_ | _ | _ | _) | _
  all_goals
    cases h
    try exact ⟨rfl, rfl⟩

/-- **What `observe` does**, by how what was tried ended. -/
theorem observe_of_endKeywords {log : Log} {tool tenant_id claimed : String} {duration_ms : ℤ}
    {body : Body Object α} {keywords : Extra Object}
    (h : endKeywords tool tenant_id duration_ms (tried claimed tenant_id body).2 = some keywords)
    (hclear : log.Clear keywords (tried claimed tenant_id body).1) :
    observe log tool tenant_id claimed duration_ms body
      = ([⟨"tool.invoke.start", [("tool", .str tool), ("tenant_id", .str tenant_id)]⟩,
          ⟨"tool.invoke.end", keywords ++ (tried claimed tenant_id body).1⟩],
        (tried claimed tenant_id body).2) := by
  unfold observe
  rw [info_start]
  simp only [h, Log.info_eq_ok.mpr ⟨hclear, rfl⟩]

/-- A body that can be logged has its end line. -/
theorem Loggable.exists_keywords {log : Log} {tool tenant_id : String} {duration_ms : ℤ}
    {left : Extra Object × Except Raised α} (h : Loggable log tool tenant_id duration_ms left) :
    ∃ keywords : Extra Object, endKeywords tool tenant_id duration_ms left.2 = some keywords := by
  refine Option.ne_none_iff_exists'.mp fun hnone => ?_
  obtain ⟨typeName, message, he⟩ := endKeywords_eq_none_iff.mp hnone
  exact h.caught typeName message he

/-- What the end line says of the cost is what the span says. -/
theorem get?_append_endKeywords {tool tenant_id : String} {duration_ms : ℤ}
    {exit : Except Raised α} {keywords : Extra Object} (extra : Extra Object)
    (h : endKeywords tool tenant_id duration_ms exit = some keywords) :
    Dict.get? (keywords ++ extra) "cost_usd_minor" = Dict.get? extra "cost_usd_minor"
      ∧ Dict.get? (keywords ++ extra) "cost_source" = Dict.get? extra "cost_source" := by
  obtain ⟨hcost, hsource⟩ := get?_endKeywords h
  rw [Dict.get?_append, Dict.get?_append, hcost, hsource]
  exact ⟨rfl, rfl⟩

/-- **A call whose end can be logged is logged once.** -/
theorem Loggable.loggedOnce {log : Log} {tool tenant_id claimed : String} {duration_ms : ℤ}
    {body : Body Object α}
    (h : Loggable log tool tenant_id duration_ms (tried claimed tenant_id body)) :
    LoggedOnce log tool tenant_id claimed duration_ms body := by
  obtain ⟨keywords, hk⟩ := h.exists_keywords
  obtain ⟨hcost, hsource⟩ := get?_append_endKeywords (tried claimed tenant_id body).1 hk
  refine ⟨_, _, observe_of_endKeywords hk (h.clear keywords hk), rfl, rfl, ?_, ?_⟩
  · exact (congrArg Option.isSome hcost).trans h.cost
  · exact (congrArg Option.isSome hsource).trans h.source

/-- **…and only such a call is.** -/
theorem LoggedOnce.loggable {log : Log} {tool tenant_id claimed : String} {duration_ms : ℤ}
    {body : Body Object α} (h : LoggedOnce log tool tenant_id claimed duration_ms body) :
    Loggable log tool tenant_id duration_ms (tried claimed tenant_id body) := by
  obtain ⟨start, line, hlines, -, -, hcost, hsource⟩ := h
  unfold observe at hlines
  rw [info_start] at hlines
  cases hk : (endKeywords tool tenant_id duration_ms (tried claimed tenant_id body).2 :
      Option (Extra Object)) with
  | none => simp [hk] at hlines
  | some keywords =>
    cases hi : log.info "tool.invoke.end" keywords (tried claimed tenant_id body).1 with
    | error e => simp [hk, hi] at hlines
    | ok written =>
      obtain ⟨hclear, rfl⟩ := Log.info_eq_ok.mp hi
      simp only [hk, hi, Prod.mk.injEq, List.cons.injEq] at hlines
      obtain ⟨⟨-, rfl, -⟩, -⟩ := hlines
      obtain ⟨hc, hs⟩ := get?_append_endKeywords (tried claimed tenant_id body).1 hk
      refine ⟨fun typeName message he => ?_, hc ▸ hcost, hs ▸ hsource, fun keywords' hk' => ?_⟩
      · rw [endKeywords_eq_none_iff.mpr ⟨typeName, message, he⟩] at hk
        cases hk
      · cases hk.symm.trans hk'
        exact hclear

/-- A refusal for another tenant can always be logged: the body has not touched its span. -/
theorem loggable_of_mismatch (log : Log) (tool tenant_id : String) (duration_ms : ℤ) :
    Loggable log tool tenant_id duration_ms
      ((seed, .error tenantMismatch) : Extra Object × Except Raised α) where
  caught typeName message h := by cases h
  cost := rfl
  source := rfl
  clear keywords h := by
    cases h
    intro name hname
    have hseed : name = "cost_usd_minor" ∨ name = "cost_source" := by simpa [seed] using hname
    have hobserved : name ∈ observedNames := by
      rcases hseed with rfl | rfl <;> decide
    refine ⟨log.free name hobserved, ?_⟩
    rcases hseed with rfl | rfl <;> simp [called]

/-- **A tool call is logged exactly once** if the bearer's tenant is another one, or else if its
body can be logged — and in no other case. -/
theorem loggedOnce_iff (log : Log) (tool tenant_id claimed : String) (duration_ms : ℤ)
    (body : Body Object α) : LoggedOnce log tool tenant_id claimed duration_ms body
      ↔ crossTenantClaim claimed tenant_id ≠ ""
        ∨ Loggable log tool tenant_id duration_ms (body seed) := by
  have hiff : LoggedOnce log tool tenant_id claimed duration_ms body
      ↔ Loggable log tool tenant_id duration_ms (tried claimed tenant_id body) :=
    ⟨LoggedOnce.loggable, Loggable.loggedOnce⟩
  rw [hiff]
  by_cases h : crossTenantClaim claimed tenant_id = ""
  · simp [tried, h]
  · simp [tried, h, loggable_of_mismatch]

/-- The method of the server's logger. -/
def structlog : Log := ⟨["self", "event", "method_name"], by decide⟩

/-- **The client hangs up**: `CancelledError` ends the body, and the start line stays alone. -/
theorem cancelled_not_loggedOnce :
    ¬ LoggedOnce structlog "llm.chat" "tenant-a" "" 1500
      (fun span => (span, .error (.baseException "CancelledError" "")) : Body Unit Unit) := by
  intro h
  exact h.loggable.caught "CancelledError" "" rfl

/-! ## The bodies of the tools -/

/-- The names the four tools write in their spans. -/
def spanNames : List String :=
  ["turns", "wire_shape", "max_tokens", "http_status", "cost_usd_minor", "cost_source",
    "idempotency_key", "top_k", "citations", "rerank_timed_out"]

/-- **A tool's body**: it sets fields of its own in its span, and ends. -/
def sets (writes : Extra Object) (exit : Except Raised α) : Body Object α :=
  fun span => (Dict.merge span writes, exit)

/-- A key that was there stays. -/
theorem isSome_get?_merge {d e : Extra Object} {k : String} (h : (Dict.get? d k).isSome) :
    (Dict.get? (Dict.merge d e) k).isSome := by
  rw [Dict.get?_merge, Option.isSome_or, h, Bool.or_true]

/-- **What the tools do can be logged**, however it ends short of a cancellation. -/
theorem loggable_of_sets (log : Log) (hfree : ∀ name ∈ spanNames, name ∉ log.arguments)
    {writes : Extra Object} (hwrites : ∀ f ∈ writes, f.1 ∈ spanNames) (tool tenant_id : String)
    (duration_ms : ℤ) {exit : Except Raised α}
    (hexit : ∀ typeName message, exit ≠ .error (.baseException typeName message)) :
    Loggable log tool tenant_id duration_ms (sets writes exit seed) := by
  refine ⟨hexit, isSome_get?_merge rfl, isSome_get?_merge rfl, fun keywords hk name hname => ?_⟩
  obtain ⟨f, hf, rfl⟩ := List.mem_map.mp hname
  have hspan : f.1 ∈ spanNames := by
    rcases Dict.mem_merge hf with hf | hf
    · have hseed : f.1 = "cost_usd_minor" ∨ f.1 = "cost_source" := by
        rcases List.mem_pair.mp hf with rfl | rfl
        · exact .inl rfl
        · exact .inr rfl
      rcases hseed with h | h <;> rw [h] <;> decide
    · exact hwrites f hf
  refine ⟨hfree f.1 hspan, fun hmem => ?_⟩
  have hnames : ∀ name ∈ keywords.map Prod.fst,
      name ∈ ["tool", "tenant_id", "duration_ms", "mcp_error_code", "error_type"] := by
    rcases exit with (_ | _ | _ | _) | _
    all_goals
      cases hk
      try simp [called]
  have hdisjoint : ∀ name ∈ spanNames,
      name ∉ ["tool", "tenant_id", "duration_ms", "mcp_error_code", "error_type"] := by decide
  exact hdisjoint f.1 hspan (hnames f.1 hmem)

/-- …and is logged once. -/
theorem loggedOnce_of_sets (log : Log) (hfree : ∀ name ∈ spanNames, name ∉ log.arguments)
    {writes : Extra Object} (hwrites : ∀ f ∈ writes, f.1 ∈ spanNames) (tool tenant_id : String)
    (claimed : String) (duration_ms : ℤ) {exit : Except Raised α}
    (hexit : ∀ typeName message, exit ≠ .error (.baseException typeName message)) :
    LoggedOnce log tool tenant_id claimed duration_ms (sets writes exit) := by
  by_cases hclaim : crossTenantClaim claimed tenant_id = ""
  · refine Loggable.loggedOnce ?_
    rw [tried, if_neg (not_not.mpr hclaim)]
    exact loggable_of_sets log hfree hwrites tool tenant_id duration_ms hexit
  · refine Loggable.loggedOnce ?_
    rw [tried, if_pos hclaim]
    exact loggable_of_mismatch log tool tenant_id duration_ms

/-- **A refusal here is the refusal of `Mcp/Tools`**, with the body not run. -/
theorem observe_refused {C : Context} {tenant_id : String} {f : Failure Exc}
    (h : Mcp.observe C tenant_id = .error f) (log : Log) (tool : String) (duration_ms : ℤ)
    (body : Body Object α) :
    (observe log tool tenant_id C.request_tenant duration_ms body).2
      = .error (Raised.ofFailure f) := by
  unfold Mcp.observe at h
  split at h
  · cases h
  · next hclaim =>
    have htried : tried C.request_tenant tenant_id body = (seed, .error tenantMismatch) := by
      simp [tried, hclaim]
    cases h
    have hload : Loggable log tool tenant_id duration_ms
        (tried C.request_tenant tenant_id body) := by
      rw [htried]
      exact loggable_of_mismatch log tool tenant_id duration_ms
    obtain ⟨keywords, hk⟩ := hload.exists_keywords
    rw [observe_of_endKeywords hk (hload.clear keywords hk), htried]
    rfl

end Mcp.Observability
