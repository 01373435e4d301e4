import TaxLiability.Agent.Synthesis
import TaxLiability.Agent.Threads
import TaxLiability.Machinery.Transcript

/-!
# Agent/Messages — the message lists the two model loops send

    api:        [user] ──tool_use──▸ [user, reply, results] ──tool_use──▸ …
    synthesis:  [user] ──invalid──▸ [user, reply, tool_result] ──invalid──▸ …

Both loops grow one list by the model's reply and a user turn, and send it again.  The api loop
answers every `tool_use` block of a reply that stopped for tool use; the repair loop answers the
first.  `Api.sent_valid_iff` and `Repair.sent_valid_iff` say which replies leave every list
sent well-formed.
-/

open Machine Transcript

namespace Agent.Messages

/-! ## Messages -/

/-- One request, as the service accepts it. -/
structure ChatRequest where
  question : String
  tenant_id : String
  thread_id : String
  question_length : 1 ≤ question.length ∧ question.length ≤ 4000
  tenant_id_length : 1 ≤ tenant_id.length ∧ tenant_id.length ≤ 128
  thread_id_length : 1 ≤ thread_id.length ∧ thread_id.length ≤ 128

/-- A content block of a reply. -/
inductive Block
  | text (text : String)
  | toolUse (id name : String) (input : Json)
  | other

/-- `ToolResultBlockParam` of the source. -/
structure ToolResult where
  tool_use_id : String
  content : String
  is_error : Bool

/-- The content of a message: a text, a reply handed back, or the results of its calls. -/
inductive Content
  | text (text : String)
  | reply (content : List Block)
  | results (results : List ToolResult)

/-- `MessageParam` of the source. -/
structure MessageParam where
  role : Role
  content : Content

/-- The id of a `tool_use` block. -/
def Block.id? : Block → Option String
  | .toolUse id _ _ => some id
  | .text _ | .other => none

/-- The ids of the `tool_use` blocks of a reply, in their order. -/
def toolUseIds (content : List Block) : List String := content.filterMap Block.id?

/-- **The turn a message is.** -/
def MessageParam.turn (m : MessageParam) : Turn String where
  role := m.role
  isEmpty := match m.content with
    | .text text => text = ""
    | .reply content => content.isEmpty
    | .results results => results.isEmpty
  calls := match m.content with
    | .reply content => toolUseIds content
    | .text _ | .results _ => []
  answers := match m.content with
    | .results results => results.map ToolResult.tool_use_id
    | .text _ | .reply _ => []

/-- **A list of messages the protocol accepts.** -/
def Valid (messages : List MessageParam) : Prop := WellFormed (messages.map MessageParam.turn)

/-- A conversation the user has the last word of. -/
def UserLast (messages : List MessageParam) : Prop := ∀ m ∈ messages.getLast?, m.role = .user

theorem valid_question {question : String} (h : question ≠ "") :
    Valid [⟨.user, .text question⟩] :=
  wellFormed_singleton rfl rfl rfl (decide_eq_false h)

theorem userLast_question (question : String) : UserLast [⟨.user, .text question⟩] := by
  rintro m ⟨⟩
  rfl

/-- The list grown by a reply and its results. -/
def grow (messages : List MessageParam) (content : List Block) (results : List ToolResult) :
    List MessageParam :=
  messages ++ [⟨.assistant, .reply content⟩, ⟨.user, .results results⟩]

theorem userLast_grow (messages : List MessageParam) (content : List Block)
    (results : List ToolResult) : UserLast (grow messages content results) := by
  intro m hm
  rw [grow, List.getLast?_append] at hm
  cases hm
  rfl

/-- A reply that calls a tool is not empty. -/
theorem isEmpty_eq_false_of_toolUseIds {content : List Block} (h : toolUseIds content ≠ []) :
    content.isEmpty = false := by
  cases content with
  | nil => exact absurd rfl h
  | cons b content => rfl

/-- **A list grown stays valid** exactly if the reply says something and the results answer it. -/
theorem valid_grow_iff {messages : List MessageParam} {content : List Block}
    {results : List ToolResult} (h : Valid messages) (hlast : UserLast messages) :
    Valid (grow messages content results) ↔ content.isEmpty = false ∧ results.isEmpty = false
      ∧ Answers (MessageParam.turn ⟨.assistant, .reply content⟩)
          (MessageParam.turn ⟨.user, .results results⟩) := by
  rw [Valid, grow, List.map_append]
  refine wellFormed_append_iff h ?_ rfl rfl rfl rfl
  intro t ht
  rw [List.getLast?_map] at ht
  obtain ⟨m, hm, rfl⟩ := Option.map_eq_some_iff.mp ht
  exact hlast m hm

/-- **Every call answered in turn**: the list stays valid exactly if there is a call, and no two
share an id. -/
theorem valid_grow_all_iff {messages : List MessageParam} {content : List Block}
    {results : List ToolResult} (h : Valid messages) (hlast : UserLast messages)
    (hresults : results.map ToolResult.tool_use_id = toolUseIds content) :
    Valid (grow messages content results)
      ↔ toolUseIds content ≠ [] ∧ (toolUseIds content).Nodup := by
  have hcalls : Answers (MessageParam.turn ⟨.assistant, .reply content⟩)
      (MessageParam.turn ⟨.user, .results results⟩) ↔ (toolUseIds content).Nodup :=
    answers_calls_iff hresults
  rw [valid_grow_iff h hlast, hcalls]
  constructor
  · rintro ⟨-, hfull, hnodup⟩
    refine ⟨fun hnil => ?_, hnodup⟩
    rw [hnil, List.map_eq_nil_iff] at hresults
    simp [hresults] at hfull
  · rintro ⟨hne, hnodup⟩
    refine ⟨isEmpty_eq_false_of_toolUseIds hne, ?_, hnodup⟩
    cases results with
    | nil => exact absurd hresults.symm hne
    | cons r results => rfl

/-- **The first call answered**: the list stays valid exactly if there is a call, and the others
share its id. -/
theorem valid_grow_one_iff {messages : List MessageParam} {content : List Block} {r : ToolResult}
    (h : Valid messages) (hlast : UserLast messages) : Valid (grow messages content [r])
      ↔ toolUseIds content ≠ [] ∧ ∀ i ∈ toolUseIds content, i = r.tool_use_id := by
  have hcalls : Answers (MessageParam.turn ⟨.assistant, .reply content⟩)
      (MessageParam.turn ⟨.user, .results [r]⟩)
        ↔ toolUseIds content ≠ [] ∧ ∀ i ∈ toolUseIds content, i = r.tool_use_id :=
    answers_singleton_iff rfl
  rw [valid_grow_iff h hlast, hcalls]
  exact ⟨fun hg => hg.2.2, fun hg => ⟨isEmpty_eq_false_of_toolUseIds hg.1, rfl, hg⟩⟩

/-! ## The api loop -/

namespace Api

/-- Turns the model gets to call tools inside one visit. -/
def MAX_TOOL_ITERATIONS : ℕ := 5

/-- Where the node's coroutine is suspended. -/
inductive Pc
  /-- awaiting `open_session` and `list_tools` -/
  | connecting
  /-- awaiting the completion of this turn -/
  | completing (turn : ℕ)
  /-- awaiting the call `id` of the reply `content`, with the blocks after it still to come -/
  | calling (turn : ℕ) (content : List Block) (id : String) (rest : List Block)
      (results_turn : List ToolResult)
  | returned
  /-- cut by its deadline -/
  | cut
  | raised

/-- One visit of the api node.  `sent` is the history of the lists sent. -/
structure Visit where
  pc : Pc
  guard : BudgetGuard
  messages : List MessageParam
  sent : List (List MessageParam)

/-- What happens to the node next. -/
inductive Event
  /-- the session is open and the catalogue read -/
  | connected
  /-- the completion arrives -/
  | answered (stop_reason : Option String) (content : List Block) (usage : Option Usage)
  /-- the result of a call arrives, as `str` renders it -/
  | delivered (content : String)
  /-- the node's deadline fires -/
  | deadline
  /-- what is awaited fails -/
  | fail

namespace Visit

/-- The node as a request enters it. -/
def start (request : ChatRequest) (guard : BudgetGuard) : Visit :=
  ⟨.connecting, guard, [⟨.user, .text request.question⟩], []⟩

/-- `messages.append`. -/
def push (s : Visit) (m : MessageParam) : Visit := { s with messages := s.messages ++ [m] }

/-- **The top of the loop**: leave after the last turn, else check the ceiling and send the list. -/
def loopTop (s : Visit) (turn : ℕ) : Visit :=
  if MAX_TOOL_ITERATIONS ≤ turn then { s with pc := .returned }
  else match s.guard.checkOrRaise with
    | .ok _ => { s with pc := .completing turn, sent := s.sent ++ [s.messages] }
    | .error _ => { s with pc := .raised }

/-- **Go on to the next tool call of the reply**, or, its results appended, to the next turn. -/
def nextCall (s : Visit) (turn : ℕ) (content : List Block) (results_turn : List ToolResult) :
    List Block → Visit
  | [] => (s.push ⟨.user, .results results_turn⟩).loopTop (turn + 1)
  | .toolUse id _ _ :: rest => { s with pc := .calling turn content id rest results_turn }
  | .text _ :: rest | .other :: rest => s.nextCall turn content results_turn rest

/-- **One step of the node.** -/
def step (s : Visit) : Event → Option Visit
  | .connected =>
    match s.pc with
    | .connecting => some (s.loopTop 0)
    | _ => none
  | .answered stop_reason content usage =>
    match s.pc with
    | .completing turn =>
      let s := { s with guard := s.guard.recordCall usage }
      if stop_reason = some "tool_use" then
        some ((s.push ⟨.assistant, .reply content⟩).nextCall turn content [] content)
      else some { s with pc := .returned }
    | _ => none
  | .delivered result =>
    match s.pc with
    | .calling turn content id rest results_turn =>
      some (s.nextCall turn content (results_turn ++ [⟨id, result, false⟩]) rest)
    | _ => none
  | .deadline =>
    match s.pc with
    | .connecting | .completing _ | .calling _ _ _ _ _ => some { s with pc := .cut }
    | _ => none
  | .fail =>
    match s.pc with
    | .connecting | .completing _ | .calling _ _ _ _ _ => some { s with pc := .raised }
    | _ => none

/-- A turn is left, and the ceiling has not been reached. -/
def GoesOn (turn : ℕ) (guard : BudgetGuard) : Prop :=
  turn < MAX_TOOL_ITERATIONS ∧ guard.spent < guard.ceiling

instance (turn : ℕ) (guard : BudgetGuard) : Decidable (GoesOn turn guard) :=
  inferInstanceAs (Decidable (_ ∧ _))

/-- The reply handed back with the next request, if this is the event that sends one. -/
def handsBack (s : Visit) : Event → Option (List Block)
  | .answered stop_reason content usage =>
    match s.pc with
    | .completing turn =>
      if stop_reason = some "tool_use" ∧ toolUseIds content = []
          ∧ GoesOn (turn + 1) (s.guard.recordCall usage) then some content
      else none
    | _ => none
  | .delivered _ =>
    match s.pc with
    | .calling turn content _ rest _ =>
      if toolUseIds rest = [] ∧ GoesOn (turn + 1) s.guard then some content else none
    | _ => none
  | .connected | .deadline | .fail => none

/-- **The replies an api turn can answer**: one handed back has a `tool_use` block, and no two of
its blocks share an id. -/
def Answerable (s : Visit) (e : Event) : Prop :=
  ∀ content ∈ s.handsBack e, toolUseIds content ≠ [] ∧ (toolUseIds content).Nodup

instance (s : Visit) (e : Event) : Decidable (s.Answerable e) :=
  inferInstanceAs (Decidable (∀ content ∈ s.handsBack e, _))

/-- **What the list holds at each point of the loop**: a list already sent, or one and the reply to
it, whose results so far answer the calls so far. -/
def Holds (request : ChatRequest) (s : Visit) : Prop :=
  match s.pc with
  | .connecting => s.messages = [⟨.user, .text request.question⟩]
  | .completing _ => s.messages ∈ s.sent ∧ UserLast s.messages
  | .calling _ content id rest results_turn =>
    toolUseIds content = results_turn.map ToolResult.tool_use_id ++ id :: toolUseIds rest
      ∧ ∃ sent ∈ s.sent, UserLast sent ∧ s.messages = sent ++ [⟨.assistant, .reply content⟩]
  | .returned | .cut | .raised => True

/-- **What a step sends.** -/
inductive Sends (s : Visit) (e : Event) (s' : Visit) : Prop
  | nothing : s.handsBack e = none → s'.sent = s.sent → Sends s e s'
  | first (messages : List MessageParam) : Valid messages → s.handsBack e = none →
    s'.sent = s.sent ++ [messages] → Sends s e s'
  | again (sent : List MessageParam) (content : List Block) (results : List ToolResult) :
    sent ∈ s.sent → UserLast sent → s.handsBack e = some content →
    results.map ToolResult.tool_use_id = toolUseIds content →
    s'.sent = s.sent ++ [grow sent content results] → Sends s e s'

theorem loopTop_of_goesOn {s : Visit} {turn : ℕ} (h : GoesOn turn s.guard) :
    s.loopTop turn = { s with pc := .completing turn, sent := s.sent ++ [s.messages] } := by
  simp only [loopTop, if_neg (Nat.not_le.mpr h.1), BudgetGuard.checkOrRaise_eq_ok.mpr h.2]

/-- Where the loop does not go on, the node is left, and nothing sent. -/
theorem loopTop_of_not_goesOn {s : Visit} {turn : ℕ} (h : ¬ GoesOn turn s.guard) :
    (s.loopTop turn).sent = s.sent
      ∧ ((s.loopTop turn).pc = .returned ∨ (s.loopTop turn).pc = .raised) := by
  unfold loopTop
  split
  · exact ⟨rfl, .inl rfl⟩
  · next hturn =>
    split
    · next hok => exact absurd ⟨Nat.not_le.mp hturn, BudgetGuard.checkOrRaise_eq_ok.mp hok⟩ h
    · exact ⟨rfl, .inr rfl⟩

/-- **The rest of a turn**: its next call is awaited, or the list is sent with all its results, or
the loop is left. -/
theorem nextCall_spec {s : Visit} (request : ChatRequest) (turn : ℕ) {sent : List MessageParam}
    {content : List Block} (results : List ToolResult) (rest : List Block)
    (hsent : sent ∈ s.sent) (hlast : UserLast sent)
    (hm : s.messages = sent ++ [⟨.assistant, .reply content⟩])
    (hids : toolUseIds content = results.map ToolResult.tool_use_id ++ toolUseIds rest) :
    (s.nextCall turn content results rest).Holds request
      ∧ (s.nextCall turn content results rest).sent
        = if toolUseIds rest = [] ∧ GoesOn (turn + 1) s.guard then
            s.sent ++ [grow sent content results]
          else s.sent := by
  induction rest with
  | nil =>
    have hgrow : (s.push ⟨.user, .results results⟩).messages = grow sent content results := by
      simp [push, hm, grow]
    by_cases hgo : GoesOn (turn + 1) s.guard
    · rw [nextCall, loopTop_of_goesOn (s := s.push _) hgo, hgrow, if_pos ⟨rfl, hgo⟩]
      exact ⟨⟨List.mem_append_right _ (List.mem_singleton_self _),
        userLast_grow sent content results⟩, rfl⟩
    · obtain ⟨hsame, hpc⟩ := loopTop_of_not_goesOn (s := s.push ⟨.user, .results results⟩) hgo
      rw [nextCall, hsame, if_neg fun h => hgo h.2]
      refine ⟨?_, rfl⟩
      rcases hpc with hpc | hpc <;> simp only [Holds, hpc]
  | cons b rest ih =>
    cases b with
    | toolUse id name input =>
      have hne : toolUseIds (.toolUse id name input :: rest) ≠ [] := by simp [toolUseIds, Block.id?]
      exact ⟨⟨hids, sent, hsent, hlast, hm⟩, (if_neg fun hnil => hne hnil.1).symm⟩
    | text text => exact ih hids
    | other => exact ih hids

theorem holds_start (request : ChatRequest) (guard : BudgetGuard) :
    (start request guard).Holds request := rfl

/-- What the rest of a turn sends, if it sends a list, is the list grown by the turn's results. -/
theorem sends_of_nextCall {s s' : Visit} {e : Event} {P : Prop} [Decidable P]
    {sent : List MessageParam} {content : List Block} {results : List ToolResult}
    (hmem : sent ∈ s.sent) (hlast : UserLast sent)
    (hids : P → results.map ToolResult.tool_use_id = toolUseIds content)
    (hhands : s.handsBack e = if P then some content else none)
    (hsent : s'.sent = if P then s.sent ++ [grow sent content results] else s.sent) :
    s.Sends e s' := by
  by_cases hagain : P
  · rw [if_pos hagain] at hhands hsent
    exact .again sent content results hmem hlast hhands (hids hagain) hsent
  · rw [if_neg hagain] at hhands hsent
    exact .nothing hhands hsent

theorem connected_spec {s s' : Visit} {request : ChatRequest} (h : s.Holds request)
    (hstep : s.step .connected = some s') : s'.Holds request ∧ s.Sends .connected s' := by
  simp only [step] at hstep
  split at hstep
  · next hpc =>
    cases hstep
    simp only [Holds, hpc] at h
    by_cases hgo : GoesOn 0 s.guard
    · rw [loopTop_of_goesOn hgo]
      have hlast : UserLast s.messages := h ▸ userLast_question request.question
      have hvalid : Valid s.messages := h ▸ valid_question fun hq => by
        simpa [hq] using request.question_length.1
      exact ⟨⟨List.mem_append_right _ (List.mem_singleton_self _), hlast⟩,
        .first s.messages hvalid rfl rfl⟩
    · obtain ⟨hsame, hleft⟩ := loopTop_of_not_goesOn hgo
      refine ⟨?_, .nothing rfl hsame⟩
      rcases hleft with hleft | hleft <;> simp only [Holds, hleft]
  · cases hstep

theorem answered_spec {s s' : Visit} {request : ChatRequest} {stop_reason : Option String}
    {content : List Block} {usage : Option Usage} (h : s.Holds request)
    (hstep : s.step (.answered stop_reason content usage) = some s') :
    s'.Holds request ∧ s.Sends (.answered stop_reason content usage) s' := by
  simp only [step] at hstep
  split at hstep
  · next turn hpc =>
    simp only [Holds, hpc] at h
    have hhands : s.handsBack (.answered stop_reason content usage)
        = if stop_reason = some "tool_use" ∧ toolUseIds content = []
          ∧ GoesOn (turn + 1) (s.guard.recordCall usage) then some content else none := by
      simp only [handsBack, hpc]
    split at hstep
    · next hstop =>
      cases hstep
      rw [if_congr (and_iff_right hstop) rfl rfl] at hhands
      obtain ⟨hholds, hsent⟩ := nextCall_spec (s := ({ s with
          guard := s.guard.recordCall usage } : Visit).push ⟨.assistant, .reply content⟩)
        request turn [] content h.1 h.2 rfl rfl
      exact ⟨hholds, sends_of_nextCall h.1 h.2 (fun ha => ha.1.symm) hhands hsent⟩
    · next hstop =>
      cases hstep
      exact ⟨trivial, .nothing (hhands.trans (if_neg fun ha => hstop ha.1)) rfl⟩
  · cases hstep

theorem delivered_spec {s s' : Visit} {request : ChatRequest} {result : String}
    (h : s.Holds request) (hstep : s.step (.delivered result) = some s') :
    s'.Holds request ∧ s.Sends (.delivered result) s' := by
  simp only [step] at hstep
  split at hstep
  · next turn content id rest results hpc =>
    cases hstep
    simp only [Holds, hpc] at h
    obtain ⟨hids, sent, hmem, hlast, hm⟩ := h
    have hids' : toolUseIds content = (results ++ [(⟨id, result, false⟩ : ToolResult)]).map
        ToolResult.tool_use_id ++ toolUseIds rest := by
      simp [hids]
    have hhands : s.handsBack (.delivered result)
        = if toolUseIds rest = [] ∧ GoesOn (turn + 1) s.guard then some content else none := by
      simp only [handsBack, hpc]
    obtain ⟨hholds, hsent⟩ := nextCall_spec request turn _ rest hmem hlast hm hids'
    refine ⟨hholds, sends_of_nextCall hmem hlast (fun hagain => ?_) hhands hsent⟩
    rw [hids', hagain.1, List.append_nil]
  · cases hstep

/-- **One step** keeps what the list holds, and sends at most one list. -/
theorem step_spec {s s' : Visit} {request : ChatRequest} {e : Event} (h : s.Holds request)
    (hstep : s.step e = some s') : s'.Holds request ∧ s.Sends e s' := by
  cases e with
  | connected => exact connected_spec h hstep
  | answered stop_reason content usage => exact answered_spec h hstep
  | delivered result => exact delivered_spec h hstep
  | deadline | fail =>
    simp only [step] at hstep
    split at hstep <;> cases hstep
    all_goals exact ⟨trivial, .nothing rfl rfl⟩

/-- Every list sent so far is valid. -/
def AllValid (s : Visit) : Prop := ∀ messages ∈ s.sent, Valid messages

/-- **A step keeps the lists sent valid** exactly if the reply it hands back is answerable. -/
theorem allValid_step {s s' : Visit} {request : ChatRequest} {e : Event} (h : s.Holds request)
    (hstep : s.step e = some s') : s'.AllValid ↔ s.AllValid ∧ s.Answerable e := by
  cases (step_spec h hstep).2 with
  | nothing hback hsent =>
    have hans : s.Answerable e := by
      rw [Answerable, hback]
      rintro content ⟨⟩
    rw [AllValid, hsent]
    exact (and_iff_left hans).symm
  | first messages hvalid hback hsent =>
    have hans : s.Answerable e := by
      rw [Answerable, hback]
      rintro content ⟨⟩
    rw [AllValid, hsent, and_iff_left hans, List.forall_mem_append, List.forall_mem_singleton]
    exact and_iff_left hvalid
  | again sent content results hmem hlast hback hids hsent =>
    rw [AllValid, hsent, List.forall_mem_append, List.forall_mem_singleton, Answerable, hback]
    simp only [Option.mem_some_iff, forall_eq']
    exact and_congr_right fun hall => valid_grow_all_iff (hall sent hmem) hlast hids

end Visit

open Visit

/-- **Every list the api loop sends is valid**, exactly if the replies it hands back are
answerable. -/
theorem sent_valid_iff {request : ChatRequest} {guard : BudgetGuard} {es : List Event} {s : Visit}
    (h : exec step (start request guard) es = some s) :
    s.AllValid ↔ Throughout step Answerable (start request guard) es := by
  have hiff := exec_iff_throughout (I := Holds request) (Q := AllValid)
    (fun hI hs => (step_spec hI hs).1) allValid_step (holds_start request guard) h
  have hstart : (start request guard).AllValid := by rintro messages ⟨⟩
  rw [hiff, and_iff_right hstart]

end Api

/-! ## The repair loop -/

namespace Repair

open Synthesis

/-- **The user turn of a synthesis**, on what the evidence renders as. -/
def buildUserPrompt {D V : Type} (state : AgentState D V) (strDocs : List D → String)
    (strResults : Dict String V → String) : String :=
  "Tenant: " ++ state.tenant_id ++ "\nQuestion: " ++ state.question
    ++ "\nDocs (" ++ toString state.docs.length ++ "): "
    ++ (if state.docs.isEmpty then "" else strDocs state.docs)
    ++ "\nTool results: "
    ++ (if state.tool_results.isEmpty then "" else strResults state.tool_results)

theorem buildUserPrompt_ne_empty {D V : Type} (state : AgentState D V)
    (strDocs : List D → String) (strResults : Dict String V → String) :
    buildUserPrompt state strDocs strResults ≠ "" := by
  intro h
  unfold buildUserPrompt at h
  obtain ⟨h, -⟩ := String.append_eq_empty_iff.mp h
  obtain ⟨-, h⟩ := String.append_eq_empty_iff.mp h
  exact absurd h (by decide)

/-- The block as the node that reads its arguments sees it. -/
def argumentBlock : Block → Synthesis.Block
  | .toolUse _ name input => .toolUse name input
  | .text _ | .other => .other

/-- **The id of the tool call being repaired**: that of the first, or empty where there is none. -/
def toolUseId (content : List Block) : String := (toolUseIds content).head?.getD ""

/-- One visit of the synthesis node: the node, the list it grows, the reply it read last, and the
history of the lists sent. -/
structure Visit where
  node : Synthesis.Visit
  messages : List MessageParam
  final : Option (List Block)
  sent : List (List MessageParam)

/-- What happens to the node next. -/
inductive Event
  | openStream
  | delta (partial_json : Option String)
  /-- the final message is read; `exc` is what its validation says, should it fail -/
  | final (content : List Block) (usage : Option Usage) (exc : String)
  | deadline
  | fail (e : RunError)

/-- The event as the node sees it. -/
def Event.node : Event → Synthesis.Event
  | .openStream => .openStream
  | .delta partial_json => .delta partial_json
  | .final content usage _ => .final (content.map argumentBlock) usage
  | .deadline => .deadline
  | .fail e => .fail e

/-- The result that hands a failed validation back. -/
def repairResult (content : List Block) (exc : String) : ToolResult where
  tool_use_id := toolUseId content
  content := "Validation failed: " ++ exc ++ ". Call " ++ TOOL_NAME ++ " again, corrected."
  is_error := true

/-- The reply makes one call: it has a `tool_use` block, and all its blocks have that one's id. -/
def OneCall (content : List Block) : Prop :=
  toolUseIds content ≠ [] ∧ ∀ i ∈ toolUseIds content, i = toolUseId content

instance (content : List Block) : Decidable (OneCall content) :=
  inferInstanceAs (Decidable (_ ∧ _))

namespace Visit

/-- The node as it is entered, with its first user turn. -/
def start (prompt : String) (guard : BudgetGuard) : Visit :=
  ⟨.start guard, [⟨.user, .text prompt⟩], none, []⟩

/-- **One step of the node**: the list is sent as a stream is opened, and grown by a reply that does
not validate. -/
def step (jiter : PartialParser) (toFloat : ToFloat) (s : Visit) (e : Event) : Option Visit :=
  (s.node.step jiter toFloat e.node).map fun node =>
    match e with
    | .openStream =>
      match s.node.guard.checkOrRaise with
      | .ok _ => { s with node := node, sent := s.sent ++ [s.messages] }
      | .error _ => { s with node := node }
    | .final content _ exc =>
      match FinalAnswer.modelValidate toFloat (argumentsOf (content.map argumentBlock)) with
      | some _ => { s with node := node, final := some content }
      | none =>
        { s with
          node := node
          final := some content
          messages := grow s.messages content [repairResult content exc] }
    | .delta _ | .deadline | .fail _ => { s with node := node }

/-- **The replies a repair can answer**: one handed back makes one call. -/
def Repairable (s : Visit) : Event → Prop
  | .openStream => s.node.guard.spent < s.node.guard.ceiling → ∀ content ∈ s.final, OneCall content
  | .delta _ | .final _ _ _ | .deadline | .fail _ => True

instance (s : Visit) : (e : Event) → Decidable (s.Repairable e)
  | .openStream => inferInstanceAs (Decidable (_ → ∀ content ∈ s.final, OneCall content))
  | .delta _ | .final _ _ _ | .deadline | .fail _ => isTrue trivial

/-- **What the list holds at each point of the loop**: the prompt, a list already sent, or one, the
reply to it and its repair. -/
def Holds (prompt : String) (s : Visit) : Prop :=
  match s.node.phase with
  | .ready _ => (s.final = none ∧ s.messages = [⟨.user, .text prompt⟩])
      ∨ ∃ sent ∈ s.sent, ∃ content exc, UserLast sent ∧ s.final = some content
        ∧ s.messages = grow sent content [repairResult content exc]
  | .streaming _ _ _ => s.messages ∈ s.sent ∧ UserLast s.messages
  | .answered _ | .timedOut | .raised _ => True

/-- Every list sent so far is valid. -/
def AllValid (s : Visit) : Prop := ∀ messages ∈ s.sent, Valid messages

variable {jiter : PartialParser} {toFloat : ToFloat} {prompt : String}

theorem holds_start (guard : BudgetGuard) : (start prompt guard).Holds prompt := .inl ⟨rfl, rfl⟩

/-- **Opening a stream** sends the list, below the ceiling. -/
theorem openStream_of_step {s s' : Visit} (hstep : s.step jiter toFloat .openStream = some s') :
    ∃ failed, s.node.phase = .ready failed
      ∧ ((s.node.guard.spent < s.node.guard.ceiling ∧ s'.node.phase = .streaming failed "" 0
            ∧ s'.messages = s.messages ∧ s'.sent = s.sent ++ [s.messages])
        ∨ (¬ s.node.guard.spent < s.node.guard.ceiling ∧ (∃ e, s'.node.phase = .raised e)
            ∧ s'.sent = s.sent)) := by
  obtain ⟨node, hnode, rfl⟩ := Option.map_eq_some_iff.mp hstep
  cases hphase : s.node.phase with
  | ready failed =>
    refine ⟨failed, rfl, ?_⟩
    simp only [Event.node, Synthesis.Visit.step, hphase] at hnode
    cases hguard : s.node.guard.checkOrRaise with
    | ok _ =>
      simp only [hguard, Option.some_inj] at hnode
      subst hnode
      exact .inl ⟨BudgetGuard.checkOrRaise_eq_ok.mp hguard, rfl, rfl, rfl⟩
    | error e =>
      simp only [hguard, Option.some_inj] at hnode
      subst hnode
      refine .inr ⟨fun hlt => ?_, ⟨.budget e, rfl⟩, rfl⟩
      rw [BudgetGuard.checkOrRaise_eq_ok.mpr hlt] at hguard
      cases hguard
  | streaming _ _ _ | answered _ | timedOut | raised _ =>
    simp only [Event.node, Synthesis.Visit.step, hphase] at hnode
    cases hnode

/-- **Where a validated reply leads**: out of the loop, or to the list grown by its repair. -/
theorem final_of_step {s s' : Visit} {content : List Block} {usage : Option Usage} {exc : String}
    (hstep : s.step jiter toFloat (.final content usage exc) = some s') :
    (∃ failed buffer sent, s.node.phase = .streaming failed buffer sent) ∧ s'.sent = s.sent
      ∧ ((∃ failed, s'.node.phase = .ready failed ∧ s'.final = some content
            ∧ s'.messages = grow s.messages content [repairResult content exc])
        ∨ (∃ answer, s'.node.phase = .answered answer) ∨ ∃ e, s'.node.phase = .raised e) := by
  obtain ⟨node, hnode, rfl⟩ := Option.map_eq_some_iff.mp hstep
  simp only [Event.node, Synthesis.Visit.step] at hnode
  split at hnode
  · next failed buffer sent hphase =>
    refine ⟨⟨failed, buffer, sent, hphase⟩, ?_⟩
    split at hnode
    · next answer hvalid =>
      cases hnode
      refine ⟨?_, .inr (.inl ⟨answer, ?_⟩)⟩
      · simp only [hvalid]
      · simp only [hvalid]
        rfl
    · next hinvalid =>
      split at hnode
      · cases hnode
        refine ⟨?_, .inl ⟨failed + 1, ?_, ?_, ?_⟩⟩ <;> simp only [hinvalid]
      · cases hnode
        refine ⟨?_, .inr (.inr ⟨.internal "ValidationError", ?_⟩)⟩ <;> simp only [hinvalid]
  · cases hnode

/-- The other events touch neither the list nor what was sent, and lead to no new attempt. -/
theorem quiet_of_step {s s' : Visit} {e : Event} (hstep : s.step jiter toFloat e = some s')
    (he : (∃ partial_json, e = .delta partial_json) ∨ e = .deadline ∨ ∃ r, e = .fail r) :
    s'.sent = s.sent ∧ s'.messages = s.messages
      ∧ ((∃ f b n f' b' n', s.node.phase = .streaming f b n ∧ s'.node.phase = .streaming f' b' n')
        ∨ s'.node.phase = .timedOut ∨ ∃ r, s'.node.phase = .raised r) := by
  obtain ⟨node, hnode, rfl⟩ := Option.map_eq_some_iff.mp hstep
  rcases he with ⟨partial_json, rfl⟩ | rfl | ⟨r, rfl⟩
  · refine ⟨rfl, rfl, .inl ?_⟩
    simp only [Event.node, Synthesis.Visit.step] at hnode
    split at hnode
    · next failed buffer sent hphase =>
      cases partial_json with
      | none => cases hnode; exact ⟨_, _, _, _, _, _, hphase, hphase⟩
      | some fragment =>
        dsimp only at hnode
        split_ifs at hnode <;> cases hnode
        · exact ⟨_, _, _, _, _, _, hphase, hphase⟩
        · exact ⟨_, _, _, _, _, _, hphase, rfl⟩
        · exact ⟨_, _, _, _, _, _, hphase, rfl⟩
    · cases hnode
  · refine ⟨rfl, rfl, .inr (.inl ?_)⟩
    simp only [Event.node, Synthesis.Visit.step] at hnode
    split at hnode
    · cases hnode; rfl
    · cases hnode; rfl
    · cases hnode
  · refine ⟨rfl, rfl, .inr (.inr ?_)⟩
    simp only [Event.node, Synthesis.Visit.step] at hnode
    split at hnode
    · cases hnode; exact ⟨_, rfl⟩
    · cases hnode; exact ⟨_, rfl⟩
    · cases hnode

theorem holds_quiet {s s' : Visit} {e : Event} (h : s.Holds prompt)
    (hstep : s.step jiter toFloat e = some s')
    (he : (∃ partial_json, e = .delta partial_json) ∨ e = .deadline ∨ ∃ r, e = .fail r) :
    s'.Holds prompt := by
  obtain ⟨hsent, hm, ⟨f, b, n, f', b', n', hp, hp'⟩ | hp' | ⟨r, hp'⟩⟩ := quiet_of_step hstep he
  · simpa only [Holds, hp, hp', hsent, hm] using h
  · simp only [Holds, hp']
  · simp only [Holds, hp']

theorem holds_step {s s' : Visit} {e : Event} (h : s.Holds prompt)
    (hstep : s.step jiter toFloat e = some s') : s'.Holds prompt := by
  cases e with
  | openStream =>
    obtain ⟨failed, hphase, ⟨-, hp', hm, hsent⟩ | ⟨-, ⟨r, hp'⟩, -⟩⟩ := openStream_of_step hstep
    · simp only [Holds, hphase] at h
      have hlast : UserLast s.messages := by
        rcases h with ⟨-, hm⟩ | ⟨sent, -, content, exc, -, -, hm⟩
        · exact hm ▸ userLast_question prompt
        · exact hm ▸ userLast_grow sent content _
      simp only [Holds, hp', hm, hsent]
      exact ⟨List.mem_append_right _ (List.mem_singleton_self _), hlast⟩
    · simp only [Holds, hp']
  | final content usage exc =>
    obtain ⟨⟨f, b, n, hphase⟩, hsent, ⟨failed, hp', hfinal, hm⟩ | ⟨answer, hp'⟩ | ⟨r, hp'⟩⟩ :=
      final_of_step hstep
    · simp only [Holds, hphase] at h
      simp only [Holds, hp']
      exact .inr ⟨s.messages, hsent ▸ h.1, content, exc, h.2, hfinal, hm⟩
    · simp only [Holds, hp']
    · simp only [Holds, hp']
  | delta partial_json => exact holds_quiet h hstep (.inl ⟨partial_json, rfl⟩)
  | deadline => exact holds_quiet h hstep (.inr (.inl rfl))
  | fail r => exact holds_quiet h hstep (.inr (.inr ⟨r, rfl⟩))

/-- **A step keeps the lists sent valid** exactly if the reply it hands back is repairable. -/
theorem allValid_step (hprompt : prompt ≠ "") {s s' : Visit} {e : Event} (h : s.Holds prompt)
    (hstep : s.step jiter toFloat e = some s') : s'.AllValid ↔ s.AllValid ∧ s.Repairable e := by
  cases e with
  | openStream =>
    obtain ⟨failed, hphase, ⟨hlt, -, -, hsent⟩ | ⟨hnot, -, hsent⟩⟩ := openStream_of_step hstep
    · rw [AllValid, hsent, List.forall_mem_append, List.forall_mem_singleton]
      refine and_congr_right fun hall => ?_
      simp only [Holds, hphase] at h
      simp only [Repairable, forall_prop_of_true hlt]
      rcases h with ⟨hfinal, hm⟩ | ⟨sent, hmem, content, exc, hlast, hfinal, hm⟩
      · rw [hfinal, hm]
        exact iff_of_true (valid_question hprompt) (by rintro content ⟨⟩)
      · rw [hfinal, hm, valid_grow_one_iff (hall sent hmem) hlast]
        simp only [Option.mem_some_iff, forall_eq', OneCall, repairResult]
    · rw [AllValid, hsent]
      exact (and_iff_left fun hlt => absurd hlt hnot).symm
  | final content usage exc =>
    rw [AllValid, (final_of_step hstep).2.1]
    exact (and_iff_left trivial).symm
  | delta partial_json =>
    rw [AllValid, (quiet_of_step hstep (.inl ⟨partial_json, rfl⟩)).1]
    exact (and_iff_left trivial).symm
  | deadline =>
    rw [AllValid, (quiet_of_step hstep (.inr (.inl rfl))).1]
    exact (and_iff_left trivial).symm
  | fail r =>
    rw [AllValid, (quiet_of_step hstep (.inr (.inr ⟨r, rfl⟩))).1]
    exact (and_iff_left trivial).symm

end Visit

open Repair.Visit

/-- **Every list the repair loop sends is valid**, exactly if the replies it hands back are
repairable. -/
theorem sent_valid_iff {D V : Type} {state : AgentState D V} {strDocs : List D → String}
    {strResults : Dict String V → String} {jiter : PartialParser} {toFloat : ToFloat}
    {guard : BudgetGuard} {es : List Event} {s : Visit}
    (h : exec (step jiter toFloat) (start (buildUserPrompt state strDocs strResults) guard) es
      = some s) :
    s.AllValid ↔ Throughout (step jiter toFloat) Repairable
      (start (buildUserPrompt state strDocs strResults) guard) es := by
  have hprompt := buildUserPrompt_ne_empty state strDocs strResults
  have hiff := exec_iff_throughout (Q := AllValid) holds_step (allValid_step hprompt)
    (holds_start guard) h
  have hstart : (start (buildUserPrompt state strDocs strResults) guard).AllValid := by
    rintro messages ⟨⟩
  rw [hiff, and_iff_right hstart]

end Repair

/-! ## Both loops -/

/-- **The message lists of both loops**: every list sent is valid exactly along the runs whose
replies, where they are handed back, can be answered. -/
theorem messages_valid_iff {D V : Type} (request : ChatRequest) (state : AgentState D V)
    (strDocs : List D → String) (strResults : Dict String V → String)
    (jiter : Synthesis.PartialParser) (toFloat : Synthesis.ToFloat) (guard : BudgetGuard) :
    (∀ (es : List Api.Event) (s : Api.Visit),
      exec Api.Visit.step (Api.Visit.start request guard) es = some s →
        (s.AllValid
          ↔ Throughout Api.Visit.step Api.Visit.Answerable (Api.Visit.start request guard) es))
    ∧ ∀ (es : List Repair.Event) (s : Repair.Visit),
      exec (Repair.Visit.step jiter toFloat)
          (Repair.Visit.start (Repair.buildUserPrompt state strDocs strResults) guard) es = some s →
        (s.AllValid
          ↔ Throughout (Repair.Visit.step jiter toFloat) Repair.Visit.Repairable
            (Repair.Visit.start (Repair.buildUserPrompt state strDocs strResults) guard) es) :=
  ⟨fun _ _ h => Api.sent_valid_iff h, fun _ _ h => Repair.sent_valid_iff h⟩

/-- A request within the bounds of each field. -/
def docsRequest : ChatRequest where
  question := "status of order 7"
  tenant_id := "t-1"
  thread_id := "th-1"
  question_length := by decide
  tenant_id_length := by decide
  thread_id_length := by decide

/-- A guard at a ceiling of a quarter. -/
def docsGuard : BudgetGuard := ⟨25000, 0, by decide⟩

/-- The evidence of a run that gathered none. -/
def docsState : AgentState Unit Unit := ⟨"status of order 7", "t-1", "th-1", [], []⟩

/-- A call of the answer tool with this confidence. -/
def answerCall (id : String) (confidence : ℤ) : Block :=
  .toolUse id Synthesis.TOOL_NAME (.obj [("text", .str "Open"), ("confidence", .int confidence)])

/-- A reply with two calls, both answered, and the reply that ends the loop. -/
def Api.docsRun : List Api.Event :=
  [.connected,
    .answered (some "tool_use") [.text "Let me look.", .toolUse "tu_1" "get_order" (.obj []),
      .toolUse "tu_2" "get_refund" (.obj [])] none,
    .delivered "open", .delivered "none", .answered (some "end_turn") [.text "Done."] none]

/-- An answer that does not validate, its repair, and an answer that does. -/
def Repair.docsRun : List Repair.Event :=
  [.openStream, .final [answerCall "tu_1" 2] none "confidence", .openStream,
    .final [answerCall "tu_2" 1] none ""]

theorem messages_valid_docsRun :
    (∃ s, exec Api.Visit.step (Api.Visit.start docsRequest docsGuard) Api.docsRun = some s
      ∧ s.AllValid)
    ∧ ∃ s, exec (Repair.Visit.step Synthesis.Visit.repairedParser Synthesis.Visit.intToFloat)
        (Repair.Visit.start (Repair.buildUserPrompt docsState (fun _ => "") fun _ => "") docsGuard)
        Repair.docsRun = some s ∧ s.AllValid := by
  obtain ⟨hapi, hrepair⟩ := messages_valid_iff docsRequest docsState (fun _ => "") (fun _ => "")
    Synthesis.Visit.repairedParser Synthesis.Visit.intToFloat docsGuard
  constructor
  · have hrun : (exec Api.Visit.step (Api.Visit.start docsRequest docsGuard)
        Api.docsRun).isSome = true := by decide
    obtain ⟨s, hs⟩ := Option.isSome_iff_exists.mp hrun
    exact ⟨s, hs, (hapi Api.docsRun s hs).mpr (by decide)⟩
  · have hrun : (exec
        (Repair.Visit.step Synthesis.Visit.repairedParser Synthesis.Visit.intToFloat)
        (Repair.Visit.start (Repair.buildUserPrompt docsState (fun _ => "") fun _ => "") docsGuard)
        Repair.docsRun).isSome = true := by decide
    obtain ⟨s, hs⟩ := Option.isSome_iff_exists.mp hrun
    exact ⟨s, hs, (hrepair Repair.docsRun s hs).mpr (by decide)⟩

/-- A reply without a tool call is handed back with a result that names none. -/
theorem repair_answers_no_call :
    ∃ s, exec (Repair.Visit.step Synthesis.Visit.repairedParser Synthesis.Visit.intToFloat)
        (Repair.Visit.start (Repair.buildUserPrompt docsState (fun _ => "") fun _ => "") docsGuard)
        [.openStream, .final [.text "I cannot tell."] none "text: Field required", .openStream]
          = some s
      ∧ ∃ messages ∈ s.sent, ¬ Valid messages := by
  refine ⟨_, rfl, _, List.mem_cons_of_mem _ List.mem_cons_self, fun h => ?_⟩
  have hanswers : ∀ id ∈ ([""] : List String), id ∈ ([] : List String) :=
    (List.isChain_cons_cons.mp (List.isChain_cons_cons.mp h.follows).2).1.2.2
  exact absurd (hanswers "" List.mem_cons_self) List.not_mem_nil

end Agent.Messages
