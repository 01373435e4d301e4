import Mathlib.Data.List.Infix
import Mathlib.Data.Rat.Defs
import Mathlib.Algebra.Order.Ring.Rat
import TaxLiability.Agent.Budgets
import TaxLiability.Machinery.Json
import TaxLiability.Machinery.Machine

/-!
# Agent/Synthesis — the streamed answer against the typed one

    ready ──▸ streaming ──fragment──▸ streaming ──final──▸ answered
      ▴            │                       │
      └── invalid ─┘                       └──deadline──▸ timedOut

An attempt sends, of each growth of the decoded `text`, the characters past its cursor `sent`; a
repaired attempt starts at `sent = 0`, and the client appends to what it has.  So the deltas of a
run join to the texts of all its attempts (`Sent.deltas`), and `streamed_eq_final_iff` is what is
left for them to be the text of the answer.
-/

open Machine

namespace Agent.Synthesis

/-! ## The typed answer -/

/-- Repair attempts on a validation failure. -/
def MAX_RETRIES : ℕ := 2

/-- Name of the single tool the model is forced to call. -/
def TOOL_NAME : String := "final_answer"

/-- Custom-event name carrying one prose delta to the SSE bridge. -/
def ANSWER_DELTA_EVENT : String := "answer_delta"

/-- The answer text a deadline-exceeded synthesis carries. -/
def DEADLINE_TEXT : String := "[deadline exceeded]"

/-- One supporting document reference, its quote bounded at both ends. -/
structure Citation where
  doc_id : String
  quote : String
  quote_length : 10 ≤ quote.length ∧ quote.length ≤ 240

/-- **The typed answer every consumer reads.** -/
structure FinalAnswer where
  text : String
  citations : List Citation
  confidence : ℚ
  text_length : 1 ≤ text.length ∧ text.length ≤ 2000
  confidence_range : 0 ≤ confidence ∧ confidence ≤ 1

/-- What the validation library makes of a value in a `float` field: the number, or `none` where it
refuses the value or no number results. -/
abbrev ToFloat := Json → Option ℚ

/-- No key beyond the declared ones: `extra="forbid"`. -/
def forbidExtra (declared : List String) (fields : Json.Fields) : Bool :=
  fields.all fun f => f.1 ∈ declared

/-- `Citation.model_validate`; `none` is a `ValidationError`. -/
def Citation.modelValidate : Json → Option Citation
  | .obj fields =>
    if forbidExtra ["doc_id", "quote"] fields then
      match Dict.get? fields "doc_id", Dict.get? fields "quote" with
      | some (.str doc_id), some (.str quote) =>
        if h : 10 ≤ quote.length ∧ quote.length ≤ 240 then some ⟨doc_id, quote, h⟩ else none
      | _, _ => none
    else none
  | _ => none

/-- The `citations` field, which defaults to empty. -/
def citationsOf : Option Json → Option (List Citation)
  | none => some []
  | some (.arr xs) => xs.mapM Citation.modelValidate
  | some _ => none

/-- **`FinalAnswer.model_validate`**; `none` is a `ValidationError`. -/
def FinalAnswer.modelValidate (toFloat : ToFloat) : Json → Option FinalAnswer
  | .obj fields =>
    if forbidExtra ["text", "citations", "confidence"] fields then
      match Dict.get? fields "text", citationsOf (Dict.get? fields "citations"),
          (Dict.get? fields "confidence").bind toFloat with
      | some (.str text), some citations, some confidence =>
        if h : (1 ≤ text.length ∧ text.length ≤ 2000) ∧ 0 ≤ confidence ∧ confidence ≤ 1 then
          some ⟨text, citations, confidence, h.1, h.2⟩
        else none
      | _, _, _ => none
    else none
  | _ => none

/-- **The sentinel of the node's deadline**: a valid answer whose text is exactly
`DEADLINE_TEXT`. -/
def timeoutAnswer : FinalAnswer where
  text := DEADLINE_TEXT
  citations := []
  confidence := 0
  text_length := by decide
  confidence_range := by decide

/-! ## The partial parse -/

/-- **The incremental JSON parser**, in its `trailing-strings` mode.  It has nothing to read in an
empty buffer. -/
structure PartialParser where
  fromJson : String → Option Json
  fromJson_empty : fromJson "" = none

/-- **The `text` field of a partially received object**, empty while there is none. -/
def growingText (jiter : PartialParser) (buffer : String) : String :=
  match jiter.fromJson buffer with
  | some (.obj parsed) =>
    match Dict.get? parsed "text" with
    | some (.str text) => text
    | _ => ""
  | _ => ""

@[simp] theorem growingText_empty (jiter : PartialParser) : growingText jiter "" = "" := by
  simp [growingText, jiter.fromJson_empty]

/-- `text[sent:]`. -/
def sliceFrom (text : String) (sent : ℕ) : String := String.ofList (text.toList.drop sent)

/-- What was sent and what lies past it join to the text grown. -/
theorem append_sliceFrom {s text : String} (h : s.toList <+: text.toList) :
    s ++ sliceFrom text s.length = text := by
  rw [← String.toList_inj, String.toList_append, sliceFrom, String.toList_ofList,
    ← String.length_toList]
  exact List.prefix_iff_eq_append.mp h

/-- A text that has grown by nothing is the one sent. -/
theorem eq_of_prefix_of_length_le {s text : String} (h : s.toList <+: text.toList)
    (hl : text.length ≤ s.length) : s = text := by
  refine String.toList_inj.mp (h.eq_of_length_le ?_)
  rwa [String.length_toList, String.length_toList]

/-! ## The bridge -/

/-- What the graph's event stream carries. -/
inductive GraphEvent
  /-- `on_custom_event` -/
  | custom (name : String) (delta : Option String)
  /-- `on_chat_model_stream` -/
  | chatModelStream (content : Option String)
  /-- `on_chain_end`, with the `answer` of the node's output -/
  | chainEnd (name : String) (answer : Option FinalAnswer)

/-- What ends the run early. -/
inductive RunError
  | recursion (detail : String)
  | budget (e : BudgetGuard.BudgetExceeded)
  | internal (detail : String)

/-- The error code on the `3:` channel. -/
def RunError.code : RunError → String
  | .recursion _ => "recursion_limit"
  | .budget _ => "budget_exceeded"
  | .internal _ => "internal"

def RunError.detail : RunError → String
  | .recursion detail => detail
  | .budget e => e.message
  | .internal detail => detail

/-- One frame of the data stream. -/
inductive Frame
  /-- `0:` -/
  | text (delta : String)
  /-- `2:` -/
  | data (finalAnswer : FinalAnswer)
  /-- `3:` -/
  | error (code detail : String)

/-- A text frame, unless there is nothing to show. -/
def textFrame : Option String → List Frame
  | some delta => if delta = "" then [] else [.text delta]
  | none => []

/-- The frames of one event. -/
def framesOf : GraphEvent → List Frame
  | .custom name delta => if name = ANSWER_DELTA_EVENT then textFrame delta else []
  | .chatModelStream content => textFrame content
  | .chainEnd name answer =>
    if name = "synthesis_agent" then (answer.map Frame.data).toList else []

/-- **The frames of a run**: those of its events, then one for the error that ended it. -/
def eventStream (events : List GraphEvent) (raised : Option RunError) : List Frame :=
  events.flatMap framesOf ++ (raised.map fun e => Frame.error e.code e.detail).toList

/-- The delta a frame adds to what the client shows. -/
def Frame.delta? : Frame → Option String
  | .text delta => some delta
  | _ => none

/-- The answer a frame carries. -/
def Frame.finalAnswer? : Frame → Option FinalAnswer
  | .data finalAnswer => some finalAnswer
  | _ => none

/-- **What the client shows**: every delta, appended. -/
def streamed (frames : List Frame) : String := String.join (frames.filterMap Frame.delta?)

/-- The answers the stream carries. -/
def finalAnswers (frames : List Frame) : List FinalAnswer := frames.filterMap Frame.finalAnswer?

@[simp] theorem streamed_append (fs gs : List Frame) :
    streamed (fs ++ gs) = streamed fs ++ streamed gs := by
  rw [streamed, List.filterMap_append, String.join_append, streamed, streamed]

@[simp] theorem finalAnswers_append (fs gs : List Frame) :
    finalAnswers (fs ++ gs) = finalAnswers fs ++ finalAnswers gs := List.filterMap_append

/-- A delta event shows its delta. -/
theorem streamed_delta (delta : String) :
    streamed (framesOf (.custom ANSWER_DELTA_EVENT (some delta))) = delta := by
  by_cases h : delta = "" <;> simp [framesOf, textFrame, streamed, Frame.delta?, h]

/-- …and carries no answer. -/
theorem finalAnswers_delta (name : String) (delta : Option String) :
    finalAnswers (framesOf (.custom name delta)) = [] := by
  cases delta <;> simp only [framesOf, textFrame] <;> split <;> try split
  all_goals rfl

/-! ## The node -/

/-- A block of a completed message. -/
inductive Block
  | toolUse (name : String) (input : Json)
  | other

/-- **The tool arguments the model produced**: those of the first block that calls the answer tool,
or no arguments. -/
def argumentsOf : List Block → Json
  | [] => .obj []
  | .toolUse name input :: content => if name = TOOL_NAME then input else argumentsOf content
  | .other :: content => argumentsOf content

/-- Where the node's coroutine stands.  `failed` counts the attempts that did not validate. -/
inductive Phase
  | ready (failed : ℕ)
  | streaming (failed : ℕ) (buffer : String) (sent : ℕ)
  | answered (answer : FinalAnswer)
  | timedOut
  | raised (e : RunError)

/-- The arguments received so far of an attempt under way. -/
def Phase.buffer? : Phase → Option String
  | .streaming _ buffer _ => some buffer
  | _ => none

/-- One visit of the synthesis node.  `ended` is the history of what the model streamed in each
attempt that is over, oldest first. -/
structure Visit where
  phase : Phase
  guard : BudgetGuard
  events : List GraphEvent
  ended : List String

/-- What happens to the node next. -/
inductive Event
  /-- the loop comes round: the ceiling is checked and a stream opened -/
  | openStream
  /-- a `content_block_delta` arrives -/
  | delta (partial_json : Option String)
  /-- the stream is over and the final message read -/
  | final (content : List Block) (usage : Option Usage)
  /-- the node's deadline fires -/
  | deadline
  /-- the completion fails, or the graph does -/
  | fail (e : RunError)

namespace Visit

/-- The node as it is entered. -/
def start (guard : BudgetGuard) : Visit := ⟨.ready 0, guard, [], []⟩

/-- Leave with a partial state that carries this answer. -/
def close (s : Visit) (phase : Phase) (answer : FinalAnswer) : Visit :=
  { s with phase := phase, events := s.events ++ [.chainEnd "synthesis_agent" (some answer)] }

/-- **One step of the node.** -/
def step (jiter : PartialParser) (toFloat : ToFloat) (s : Visit) : Event → Option Visit
  | .openStream =>
    match s.phase with
    | .ready failed =>
      match s.guard.checkOrRaise with
      | .ok _ => some { s with phase := .streaming failed "" 0 }
      | .error e => some { s with phase := .raised (.budget e) }
    | _ => none
  | .delta partial_json =>
    match s.phase with
    | .streaming failed buffer sent =>
      match partial_json with
      | none => some s
      | some fragment =>
        let buffer := buffer ++ fragment
        let text := growingText jiter buffer
        if fragment = "" then some s
        else if sent < text.length then
          some { s with
            phase := .streaming failed buffer text.length
            events := s.events ++ [.custom ANSWER_DELTA_EVENT (some (sliceFrom text sent))] }
        else some { s with phase := .streaming failed buffer sent }
    | _ => none
  | .final content usage =>
    match s.phase with
    | .streaming failed buffer _ =>
      let s := { s with guard := s.guard.recordCall usage, ended := s.ended ++ [buffer] }
      match FinalAnswer.modelValidate toFloat (argumentsOf content) with
      | some answer => some (s.close (.answered answer) answer)
      | none =>
        if failed < MAX_RETRIES then some { s with phase := .ready (failed + 1) }
        else some { s with phase := .raised (.internal "ValidationError") }
    | _ => none
  | .deadline =>
    match s.phase with
    | .ready _ => some (s.close .timedOut timeoutAnswer)
    | .streaming _ buffer _ =>
      some ({ s with ended := s.ended ++ [buffer] }.close .timedOut timeoutAnswer)
    | _ => none
  | .fail e =>
    match s.phase with
    | .ready _ => some { s with phase := .raised e }
    | .streaming _ buffer _ => some { s with phase := .raised e, ended := s.ended ++ [buffer] }
    | _ => none

/-- What ended the run early. -/
def raised? (s : Visit) : Option RunError :=
  match s.phase with
  | .raised e => some e
  | _ => none

/-- **The frames the client has received.** -/
def frames (s : Visit) : List Frame := eventStream s.events s.raised?

/-- **Each attempt streams one growing text**: the decoded texts are prefixes of one another, and a
valid final object has the text last decoded. -/
def Grows (jiter : PartialParser) (toFloat : ToFloat) (s : Visit) : Event → Prop
  | .delta (some fragment) => ∀ buffer ∈ s.phase.buffer?,
      (growingText jiter buffer).toList <+: (growingText jiter (buffer ++ fragment)).toList
  | .final content _ => ∀ buffer ∈ s.phase.buffer?,
      ∀ answer ∈ FinalAnswer.modelValidate toFloat (argumentsOf content),
        answer.text = growingText jiter buffer
  | _ => True

instance (jiter : PartialParser) (toFloat : ToFloat) (s : Visit) :
    (e : Event) → Decidable (s.Grows jiter toFloat e)
  | .delta (some _) => inferInstanceAs (Decidable (∀ _ ∈ s.phase.buffer?, _))
  | .final _ _ => inferInstanceAs (Decidable (∀ _ ∈ s.phase.buffer?, ∀ _ ∈ _, _))
  | .openStream | .delta none | .deadline | .fail _ => inferInstanceAs (Decidable True)

/-! ## What has been sent -/

/-- The decoded text of the attempt under way. -/
def current (jiter : PartialParser) (s : Visit) : String :=
  match s.phase with
  | .streaming _ buffer _ => growingText jiter buffer
  | _ => ""

/-- The decoded texts of the attempts that are over, one after the other. -/
def endedText (jiter : PartialParser) (s : Visit) : String :=
  String.join (s.ended.map (growingText jiter))

/-- The answer the node has left with. -/
def answers (s : Visit) : List FinalAnswer :=
  match s.phase with
  | .answered answer => [answer]
  | .timedOut => [timeoutAnswer]
  | _ => []

/-- **What the stream carries so far.** -/
structure Sent (jiter : PartialParser) (s : Visit) : Prop where
  /-- every attempt's text has been sent, and sent once -/
  deltas : streamed (s.events.flatMap framesOf) = s.endedText jiter ++ s.current jiter
  /-- the cursor stands at the end of the text of the attempt under way -/
  cursor : ∀ failed buffer sent, s.phase = .streaming failed buffer sent →
    sent = (growingText jiter buffer).length
  finals : finalAnswers (s.events.flatMap framesOf) = s.answers
  /-- the text of an answer is that of the last attempt -/
  last : ∀ answer, s.phase = .answered answer →
    ∃ init buffer, s.ended = init ++ [buffer] ∧ growingText jiter buffer = answer.text

variable {jiter : PartialParser} {toFloat : ToFloat}

theorem start_sent (guard : BudgetGuard) : (start guard).Sent jiter where
  deltas := by simp [start, streamed, endedText, current]
  cursor := by simp [start]
  finals := rfl
  last := by simp [start]

/-- Leaving with an answer adds no delta… -/
theorem streamed_close (s : Visit) (phase : Phase) (answer : FinalAnswer) :
    streamed ((s.close phase answer).events.flatMap framesOf)
      = streamed (s.events.flatMap framesOf) := by
  rw [close, List.flatMap_append, streamed_append]
  exact String.append_eq_left_iff.mpr rfl

/-- …and the one frame that carries it. -/
theorem finalAnswers_close (s : Visit) (phase : Phase) (answer : FinalAnswer) :
    finalAnswers ((s.close phase answer).events.flatMap framesOf)
      = finalAnswers (s.events.flatMap framesOf) ++ [answer] := by
  rw [close, List.flatMap_append, finalAnswers_append]
  rfl

/-- An attempt that is over has sent its text. -/
theorem endedText_snoc (s : Visit) (buffer : String) :
    ({ s with ended := s.ended ++ [buffer] } : Visit).endedText jiter
      = s.endedText jiter ++ growingText jiter buffer := by
  simp [endedText]

/-- **A fragment sends what the text has grown by.** -/
theorem Sent.delta {s s' : Visit} (hs : s.Sent jiter) {partial_json : Option String}
    (hg : s.Grows jiter toFloat (.delta partial_json))
    (h : s.step jiter toFloat (.delta partial_json) = some s') : s'.Sent jiter := by
  simp only [step] at h
  split at h
  case h_2 => cases h
  case h_1 failed buffer sent hp =>
    cases partial_json with
    | none =>
      cases h
      exact hs
    | some fragment =>
      have hgrows := hg buffer (by simp [hp, Phase.buffer?])
      have hsent := hs.cursor failed buffer sent hp
      have hd := hs.deltas
      simp only [current, hp] at hd
      dsimp only at h
      split_ifs at h with hempty hlt <;> cases h
      · exact hs
      · refine ⟨?_, by simp, ?_, by simp⟩
        · rw [List.flatMap_append, streamed_append, hd, List.flatMap_singleton, streamed_delta,
            String.append_assoc, hsent, append_sliceFrom hgrows]
          rfl
        · rw [List.flatMap_append, finalAnswers_append, hs.finals, List.flatMap_singleton,
            finalAnswers_delta]
          simp [answers, hp]
      · have heq := eq_of_prefix_of_length_le hgrows (by omega)
        refine ⟨?_, ?_, ?_, by simp⟩
        · rw [hd, heq]
          rfl
        · rintro f b n hb
          cases hb
          rw [hsent, heq]
        · rw [hs.finals]
          simp [answers, hp]

/-- **The end of a stream ends an attempt**, with its answer or without. -/
theorem Sent.final {s s' : Visit} (hs : s.Sent jiter) {content : List Block}
    {usage : Option Usage} (hg : s.Grows jiter toFloat (.final content usage))
    (h : s.step jiter toFloat (.final content usage) = some s') : s'.Sent jiter := by
  simp only [step] at h
  split at h
  case h_2 => cases h
  case h_1 failed buffer sent hp =>
    have htext := hg buffer (by simp [hp, Phase.buffer?])
    have hd := hs.deltas
    have hf := hs.finals
    simp only [current, hp, ← endedText_snoc] at hd
    simp only [answers, hp] at hf
    split at h
    case h_1 answer hv =>
      cases h
      refine ⟨?_, by simp [close], ?_, ?_⟩
      · rw [streamed_close, hd]
        exact (String.append_eq_left_iff.mpr rfl).symm
      · rw [finalAnswers_close, hf]
        rfl
      · rintro a ha
        cases ha
        exact ⟨s.ended, buffer, rfl, (htext answer hv).symm⟩
    case h_2 =>
      split at h <;> cases h
      all_goals
        refine ⟨?_, by simp, hf, by simp⟩
        rw [hd]
        exact (String.append_eq_left_iff.mpr rfl).symm

/-- **The deadline ends the attempt under way** and answers in its place. -/
theorem Sent.deadline {s s' : Visit} (hs : s.Sent jiter)
    (h : s.step jiter toFloat .deadline = some s') : s'.Sent jiter := by
  have hd := hs.deltas
  have hf := hs.finals
  simp only [step] at h
  split at h
  case h_3 => cases h
  case h_1 failed hp =>
    cases h
    simp only [answers, hp] at hf
    refine ⟨?_, by simp [close], ?_, by simp [close]⟩
    · rw [streamed_close, hd]
      simp [endedText, current, close, hp]
    · rw [finalAnswers_close, hf]
      rfl
  case h_2 failed buffer sent hp =>
    cases h
    simp only [current, hp, ← endedText_snoc] at hd
    simp only [answers, hp] at hf
    refine ⟨?_, by simp [close], ?_, by simp [close]⟩
    · rw [streamed_close, hd]
      exact (String.append_eq_left_iff.mpr rfl).symm
    · rw [finalAnswers_close, hf]
      rfl

/-- A stream opens with nothing sent of its attempt, or the ceiling is reached. -/
theorem Sent.openStream {s s' : Visit} (hs : s.Sent jiter)
    (h : s.step jiter toFloat .openStream = some s') : s'.Sent jiter := by
  have hd := hs.deltas
  have hf := hs.finals
  simp only [step] at h
  split at h
  case h_2 => cases h
  case h_1 failed hp =>
    simp only [current, hp] at hd
    simp only [answers, hp] at hf
    split at h <;> cases h
    · refine ⟨?_, ?_, hf, by simp⟩
      · rw [hd]
        simp [endedText, current]
      · rintro f b n hb
        cases hb
        rw [growingText_empty, String.length_empty]
    · exact ⟨hd, by simp, hf, by simp⟩

/-- A failure sends nothing. -/
theorem Sent.fail {s s' : Visit} (hs : s.Sent jiter) {e : RunError}
    (h : s.step jiter toFloat (.fail e) = some s') : s'.Sent jiter := by
  have hd := hs.deltas
  have hf := hs.finals
  simp only [step] at h
  split at h
  case h_3 => cases h
  case h_1 failed hp =>
    cases h
    simp only [current, hp] at hd
    simp only [answers, hp] at hf
    exact ⟨hd, by simp, hf, by simp⟩
  case h_2 failed buffer sent hp =>
    cases h
    simp only [current, hp, ← endedText_snoc] at hd
    simp only [answers, hp] at hf
    refine ⟨?_, by simp, hf, by simp⟩
    rw [hd]
    exact (String.append_eq_left_iff.mpr rfl).symm

/-- **Every step of growing attempts keeps the account of what was sent.** -/
theorem sent_step {s s' : Visit} {e : Event} (hg : s.Grows jiter toFloat e) (hs : s.Sent jiter)
    (h : s.step jiter toFloat e = some s') : s'.Sent jiter := by
  cases e with
  | openStream => exact hs.openStream h
  | delta partial_json => exact hs.delta hg h
  | final content usage => exact hs.final hg h
  | deadline => exact hs.deadline h
  | fail e => exact hs.fail h

/-! ## Streamed against final -/

/-- **The client shows the text of the answer**, wherever the stream carries one. -/
def Reassembles (s : Visit) : Prop :=
  ∀ answer ∈ finalAnswers s.frames, streamed s.frames = answer.text

/-- **One attempt has spoken**: no attempt before the valid one streamed any text, and where the
deadline answered, what was streamed is its text. -/
def SpokeOnce (jiter : PartialParser) (s : Visit) : Prop :=
  match s.phase with
  | .answered _ => ∀ buffer ∈ s.ended.dropLast, growingText jiter buffer = ""
  | .timedOut => String.join (s.ended.map (growingText jiter)) = DEADLINE_TEXT
  | _ => True

/-- A closing error frame shows no text and no answer. -/
theorem frames_eq (s : Visit) : streamed s.frames = streamed (s.events.flatMap framesOf)
    ∧ finalAnswers s.frames = finalAnswers (s.events.flatMap framesOf) := by
  rw [frames, eventStream, streamed_append, finalAnswers_append]
  cases s.raised? <;> exact ⟨String.append_eq_left_iff.mpr rfl, List.append_nil _⟩

/-- Texts that join to nothing are empty, each of them. -/
theorem join_eq_empty_iff {texts : List String} : String.join texts = "" ↔ ∀ t ∈ texts, t = "" := by
  induction texts with
  | nil => simp
  | cons t texts ih => simp [String.append_eq_empty_iff, ih]

/-- **Where the account is kept, the client shows the answer exactly if one attempt has spoken.** -/
theorem Sent.reassembles_iff {s : Visit} (hs : s.Sent jiter) :
    s.Reassembles ↔ s.SpokeOnce jiter := by
  have hd := hs.deltas
  rw [Reassembles, (frames_eq s).1, (frames_eq s).2, hs.finals, hd]
  unfold answers SpokeOnce
  split
  case h_1 answer hp =>
    obtain ⟨init, buffer, hend, htext⟩ := hs.last answer hp
    simp only [List.mem_singleton, forall_eq, endedText, current, hp, hend, List.map_append,
      String.join_append, List.dropLast_concat, ← htext]
    simp [String.append_eq_right_iff, join_eq_empty_iff]
  case h_2 hp =>
    simp [endedText, current, hp, timeoutAnswer]
  case h_3 h₁ h₂ =>
    simp

/-- **The streamed text is the answer's exactly when one attempt has spoken.**  Along every run of
the node whose attempts each stream one growing text. -/
theorem streamed_eq_final_iff (jiter : PartialParser) (toFloat : ToFloat) (guard : BudgetGuard)
    (es : List Event) (s : Visit) (h : exec (step jiter toFloat) (start guard) es = some s)
    (hg : Throughout (step jiter toFloat) (Grows jiter toFloat) (start guard) es) :
    (∀ answer ∈ finalAnswers s.frames, streamed s.frames = answer.text) ↔ s.SpokeOnce jiter :=
  (exec_invariant_of_throughout sent_step hg (start_sent guard) h).reassembles_iff

/-- The streamed prefix, and the arguments of a repaired run: what the incremental parse makes of
the buffers. -/
def repairedParser : PartialParser where
  fromJson := fun buffer =>
    if buffer = "\x7b\"text\": \"Exc" then some (.obj [("text", .str "Exc")])
    else if buffer = "\x7b\"text\": \"Excl\", \"confidence\": 2\x7d" then
      some (.obj [("text", .str "Excl"), ("confidence", .int 2)])
    else if buffer = "\x7b\"text\": \"Excl\", \"confidence\": 1\x7d" then
      some (.obj [("text", .str "Excl"), ("confidence", .int 1)])
    else none
  fromJson_empty := by simp

/-- An integer in a `float` field. -/
def intToFloat : ToFloat
  | .int n => some n
  | _ => none

/-- A call of the answer tool with these arguments. -/
def answerCall (confidence : ℤ) : List Block :=
  [.toolUse TOOL_NAME (.obj [("text", .str "Excl"), ("confidence", .int confidence)])]

/-- One attempt that validates. -/
def firstTime : List Event :=
  [.openStream, .delta (some "\x7b\"text\": \"Exc"), .delta (some "l\", \"confidence\": 1\x7d"),
    .final (answerCall 1) none]

/-- An attempt with a confidence above one, and its repair. -/
def repaired : List Event :=
  [.openStream, .delta (some "\x7b\"text\": \"Exc"), .delta (some "l\", \"confidence\": 2\x7d"),
    .final (answerCall 2) none] ++ firstTime

theorem streamed_eq_final_firstTime :
    ∃ s, exec (step repairedParser intToFloat) (start ⟨50000, 0, by decide⟩) firstTime = some s
      ∧ (finalAnswers s.frames).map FinalAnswer.text = ["Excl"] ∧ streamed s.frames = "Excl" := by
  have hrun : ((exec (step repairedParser intToFloat) (start ⟨50000, 0, by decide⟩) firstTime).map
      fun s => ((finalAnswers s.frames).map FinalAnswer.text, s.ended.dropLast,
        match s.phase with | .answered _ => true | _ => false))
      = some (["Excl"], [], true) := by decide
  obtain ⟨s, hs, hvals⟩ := Option.map_eq_some_iff.mp hrun
  simp only [Prod.mk.injEq] at hvals
  obtain ⟨hfinal, hended, hphase⟩ := hvals
  have hspoke : s.SpokeOnce repairedParser := by
    unfold SpokeOnce
    split at hphase
    case h_1 hp => simp [hp, hended]
    case h_2 => cases hphase
  obtain ⟨answer, ha, htext⟩ := List.mem_map.mp (hfinal ▸ List.mem_singleton_self "Excl")
  have h :=
    (streamed_eq_final_iff repairedParser intToFloat _ firstTime s hs (by decide)).mpr hspoke
  exact ⟨s, hs, hfinal, (h answer ha).trans htext⟩

/-- **The client shows the answer twice over**: what the refused attempt streamed stays. -/
theorem streamed_ne_final :
    ¬ ∀ (es : List Event) (s : Visit),
      exec (step repairedParser intToFloat) (start ⟨50000, 0, by decide⟩) es = some s →
      Throughout (step repairedParser intToFloat) (Grows repairedParser intToFloat)
        (start ⟨50000, 0, by decide⟩) es →
      ∀ answer ∈ finalAnswers s.frames, streamed s.frames = answer.text := by
  intro h
  have hrun : ((exec (step repairedParser intToFloat) (start ⟨50000, 0, by decide⟩) repaired).map
      fun s => ((finalAnswers s.frames).map FinalAnswer.text, streamed s.frames))
      = some (["Excl"], "ExclExcl") := by decide
  obtain ⟨s, hs, hvals⟩ := Option.map_eq_some_iff.mp hrun
  simp only [Prod.mk.injEq] at hvals
  obtain ⟨hfinal, hshown⟩ := hvals
  obtain ⟨answer, ha, htext⟩ := List.mem_map.mp (hfinal ▸ List.mem_singleton_self "Excl")
  have heq := h repaired s hs (by decide) answer ha
  rw [hshown, htext] at heq
  exact absurd heq (by decide)

end Visit

end Agent.Synthesis
