import TaxLiability.Agent.Synthesis
import TaxLiability.Machinery.JsonText
import TaxLiability.Machinery.Lines
import TaxLiability.Machinery.Url
import TaxLiability.Mcp.Tools

/-!
# Agent/Sse — the bridge from the graph's events to the frames of the data stream

    event ──frameOf──▸ 0:delta  |  2:{finalAnswer}  |  nothing
    raised ──errorFrame──▸ 3:{error, detail}           cancelled ──▸ nothing

A frame is a line, and a JSON text is printable ASCII: no payload has a line break to end its line
early, and no channel a colon, so the bytes hold the frames (`eq_of_read`).  The `try` is around the
whole loop, the bridge's own reading of an event included, so an event it cannot read ends the
stream as an exception of the graph would (`raisedIn`).
-/

open Agent.Synthesis (ANSWER_DELTA_EVENT)
open Mcp (truthy)

namespace Agent.Sse

/-! ## Frames -/

/-- Data-stream channel prefixes. -/
def TEXT_CHANNEL : String := "0"
def DATA_CHANNEL : String := "2"
def ERROR_CHANNEL : String := "3"

/-- Error codes emitted on the `3:` channel. -/
def ERROR_RECURSION : String := "recursion_limit"
def ERROR_BUDGET : String := "budget_exceeded"
def ERROR_INTERNAL : String := "internal"

/-- The node whose close carries the answer. -/
def SYNTHESIS_AGENT : String := "synthesis_agent"

/-- **What is emitted**: a payload on a channel. -/
structure Frame where
  channel : String
  payload : Json

/-- **Encode one data-stream frame.** -/
def frame (channel : String) (payload : Json) : List UInt8 :=
  Url.utf8 (channel.toList ++ ':' :: (Json.render payload ++ ['\n']))

/-- The bytes of a stream, concatenated. -/
def wire (frames : List Frame) : List UInt8 := frames.flatMap fun f => frame f.channel f.payload

/-- **Split at newlines, and each line at its first colon.** -/
def read (bytes : List UInt8) : List (List UInt8 × List UInt8) := Lines.parse 58 10 bytes

/-- The two sides of a frame's line. -/
def Frame.text (f : Frame) : List UInt8 × List UInt8 :=
  (Url.utf8 f.channel.toList, Url.utf8 (Json.render f.payload))

/-! ## Reading the bytes back -/

@[simp] theorem utf8_append (s t : List Char) : Url.utf8 (s ++ t) = Url.utf8 s ++ Url.utf8 t :=
  List.flatMap_append

@[simp] theorem utf8_cons (c : Char) (s : List Char) :
    Url.utf8 (c :: s) = String.utf8EncodeChar c ++ Url.utf8 s := List.flatMap_cons

theorem utf8_injective : Function.Injective Url.utf8 :=
  Function.LeftInverse.injective Url.Decoder.strict.decode_utf8

/-- A payload's bytes have no line break. -/
theorem newline_notMem_utf8_render (v : Json) : 10 ∉ Url.utf8 (Json.render v) := by
  intro hmem
  obtain ⟨c, hc, hbyte⟩ := List.mem_flatMap.mp hmem
  obtain ⟨hlow, hhigh⟩ := Json.printable_render v c hc
  rw [Url.utf8EncodeChar_of_isAscii (decide_eq_true (by omega)), List.mem_singleton] at hbyte
  have heq := congrArg UInt8.toNat hbyte
  rw [UInt8.toNat_ofNat', Nat.mod_eq_of_lt (by omega)] at heq
  have : (10 : UInt8).toNat = 10 := rfl
  omega

/-- A channel of the bridge. -/
def IsChannel (channel : String) : Prop :=
  channel = TEXT_CHANNEL ∨ channel = DATA_CHANNEL ∨ channel = ERROR_CHANNEL

theorem wire_eq_format (frames : List Frame) :
    wire frames = Lines.format 58 10 (frames.map Frame.text) := by
  induction frames with
  | nil => rfl
  | cons f frames ih =>
    rw [wire, List.flatMap_cons, List.map_cons, Lines.format, List.flatMap_cons]
    refine congrArg₂ (· ++ ·) ?_ ih
    rw [frame, utf8_append, utf8_cons, utf8_append]
    rfl

/-- **What the client splits off is the text of each frame, in order.** -/
theorem read_wire {frames : List Frame} (h : ∀ f ∈ frames, IsChannel f.channel) :
    read (wire frames) = frames.map Frame.text := by
  rw [wire_eq_format]
  refine Lines.parse_format (by decide) (List.forall_mem_map.mpr fun f hf => ?_)
  refine ⟨?_, ?_, newline_notMem_utf8_render f.payload⟩ <;>
    rcases h f hf with hc | hc | hc <;> simp only [Frame.text, hc] <;> decide

theorem Frame.text_injective : Function.Injective Frame.text := by
  rintro ⟨channel, payload⟩ ⟨channel', payload'⟩ h
  obtain ⟨hchannel, hpayload⟩ := Prod.mk.inj h
  have hchannel : channel = channel' := String.toList_inj.mp (utf8_injective hchannel)
  have hpayload : payload = payload' := Json.render_injective (utf8_injective hpayload)
  rw [hchannel, hpayload]

/-- **…and it is the text of no other frames.** -/
theorem eq_of_read {frames : List Frame} (h : ∀ f ∈ frames, IsChannel f.channel)
    (frames' : List Frame) : read (wire frames) = frames'.map Frame.text ↔ frames' = frames := by
  rw [read_wire h, Function.Injective.eq_iff (List.map_injective_iff.mpr Frame.text_injective),
    eq_comm]

/-! ## The events -/

/-- What an event carries; a payload is any JSON value. -/
inductive GraphEvent
  /-- `on_custom_event` -/
  | customEvent (name : String) (data : Json)
  /-- `on_chat_model_stream`, with the `content` of its chunk, if that has one -/
  | chatModelStream (content : Option Json)
  /-- `on_chain_end` -/
  | chainEnd (name : String) (output : Json)
  /-- any other kind -/
  | other (event : String)

/-- What `json.loads` raises: a `ValueError`, or another exception such as the one for a text nested
too deep. -/
inductive LoadsError
  | valueError
  | other (detail : String)

/-- What the bridge uses of its language. -/
structure Library where
  loads : String → Except LoadsError Json
  str : Json → String

/-- The language's name for the type of a value. -/
def typeName : Json → String
  | .null => "NoneType"
  | .bool _ => "bool"
  | .int _ => "int"
  | .float _ => "float"
  | .str _ => "str"
  | .arr _ => "list"
  | .obj _ => "dict"

/-- The text of the exception for a value that has no `get`. -/
def noGet (v : Json) : String := "'" ++ typeName v ++ "' object has no attribute 'get'"

/-- `(ev.get("data") or {}).get("delta")`; the error is the text of the exception. -/
def deltaOf (data : Json) : Except String (Option Json) :=
  if truthy data then
    match data with
    | .obj fields => .ok (Dict.get? fields "delta")
    | v => .error (noGet v)
  else .ok none

/-- A text frame, unless there is nothing to show. -/
def textFrame (delta : Option Json) : Option Frame :=
  (delta.filter truthy).map (Frame.mk TEXT_CHANNEL)

/-- The text-only payload a malformed answer is degraded into. -/
def degraded (L : Library) (raw : Json) : Json :=
  .obj [("text", .str (L.str raw)), ("citations", .arr []), ("confidence", .float Mcp.zeroScore)]

/-- A parsed answer, if it is an object. -/
def asObject : Json → Option Json
  | .obj fields => some (.obj fields)
  | _ => none

/-- **`_final_answer_payload`.** -/
def finalAnswerPayload (L : Library) : Json → Except String (Option Json)
  | .obj output =>
    match (Dict.get? output "answer").filter truthy with
    | none => .ok none
    | some (.str raw) =>
      match L.loads raw with
      | .ok parsed => .ok (asObject parsed)
      | .error .valueError => .ok (some (degraded L (.str raw)))
      | .error (.other detail) => .error detail
    -- a `TypeError`: what is parsed is a text
    | some raw => .ok (some (degraded L raw))
  | _ => .ok none

/-- The frame of an answer. -/
def dataFrame (payload : Json) : Frame := ⟨DATA_CHANNEL, .obj [("finalAnswer", payload)]⟩

/-- **The frame of one event**, if it has one. -/
def frameOf (L : Library) : GraphEvent → Except String (Option Frame)
  | .customEvent name data =>
    if name = ANSWER_DELTA_EVENT then (deltaOf data).map textFrame else .ok none
  | .chatModelStream content => .ok (textFrame content)
  | .chainEnd name output =>
    if name = SYNTHESIS_AGENT then (finalAnswerPayload L output).map (Option.map dataFrame)
    else .ok none
  | .other _ => .ok none

/-! ## The stream -/

/-- What is raised. -/
inductive Raised
  | graphRecursionError (detail : String)
  | budgetExceeded (detail : String)
  /-- any other `Exception` -/
  | exception (detail : String)
  /-- a cancellation, or another exception that is no `Exception` -/
  | baseException

/-- **The loop over the events**: what it yields, and what ends it early. -/
def bridge (L : Library) : List GraphEvent → Option Raised → List Frame × Option Raised
  | [], ended => ([], ended)
  | ev :: events, ended =>
    match frameOf L ev with
    | .error detail => ([], some (.exception detail))
    | .ok emitted => ((emitted.toList ++ (bridge L events ended).1), (bridge L events ended).2)

def errorPayload (code detail : String) : Json :=
  .obj [("error", .str code), ("detail", .str detail)]

/-- **The three handlers.** -/
def errorFrame : Raised → Option Frame
  | .graphRecursionError detail => some ⟨ERROR_CHANNEL, errorPayload ERROR_RECURSION detail⟩
  | .budgetExceeded detail => some ⟨ERROR_CHANNEL, errorPayload ERROR_BUDGET detail⟩
  | .exception detail => some ⟨ERROR_CHANNEL, errorPayload ERROR_INTERNAL detail⟩
  | .baseException => none

/-- **`event_stream`**, over the events of a run and what the graph raised at their end. -/
def eventStream (L : Library) (events : List GraphEvent) (ended : Option Raised) : List Frame :=
  let (frames, raised) := bridge L events ended
  frames ++ (raised.bind errorFrame).toList

/-! ## What ends the loop -/

/-- **An event the bridge cannot read**: a delta event whose data has no fields, or an answer that
cannot be parsed for another reason than being malformed. -/
inductive Unreadable (L : Library) : GraphEvent → Prop
  | delta {data : Json} (htruthy : truthy data) (hdict : ∀ fields, data ≠ .obj fields) :
      Unreadable L (.customEvent ANSWER_DELTA_EVENT data)
  | answer {output : Json.Fields} {raw detail : String}
      (hanswer : Dict.get? output "answer" = some (.str raw)) (hraw : raw ≠ "")
      (hloads : L.loads raw = .error (.other detail)) :
      Unreadable L (.chainEnd SYNTHESIS_AGENT (.obj output))

/-- The text of the exception that reading an event raises, if it does. -/
def fault (L : Library) (ev : GraphEvent) : Option String :=
  match frameOf L ev with
  | .error detail => some detail
  | .ok _ => none

/-- **What ends the loop early**: the exception of the first event that cannot be read, and else the
graph's. -/
def raisedIn (L : Library) (events : List GraphEvent) (ended : Option Raised) : Option Raised :=
  ((events.findSome? (fault L)).map Raised.exception).or ended

variable {L : Library} {events : List GraphEvent} {ended : Option Raised}

theorem deltaOf_error_iff {data : Json} :
    (∃ detail, deltaOf data = .error detail) ↔ truthy data ∧ ∀ fields, data ≠ .obj fields := by
  cases data <;> simp [deltaOf]
  all_goals split <;> simp_all

/-- Parsing an answer raises nothing but what is no parse error. -/
theorem finalAnswerPayload_error_iff {output : Json} :
    (∃ detail, finalAnswerPayload L output = .error detail) ↔ ∃ fields raw detail,
      output = .obj fields ∧ Dict.get? fields "answer" = some (.str raw) ∧ raw ≠ ""
        ∧ L.loads raw = .error (.other detail) := by
  constructor
  · rintro ⟨detail, h⟩
    unfold finalAnswerPayload at h
    split at h
    case h_2 => cases h
    case h_1 fields =>
      split at h
      case h_1 => cases h
      case h_3 => cases h
      case h_2 raw hraw =>
        obtain ⟨hanswer, htruthy⟩ := Option.filter_eq_some_iff.mp hraw
        split at h
        case h_1 => cases h
        case h_2 => cases h
        case h_3 detail' hloads =>
          exact ⟨fields, raw, detail', rfl, hanswer, by simpa [truthy] using htruthy, hloads⟩
  · rintro ⟨fields, raw, detail, rfl, hanswer, hraw, hloads⟩
    have htruthy : truthy (.str raw) = true := by simpa [truthy] using hraw
    have hfilter : (Dict.get? fields "answer").filter truthy = some (.str raw) :=
      Option.filter_eq_some_iff.mpr ⟨hanswer, htruthy⟩
    exact ⟨detail, by simp only [finalAnswerPayload, hfilter, hloads]⟩

theorem frameOf_delta (data : Json) :
    frameOf L (.customEvent ANSWER_DELTA_EVENT data) = (deltaOf data).map textFrame := by
  rw [frameOf, if_pos rfl]

theorem frameOf_answer (output : Json) : frameOf L (.chainEnd SYNTHESIS_AGENT output)
    = (finalAnswerPayload L output).map (Option.map dataFrame) := by
  rw [frameOf, if_pos rfl]

/-- **How an event is read**: three kinds of events may have a frame. -/
theorem frameOf_cases (ev : GraphEvent) :
    (∃ data, ev = .customEvent ANSWER_DELTA_EVENT data
        ∧ frameOf L ev = (deltaOf data).map textFrame)
      ∨ (∃ content, frameOf L ev = .ok (textFrame content))
      ∨ (∃ output, ev = .chainEnd SYNTHESIS_AGENT output
        ∧ frameOf L ev = (finalAnswerPayload L output).map (Option.map dataFrame))
      ∨ frameOf L ev = .ok none := by
  cases ev with
  | customEvent name data =>
    by_cases hname : name = ANSWER_DELTA_EVENT
    · subst hname
      exact .inl ⟨data, rfl, frameOf_delta data⟩
    · exact .inr (.inr (.inr (if_neg hname)))
  | chatModelStream content => exact .inr (.inl ⟨content, rfl⟩)
  | chainEnd name output =>
    by_cases hname : name = SYNTHESIS_AGENT
    · subst hname
      exact .inr (.inr (.inl ⟨output, rfl, frameOf_answer output⟩))
    · exact .inr (.inr (.inr (if_neg hname)))
  | other event => exact .inr (.inr (.inr rfl))

theorem fault_isSome_iff {ev : GraphEvent} :
    (fault L ev).isSome ↔ ∃ detail, frameOf L ev = .error detail := by
  unfold fault
  split <;> simp_all

/-- **Reading an event raises exactly on those that cannot be read.** -/
theorem fault_isSome_iff_unreadable {ev : GraphEvent} :
    (fault L ev).isSome ↔ Unreadable L ev := by
  rw [fault_isSome_iff]
  constructor
  · rintro ⟨detail, h⟩
    obtain ⟨data, rfl, heq⟩ | ⟨content, heq⟩ | ⟨output, rfl, heq⟩ | heq :=
      frameOf_cases (L := L) ev
    · obtain ⟨htruthy, hdict⟩ :=
        deltaOf_error_iff.mp ⟨detail, Machine.map_eq_error.mp (heq.symm.trans h)⟩
      exact .delta htruthy hdict
    · cases heq.symm.trans h
    · obtain ⟨fields, raw, detail, rfl, hanswer, hraw, hloads⟩ :=
        finalAnswerPayload_error_iff.mp ⟨detail, Machine.map_eq_error.mp (heq.symm.trans h)⟩
      exact .answer hanswer hraw hloads
    · cases heq.symm.trans h
  · rintro (⟨htruthy, hdict⟩ | ⟨hanswer, hraw, hloads⟩)
    · obtain ⟨detail, h⟩ := deltaOf_error_iff.mpr ⟨htruthy, hdict⟩
      exact ⟨detail, (frameOf_delta _).trans (Machine.map_eq_error.mpr h)⟩
    · obtain ⟨detail, h⟩ := finalAnswerPayload_error_iff.mpr
        ⟨_, _, _, rfl, hanswer, hraw, hloads⟩
      exact ⟨detail, (frameOf_answer _).trans (Machine.map_eq_error.mpr h)⟩

theorem bridge_snd : (bridge L events ended).2 = raisedIn L events ended := by
  induction events with
  | nil => rfl
  | cons ev events ih =>
    rw [bridge, raisedIn, List.findSome?_cons, fault]
    cases frameOf L ev with
    | error detail => rfl
    | ok emitted => exact ih

/-- A frame of an event is on the text or the data channel. -/
theorem channel_of_frameOf {ev : GraphEvent} {f : Frame} (h : frameOf L ev = .ok (some f)) :
    f.channel = TEXT_CHANNEL ∨ f.channel = DATA_CHANNEL := by
  have htext : ∀ delta, textFrame delta = some f → f.channel = TEXT_CHANNEL := by
    intro delta h
    obtain ⟨v, -, rfl⟩ := Option.map_eq_some_iff.mp h
    rfl
  obtain ⟨data, -, heq⟩ | ⟨content, heq⟩ | ⟨output, -, heq⟩ | heq := frameOf_cases (L := L) ev
  · obtain ⟨delta, -, hdelta⟩ := Machine.map_eq_ok.mp (heq.symm.trans h)
    exact .inl (htext delta hdelta)
  · exact .inl (htext content (Except.ok.inj (heq.symm.trans h)))
  · obtain ⟨payload, -, hpayload⟩ := Machine.map_eq_ok.mp (heq.symm.trans h)
    obtain ⟨v, -, rfl⟩ := Option.map_eq_some_iff.mp hpayload
    exact .inr rfl
  · cases heq.symm.trans h

/-- **The loop yields nothing on the error channel.** -/
theorem channel_of_mem_bridge {f : Frame} (h : f ∈ (bridge L events ended).1) :
    f.channel = TEXT_CHANNEL ∨ f.channel = DATA_CHANNEL := by
  induction events with
  | nil => cases h
  | cons ev events ih =>
    rw [bridge] at h
    cases hframe : frameOf L ev with
    | error detail => simp [hframe] at h
    | ok emitted =>
      rw [hframe] at h
      rcases List.mem_append.mp h with h | h
      · obtain rfl : emitted = some f := by simpa using h
        exact channel_of_frameOf hframe
      · exact ih h

theorem isChannel_of_mem_bridge {f : Frame} (h : f ∈ (bridge L events ended).1) :
    f.channel ≠ ERROR_CHANNEL ∧ IsChannel f.channel := by
  rcases channel_of_mem_bridge h with hc | hc
  · exact ⟨by rw [hc]; decide, .inl hc⟩
  · exact ⟨by rw [hc]; decide, .inr (.inl hc)⟩

/-- An error frame is on the error channel. -/
theorem channel_of_errorFrame {e : Raised} {f : Frame} (h : errorFrame e = some f) :
    f.channel = ERROR_CHANNEL := by
  cases e <;> cases h <;> rfl

/-! ## What a client receives -/

/-- **The error frame that is due**, if a client that asks for so many frames gets to it. -/
def due (L : Library) (events : List GraphEvent) (ended : Option Raised) (asked : ℕ) :
    Option Frame :=
  if (bridge L events ended).1.length < asked then (raisedIn L events ended).bind errorFrame
  else none

/-- The frames of the events, as far as they are asked for, and then the error's. -/
theorem take_eventStream (asked : ℕ) : (eventStream L events ended).take asked
    = (bridge L events ended).1.take asked ++ (due L events ended asked).toList := by
  rw [eventStream, List.take_append, bridge_snd, due]
  split
  case isTrue h =>
    cases (raisedIn L events ended).bind errorFrame with
    | none => simp
    | some f =>
      have hroom : [f].length ≤ asked - (bridge L events ended).1.length :=
        Nat.le_sub_of_add_le' h
      rw [Option.toList_some, List.take_of_length_le hroom]
  case isFalse h => rw [Nat.sub_eq_zero_of_le (Nat.le_of_not_lt h), List.take_zero]; rfl

/-- All frames but the last are those of the events. -/
theorem mem_bridge_of_mem_dropLast {asked : ℕ} {f : Frame}
    (h : f ∈ ((eventStream L events ended).take asked).dropLast) :
    f ∈ (bridge L events ended).1 := by
  rw [take_eventStream] at h
  cases hdue : due L events ended asked with
  | none =>
    rw [hdue, Option.toList_none, List.append_nil] at h
    exact List.mem_of_mem_take (List.mem_of_mem_dropLast h)
  | some g =>
    rw [hdue, Option.toList_some, List.dropLast_concat] at h
    exact List.mem_of_mem_take h

/-- What is due is an error frame, and due to an exception. -/
theorem due_eq_some_iff {asked : ℕ} {f : Frame} : due L events ended asked = some f ↔
    (bridge L events ended).1.length < asked
      ∧ ∃ e, raisedIn L events ended = some e ∧ errorFrame e = some f := by
  rw [due]
  split <;> simp_all [Option.bind_eq_some_iff]

/-- **The error frames a client receives are the one that is due.** -/
theorem mem_take_iff {asked : ℕ} {f : Frame} :
    (f ∈ (eventStream L events ended).take asked ∧ f.channel = ERROR_CHANNEL)
      ↔ due L events ended asked = some f := by
  rw [take_eventStream, List.mem_append, Option.mem_toList]
  constructor
  · rintro ⟨hmem | hdue, hchannel⟩
    · exact absurd hchannel (isChannel_of_mem_bridge (List.mem_of_mem_take hmem)).1
    · exact hdue
  · intro hdue
    obtain ⟨-, e, -, hframe⟩ := due_eq_some_iff.mp hdue
    exact ⟨.inr hdue, channel_of_errorFrame hframe⟩

/-- A frame on the error channel with a code. -/
def Frame.HasCode (f : Frame) (code : String) : Prop :=
  f.channel = ERROR_CHANNEL ∧ ∃ detail, f.payload = errorPayload code detail

/-- The codes of the three handlers are apart. -/
theorem errorFrame_code {e : Raised} {f : Frame} (h : errorFrame e = some f) :
    (f.HasCode ERROR_RECURSION ↔ ∃ detail, e = .graphRecursionError detail)
      ∧ (f.HasCode ERROR_BUDGET ↔ ∃ detail, e = .budgetExceeded detail)
      ∧ (f.HasCode ERROR_INTERNAL ↔ ∃ detail, e = .exception detail) := by
  have hapart : ERROR_RECURSION ≠ ERROR_BUDGET ∧ ERROR_RECURSION ≠ ERROR_INTERNAL
      ∧ ERROR_BUDGET ≠ ERROR_INTERNAL := by decide
  cases e <;> cases h <;>
    simp [Frame.HasCode, errorPayload, hapart, hapart.1.symm, hapart.2.1.symm, hapart.2.2.symm]

/-- **What a client that asks for so many frames receives**, of a run over these events that the
graph ends so. -/
structure Disciplined (L : Library) (events : List GraphEvent) (ended : Option Raised)
    (asked : ℕ) (emitted : List Frame) : Prop where
  /-- Splitting the bytes gives these frames, and no others. -/
  recovered : ∀ frames, read (wire emitted) = frames.map Frame.text ↔ frames = emitted
  /-- Only the last frame is an error. -/
  last : ∀ f ∈ emitted.dropLast, f.channel ≠ ERROR_CHANNEL
  /-- There is one exactly when an `Exception` ended the loop and the client is there for it. -/
  present : (∃ f ∈ emitted, f.channel = ERROR_CHANNEL) ↔
    (bridge L events ended).1.length < asked
      ∧ ∃ e, raisedIn L events ended = some e ∧ e ≠ .baseException
  /-- Its code tells the two types apart, from each other and from the rest. -/
  recursion : ∀ f ∈ emitted, f.channel = ERROR_CHANNEL →
    (f.HasCode ERROR_RECURSION ↔
      ∃ detail, raisedIn L events ended = some (.graphRecursionError detail))
  budget : ∀ f ∈ emitted, f.channel = ERROR_CHANNEL →
    (f.HasCode ERROR_BUDGET ↔
      ∃ detail, raisedIn L events ended = some (.budgetExceeded detail))
  internal : ∀ f ∈ emitted, f.channel = ERROR_CHANNEL →
    (f.HasCode ERROR_INTERNAL ↔ ∃ detail, raisedIn L events ended = some (.exception detail))

/-- Every exception but a cancellation has a frame. -/
theorem exists_errorFrame_iff {e : Raised} : (∃ f, errorFrame e = some f) ↔ e ≠ .baseException := by
  cases e <;> simp [errorFrame]

theorem disciplined (asked : ℕ) :
    Disciplined L events ended asked ((eventStream L events ended).take asked) := by
  have hcode : ∀ f ∈ (eventStream L events ended).take asked, f.channel = ERROR_CHANNEL →
      ∃ e, raisedIn L events ended = some e ∧ errorFrame e = some f := by
    intro f hf hchannel
    exact (due_eq_some_iff.mp (mem_take_iff.mp ⟨hf, hchannel⟩)).2
  refine ⟨eq_of_read fun f hf => ?_, ?_, ?_, fun f hf hchannel => ?_, fun f hf hchannel => ?_,
    fun f hf hchannel => ?_⟩
  · rw [take_eventStream] at hf
    rcases List.mem_append.mp hf with hmem | hdue
    · exact (isChannel_of_mem_bridge (List.mem_of_mem_take hmem)).2
    · obtain ⟨-, e, -, hframe⟩ := due_eq_some_iff.mp (Option.mem_toList.mp hdue)
      exact .inr (.inr (channel_of_errorFrame hframe))
  · exact fun f hf => (isChannel_of_mem_bridge (mem_bridge_of_mem_dropLast hf)).1
  · simp only [mem_take_iff, due_eq_some_iff, ← exists_errorFrame_iff]
    constructor
    · rintro ⟨f, hasked, e, he, hframe⟩
      exact ⟨hasked, e, he, f, hframe⟩
    · rintro ⟨hasked, e, he, f, hframe⟩
      exact ⟨f, hasked, e, he, hframe⟩
  all_goals
    obtain ⟨e, he, hframe⟩ := hcode f hf hchannel
    simp only [he, Option.some.injEq]
  · exact (errorFrame_code hframe).1
  · exact (errorFrame_code hframe).2.1
  · exact (errorFrame_code hframe).2.2

/-- An event that cannot be read ends the loop with an exception. -/
theorem raisedIn_of_unreadable (h : ∃ ev ∈ events, Unreadable L ev) :
    ∃ detail, raisedIn L events ended = some (.exception detail) := by
  obtain ⟨ev, hmem, hev⟩ := h
  have hsome : (events.findSome? (fault L)).isSome :=
    List.findSome?_isSome_iff.mpr ⟨ev, hmem, fault_isSome_iff_unreadable.mpr hev⟩
  obtain ⟨detail, hdetail⟩ := Option.isSome_iff_exists.mp hsome
  exact ⟨detail, by rw [raisedIn, hdetail]; rfl⟩

/-- …and where all can be, what ends it is the graph's. -/
theorem raisedIn_of_readable (h : ¬ ∃ ev ∈ events, Unreadable L ev) :
    raisedIn L events ended = ended := by
  have hnone : events.findSome? (fault L) = none := by
    rw [List.findSome?_eq_none_iff]
    intro ev hmem
    rw [← Option.not_isSome_iff_eq_none, fault_isSome_iff_unreadable]
    exact fun hev => h ⟨ev, hmem, hev⟩
  rw [raisedIn, hnone]
  rfl

/-- **The discipline of the stream**: its bytes hold the frames emitted, and an error frame is the
last of them, there exactly when an exception other than a cancellation ended the loop, and coded by
its type.  That exception is the graph's unless the bridge could not read an event. -/
theorem event_stream_discipline (L : Library) (events : List GraphEvent) (ended : Option Raised)
    (asked : ℕ) :
    Disciplined L events ended asked ((eventStream L events ended).take asked)
      ∧ ((∃ ev ∈ events, Unreadable L ev) →
          ∃ detail, raisedIn L events ended = some (.exception detail))
      ∧ ((¬ ∃ ev ∈ events, Unreadable L ev) → raisedIn L events ended = ended) :=
  ⟨disciplined asked, raisedIn_of_unreadable, raisedIn_of_readable⟩

/-- A library that parses nothing. -/
def noParser : Library := ⟨fun _ => .error .valueError, fun _ => ""⟩

/-- **The graph raises nothing and the stream ends in an error**: the data of a delta event is a
text. -/
theorem error_without_exception :
    ¬ ∀ (L : Library) (events : List GraphEvent) (ended : Option Raised),
      (∃ f ∈ eventStream L events ended, f.channel = ERROR_CHANNEL) ↔
        ∃ e, ended = some e ∧ e ≠ .baseException := by
  intro h
  have herror := (h noParser [.customEvent ANSWER_DELTA_EVENT (.str "thirteen")] none).mp
    ⟨⟨ERROR_CHANNEL, errorPayload ERROR_INTERNAL (noGet (.str "thirteen"))⟩,
      by simp [eventStream, bridge, frameOf, deltaOf, truthy, errorFrame, Except.map], rfl⟩
  obtain ⟨e, he, -⟩ := herror
  cases he

end Agent.Sse
