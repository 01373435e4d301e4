import TaxLiability.Lambda.TaxpayerRecord
import TaxLiability.Machinery.JsonText
import TaxLiability.Machinery.Url

/-!
# Lambda/TaxpayerLookupHandler — a request for a taxpayer, and its answer

    event ──path──▸ id ──getItem──▸ item ──fromItem──▸ record ──▸ 200
              └▸ 400         └▸ 500, 404      └▸ 500      └▸ 500
    event ──headers──▸ correlation id, or the request's own ──▸ every answer

Nothing that is thrown leaves the handler: the lookup is caught as a whole, and so is the writing of
the record.  The id is settled before anything can fail (`handleRequest_answers`).
-/

open Machine

namespace Java

/-- A character as `equalsIgnoreCase` takes it to be, next to a letter of ASCII: four letters of
other scripts have one of ASCII for their upper or lower case. -/
def foldCase (c : Char) : Char :=
  if c = '\u0130' ∨ c = '\u0131' then 'i' else if c = '\u017F' then 's'
  else if c = '\u212A' then 'k' else c.toLower

/-- **`String.equalsIgnoreCase`** of a text of ASCII and another. -/
def equalsIgnoreCase (ascii s : String) : Bool := ascii.toList.map foldCase = s.toList.map foldCase

end Java

namespace Lambda

/-! ## Requests and answers -/

/-- **An event**: its maps may be missing, and so may be their keys and values. -/
structure HttpEvent where
  pathParameters : Option (Dict (Option String) (Option String))
  headers : Option (Dict (Option String) (Option String))

structure Context where
  awsRequestId : Option String

structure HttpResponse where
  statusCode : ℕ
  headers : Dict String String
  body : String
  deriving DecidableEq

/-- What the table answers; without an item, an empty map. -/
structure GetItemResponse where
  hasItem : Bool
  item : Item

/-- A `RuntimeException`. -/
inductive RuntimeException
  | illegalState (message : String)
  /-- thrown while an item is read -/
  | reading (e : Thrown)
  /-- anything the client throws -/
  | client (message : String)
  deriving DecidableEq, Repr

/-- **What the handler is built with**: the client, by what `getItem` makes of a table and an id,
and the name of the table. -/
structure TaxpayerLookupHandler where
  dynamo : Option (String → String → Except RuntimeException GetItemResponse)
  tableName : Option String

/-- **The object mapper**: a record it may fail to write; a map of texts is written, and read back
as it was. -/
structure ObjectMapper where
  writeRecord : TaxpayerRecord → Option String
  writeTexts : Dict String String → Option String
  readTexts : String → Option (Dict String String)
  readTexts_writeTexts : ∀ payload, (writeTexts payload).bind readTexts = some payload

/-! ## The correlation id -/

def CORRELATION_ID_HEADER : String := "x-correlation-id"

def MAX_CORRELATION_ID_LENGTH : ℕ := 128

/-- The characters an id may have: letters and digits of ASCII, and eight signs. -/
def isAllowed (c : Char) : Bool :=
  c.isAlphanum || c ∈ ['_', '.', ':', '@', '=', '+', '/', '-']

/-- **`sanitiseCorrelationId`.** -/
def sanitiseCorrelationId (raw : String) : Option String :=
  let cleaned := raw.toList.filter isAllowed
  let cleaned := String.ofList
    (if MAX_CORRELATION_ID_LENGTH < cleaned.length then cleaned.take MAX_CORRELATION_ID_LENGTH
    else cleaned)
  if Java.IsBlank cleaned then none else some cleaned

/-- **`findCorrelationHeader`**: the first header of the name, even if it has no value. -/
def findCorrelationHeader (headers : Dict (Option String) (Option String)) : Option String :=
  (headers.find? fun entry => entry.1.any (Java.equalsIgnoreCase CORRELATION_ID_HEADER)).bind (·.2)

/-- The id that comes from the event's headers. -/
def fromHeader (event : Option HttpEvent) : Option String :=
  ((event.bind HttpEvent.headers).bind findCorrelationHeader).bind sanitiseCorrelationId

/-- **`resolveCorrelationId`.** -/
def resolveCorrelationId (event : Option HttpEvent) (ctx : Option Context) : String :=
  match (fromHeader event).filter fun id => ¬ Java.IsBlank id with
  | some id => id
  | none =>
    match ctx.bind Context.awsRequestId with
    | some requestId => if Java.IsBlank requestId then "no-context" else requestId
    | none => "no-context"

/-! ## The lookup -/

variable (J : ObjectMapper) (parse : String → Option Java.Instant)

/-- **`errorResponse`.** -/
def errorResponse (status : ℕ) (msg correlationId : String) : HttpResponse where
  statusCode := status
  headers := [("Content-Type", "application/json"), (CORRELATION_ID_HEADER, correlationId)]
  body := (J.writeTexts [("error", msg), ("correlationId", correlationId)]).getD
    "\x7b\"error\":\"internal error\"\x7d"

/-- **`loadFromDynamo`**: none if the table has no such item. -/
def loadFromDynamo (handler : TaxpayerLookupHandler) (id : String) :
    Except RuntimeException (Option TaxpayerRecord) :=
  match handler.tableName.filter fun name => ¬ Java.IsBlank name with
  | none => .error (.illegalState "TAXPAYERS_TABLE env var is not set")
  | some tableName =>
    match handler.dynamo with
    | none =>
      .error (.illegalState "no DynamoDB client: AWS region could not be resolved at INIT")
    | some getItem =>
      (getItem tableName id).bind fun resp =>
        if ¬ resp.hasItem ∨ resp.item = [] then .ok none
        else ((TaxpayerRecord.fromItem parse resp.item).map some).mapError .reading

/-- **`handleRequestInternal`.** -/
def handleRequestInternal (handler : TaxpayerLookupHandler) (event : Option HttpEvent)
    (correlationId : String) : Except RuntimeException HttpResponse :=
  let taxpayerId := (event.bind HttpEvent.pathParameters).bind fun p =>
    (p.get? (some "taxpayerId")).join
  match taxpayerId.filter fun id => ¬ Java.IsBlank id with
  | none => .ok (errorResponse J 400 "missing taxpayerId path parameter" correlationId)
  | some taxpayerId =>
    match loadFromDynamo parse handler taxpayerId with
    -- every `RuntimeException` is caught here
    | .error _ => .ok (errorResponse J 500 "taxpayer lookup failed" correlationId)
    | .ok none => .ok (errorResponse J 404 "taxpayer not found" correlationId)
    | .ok (some record) =>
      match J.writeRecord record with
      | some body => .ok ⟨200, [("Content-Type", "application/json"),
          (CORRELATION_ID_HEADER, correlationId)], body⟩
      -- and every exception of the mapper here
      | none => .ok (errorResponse J 500 "serialisation failure" correlationId)

/-- **`handleRequest`.** -/
def handleRequest (handler : TaxpayerLookupHandler) (event : Option HttpEvent)
    (ctx : Option Context) : Except RuntimeException HttpResponse :=
  handleRequestInternal J parse handler event (resolveCorrelationId event ctx)

/-! ## The property -/

/-- **An answer**: its status is one of four, it has an id that is not blank, an error's body names
that id, and an id taken from the request is allowed. -/
structure Answers (event : Option HttpEvent) (ctx : Option Context) (response : HttpResponse) :
    Prop where
  status : response.statusCode ∈ [200, 400, 404, 500]
  header : response.headers.get? CORRELATION_ID_HEADER = some (resolveCorrelationId event ctx)
  notBlank : ¬ Java.IsBlank (resolveCorrelationId event ctx)
  error_body : response.statusCode ≠ 200 →
    (J.readTexts response.body).bind (·.get? "correlationId")
      = response.headers.get? CORRELATION_ID_HEADER
  from_header : ∀ id, fromHeader event = some id → resolveCorrelationId event ctx = id
    ∧ (∀ c ∈ id.toList, isAllowed c) ∧ Java.length id ≤ MAX_CORRELATION_ID_LENGTH

variable {J parse}

/-! ## The id -/

/-- **What is left of a header value** is allowed, short and not blank. -/
theorem of_sanitise {raw id : String} (h : sanitiseCorrelationId raw = some id) :
    (∀ c ∈ id.toList, isAllowed c) ∧ id.toList.length ≤ MAX_CORRELATION_ID_LENGTH
      ∧ ¬ Java.IsBlank id := by
  simp only [sanitiseCorrelationId] at h
  split_ifs at h with hlong hblank hblank
  · cases h
    rw [String.toList_ofList]
    refine ⟨fun c hc => ?_, List.length_take_le _ _, hblank⟩
    exact (List.mem_filter.mp (List.mem_of_mem_take hc)).2
  · cases h
    rw [String.toList_ofList]
    exact ⟨fun c hc => (List.mem_filter.mp hc).2, not_lt.mp hlong, hblank⟩

theorem isAllowed_ascii {c : Char} (h : isAllowed c) : c.toNat < 128 := by
  have hsign : ∀ d ∈ ['_', '.', ':', '@', '=', '+', '/', '-'], d.toNat < 128 :=
    Url.forall_of_all (by decide)
  rw [isAllowed, Bool.or_eq_true, decide_eq_true_eq] at h
  rcases h with h | h
  · have := Url.toNat_of_isAlphanum h
    omega
  · exact hsign c h

theorem of_fromHeader {event : Option HttpEvent} {id : String} (h : fromHeader event = some id) :
    (∀ c ∈ id.toList, isAllowed c) ∧ Java.length id ≤ MAX_CORRELATION_ID_LENGTH
      ∧ ¬ Java.IsBlank id := by
  obtain ⟨raw, -, hraw⟩ := Option.bind_eq_some_iff.mp h
  obtain ⟨hallowed, hlength, hblank⟩ := of_sanitise hraw
  refine ⟨hallowed, ?_, hblank⟩
  rwa [Java.length_eq_of_ascii fun c hc => (isAllowed_ascii (hallowed c hc)).trans (by decide)]

theorem resolve_of_fromHeader {event : Option HttpEvent} (ctx : Option Context) {id : String}
    (h : fromHeader event = some id) : resolveCorrelationId event ctx = id := by
  have hkept : (fromHeader event).filter (fun id => ¬ Java.IsBlank id) = some id := by
    rw [h, Option.filter_some, if_pos (decide_eq_true (of_fromHeader h).2.2)]
  rw [resolveCorrelationId, hkept]

/-- **The id is never blank.** -/
theorem resolve_notBlank (event : Option HttpEvent) (ctx : Option Context) :
    ¬ Java.IsBlank (resolveCorrelationId event ctx) := by
  have hnoContext : ¬ Java.IsBlank "no-context" := by decide
  unfold resolveCorrelationId
  split
  · next id h => exact of_decide_eq_true (Option.filter_eq_some_iff.mp h).2
  · split
    · split_ifs with hblank
      · exact hnoContext
      · exact hblank
    · exact hnoContext

/-! ## The answers -/

/-- **An error's body names the id of its header.** -/
theorem errorResponse_body (status : ℕ) (msg correlationId : String) :
    (J.readTexts (errorResponse J status msg correlationId).body).bind (·.get? "correlationId")
      = (errorResponse J status msg correlationId).headers.get? CORRELATION_ID_HEADER := by
  obtain ⟨body, hbody, hread⟩ := Option.bind_eq_some_iff.mp
    (J.readTexts_writeTexts [("error", msg), ("correlationId", correlationId)])
  simp [errorResponse, hbody, hread, Dict.get?_cons, CORRELATION_ID_HEADER]

theorem answers_errorResponse (event : Option HttpEvent) (ctx : Option Context) {status : ℕ}
    (hstatus : status ∈ [200, 400, 404, 500]) (msg : String) :
    Answers J event ctx (errorResponse J status msg (resolveCorrelationId event ctx)) where
  status := hstatus
  header := by simp [errorResponse, Dict.get?_cons, CORRELATION_ID_HEADER]
  notBlank := resolve_notBlank event ctx
  error_body _ := errorResponse_body status msg _
  from_header _ h := ⟨resolve_of_fromHeader ctx h, (of_fromHeader h).1, (of_fromHeader h).2.1⟩

theorem answers_record (event : Option HttpEvent) (ctx : Option Context) (body : String) :
    Answers J event ctx ⟨200, [("Content-Type", "application/json"),
      (CORRELATION_ID_HEADER, resolveCorrelationId event ctx)], body⟩ where
  status := by simp
  header := by simp [Dict.get?_cons, CORRELATION_ID_HEADER]
  notBlank := resolve_notBlank event ctx
  error_body h := absurd rfl h
  from_header _ h := ⟨resolve_of_fromHeader ctx h, (of_fromHeader h).1, (of_fromHeader h).2.1⟩

/-- **The handler always answers**, whatever the event, the context, the configuration and the
table are. -/
theorem handleRequest_answers (J : ObjectMapper) (parse : String → Option Java.Instant)
    (handler : TaxpayerLookupHandler) (event : Option HttpEvent) (ctx : Option Context) :
    ∃ response, handleRequest J parse handler event ctx = .ok response
      ∧ Answers J event ctx response := by
  unfold handleRequest handleRequestInternal
  dsimp only
  split
  · exact ⟨_, rfl, answers_errorResponse event ctx (by decide) _⟩
  · split
    · exact ⟨_, rfl, answers_errorResponse event ctx (by decide) _⟩
    · exact ⟨_, rfl, answers_errorResponse event ctx (by decide) _⟩
    · split
      · exact ⟨_, rfl, answers_record event ctx _⟩
      · exact ⟨_, rfl, answers_errorResponse event ctx (by decide) _⟩

/-! ## A lookup -/

/-- A text in JSON. -/
def jsonText (s : String) : String := String.ofList (Json.quote s.toList)

/-- A line in JSON, of the epoch. -/
def docsLineJson (line : LiabilityLine) : String :=
  "\x7b\"taxYear\":" ++ String.ofList (Json.intText line.taxYear)
    ++ ",\"bracketId\":" ++ jsonText line.bracketId
    ++ ",\"taxableAmount\":" ++ line.taxableAmount.toString
    ++ ",\"liabilityAmount\":" ++ line.liabilityAmount.toString
    ++ ",\"computedAt\":\"1970-01-01T00:00:00Z\"\x7d"

/-- A record in JSON, of the epoch. -/
def docsRecordJson (record : TaxpayerRecord) : String :=
  "\x7b\"id\":" ++ jsonText record.id
    ++ ",\"displayName\":" ++ jsonText record.displayName
    ++ ",\"filingStatus\":" ++ jsonText record.filingStatus
    ++ ",\"homeJurisdiction\":" ++ jsonText record.homeJurisdiction
    ++ ",\"createdAt\":\"1970-01-01T00:00:00Z\""
    ++ ",\"liabilities\":[" ++ ",".intercalate (record.liabilities.map docsLineJson) ++ "]"
    ++ ",\"totalLiability\":" ++ record.totalLiability.toString ++ "\x7d"

/-- Texts in JSON. -/
def textsJson (payload : Dict String String) : String :=
  String.ofList (Json.render (.obj (payload.map fun f => (f.1, .str f.2))))

theorem textsJson_injective : Function.Injective textsJson := fun payload payload' h => by
  have hfields := Json.obj.inj (Json.render_injective (String.ofList_injective h))
  have hfield : Function.Injective fun f : String × String => (f.1, Json.str f.2) := fun f f' h =>
    Prod.ext (Prod.mk.inj h).1 (Json.str.inj (Prod.mk.inj h).2)
  exact hfield.list_map hfields

/-- **A mapper of the records of the epoch.** -/
noncomputable def docsMapper : ObjectMapper where
  writeRecord record :=
    if record.createdAt = 0 ∧ ∀ line ∈ record.liabilities, line.computedAt = 0 then
      some (docsRecordJson record)
    else none
  writeTexts payload := some (textsJson payload)
  readTexts := Function.partialInv textsJson
  readTexts_writeTexts payload := Function.partialInv_left textsJson_injective payload

/-- A table with one item, of a taxpayer who owes ten dollars. -/
def docsTable : TaxpayerLookupHandler where
  dynamo := some fun _ id => .ok (if id = "txp_synth_001" then
    ⟨true, [("id", .s "txp_synth_001"), ("displayName", .s "Synthetic Taxpayer One"),
      ("filingStatus", .s "SINGLE"), ("homeJurisdiction", .s "CA"),
      ("createdAt", .s "1970-01-01T00:00:00Z"),
      ("liabilities", .l [.m [("taxYear", .n "2025"), ("bracketId", .s "brk-fed-2025-22"),
        ("taxableAmount", .n "100"), ("liabilityAmount", .n "10"),
        ("computedAt", .s "1970-01-01T00:00:00Z")]])]⟩
    else ⟨false, []⟩)
  tableName := some "taxpayers"

/-- A request for a taxpayer, with an id of its own. -/
def docsEvent (id : String) : HttpEvent where
  pathParameters := some [(some "taxpayerId", some id)]
  headers := some [(some "Accept", none), (some "X-Correlation-Id", some "req 7")]

/-- An item is answered with its record, and an id without one with 404. -/
theorem handleRequest_docsEvent :
    (∃ response, handleRequest docsMapper docsParse docsTable (some (docsEvent "txp_synth_001"))
          none = .ok response
        ∧ response.statusCode = 200 ∧ response.headers.get? CORRELATION_ID_HEADER = some "req7"
        ∧ Answers docsMapper (some (docsEvent "txp_synth_001")) none response)
      ∧ ∃ response, handleRequest docsMapper docsParse docsTable (some (docsEvent "txp_synth_002"))
          none = .ok response
        ∧ response.statusCode = 404
        ∧ Answers docsMapper (some (docsEvent "txp_synth_002")) none response := by
  have hfound : (handleRequest docsMapper docsParse docsTable (some (docsEvent "txp_synth_001"))
      none).map (fun r => (r.statusCode, r.headers.get? CORRELATION_ID_HEADER))
        = .ok (200, some "req7") := by decide +kernel
  have hmissing : (handleRequest docsMapper docsParse docsTable (some (docsEvent "txp_synth_002"))
      none).map HttpResponse.statusCode = .ok 404 := by decide +kernel
  obtain ⟨found, h, hanswers⟩ := handleRequest_answers docsMapper docsParse docsTable
    (some (docsEvent "txp_synth_001")) none
  obtain ⟨missing, h', hanswers'⟩ := handleRequest_answers docsMapper docsParse docsTable
    (some (docsEvent "txp_synth_002")) none
  rw [h] at hfound
  rw [h'] at hmissing
  obtain ⟨hstatus, hid⟩ := Prod.mk.inj (Except.ok.inj hfound)
  exact ⟨⟨found, h, hstatus, hid, hanswers⟩, missing, h', Except.ok.inj hmissing, hanswers'⟩

end Lambda
