import TaxLiability.Api.IdempotencyService
import TaxLiability.Machinery.JsonText
import TaxLiability.Machinery.Uuid

/-!
# Api/Summary — whose summary an Idempotency-Key is answered with

    POST /{id}/summary ─▸ UUID ─▸ "idem:taxpayers.summary:" uuid ─▸ handle ─▸ {summary, displayName}
                            └─▸ 400                                    └─▸ 409

Requests of any taxpayers and subjects share the keys, and a key knows nothing but its UUID.  Every
request is answered with a body of its own taxpayer and subject, in every run, exactly if no two
requests of different ones carry the same UUID (`own_answers_iff`).
-/

open Machine

namespace Api

/-- The body of a summary. -/
structure Summary where
  summary : String
  displayName : String
  deriving DecidableEq, Repr

/-- **A request**: the id in its path, the subject of its token and its `Idempotency-Key`. -/
structure SummaryRequest where
  id : String
  subject : String
  idempotencyKey : String
  deriving DecidableEq, Repr

namespace SummaryRequest

/-- The Redis key of a request; one whose header is no UUID has none, and is answered 400. -/
def redisKey (request : SummaryRequest) : Option String :=
  (Uuid.fromString request.idempotencyKey).map fun parsed =>
    "idem:" ++ "taxpayers.summary" ++ ":" ++ String.ofList (Uuid.format parsed)

/-- **What its work returns**, with the display name of its subject. -/
def summarise (request : SummaryRequest) (displayName : String) : ResponseEntity Summary :=
  ⟨200, "Stub LLM summary for " ++ request.id, displayName⟩

end SummaryRequest

/-- **The keys of Redis** with the calls on them, and the bodies that were computed, each by the
request whose work it was. -/
structure Summaries where
  keys : String → Key Summary
  computed : List (ℕ × Summary)

namespace Summaries

/-- What happens next. -/
inductive Event
  | get (i : ℕ)
  | setIfAbsent (i : ℕ)
  /-- the work of request `i`, with what `getProfile` says its subject is called; none if it throws
  or says nothing -/
  | doWork (i : ℕ) (displayName : Option String)
  | set (i : ℕ)
  /-- the `SET` fails -/
  | setFails (i : ℕ)
  | delete (i : ℕ)
  /-- a key comes to the end of its time -/
  | expire (redisKey : String)
  deriving DecidableEq, Repr

def start : Summaries := ⟨fun _ => .start, []⟩

/-! ## The step -/

variable (mapper : ObjectMapper Summary) (requests : ℕ → SummaryRequest)

/-- A key comes to another state. -/
def setKey (s : Summaries) (redisKey : String) (key : Key Summary) : Summaries :=
  { s with keys := Function.update s.keys redisKey key }

/-- A command of request `i`, on its key. -/
def handle (s : Summaries) (i : ℕ) (c : Command Summary) : Option Summaries :=
  (requests i).redisKey.bind fun redisKey =>
    (Key.step mapper (s.keys redisKey) c).map (s.setKey redisKey)

/-- **One step.** -/
def step (s : Summaries) : Event → Option Summaries
  | .get i => s.handle mapper requests i (.get i)
  | .setIfAbsent i => s.handle mapper requests i (.setIfAbsent i)
  | .doWork i (some displayName) =>
    let result := (requests i).summarise displayName
    { s with computed := (i, result.body) :: s.computed }.handle mapper requests i
      (.doWork i (.returned result))
  | .doWork i none => s.handle mapper requests i (.doWork i .threw)
  | .set i => s.handle mapper requests i (.set i)
  | .setFails i => s.handle mapper requests i (.setFails i)
  | .delete i => s.handle mapper requests i (.delete i)
  | .expire redisKey => some (s.setKey redisKey { s.keys redisKey with redis := none })

/-- **What request `i` was answered with**, if it was answered with a body. -/
def answer (s : Summaries) (i : ℕ) : Option Summary :=
  (requests i).redisKey.bind fun redisKey =>
    match (s.keys redisKey).calls i with
    | .fresh result | .replayed result => some result.body
    | _ => none

/-- **Every body answers its own question**: it was computed for the taxpayer and the subject it is
returned to. -/
def OwnAnswers (s : Summaries) : Prop :=
  ∀ i body, s.answer requests i = some body →
    ∃ j, (j, body) ∈ s.computed ∧ (requests j).id = (requests i).id
      ∧ (requests j).subject = (requests i).subject

end Summaries

/-! ## Where the bodies of a key come from -/

namespace Key

variable {B : Type} {mapper : ObjectMapper B} {C D : ℕ → B → Prop}

/-- A call's body is its own, or another's on the key. -/
def CallFrom (mapper : ObjectMapper B) (C : ℕ → B → Prop) (i : ℕ) : Call B → Prop
  | .storing result t => C i result.body ∧ mapper.writeValueAsString result.body = some t
  | .deleting result | .fresh result => C i result.body
  | .replayed result => ∃ j, C j result.body
  | .idle | .acquiring _ | .working | .conflict _ | .threw => True

/-- **The bodies of a key come from its calls**: `C i b` says that call `i` computed `b`. -/
structure From (mapper : ObjectMapper B) (C : ℕ → B → Prop) (s : Key B) : Prop where
  redis : ∀ t, s.redis = some t → t ≠ IN_FLIGHT →
    ∃ i b, C i b ∧ mapper.writeValueAsString b = some t
  calls : ∀ i, CallFrom mapper C i (s.calls i)

theorem from_start : From mapper C (start : Key B) := ⟨nofun, fun _ => trivial⟩

theorem CallFrom.mono (himp : ∀ {i b}, C i b → D i b) {i : ℕ} {c : Call B}
    (h : CallFrom mapper C i c) : CallFrom mapper D i c := by
  cases c with
  | storing result t => exact ⟨himp h.1, h.2⟩
  | deleting result => exact himp h
  | fresh result => exact himp h
  | replayed result => exact h.imp fun _ => himp
  | _ => trivial

theorem From.mono (himp : ∀ {i b}, C i b → D i b) {s : Key B} (h : From mapper C s) :
    From mapper D s where
  redis := fun t ht hne => (h.redis t ht hne).imp fun _ => Exists.imp fun _ => And.imp_left himp
  calls := fun i => (h.calls i).mono himp

theorem From.goto {s : Key B} (hs : From mapper C s) {i : ℕ} {c : Call B}
    (hc : CallFrom mapper C i c) : From mapper C (s.goto i c) where
  redis := hs.redis
  calls := by
    intro j
    by_cases hj : j = i
    · subst hj
      rwa [goto_self]
    · rw [goto_ne s c hj]
      exact hs.calls j

/-- A text set on a key is the sentinel, or that of a body computed. -/
theorem From.withRedis {s : Key B} (hs : From mapper C s) {t : Option String}
    (ht : ∀ t' ∈ t, t' ≠ IN_FLIGHT → ∃ i b, C i b ∧ mapper.writeValueAsString b = some t') :
    From mapper C { s with redis := t } := ⟨ht, hs.calls⟩

/-- **A step brings in no body but that of its own work.** -/
theorem From.step (hreads : ∀ b t, mapper.writeValueAsString b = some t →
      mapper.readValue t = some b) {s s' : Key B} {c : Command B} (hs : From mapper C s)
    (hwork : ∀ i result, c = .doWork i (.returned result) → C i result.body)
    (h : Key.step mapper s c = some s') : From mapper C s' := by
  cases c with
  | get i =>
    simp only [Key.step] at h
    split at h <;> cases h
    unfold look
    split
    · exact hs.goto trivial
    · next existing hredis =>
      split
      · exact hs.goto trivial
      · next hne =>
        obtain ⟨j, b, hb, hwrite⟩ := hs.redis existing hredis hne
        rw [hreads b existing hwrite]
        exact hs.goto ⟨j, hb⟩
  | setIfAbsent i =>
    simp only [Key.step] at h
    split at h
    · split at h <;> cases h
      · exact (hs.goto (c := .working) trivial).withRedis
          fun t ht hne => absurd (Option.some.inj ht).symm hne
      · exact hs.goto trivial
    · cases h
  | doWork i outcome =>
    simp only [Key.step] at h
    split at h <;> cases h
    · exact hs.goto trivial
    · next result hi =>
      unfold serialise
      split
      · next t ht => exact hs.goto ⟨hwork i result rfl, ht⟩
      · exact hs.goto (hwork i result rfl)
  | set i =>
    simp only [Key.step] at h
    split at h <;> cases h
    next result t hi =>
      have hcall : CallFrom mapper C i (.storing result t) := hi ▸ hs.calls i
      exact ⟨fun t' ht' _ => ⟨i, result.body, hcall.1, hcall.2.trans ht'⟩,
        (hs.goto (c := .fresh result) hcall.1).calls⟩
  | setFails i =>
    simp only [Key.step] at h
    split at h <;> cases h
    next result t hi =>
      have hcall : CallFrom mapper C i (.storing result t) := hi ▸ hs.calls i
      exact hs.goto hcall.1
  | delete i =>
    simp only [Key.step] at h
    split at h <;> cases h
    next result hi =>
      have hcall : CallFrom mapper C i (.deleting result) := hi ▸ hs.calls i
      exact (hs.goto (c := .fresh result) hcall).withRedis (by rintro t ⟨⟩)

end Key

namespace Summaries

variable {mapper : ObjectMapper Summary} {requests : ℕ → SummaryRequest}

/-! ## The invariant -/

/-- Request `i` is one of the key's, and has computed the body. -/
def Computes (requests : ℕ → SummaryRequest) (s : Summaries) (redisKey : String) (i : ℕ)
    (body : Summary) : Prop :=
  (requests i).redisKey = some redisKey ∧ (i, body) ∈ s.computed

/-- **The bodies of each key come from the requests that carry it.** -/
def Apart (mapper : ObjectMapper Summary) (requests : ℕ → SummaryRequest) (s : Summaries) : Prop :=
  ∀ redisKey, (s.keys redisKey).From mapper (Computes requests s redisKey)

theorem apart_start : Apart mapper requests start := fun _ => Key.from_start

@[simp] theorem setKey_self (s : Summaries) (redisKey : String) (key : Key Summary) :
    (s.setKey redisKey key).keys redisKey = key := Function.update_self _ _ _

theorem Apart.setKey {s : Summaries} (hs : Apart mapper requests s) {redisKey : String}
    {key : Key Summary} (hkey : key.From mapper (Computes requests s redisKey)) :
    Apart mapper requests (s.setKey redisKey key) := by
  intro k
  by_cases hk : k = redisKey
  · subst hk
    rw [setKey_self]
    exact hkey
  · have hother : (s.setKey redisKey key).keys k = s.keys k := Function.update_of_ne hk _ _
    rw [hother]
    exact hs k

theorem Apart.handle (hreads : ∀ b t, mapper.writeValueAsString b = some t →
      mapper.readValue t = some b) {s s' : Summaries} (hs : Apart mapper requests s) {i : ℕ}
    {c : Command Summary} (h : s.handle mapper requests i c = some s')
    (hwork : ∀ j result, c = .doWork j (.returned result) → j = i ∧ (i, result.body) ∈ s.computed) :
    Apart mapper requests s' := by
  obtain ⟨redisKey, hkey, hmap⟩ := Option.bind_eq_some_iff.mp h
  obtain ⟨key, hstep, rfl⟩ := Option.map_eq_some_iff.mp hmap
  refine hs.setKey ((hs redisKey).step hreads (fun j result hc => ?_) hstep)
  obtain ⟨rfl, hmem⟩ := hwork j result hc
  exact ⟨hkey, hmem⟩

/-- **A step keeps them so.** -/
theorem Apart.step (hreads : ∀ b t, mapper.writeValueAsString b = some t →
      mapper.readValue t = some b) {s s' : Summaries} {e : Event} (hs : Apart mapper requests s)
    (h : Summaries.step mapper requests s e = some s') : Apart mapper requests s' := by
  cases e with
  | doWork i displayName =>
    cases displayName with
    | none => exact hs.handle hreads h (by rintro j result ⟨⟩)
    | some displayName =>
      have hcomputed : Apart mapper requests { s with
          computed := (i, ((requests i).summarise displayName).body) :: s.computed } :=
        fun k => (hs k).mono fun hc => ⟨hc.1, List.mem_cons_of_mem _ hc.2⟩
      refine hcomputed.handle hreads h ?_
      rintro j result ⟨⟩
      exact ⟨rfl, List.mem_cons_self⟩
  | expire redisKey =>
    cases h
    exact hs.setKey ((hs redisKey).withRedis nofun)
  | get i | setIfAbsent i | set i | setFails i | delete i =>
    exact hs.handle hreads h (by rintro j result ⟨⟩)

/-! ## The answers -/

/-- **A body comes from a request with the same key.** -/
theorem Apart.answer {s : Summaries} (hs : Apart mapper requests s) {i : ℕ} {body : Summary}
    (h : s.answer requests i = some body) :
    ∃ redisKey j, (requests i).redisKey = some redisKey ∧ Computes requests s redisKey j body := by
  obtain ⟨redisKey, hkey, hcall⟩ := Option.bind_eq_some_iff.mp h
  have hfrom := (hs redisKey).calls i
  split at hcall
  · next result hi =>
    cases hcall
    rw [hi] at hfrom
    exact ⟨redisKey, i, hkey, hfrom⟩
  · next result hi =>
    cases hcall
    rw [hi] at hfrom
    obtain ⟨j, hj⟩ := hfrom
    exact ⟨redisKey, j, hkey, hj⟩
  · cases hcall

/-- Request `j` works and stores, and request `i` comes after. -/
def replay (i j : ℕ) (displayName : String) : List Event :=
  [.get j, .setIfAbsent j, .doWork j (some displayName), .set j, .get i]

/-- **A request that comes after another on its key is answered with the other's body.** -/
theorem exec_replay {i j : ℕ} (hij : i ≠ j) {redisKey t : String} (displayName : String)
    (hi : (requests i).redisKey = some redisKey) (hj : (requests j).redisKey = some redisKey)
    (hwrite : mapper.writeValueAsString ((requests j).summarise displayName).body = some t)
    (hread : mapper.readValue t = some ((requests j).summarise displayName).body) :
    ∃ s, exec (step mapper requests) start (replay i j displayName) = some s
      ∧ s.computed = [(j, ((requests j).summarise displayName).body)]
      ∧ s.answer requests i = some ((requests j).summarise displayName).body := by
  have hne : t ≠ IN_FLIGHT := mapper.written_ne_sentinel _ _ hwrite
  have hrun : (exec (step mapper requests) start (replay i j displayName)).map
      (fun s => (s.computed, s.answer requests i))
      = some ([(j, ((requests j).summarise displayName).body)],
        some ((requests j).summarise displayName).body) := by
    simp [replay, exec, step, handle, setKey, start, Key.start, hi, hj, Key.step, Key.look,
      Key.goto, Key.serialise, hwrite, hread, hne, hij, answer]
  obtain ⟨s, hs, hfound⟩ := Option.map_eq_some_iff.mp hrun
  exact ⟨s, hs, (Prod.mk.inj hfound).1, (Prod.mk.inj hfound).2⟩

/-- **Every body answers its own question**, in every state of every run, exactly if no two requests
of different taxpayers or subjects carry the same UUID. -/
theorem own_answers_iff (mapper : ObjectMapper Summary) (requests : ℕ → SummaryRequest)
    (hjackson : ∀ b, ∃ t, mapper.writeValueAsString b = some t ∧ mapper.readValue t = some b) :
    (∀ es s, exec (step mapper requests) start es = some s → s.OwnAnswers requests)
      ↔ ∀ i j redisKey, (requests i).redisKey = some redisKey →
        (requests j).redisKey = some redisKey →
          (requests j).id = (requests i).id ∧ (requests j).subject = (requests i).subject := by
  constructor
  · intro hall i j redisKey hi hj
    by_cases hij : i = j
    · subst hij
      exact ⟨rfl, rfl⟩
    · obtain ⟨t, hwrite, hread⟩ := hjackson ((requests j).summarise "").body
      obtain ⟨s, hs, hcomputed, hanswer⟩ := exec_replay hij "" hi hj hwrite hread
      obtain ⟨j', hmem, hown⟩ := hall _ s hs i _ hanswer
      rw [hcomputed, List.mem_singleton] at hmem
      cases hmem
      exact hown
  · intro hapart es s hs i body hanswer
    have hreads : ∀ b t, mapper.writeValueAsString b = some t → mapper.readValue t = some b := by
      intro b t hwrite
      obtain ⟨t', hwrite', hread⟩ := hjackson b
      cases hwrite.symm.trans hwrite'
      exact hread
    have hfrom : Apart mapper requests s :=
      exec_invariant (fun hs hstep => hs.step hreads hstep) apart_start hs
    obtain ⟨redisKey, j, hi, hj, hmem⟩ := hfrom.answer hanswer
    exact ⟨j, hmem, hapart i j redisKey hi hj⟩

/-- Bodies as JSON, with characters outside printable ASCII escaped. -/
def bodyMapper : ObjectMapper Summary where
  writeValueAsString := fun body => some (String.ofList ("\x7b\"summary\":\"".toList
    ++ (body.summary.toList.flatMap Json.escapeChar ++ '"' :: (",\"displayName\":\"".toList
      ++ (body.displayName.toList.flatMap Json.escapeChar ++ '"' :: ['\x7d'])))))
  readValue := fun t => (Json.readString (t.toList.drop 12)).bind fun summary =>
    (Json.readString (summary.2.drop 16)).map fun displayName =>
      ⟨String.ofList summary.1, String.ofList displayName.1⟩
  written_ne_sentinel := fun body t h ht => by
    have hhead := congrArg (fun t : String => t.toList.head?) ((Option.some.inj h).trans ht)
    simp [IN_FLIGHT] at hhead

theorem bodyMapper_reads (body : Summary) : ∃ t, bodyMapper.writeValueAsString body = some t
    ∧ bodyMapper.readValue t = some body := by
  refine ⟨_, rfl, ?_⟩
  simp [bodyMapper, Json.readString_escape]

/-- One request of Alice's, and Bob's with its retries. -/
def docsRequests : ℕ → SummaryRequest
  | 0 => ⟨"tp-1", "alice", "7b1f0f5e-6c1d-4f57-9d3e-0a2b4c6d8e90"⟩
  | _ + 1 => ⟨"tp-2", "bob", "7B1F0F5E-6C1D-4F57-9D3E-0A2B4C6D8E91"⟩

theorem own_answers_docsRequests : ∃ s,
    exec (step bodyMapper docsRequests) start (replay 2 1 "Bob") = some s
      ∧ s.OwnAnswers docsRequests := by
  have hne : (docsRequests 0).redisKey ≠ (docsRequests 1).redisKey := by decide +kernel
  have hkey : (docsRequests 1).redisKey.isSome := by decide +kernel
  obtain ⟨redisKey, hbob⟩ := Option.isSome_iff_exists.mp hkey
  obtain ⟨t, hwrite, hread⟩ := bodyMapper_reads ((docsRequests 1).summarise "Bob").body
  have hretry : (docsRequests 2).redisKey = some redisKey := hbob
  obtain ⟨s, hs, -, -⟩ :=
    @exec_replay bodyMapper docsRequests 2 1 (by decide) redisKey t "Bob" hretry hbob hwrite hread
  refine ⟨s, hs, (own_answers_iff bodyMapper docsRequests bodyMapper_reads).mpr ?_ _ s hs⟩
  rintro (_ | i) (_ | j) redisKey hi hj
  · exact ⟨rfl, rfl⟩
  · exact absurd (hi.trans hj.symm) hne
  · exact absurd (hj.trans hi.symm) hne
  · exact ⟨rfl, rfl⟩

/-- The same requests, all under the first one's key. -/
def sharedKey (i : ℕ) : SummaryRequest :=
  { docsRequests i with idempotencyKey := (docsRequests 0).idempotencyKey }

theorem sharedKey_redisKey (i : ℕ) : (sharedKey i).redisKey = (docsRequests 0).redisKey := by
  simp only [SummaryRequest.redisKey, sharedKey]

/-- **A key replays another's summary**: Bob's request for his taxpayer is answered with Alice's. -/
theorem summary_of_another :
    ¬ ∀ (mapper : ObjectMapper Summary) (requests : ℕ → SummaryRequest),
      (∀ b, ∃ t, mapper.writeValueAsString b = some t ∧ mapper.readValue t = some b) →
      ∀ es s, exec (step mapper requests) start es = some s → s.OwnAnswers requests := by
  intro hall
  have hkey : (docsRequests 0).redisKey.isSome := by decide +kernel
  obtain ⟨redisKey, halice⟩ := Option.isSome_iff_exists.mp hkey
  obtain ⟨t, hwrite, hread⟩ := bodyMapper_reads ((sharedKey 0).summarise "Alice").body
  obtain ⟨s, hs, hcomputed, hanswer⟩ :=
    @exec_replay bodyMapper sharedKey 1 0 (by decide) redisKey t "Alice"
      ((sharedKey_redisKey 1).trans halice) ((sharedKey_redisKey 0).trans halice) hwrite hread
  obtain ⟨j, hmem, hid, -⟩ := hall bodyMapper sharedKey bodyMapper_reads _ s hs 1 _ hanswer
  rw [hcomputed, List.mem_singleton] at hmem
  cases hmem
  exact absurd hid (by decide)

end Summaries

end Api
