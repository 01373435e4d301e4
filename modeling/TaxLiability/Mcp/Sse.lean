import TaxLiability.Machinery.Json
import TaxLiability.Machinery.Machine
import TaxLiability.Machinery.Python

/-!
# Mcp/Sse — whose credential a tool call runs under

    GET /sse ──bearer──▸ session(token, tenant) ──drains──▸ tool call under (token, tenant)
    POST /messages/ ──bearer, checked, then dropped──▸ frame in the session's queue

Both endpoints validate the bearer they are given; the identity is that of the GET, and no step
compares the two.  `ran_under_live_credential` holds along the runs whose POSTs present the tenant
of the session's handshake while its credential is still good (`Matched`).
-/

open Machine

namespace Mcp.Sse

/-! ## The middleware -/

/-- **The token library and the key set behind it**: what it verifies a token to hold at a time,
signature, audience and expiry included; `none` is a `PyJWTError`.  `str` is the language's text of
a claim. -/
structure TokenLibrary where
  decode : ℕ → String → Option Json.Fields
  str : Json → String

/-- **`_validate`**: the tenant claim of a token that verifies, `""` where it carries none. -/
def TokenLibrary.validate (J : TokenLibrary) (now : ℕ) (token : String) : Option String :=
  (J.decode now token).map fun claims => ((Dict.get? claims "tenant_id").map J.str).getD ""

/-- **The raw token of an `Authorization` header**, `""` when there is none. -/
def parseBearer : Option String → String
  | none => ""
  | some header_value =>
    let (scheme, token) := Python.partition ' ' header_value.toList
    if scheme.map Char.toLower = "bearer".toList then String.ofList (Python.strip token) else ""

/-- **What the middleware makes of a request**: the identity it binds, or a refusal. -/
def authenticate (J : TokenLibrary) (now : ℕ) (authorization : Option String) :
    Option (String × String) :=
  let token := parseBearer authorization
  if token = "" then none else (J.validate now token).map fun tenant => (token, tenant)

/-- **The bearer's tenant claim when it disagrees** with the tenant asked for, else `""`. -/
def crossTenantClaim (claimed requested : String) : String :=
  if claimed ≠ "" ∧ claimed ≠ requested then claimed else ""

/-- The token to forward: the request's when present, else the configured one. -/
def bearerToken (jwt configured : String) : String := if jwt = "" then configured else jwt

/-- The headers of an outbound call. -/
structure AuthHeaders where
  authorization : String
  xTenant : String
  deriving DecidableEq, Repr

def authHeaders (jwt configured tenant_id : String) : AuthHeaders :=
  ⟨"Bearer " ++ bearerToken jwt configured, tenant_id⟩

/-- A token that is authenticated validates at that time. -/
theorem validate_of_authenticate {J : TokenLibrary} {now : ℕ} {authorization : Option String}
    {token tenant : String} (h : authenticate J now authorization = some (token, tenant)) :
    token = parseBearer authorization ∧ J.validate now token = some tenant := by
  simp only [authenticate] at h
  split at h
  · cases h
  · obtain ⟨t, ht, heq⟩ := Option.map_eq_some_iff.mp h
    cases heq
    exact ⟨rfl, ht⟩

/-! ## The server -/

/-- A tool call on the wire: the tenant it names, and the POST that carried it. -/
structure Frame where
  tenant_id : String
  bearer : String
  posted : ℕ
  deriving DecidableEq

/-- A session: the identity of its handshake, and the frames still to drain. -/
structure Session where
  token : String
  tenant : String
  frames : List Frame
  deriving DecidableEq

/-- **A tool call that ran**: the identity in its context, the frame that asked for it and the
headers it sent. -/
structure ToolCall where
  token : String
  tenant : String
  frame : Frame
  headers : AuthHeaders
  deriving DecidableEq

/-- A frame a session has taken, with the identity of that session. -/
structure Accepted where
  token : String
  tenant : String
  frame : Frame
  deriving DecidableEq

/-- **The server**: the time, and the sessions open.  `accepted` and `ran` are the histories of the
frames that were not refused and of the tool calls that ran. -/
structure Server where
  now : ℕ
  sessions : ℕ → Option Session
  accepted : List Accepted
  ran : List ToolCall

/-- What happens next. -/
inductive Event
  /-- time passes -/
  | wait (seconds : ℕ)
  /-- `GET /sse`, which opens session `i` -/
  | get (i : ℕ) (authorization : Option String)
  /-- `POST /messages/` with the id of session `i` -/
  | post (i : ℕ) (authorization : Option String) (tenant_id : String)
  /-- the task of session `i` takes the next frame and runs its tool call -/
  | drain (i : ℕ)
  /-- session `i` ends -/
  | close (i : ℕ)

namespace Server

/-- A server with no session. -/
def start : Server := ⟨0, fun _ => none, [], []⟩

/-- **One step**, with `configured` the token of the server's own settings. -/
def step (J : TokenLibrary) (configured : String) (s : Server) : Event → Option Server
  | .wait seconds => some { s with now := s.now + seconds }
  | .get i authorization =>
    match s.sessions i with
    | none =>
      match authenticate J s.now authorization with
      | some (token, tenant) =>
        some { s with sessions := Function.update s.sessions i (some ⟨token, tenant, []⟩) }
      | none => some s
    | some _ => none
  | .post i authorization tenant_id =>
    match authenticate J s.now authorization with
    | some (bearer, _) =>
      -- the identity bound here is that of this request, which the session never sees
      match s.sessions i with
      | some session =>
        let frame := Frame.mk tenant_id bearer s.now
        some { s with
          sessions := Function.update s.sessions i
            (some { session with frames := session.frames ++ [frame] })
          accepted := ⟨session.token, session.tenant, frame⟩ :: s.accepted }
      | none => some s
    | none => some s
  | .drain i =>
    match s.sessions i with
    | some ⟨token, tenant, frame :: frames⟩ =>
      let s := { s with sessions := Function.update s.sessions i (some ⟨token, tenant, frames⟩) }
      if crossTenantClaim tenant frame.tenant_id = "" then
        some { s with
          ran := ⟨token, tenant, frame, authHeaders token configured frame.tenant_id⟩ :: s.ran }
      else some s
    | _ => none
  | .close i => some { s with sessions := Function.update s.sessions i none }

/-! ## The bearer of a POST against the handshake's -/

/-- A frame whose POST presented a bearer good at that time, of this tenant. -/
def SameTenant (J : TokenLibrary) (tenant : String) (frame : Frame) : Prop :=
  J.validate frame.posted frame.bearer = some tenant

/-- **Every POST presents the tenant of its session's handshake**, while the credential of that
handshake is still good. -/
def Matched (J : TokenLibrary) (s : Server) : Event → Prop
  | .post i authorization _ => ∀ session ∈ s.sessions i,
      ∀ identity ∈ authenticate J s.now authorization,
        identity.2 = session.tenant ∧ (J.validate s.now session.token).isSome
  | _ => True

instance (J : TokenLibrary) (s : Server) : (e : Event) → Decidable (s.Matched J e)
  | .post i authorization _ => inferInstanceAs (Decidable (∀ session ∈ s.sessions i,
      ∀ identity ∈ authenticate J s.now authorization, _))
  | .wait _ | .get _ _ | .drain _ | .close _ => inferInstanceAs (Decidable True)

/-- **Every frame runs for its sender's tenant.** -/
structure Bound (J : TokenLibrary) (s : Server) : Prop where
  queued : ∀ i session, s.sessions i = some session →
    ∀ frame ∈ session.frames, SameTenant J session.tenant frame
  accepted : ∀ a ∈ s.accepted, (J.validate a.frame.posted a.token).isSome
  ran : ∀ c ∈ s.ran, SameTenant J c.tenant c.frame

variable {J : TokenLibrary} {configured : String}

theorem start_bound : start.Bound J := ⟨nofun, nofun, nofun⟩

/-- Putting a session whose frames are its sender's, or ending one. -/
theorem Bound.put {s : Server} (hs : s.Bound J) (i : ℕ) {o : Option Session}
    (h : ∀ t, o = some t → ∀ frame ∈ t.frames, SameTenant J t.tenant frame) :
    Bound J { s with sessions := Function.update s.sessions i o } where
  queued := fun j t ht => by
    obtain ⟨-, h'⟩ | ⟨-, h'⟩ := update_eq_some_iff.mp ht
    · exact h t h'
    · exact hs.queued j t h'
  accepted := hs.accepted
  ran := hs.ran

/-- A session that takes a frame of its own tenant, while its handshake's credential is good. -/
theorem Bound.takes {s : Server} (hs : s.Bound J) {i : ℕ} {session : Session}
    (hi : s.sessions i = some session) {frame : Frame} (hframe : SameTenant J session.tenant frame)
    (hlive : (J.validate frame.posted session.token).isSome) :
    Bound J { s with
      sessions := Function.update s.sessions i
        (some { session with frames := session.frames ++ [frame] })
      accepted := ⟨session.token, session.tenant, frame⟩ :: s.accepted } := by
  have hput := hs.put i (o := some { session with frames := session.frames ++ [frame] })
    fun t ht => by
      cases ht
      exact List.forall_mem_append.mpr
        ⟨hs.queued i session hi, List.forall_mem_singleton.mpr hframe⟩
  exact ⟨hput.queued, List.forall_mem_cons.mpr ⟨hlive, hs.accepted⟩, hput.ran⟩

/-- **Every step keeps the frames bound**, if the POSTs match. -/
theorem bound_step {s s' : Server} {e : Event} (hm : s.Matched J e) (hs : s.Bound J)
    (h : s.step J configured e = some s') : s'.Bound J := by
  cases e with
  | wait seconds =>
    cases h
    exact ⟨hs.queued, hs.accepted, hs.ran⟩
  | get i authorization =>
    simp only [step] at h
    split at h
    case h_2 => cases h
    case h_1 =>
      split at h <;> cases h
      case h_2 => exact hs
      case h_1 token tenant hauth =>
        refine hs.put i fun t ht => ?_
        cases ht
        exact List.forall_mem_nil _
  | post i authorization tenant_id =>
    simp only [step] at h
    split at h
    case h_2 =>
      cases h
      exact hs
    case h_1 bearer tenant hauth =>
      split at h <;> cases h
      case h_2 => exact hs
      case h_1 session hi =>
        obtain ⟨htenant, hlive⟩ := hm session hi (bearer, tenant) hauth
        have hsame := (validate_of_authenticate hauth).2.trans (congrArg some htenant)
        exact hs.takes hi hsame hlive
  | drain i =>
    simp only [step] at h
    split at h
    case h_2 => cases h
    case h_1 token tenant frame frames hi =>
      have hq := hs.queued i _ hi
      have hput := hs.put i (o := some ⟨token, tenant, frames⟩) fun t ht => by
        cases ht
        exact fun f hf => hq f (List.mem_cons_of_mem _ hf)
      split at h <;> cases h
      · exact ⟨hput.queued, hput.accepted,
          List.forall_mem_cons.mpr ⟨hq frame List.mem_cons_self, hs.ran⟩⟩
      · exact hput
  | close i =>
    cases h
    exact hs.put i nofun

/-- **Tool calls run under a live credential of their own tenant**, along every run whose POSTs
match: the POST that carried a call presented a bearer good at that time with the tenant claim the
call runs under, and no frame was taken once the handshake's credential had expired. -/
theorem ran_under_live_credential (J : TokenLibrary) (configured : String) (es : List Event)
    (s : Server) (h : exec (step J configured) start es = some s)
    (hm : Throughout (step J configured) (Matched J) start es) :
    (∀ c ∈ s.ran, J.validate c.frame.posted c.frame.bearer = some c.tenant)
      ∧ ∀ a ∈ s.accepted, (J.validate a.frame.posted a.token).isSome := by
  have hs := exec_invariant_of_throughout bound_step hm start_bound h
  exact ⟨hs.ran, hs.accepted⟩

/-- Two bearers, of two tenants, the first good until time 10. -/
def twoBearers : TokenLibrary where
  decode := fun now token =>
    if token = "jwt-a" ∧ now < 10 then some [("tenant_id", .str "tenant-a")]
    else if token = "jwt-b" then some [("tenant_id", .str "tenant-b")]
    else none
  str := fun v => match v with
    | .str s => s
    | _ => ""

/-- A session and a call on it, by one caller. -/
def ownSession : List Event :=
  [.get 0 (some "Bearer jwt-a"), .wait 5, .post 0 (some "bearer jwt-a") "tenant-a", .drain 0]

theorem ran_under_live_credential_ownSession :
    ∃ s, exec (step twoBearers "") start ownSession = some s
      ∧ s.ran.map ToolCall.tenant = ["tenant-a"]
      ∧ ∀ c ∈ s.ran, twoBearers.validate c.frame.posted c.frame.bearer = some c.tenant := by
  have hrun : (exec (step twoBearers "") start ownSession).map (fun s => s.ran.map ToolCall.tenant)
      = some ["tenant-a"] := by decide +kernel
  obtain ⟨s, hs, hran⟩ := Option.map_eq_some_iff.mp hrun
  have h := ran_under_live_credential twoBearers "" ownSession s hs (by decide +kernel)
  exact ⟨s, hs, hran, h.1⟩

/-- A call posted by another tenant on a session whose handshake has expired. -/
def strangersPost : List Event :=
  [.get 0 (some "Bearer jwt-a"), .wait 60, .post 0 (some "Bearer jwt-b") "tenant-a", .drain 0]

/-- **A stranger's call runs under an expired credential**: posted by `tenant-b`, run as
`tenant-a`. -/
theorem ran_for_stranger :
    ¬ ∀ (es : List Event) (s : Server), exec (step twoBearers "") start es = some s →
      (∀ c ∈ s.ran, twoBearers.validate c.frame.posted c.frame.bearer = some c.tenant)
        ∧ ∀ a ∈ s.accepted, (twoBearers.validate a.frame.posted a.token).isSome := by
  intro h
  have hrun : (exec (step twoBearers "") start strangersPost).map Server.ran
      = some [⟨"jwt-a", "tenant-a", ⟨"tenant-a", "jwt-b", 60⟩, ⟨"Bearer jwt-a", "tenant-a"⟩⟩] := by
    decide +kernel
  obtain ⟨s, hs, hran⟩ := Option.map_eq_some_iff.mp hrun
  have hcall := (h strangersPost s hs).1 _ (hran ▸ List.mem_cons_self)
  exact absurd hcall (by decide)

end Server

end Mcp.Sse
