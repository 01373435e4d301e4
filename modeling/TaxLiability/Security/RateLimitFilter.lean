import Mathlib.Data.List.TakeWhile
import TaxLiability.Llm.CostMiddleware
import TaxLiability.Machinery.Machine
import TaxLiability.Machinery.TokenBucket
import TaxLiability.Machinery.Url

/-!
# Security/RateLimitFilter — which requests reach the paid model, and past which gate

    request ─▸ bearer token ─▸ RateLimitFilter ─▸ matchers ─▸ route ─▸ model ─▸ cost line
                  └─ 401         raw URI └─ 429      └─ 403    decoded path

The filter tests the URI as it was sent, and the application routes by the path it stands for; the
GraphQL mutation has a way to the model of its own.  Every paid call has passed the gate exactly in
the runs in which each request to the model is spelled as the filter spells it and its answer can be
charged (`gated_iff`).  The buckets are those of a library that refills them by whole minutes
(`Bucket4j`).
-/

open Machine Llm TokenBucket

namespace Security

/-! ## Requests -/

/-- **A verified token**, by the claims that are read. -/
structure Jwt where
  subject : Option String
  tenant : Option String
  scopes : List String
  roles : List String
  deriving DecidableEq, Repr

/-- **`READ_AUTHORITY`**, of the authorities the converter makes of scopes and roles. -/
def Jwt.MayRead (jwt : Jwt) : Prop :=
  "taxpayers.read" ∈ jwt.scopes ∧ "TAXPAYER_READER" ∈ jwt.roles

instance (jwt : Jwt) : Decidable jwt.MayRead := inferInstanceAs (Decidable (_ ∧ _))

/-- **`tenantOf`.** -/
def tenantOf (jwt : Jwt) : String :=
  match jwt.tenant with
  | none => "shared"
  | some claim => if Java.IsBlank claim then "shared" else claim

inductive Authentication
  | anonymous
  /-- a bearer token that does not verify -/
  | refused
  | jwt (jwt : Jwt)
  deriving DecidableEq, Repr

/-- What a request carries, as far as a handler on the way to the model reads it. -/
inductive Body
  | other
  | completion (prompt model feature : Option String)
  /-- the selections of `summarizeTaxpayer` that are executed, each with what the provider does if
  it is called: a serial mutation stops at the first non-null field that fails, and the selections
  behind it are not in this list -/
  | mutations (selections : List (String × ProviderAnswer))

/-- **A request**, at an instant of the clock of the buckets, with what the provider does if it is
called. -/
structure Request where
  instant : ℕ
  auth : Authentication
  post : Bool
  uri : String
  body : Body
  answer : ProviderAnswer
  latencyMs : ℕ

/-- **What the application runs in**: the URIs its server and firewall let through, its decoder, the
service it charges to, and the documents of the read model as prompts show them. -/
structure Container where
  passes : String → Bool
  utf8 : Url.Decoder
  service : String
  document : String → Option String

/-- **The path a URI stands for**, by its segments. -/
def Container.path (S : Container) (uri : String) : Option (List String) :=
  if S.passes uri then
    ((uri.toList.splitOn '/').mapM fun s => S.utf8.uriDecode (s.takeWhile (· ≠ ';'))).map
      (List.map String.ofList)
  else none

/-! ## The security chain -/

inductive Access
  | permitAll
  | authenticated
  | denyAll
  deriving DecidableEq, Repr

/-- **The matchers of `SecurityConfig`**, the first one first. -/
def access (path : List String) : Access :=
  if ["", "actuator", "health"] <+: path ∨ path = ["", "actuator", "prometheus"]
      ∨ ["", "v3", "api-docs"] <+: path ∨ ["", "swagger-ui"] <+: path
      ∨ path = ["", "swagger-ui.html"] ∨ path = ["", "sse"] ∨ path = ["", "mcp", "message"]
      ∨ ["", "graphql"] <+: path ∨ ["", "graphiql"] <+: path then .permitAll
  else if ["", "api"] <+: path ∨ ["", "v1"] <+: path then .authenticated
  else .denyAll

/-- Whether the chain lets a caller through to a path. -/
def Access.Admits : Access → Authentication → Prop
  | .permitAll, .anonymous | .permitAll, .jwt _ | .authenticated, .jwt _ => True
  | _, _ => False

instance : ∀ (a : Access) (auth : Authentication), Decidable (a.Admits auth)
  | .permitAll, .anonymous | .permitAll, .jwt _ | .authenticated, .jwt _ => isTrue trivial
  | .permitAll, .refused | .authenticated, .anonymous | .authenticated, .refused
  | .denyAll, .anonymous | .denyAll, .refused | .denyAll, .jwt _ => isFalse id

def LLM_ROUTE_SUFFIXES : List String := ["/summary", "/explanation"]

def LLM_PROXY_ROUTE : String := "/v1/completions"

/-- **`isLlmRoute`.** -/
def IsLlmRoute (uri : String) : Prop :=
  uri = LLM_PROXY_ROUTE
    ∨ Java.StartsWith uri "/api/" ∧ ∃ ending ∈ LLM_ROUTE_SUFFIXES, Java.EndsWith uri ending

instance (uri : String) : Decidable (IsLlmRoute uri) := inferInstanceAs (Decidable (_ ∨ _))

/-! ## The routes to the model -/

/-- **The routes that call the model.** -/
inductive Route
  | explanation (id : String)
  | completions
  | graphql
  deriving DecidableEq, Repr

/-- **The handler of a path**, among those. -/
def route (path : List String) : Option Route :=
  if path = ["", "v1", "completions"] then some .completions
  else if path = ["", "graphql"] then some .graphql
  else match path with
    | [root, api, v1, taxpayers, id, explanation] =>
      if [root, api, v1, taxpayers, explanation] = ["", "api", "v1", "taxpayers", "explanation"]
          ∧ id ≠ "" then some (.explanation id)
      else none
    | _ => none

/-- **A call of the model**: what the provider did, and the cost lines it left. -/
structure Call where
  answer : ProviderAnswer
  lines : List CostLine

/-- `MODEL` of the explanations. -/
def MODEL : String := "claude-haiku-4-5"

def FEATURE : String := "explain-liability"

/-- What a prompt begins with. -/
def RULES : String :=
  "You are explaining an already-completed tax calculation to the taxpayer.\n\n" ++ "Rules:\n"
    ++ "- Do NOT recompute, re-derive or adjust any figure. Every number below is final.\n"
    ++ "- Explain in plain language why the liability is what it is.\n"
    ++ "- Three sentences at most. No markdown, no bullet points, no preamble.\n\n"

/-- **`buildPrompt`.** -/
def buildPrompt (taxpayer : String) : String := RULES ++ ("Liability record: " ++ taxpayer ++ "\n")

/-- A call through the cost middleware. -/
def Container.buy (S : Container) (r : Request) (jwt : Jwt) (feature prompt model : String) :
    List Call :=
  match CallContext.create r.instant S.service (tenantOf jwt) feature with
  | .ok ctx => [⟨r.answer, (observe ctx (complete prompt model r.latencyMs r.answer)).lines⟩]
  | .error _ => []

/-- **`explain`.** -/
def Container.explain (S : Container) (r : Request) (jwt : Jwt) (id : String) : List Call :=
  match S.document id with
  | some taxpayer => S.buy r jwt FEATURE (buildPrompt taxpayer) MODEL
  | none => []

/-- The model of a `CompletionRequest`, which may leave it out. -/
def modelOf (model : Option String) : String :=
  match model with
  | some model => if Java.IsBlank model then MODEL else model
  | none => MODEL

/-- **`completions`**: the body is checked, and its model priced, before it is called. -/
def Container.completions (S : Container) (r : Request) (jwt : Jwt) : List Call :=
  match r.body with
  | .completion (some prompt) model (some feature) =>
    if ¬ Java.IsBlank prompt ∧ ¬ Java.IsBlank feature ∧ Priceable (modelOf model) then
      S.buy r jwt feature prompt (modelOf model)
    else []
  | _ => []

/-- **`summarizeTaxpayer`**, for each selection of a known taxpayer. -/
def Container.summarize (S : Container) (r : Request) : List Call :=
  match r.body with
  | .mutations selections => selections.filterMap fun selection =>
    (S.document selection.1).map fun _ => ⟨selection.2, []⟩
  | _ => []

/-- **The calls of the model a request comes to**, once past the filter. -/
def Container.modelCalls (S : Container) (r : Request) : List Call :=
  match S.path r.uri with
  | none => []
  | some path =>
    if r.post ∧ (access path).Admits r.auth then
      match route path, r.auth with
      | some (.explanation id), .jwt jwt => if jwt.MayRead then S.explain r jwt id else []
      | some .completions, .jwt jwt => if jwt.MayRead then S.completions r jwt else []
      | some .graphql, _ => S.summarize r
      | _, _ => []
    else []

/-! ## The gate -/

def REQUESTS_PER_MINUTE : ℕ := 10

/-- A minute of the clock, in nanoseconds. -/
def MINUTE : ℕ := 60000000000

/-- **A request served**: the subject whose bucket it took a token of, and its calls of the
model. -/
structure Served where
  request : Request
  consumed : Option String
  calls : List Call

/-- The request has taken a token of its own subject's bucket. -/
def Served.Metered (x : Served) : Prop :=
  ∃ jwt subject, x.request.auth = .jwt jwt ∧ jwt.subject = some subject
    ∧ x.consumed = some subject

/-- **Past the gate**: what the provider bills was metered and charged. -/
def Served.Gated (x : Served) : Prop :=
  ∀ c ∈ x.calls, c.answer.Billed → x.Metered ∧ Attributed c.lines

/-- **`Bucket4j`**: buckets of `Bandwidth.classic` with `Refill.intervally`. -/
abbrev Bucket4j := Library REQUESTS_PER_MINUTE MINUTE

/-- **The buckets**, by subject, and the requests served, latest first. -/
structure SpendGate (L : Bucket4j) where
  now : ℕ
  bucketsBySubject : String → Option L.State
  served : List Served

namespace SpendGate

variable {L : Bucket4j}

def start : SpendGate L := ⟨0, fun _ => none, []⟩

/-- The bucket of a subject; a new one is full. -/
def bucket (s : SpendGate L) (subject : String) (instant : ℕ) : L.State :=
  (s.bucketsBySubject subject).getD (L.full instant)

variable (L) in
/-- What the filters make of a request. -/
inductive Filtered
  | chain (bucketsBySubject : String → Option L.State) (consumed : Option String)
  /-- 401, by the filter before -/
  | unauthorized
  /-- 429, with `Retry-After: 60` and `rate_limited` for an error -/
  | rateLimited
  /-- the token has no subject to look a bucket up by -/
  | threw

/-- **`doFilterInternal`**, after the bearer-token filter. -/
def doFilter (s : SpendGate L) (r : Request) : Filtered L :=
  match r.auth with
  | .refused => .unauthorized
  | .anonymous => .chain s.bucketsBySubject none
  | .jwt jwt =>
    if IsLlmRoute r.uri then
      match jwt.subject with
      | none => .threw
      | some subject =>
        match L.tryConsume (s.bucket subject r.instant) r.instant with
        | some bucket =>
          .chain (Function.update s.bucketsBySubject subject (some bucket)) (some subject)
        | none => .rateLimited
    else .chain s.bucketsBySubject none

variable (S : Container)

/-- **One request**, served after those before it. -/
def step (s : SpendGate L) (r : Request) : Option (SpendGate L) :=
  if r.instant < s.now then none
  else match s.doFilter r with
    | .chain bucketsBySubject consumed =>
      some ⟨r.instant, bucketsBySubject, ⟨r, consumed, S.modelCalls r⟩ :: s.served⟩
    | .unauthorized | .rateLimited | .threw =>
      some ⟨r.instant, s.bucketsBySubject, ⟨r, none, []⟩ :: s.served⟩

/-! ## The property and the condition -/

/-- **Every paid call has passed the gate.** -/
structure Gated (s : SpendGate L) : Prop where
  paid : ∀ x ∈ s.served, x.Gated
  /-- a request that took a token was granted one by its subject's bucket… -/
  counted : ∀ subject, s.served.countP (fun x => x.consumed = some subject)
    = (s.bucketsBySubject subject).elim 0 fun b => (L.view b).grants.length
  /-- …which grants ten in a minute at most -/
  bounded : ∀ subject b, s.bucketsBySubject subject = some b →
    ∀ k, (L.view b).granted MINUTE k ≤ REQUESTS_PER_MINUTE

/-- **The filter holds a request back**: its token has no subject, or the subject's bucket none
left. -/
def HoldsBack (s : SpendGate L) (r : Request) : Prop :=
  match r.auth with
  | .jwt jwt => ∀ subject ∈ jwt.subject,
    L.tryConsume (s.bucket subject r.instant) r.instant = none
  | _ => False

instance (s : SpendGate L) (r : Request) : Decidable (s.HoldsBack r) := by
  unfold HoldsBack
  split <;> infer_instance

/-- **The requests that pass the gate**: where one comes to a paid call, its URI is spelled as an
LLM route, and the filter holds it back or the answer can be charged. -/
def Keeps (s : SpendGate L) (r : Request) : Prop :=
  ∀ c ∈ S.modelCalls r, c.answer.Billed →
    IsLlmRoute r.uri ∧ (s.HoldsBack r ∨ c.answer.Chargeable)

instance (s : SpendGate L) (r : Request) : Decidable (s.Keeps S r) :=
  inferInstanceAs (Decidable (∀ c ∈ S.modelCalls r, _))

/-! ## The routes and their URIs -/

end SpendGate

section Routes

variable {S : Container} {r : Request} {c : Call}

theorem buildPrompt_notBlank (taxpayer : String) : ¬ Java.IsBlank (buildPrompt taxpayer) := by
  have hfirst : ¬ Java.IsBlank
      "You are explaining an already-completed tax calculation to the taxpayer.\n\n" := by
    decide +kernel
  unfold buildPrompt RULES
  iterate 5 apply Java.not_isBlank_append
  exact hfirst

/-- **A call bought is charged** exactly if its answer can be. -/
theorem attributed_of_mem_buy {jwt : Jwt} {feature prompt model : String}
    (hprompt : ¬ Java.IsBlank prompt) (hmodel : Priceable model)
    (h : c ∈ S.buy r jwt feature prompt model) : Attributed c.lines ↔ c.answer.Chargeable := by
  unfold Container.buy at h
  split at h
  · next ctx _ =>
    cases List.mem_singleton.mp h
    exact attributed_observe_iff hprompt hmodel r.latencyMs ctx r.answer
  · cases h

theorem path_of_route {path : List String} (h : route path = some .graphql) :
    path = ["", "graphql"] := by
  unfold route at h
  split_ifs at h with hcompletions hgraphql
  · cases h
  · exact hgraphql
  · split at h
    · split at h <;> cases h
    · cases h

/-- **A call of the model** is a caller's with a token, and charged if its answer can be, or the
GraphQL mutation's, and not charged at all. -/
theorem mem_modelCalls (h : c ∈ S.modelCalls r) :
    ((∃ jwt, r.auth = .jwt jwt) ∧ (Attributed c.lines ↔ c.answer.Chargeable))
      ∨ (c.lines = [] ∧ S.path r.uri = some ["", "graphql"]) := by
  unfold Container.modelCalls at h
  split at h
  · cases h
  · next path hpath =>
    split at h
    · split at h
      · next jwt hroute hauth =>
        split at h
        · refine .inl ⟨⟨jwt, hauth⟩, ?_⟩
          unfold Container.explain at h
          split at h
          · exact attributed_of_mem_buy (buildPrompt_notBlank _) (by decide) h
          · cases h
        · cases h
      · next jwt hroute hauth =>
        split at h
        · refine .inl ⟨⟨jwt, hauth⟩, ?_⟩
          unfold Container.completions at h
          split at h
          · split at h
            · next hchecked => exact attributed_of_mem_buy hchecked.1 hchecked.2.2 h
            · cases h
          · cases h
        · cases h
      · next hroute =>
        refine .inr ⟨?_, ?_⟩
        · unfold Container.summarize at h
          split at h
          · obtain ⟨selection, -, hcall⟩ := List.mem_filterMap.mp h
            obtain ⟨taxpayer, -, rfl⟩ := Option.map_eq_some_iff.mp hcall
            rfl
          · cases h
        · rw [hpath, path_of_route hroute]
      · cases h
    · cases h

/-- A refused token comes to no call. -/
theorem modelCalls_of_refused (h : r.auth = .refused) : S.modelCalls r = [] := by
  unfold Container.modelCalls
  split
  · rfl
  · next path _ =>
    refine if_neg fun hadmitted => ?_
    have hadmits := hadmitted.2
    rw [h] at hadmits
    generalize access path = required at hadmits
    cases required <;> exact hadmits

/-- **No spelling of the GraphQL route is an LLM route.** -/
theorem not_isLlmRoute_of_graphql {uri : String} (h : S.path uri = some ["", "graphql"]) :
    ¬ IsLlmRoute uri := by
  have hother : ∀ first : List Char, '/' ∉ first → '%' ∉ first → ';' ∉ first →
      (∀ d ∈ first, Url.isAscii d) → first ≠ "graphql".toList →
      ∀ rest, uri.toList ≠ '/' :: first ++ '/' :: rest := by
    intro first hslash hpercent hsemicolon hascii hne rest heq
    have hdecode : S.utf8.uriDecode first = some first := by
      have hencode : S.utf8.uriDecode (Url.encode Url.isAscii first) = some first :=
        S.utf8.uriDecode_encode (fun _ h => h) hpercent
      rwa [Url.encode_of_safe hascii] at hencode
    -- the second segment is `first`
    have hsplit : uri.toList.splitOn '/' = [] :: first :: rest.splitOn '/' := by
      rw [heq, List.cons_append, List.splitOn_cons_eq_if_modifyHead, if_pos (beq_self_eq_true _),
        Url.splitOn_append_of_not_mem hslash, List.splitOn_cons_eq_if_modifyHead,
        if_pos (beq_self_eq_true _), List.modifyHead_cons, List.append_nil]
    have htake : first.takeWhile (· ≠ ';') = first :=
      List.takeWhile_eq_self_iff.mpr fun d hd => decide_eq_true fun hd' => hsemicolon (hd' ▸ hd)
    unfold Container.path at h
    split at h
    · obtain ⟨segments, hsegments, hpath⟩ := Option.map_eq_some_iff.mp h
      rw [hsplit, List.mapM_cons, List.mapM_cons, htake, hdecode] at hsegments
      obtain ⟨root, -, hroot⟩ := Option.bind_eq_some_iff.mp hsegments
      obtain ⟨tail, htail, htailEq⟩ := Option.bind_eq_some_iff.mp hroot
      obtain ⟨second, hsecond, hrest⟩ := Option.bind_eq_some_iff.mp htail
      obtain ⟨last, -, hlast⟩ := Option.bind_eq_some_iff.mp hrest
      cases hsecond
      cases hlast
      cases htailEq
      have hgraphql : String.ofList first = "graphql" := (List.cons.inj (List.cons.inj hpath).2).1
      exact hne (by rw [← hgraphql, String.toList_ofList])
    · cases h
  rintro (rfl | ⟨hstarts, -⟩)
  · exact hother "v1".toList (by decide) (by decide) (by decide) (Url.forall_of_all (by decide))
      (by decide) "completions".toList rfl
  · obtain ⟨rest, hrest⟩ := List.isPrefixOf_iff_prefix.mp hstarts
    exact hother "api".toList (by decide) (by decide) (by decide) (Url.forall_of_all (by decide))
      (by decide) rest hrest.symm

end Routes

namespace SpendGate

variable {S : Container} {L : Bucket4j}

/-! ## The invariant -/

/-- **The buckets count what was consumed**, and their clocks do not go back. -/
structure Inv (s : SpendGate L) : Prop where
  counted : ∀ subject, s.served.countP (fun x => x.consumed = some subject)
    = (s.bucketsBySubject subject).elim 0 fun b => (L.view b).grants.length
  filled : ∀ subject b, s.bucketsBySubject subject = some b →
    (L.view b).refilled ≤ s.now ∧ ∃ n, (L.view b).Inv REQUESTS_PER_MINUTE MINUTE n

theorem inv_start : (start : SpendGate L).Inv := ⟨fun _ => rfl, nofun⟩

theorem minute_pos : 0 < MINUTE := by decide

/-- **What the filter does**, in the cases a proof tells apart. -/
inductive Does (s : SpendGate L) (r : Request) : Filtered L → Prop
  | free (h : (∃ jwt, r.auth = .jwt jwt) → ¬ IsLlmRoute r.uri) :
    Does s r (.chain s.bucketsBySubject none)
  | metered (jwt : Jwt) (subject : String) (b : L.State) (hauth : r.auth = .jwt jwt)
    (hsubject : jwt.subject = some subject) (huri : IsLlmRoute r.uri)
    (htake : L.tryConsume (s.bucket subject r.instant) r.instant = some b) :
    Does s r (.chain (Function.update s.bucketsBySubject subject (some b)) (some subject))
  | unauthorized (hauth : r.auth = .refused) : Does s r .unauthorized
  | rateLimited (huri : IsLlmRoute r.uri) (hholds : s.HoldsBack r) : Does s r .rateLimited
  | threw (huri : IsLlmRoute r.uri) (hholds : s.HoldsBack r) : Does s r .threw

theorem does_doFilter (s : SpendGate L) (r : Request) : Does s r (s.doFilter r) := by
  unfold doFilter
  split
  · next hauth => exact .unauthorized hauth
  · next hauth => exact .free fun ⟨jwt, hjwt⟩ => nomatch hauth.symm.trans hjwt
  · next jwt hauth =>
    split
    · next huri =>
      split
      · next hsubject =>
        refine .threw huri ?_
        rw [HoldsBack, hauth]
        rintro subject hmem
        cases hsubject.symm.trans hmem
      · next subject hsubject =>
        split
        · next b htake => exact .metered jwt subject b hauth hsubject huri htake
        · next htake =>
          refine .rateLimited huri ?_
          rw [HoldsBack, hauth]
          rintro subject' hmem
          cases hsubject.symm.trans hmem
          exact htake
    · next huri => exact .free fun _ => huri

/-- **A request past the filter** is gated exactly if it keeps to the condition… -/
theorem gated_of_chain {s : SpendGate L} {r : Request} {buckets : String → Option L.State}
    {consumed : Option String} (h : Does s r (.chain buckets consumed)) :
    (Served.mk r consumed (S.modelCalls r)).Gated ↔ s.Keeps S r := by
  refine forall_congr' fun c => imp_congr_right fun hc => imp_congr_right fun hbilled => ?_
  have hcall := mem_modelCalls hc
  cases h with
  | free hfree =>
    have hmetered : ¬ (Served.mk r none (S.modelCalls r)).Metered := by
      rintro ⟨_, _, _, _, ⟨⟩⟩
    refine iff_of_false (fun h => hmetered h.1) fun h => ?_
    obtain ⟨hauth, -⟩ | ⟨-, hgraphql⟩ := hcall
    · exact hfree hauth h.1
    · exact not_isLlmRoute_of_graphql hgraphql h.1
  | metered jwt subject b hauth hsubject huri htake =>
    have hmetered : (Served.mk r (some subject) (S.modelCalls r)).Metered :=
      ⟨jwt, subject, hauth, hsubject, rfl⟩
    have hpasses : ¬ s.HoldsBack r := by
      rw [HoldsBack, hauth]
      intro hholds
      cases (hholds subject hsubject).symm.trans htake
    obtain ⟨-, hcharged⟩ | ⟨-, hgraphql⟩ := hcall
    · rw [hcharged, and_iff_right hmetered, and_iff_right huri, or_iff_right hpasses]
    · exact absurd huri (not_isLlmRoute_of_graphql hgraphql)

/-- …as a request that gets no further does. -/
theorem Does.keeps {s : SpendGate L} {r : Request} {filtered : Filtered L} (h : Does s r filtered)
    (hheld : ∀ buckets consumed, filtered ≠ .chain buckets consumed) : s.Keeps S r := by
  cases h with
  | free hfree => exact absurd rfl (hheld _ _)
  | metered jwt subject b hauth hsubject huri htake => exact absurd rfl (hheld _ _)
  | unauthorized hauth =>
    intro c hc
    rw [modelCalls_of_refused hauth] at hc
    cases hc
  | rateLimited huri hholds => exact fun _ _ _ => ⟨huri, .inl hholds⟩
  | threw huri hholds => exact fun _ _ _ => ⟨huri, .inl hholds⟩

/-- **One request**: all paid calls are past the gate after it exactly if they were before and it
keeps to the condition. -/
theorem gated_step {s t : SpendGate L} {r : Request} (h : step S s r = some t) :
    (∀ x ∈ t.served, x.Gated) ↔ (∀ x ∈ s.served, x.Gated) ∧ s.Keeps S r := by
  have hdoes := does_doFilter s r
  have hnone : (Served.mk r none []).Gated := nofun
  unfold step at h
  split at h
  · cases h
  · split at h
    · next buckets consumed hfilter =>
      cases h
      rw [hfilter] at hdoes
      rw [List.forall_mem_cons, gated_of_chain hdoes, and_comm]
    all_goals
      next hfilter =>
        cases h
        rw [hfilter] at hdoes
        rw [List.forall_mem_cons, and_iff_right hnone]
        exact (and_iff_left (hdoes.keeps nofun)).symm

theorem Inv.bucket {s : SpendGate L} (hs : s.Inv) (subject : String) {instant : ℕ}
    (hclock : s.now ≤ instant) :
    (L.view (s.bucket subject instant)).refilled ≤ instant
      ∧ (∃ n, (L.view (s.bucket subject instant)).Inv REQUESTS_PER_MINUTE MINUTE n)
      ∧ s.served.countP (fun x => x.consumed = some subject)
        = (L.view (s.bucket subject instant)).grants.length := by
  rw [hs.counted, SpendGate.bucket]
  cases hb : s.bucketsBySubject subject with
  | none =>
    rw [Option.getD_none, L.view_full]
    exact ⟨Nat.le_refl _, ⟨0, Bucket.inv_full instant⟩, rfl⟩
  | some b =>
    obtain ⟨hrefilled, hn⟩ := hs.filled subject b hb
    exact ⟨hrefilled.trans hclock, hn, rfl⟩

theorem Inv.step {s t : SpendGate L} {r : Request} (hs : s.Inv)
    (h : SpendGate.step S s r = some t) : t.Inv := by
  have hdoes := does_doFilter s r
  -- a request that consumed nothing leaves the buckets as they are
  have hfree : ∀ calls, ¬ r.instant < s.now →
      (SpendGate.mk r.instant s.bucketsBySubject (⟨r, none, calls⟩ :: s.served)).Inv := by
    intro calls hclock
    refine ⟨fun subject => ?_, fun subject b hb => ?_⟩
    · rw [List.countP_cons_of_neg (by simp)]
      exact hs.counted subject
    · exact ⟨(hs.filled subject b hb).1.trans (not_lt.mp hclock), (hs.filled subject b hb).2⟩
  unfold SpendGate.step at h
  split at h
  · cases h
  · next hclock =>
    split at h
    · next buckets consumed hfilter =>
      cases h
      rw [hfilter] at hdoes
      cases hdoes with
      | free _ => exact hfree _ hclock
      | metered jwt subject b hauth hsubject huri htake =>
        obtain ⟨hrefilled, ⟨n, hn⟩, hcount⟩ := hs.bucket subject (not_lt.mp hclock)
        have hview := Library.view_of_tryConsume htake
        obtain ⟨htaken, hfilled⟩ := hn.tryConsume minute_pos hrefilled hview
        refine ⟨fun subject' => ?_, fun subject' b' hb' => ?_⟩
        · by_cases hsame : subject' = subject
          · subst hsame
            have hgranted := congrArg List.length (Bucket.grants_tryConsume hview)
            simpa [List.countP_cons_of_pos, hcount] using hgranted.symm
          · simpa [Function.update_of_ne hsame, Ne.symm hsame] using hs.counted subject'
        · obtain ⟨-, hb'⟩ | ⟨-, hb'⟩ := update_eq_some_iff.mp hb'
          · cases hb'
            exact ⟨hfilled, _, htaken⟩
          · exact ⟨(hs.filled subject' b' hb').1.trans (not_lt.mp hclock),
              (hs.filled subject' b' hb').2⟩
    all_goals
      cases h
      exact hfree _ hclock

variable (S) in
/-- **Every paid call has passed the gate** exactly in the runs whose requests keep to the
condition; and no subject is granted more than ten in a minute in any run. -/
theorem gated_iff {requests : List Request} {s : SpendGate L}
    (h : exec (step S) start requests = some s) :
    s.Gated ↔ Throughout (step S) (Keeps S) (start : SpendGate L) requests := by
  have hinv : s.Inv := exec_invariant (fun hs hstep => hs.step hstep) inv_start h
  have hpaid := exec_iff_throughout (I := fun _ => True) (fun _ _ => trivial)
    (fun _ hstep => gated_step hstep) trivial h
  rw [and_iff_right (fun x hx => nomatch hx)] at hpaid
  rw [← hpaid]
  refine ⟨Gated.paid, fun hall => ⟨hall, hinv.counted, fun subject b hb => ?_⟩⟩
  obtain ⟨-, n, hn⟩ := hinv.filled subject b hb
  exact hn.bounded

/-- Buckets that are what can be told of them. -/
abbrev docsBuckets : Bucket4j := .self REQUESTS_PER_MINUTE MINUTE

/-- An application with one document. -/
def docsContainer : Container where
  passes := fun _ => true
  utf8 := .strict
  service := "taxcalc"
  document := Function.update (fun _ => none) "tp-1" (some "TaxpayerReadModel\x7bid=tp-1\x7d")

/-- Alice asks for an explanation. -/
def docsRequest : Request where
  instant := 1
  auth := .jwt ⟨some "alice", some "a", ["taxpayers.read"], ["TAXPAYER_READER"]⟩
  post := true
  uri := "/api/v1/taxpayers/tp-1/explanation"
  body := .other
  answer := .answered ⟨some 150, some 40⟩ (some "claude-haiku-4-5-20251001") (some "Because.")
  latencyMs := 900

theorem gated_docsRequest : ∃ s : SpendGate docsBuckets,
    exec (step docsContainer) start [docsRequest, { docsRequest with
      instant := 2
      uri := "/v1/completions"
      body := .completion (some "Why?") none (some "k6") }] = some s ∧ s.Gated := by
  have hrun : (exec (step docsContainer) (start : SpendGate docsBuckets) [docsRequest,
    { docsRequest with
      instant := 2
      uri := "/v1/completions"
      body := .completion (some "Why?") none (some "k6") }]).isSome := by decide +kernel
  obtain ⟨s, hs⟩ := Option.isSome_iff_exists.mp hrun
  exact ⟨s, hs, (gated_iff docsContainer hs).mpr (by decide +kernel)⟩

/-- **A spelling slips past the filter**: an escaped letter, and the call takes no token. -/
theorem explanation_ungated : ¬ ∀ (L : Bucket4j) (S : Container) (requests : List Request)
    (s : SpendGate L), exec (step S) start requests = some s → s.Gated := by
  intro hall
  have hrun : (exec (step docsContainer) (start : SpendGate docsBuckets)
      [{ docsRequest with uri := "/api/v1/taxpayers/tp-1/explanatio%6E" }]).map
      (fun s => s.served.all fun x => x.calls.all fun c =>
        decide (c.answer.Billed → x.consumed.isSome)) = some false := by decide +kernel
  obtain ⟨s, hs, hserved⟩ := Option.map_eq_some_iff.mp hrun
  refine absurd hserved (ne_of_eq_of_ne (b := true) ?_ nofun)
  simp only [List.all_eq_true, decide_eq_true_eq]
  intro x hx c hc hbilled
  obtain ⟨⟨jwt, subject, -, -, hconsumed⟩, -⟩ := (hall docsBuckets _ _ s hs).paid x hx c hc hbilled
  rw [hconsumed]
  rfl

end SpendGate

end Security
