import Mathlib.Algebra.BigOperators.Group.List.Basic
import Mathlib.Algebra.Group.Prod
import Mathlib.Tactic.Abel
import TaxLiability.Rag.Calls

/-!
# Rag/Service — retrieval as one service: loads, searches, completions and the cache between them

    load ──▸ table ──dense──▸ · ──sparse──▸ · ──▸ rerank ──▸ prompt ──▸ completion
                                                                            │
    GET epoch ──▸ GET answer ──hit──▸ delivered                             ▾
                     └──miss──▸ (dense)            delivered ◂── SET ◂── GET epoch

Any number of requests and loads run between one another, and a request reads the table twice.  The
guard of a load, the filter of a search and the key of an answer each keep tenants apart on their
own; together they make every answer delivered, fresh or cached, one of the tenant's own rows
(`delivered_sound`).  A completion's tokens are added to its answer after the store, so a cached
answer reports none, and what is reported is what was spent (`spent_eq_reported`).
-/

open Machine

namespace Rag

/-! ## Answers -/

section Payload

variable {K : Type} (num : K → Json)

/-- A citation, as it is cached. -/
def Citation.json (c : Citation K) : Json :=
  .obj [("chunk_id", .str c.chunk_id), ("chunk_text", .str c.chunk_text), ("score", num c.score),
    ("tenant_id", .str c.tenant_id)]

/-- The coverage, as it is cached. -/
def Coverage.json (c : Coverage K) : Json :=
  .obj [("dense_only", num c.dense_only), ("sparse_only", num c.sparse_only), ("both", num c.both),
    ("jaccard", num c.jaccard)]

/-- **An answer, as it is cached**, where `num` is how a number is written. -/
def Answer.payload (a : Answer K) : Json.Fields :=
  [("text", .str a.text), ("citations", .arr (a.citations.map (Citation.json num))),
    ("rerank_timed_out", .bool a.rerank_timed_out), ("coverage", a.coverage.json num)]

end Payload

/-- A block of a completion's content. -/
inductive Block
  | text (text : String)
  | other
  deriving DecidableEq, Repr

/-- The tokens a completion reports, where its client reads them. -/
structure Usage where
  input_tokens : Option ℕ
  output_tokens : Option ℕ
  deriving DecidableEq, Repr

/-- **A completion.** -/
structure Message where
  content : List Block
  usage : Option Usage
  deriving DecidableEq, Repr

/-- The text of a completion: that of its first block, if it is one of text. -/
def Message.text (m : Message) : String :=
  match m.content.head? with
  | some (.text text) => text
  | _ => ""

/-- Tokens, of the prompt and of the answer. -/
abbrev Tokens := ℕ × ℕ

/-- The tokens of a completion, none where it reports none. -/
def Usage.tokens (u : Usage) : Tokens := (u.input_tokens.getD 0, u.output_tokens.getD 0)

/-- What `answer["usage"]` is set to. -/
def Usage.json (u : Usage) : Json :=
  .obj [("input_tokens", .int u.tokens.1), ("output_tokens", .int u.tokens.2)]

/-- **An answer with the tokens of its completion**, once it is stored. -/
def withUsage (answer : Json.Fields) : Option Usage → Json.Fields
  | some usage => Dict.set answer "usage" usage.json
  | none => answer

/-- A count of tokens as it is read: none is zero. -/
def tokenCount : Option Json → ℕ
  | some (.int n) => n.toNat
  | _ => 0

/-- **`_record_pipeline_usage`**: the tokens a caller charges for an answer.  No `usage` is zero. -/
def pipelineUsage (answer : Json.Fields) : Tokens :=
  match Dict.get? answer "usage" with
  | some (.obj usage) =>
    (tokenCount (Dict.get? usage "input_tokens"), tokenCount (Dict.get? usage "output_tokens"))
  | _ => 0

/-- **A question**: a call, and the text its vector encodes. -/
structure Question (V : Type) extends Call V where
  query_text : String

variable {V T K : Type}

/-- **`retrieve_and_generate`** past the searches: what it makes of the candidates of both and of
the completion of its prompt. -/
def complete [Field K] [LinearOrder K] (B : Backing V T K) (q : Question V)
    (dense sparse : List (Candidate K)) (message : Message) : Except RerankError (Generation K) :=
  (rerankStage B q.query_text (diversify B dense sparse q.on) q.on).map fun reranked =>
    let passages := reranked.1.map Candidate.chunk_text
    { passages := passages
      prompt := build_prompt q.query_text passages
      answer :=
        { text := message.text
          citations := reranked.1.map fun c => ⟨c.chunk_id, c.chunk_text, c.score, q.tenant_id⟩
          rerank_timed_out := reranked.2
          coverage := coverage dense sparse } }

/-! ## The service -/

namespace Service

/-- Where a request stands, between two commands. -/
inductive Pc (K : Type)
  | lookup
  | lookupAt (epoch : ℤ)
  | retrieve
  | sparse (dense : List (Candidate K))
  | create (dense sparse : List (Candidate K))
  | store (answer : Answer K) (usage : Option Usage)
  | storeAt (answer : Answer K) (usage : Option Usage) (epoch : ℤ)

/-- The tokens of a completion whose answer is not delivered yet. -/
def Pc.inFlight : Pc K → Tokens
  | .store _ usage => (usage.map Usage.tokens).getD 0
  | .storeAt _ usage _ => (usage.map Usage.tokens).getD 0
  | _ => 0

/-- A request under way. -/
structure Request (V K : Type) where
  question : Question V
  pc : Pc K

/-- **A prompt that was sent**, with the passages in it. -/
structure Prompt where
  tenant_id : String
  passages : List String
  prompt : String

/-- **An answer that was delivered**, to the tenant of its request. -/
structure Delivered where
  request : ℕ
  tenant_id : String
  answer : Json.Fields

/-- A command of a request.  Each carries what it rests on. -/
inductive Command (V T K : Type)
  /-- the epoch is read, for the lookup or for the store -/
  | getEpoch
  /-- the answer is looked up -/
  | getAnswer
  /-- the dense search reads the table -/
  | dense (backing : Backing V T K)
  /-- the sparse search reads the table -/
  | sparse (backing : Backing V T K)
  /-- the candidates are reranked, and the prompt completed -/
  | create (backing : Backing V T K) (message : Message)
  /-- the answer is stored -/
  | setAnswer

/-- What happens next. -/
inductive Event (V T K : Type)
  /-- request `i` comes in -/
  | ask (i : ℕ) (question : Question V)
  /-- request `i` issues its next command -/
  | command (i : ℕ) (c : Command V T K)
  /-- request `i` fails -/
  | fail (i : ℕ)
  /-- a batch of rows is loaded -/
  | load (now : T) (payload : List (CorpusRow V))
  /-- a tenant's epoch is bumped -/
  | bump (tenant_id : String)
  /-- an entry reaches the end of its time to live -/
  | expire (key : String)

end Service

/-- **The service**: one table, one Redis, and the requests under way.  `loaded` is the rows of the
batches committed; `prompts`, `delivered`, `completions` and `lost` are histories, the last of the
tokens of completions whose request failed after. -/
structure Service (V T K : Type) where
  table : DocChunks V T
  redis : Redis
  requests : ℕ → Option (Service.Request V K)
  loaded : List (CorpusRow V)
  prompts : List Service.Prompt
  delivered : List Service.Delivered
  completions : List (ℕ × Tokens)
  lost : List (ℕ × Tokens)

namespace Service

/-- Before the first load and the first request. -/
def start : Service V T K := ⟨.empty, fun _ => none, fun _ => none, [], [], [], [], []⟩

/-- Put request `i` at a point of its run, or past its end. -/
def put (s : Service V T K) (i : ℕ) (r : Option (Request V K)) : Service V T K :=
  { s with requests := Function.update s.requests i r }

/-- Move request `i` on. -/
def goto (s : Service V T K) (i : ℕ) (r : Request V K) (pc : Pc K) : Service V T K :=
  s.put i (some { r with pc := pc })

/-- End request `i` with an answer. -/
def deliver (s : Service V T K) (i : ℕ) (r : Request V K) (answer : Json.Fields) :
    Service V T K :=
  { s.put i none with delivered := ⟨i, r.question.tenant_id, answer⟩ :: s.delivered }

/-- End request `i` with none. -/
def drop (s : Service V T K) (i : ℕ) (r : Request V K) : Service V T K :=
  { s.put i none with lost := (i, r.pc.inFlight) :: s.lost }

variable [Field K] [LinearOrder K] (O : Operators) (E : Embedding V) (num : K → Json)

/-- **A command of request `i`.**  One that raises ends the request. -/
def issue (s : Service V T K) (i : ℕ) (r : Request V K) (c : Command V T K) :
    Option (Service V T K) :=
  match r.pc, c with
  | .lookup, .getEpoch =>
    match getEpoch s.redis r.question.tenant_id with
    | .ok epoch => some (s.goto i r (.lookupAt epoch))
    | .error _ => some (s.drop i r)
  | .lookupAt epoch, .getAnswer =>
    match readAnswer E s.redis r.question.query_vec r.question.tenant_id epoch with
    | .ok (some answer) => some (s.deliver i r answer)
    | .ok none => some (s.goto i r .retrieve)
    | .error _ => some (s.drop i r)
  | .retrieve, .dense backing =>
    some (s.goto i r (.sparse (denseOf O backing s.table r.question.query_vec r.question.tenant_id
      r.question.metadata_filter r.question.on)))
  | .sparse dense, .sparse backing =>
    some (s.goto i r (.create dense (sparseOf O backing s.table r.question.query_text
      r.question.tenant_id r.question.on)))
  | .create dense sparse, .create backing message =>
    match complete backing r.question dense sparse message with
    | .ok g =>
      some { s.goto i r (.store g.answer message.usage) with
        prompts := ⟨r.question.tenant_id, g.passages, g.prompt⟩ :: s.prompts
        completions := (i, (message.usage.map Usage.tokens).getD 0) :: s.completions }
    | .error _ => some (s.drop i r)
  | .store answer usage, .getEpoch =>
    match getEpoch s.redis r.question.tenant_id with
    | .ok epoch => some (s.goto i r (.storeAt answer usage epoch))
    | .error _ => some (s.drop i r)
  | .storeAt answer usage epoch, .setAnswer =>
    match writeAnswer E s.redis r.question.query_vec r.question.tenant_id epoch
        (answer.payload num) DEFAULT_TTL_SECONDS with
    | .ok redis =>
      -- the tokens join the answer after it is stored
      some ({ s with redis := redis }.deliver i r (withUsage (answer.payload num) usage))
    | .error _ => some (s.drop i r)
  | _, _ => none

/-- **One step of the service.** -/
def step (s : Service V T K) : Event V T K → Option (Service V T K)
  | .ask i question =>
    match s.requests i with
    | none => some (s.put i (some ⟨question, .lookup⟩))
    | some _ => none
  | .command i c =>
    match s.requests i with
    | some r => s.issue O E num i r c
    | none => none
  | .fail i =>
    match s.requests i with
    | some r => some (s.drop i r)
    | none => none
  | .load now payload =>
    match load_rows now s.table payload with
    | (.ok _, table) => some { s with table := table, loaded := payload ++ s.loaded }
    | (.error _, table) => some { s with table := table }
  | .bump tenant_id =>
    match bumpEpoch s.redis tenant_id with
    | .ok (redis, _) => some { s with redis := redis }
    | .error _ => some s
  | .expire key =>
    match s.redis key with
    | some ⟨_, some _⟩ => some { s with redis := Function.update s.redis key none }
    | _ => none

/-! ## Whose rows an answer shows -/

/-- **A row loaded for a tenant** has this id and this text. -/
def Shown (loaded : List (CorpusRow V)) (tenant_id chunk_id chunk_text : String) : Prop :=
  ∃ row ∈ loaded, row.tenant_id = tenant_id ∧ chunk_id = CHUNK_ID_EXPR row.key
    ∧ chunk_text = row.chunk_text

/-- **An answer is a tenant's own**: every citation names it, and shows a row loaded for it. -/
def Own (loaded : List (CorpusRow V)) (tenant_id : String) (answer : Answer K) : Prop :=
  ∀ c ∈ answer.citations, c.tenant_id = tenant_id ∧ Shown loaded tenant_id c.chunk_id c.chunk_text

/-- Candidates that show rows of a tenant. -/
def AllShown (loaded : List (CorpusRow V)) (tenant_id : String) (cs : List (Candidate K)) : Prop :=
  ∀ c ∈ cs, Shown loaded tenant_id c.chunk_id c.chunk_text

/-- **What a request holds** is its tenant's own. -/
def Request.Own (loaded : List (CorpusRow V)) (r : Request V K) : Prop :=
  match r.pc with
  | .sparse dense => AllShown loaded r.question.tenant_id dense
  | .create dense sparse =>
    AllShown loaded r.question.tenant_id dense ∧ AllShown loaded r.question.tenant_id sparse
  | .store answer _ => Service.Own loaded r.question.tenant_id answer
  | .storeAt answer _ _ => Service.Own loaded r.question.tenant_id answer
  | _ => True

/-- **The table holds what was loaded**: each chunk is a row of its tenant's, and the key of each
row belongs to its tenant. -/
structure Holds (loaded : List (CorpusRow V)) (table : DocChunks V T) : Prop where
  rows : ∀ key chunk, table.get? key = some chunk →
    ∃ row ∈ loaded, row.key = key ∧ row.tenant_id = chunk.tenant_id
      ∧ row.chunk_text = chunk.chunk_text
  keys : ∀ row ∈ loaded, ∃ chunk, table.get? row.key = some chunk
    ∧ chunk.tenant_id = row.tenant_id

/-- **Every entry under an answer's key is an answer of its tenant's own.** -/
def Filed (loaded : List (CorpusRow V)) (redis : Redis) : Prop :=
  ∀ query_vec tenant_id epoch entry, redis (bucketKey E query_vec tenant_id epoch) = some entry →
    ∃ answer : Answer K, entry.value = .obj (answer.payload num) ∧ Own loaded tenant_id answer

/-- **The service in order.** -/
structure Sound (s : Service V T K) : Prop where
  table : Holds s.loaded s.table
  redis : Filed E num s.loaded s.redis
  requests : ∀ i r, s.requests i = some r → r.Own s.loaded
  prompts : ∀ p ∈ s.prompts, (∃ query_text, p.prompt = build_prompt query_text p.passages)
    ∧ ∀ passage ∈ p.passages, ∃ chunk_id, Shown s.loaded p.tenant_id chunk_id passage
  delivered : ∀ d ∈ s.delivered, ∃ (answer : Answer K) (usage : Option Usage),
    d.answer = withUsage (answer.payload num) usage ∧ Own s.loaded d.tenant_id answer

section Rows

variable {loaded loaded' : List (CorpusRow V)} {tenant_id : String}

theorem Shown.mono (hsub : loaded ⊆ loaded') {chunk_id chunk_text : String}
    (h : Shown loaded tenant_id chunk_id chunk_text) :
    Shown loaded' tenant_id chunk_id chunk_text := by
  obtain ⟨row, hrow, hshows⟩ := h
  exact ⟨row, hsub hrow, hshows⟩

omit [Field K] [LinearOrder K] in
theorem Own.mono (hsub : loaded ⊆ loaded') {answer : Answer K} (h : Own loaded tenant_id answer) :
    Own loaded' tenant_id answer := fun c hc => ⟨(h c hc).1, (h c hc).2.mono hsub⟩

omit [Field K] [LinearOrder K] in
theorem AllShown.mono (hsub : loaded ⊆ loaded') {cs : List (Candidate K)}
    (h : AllShown loaded tenant_id cs) : AllShown loaded' tenant_id cs :=
  fun c hc => (h c hc).mono hsub

omit [Field K] [LinearOrder K] in
theorem Request.Own.mono (hsub : loaded ⊆ loaded') {r : Request V K} (h : r.Own loaded) :
    r.Own loaded' := by
  unfold Request.Own at h ⊢
  split at h
  · exact AllShown.mono hsub h
  · exact ⟨AllShown.mono hsub h.1, AllShown.mono hsub h.2⟩
  · exact Service.Own.mono hsub h
  · exact Service.Own.mono hsub h
  · trivial

end Rows

/-! ## Loads -/

section Load

variable {loaded : List (CorpusRow V)} {payload : List (CorpusRow V)} {table table' : DocChunks V T}
  {now : T}

/-- Every row of a payload has a last row of its key, of one tenant with it where no row crosses. -/
theorem exists_lastRow (hcross : ¬ CrossTenant table payload) {row : CorpusRow V}
    (hrow : row ∈ payload) :
    ∃ last, lastRow payload row.key = some last ∧ last.tenant_id = row.tenant_id := by
  cases hlast : lastRow payload row.key with
  | none => exact absurd rfl (lastRow_eq_none.mp hlast row hrow)
  | some last =>
    refine ⟨last, rfl, ?_⟩
    by_contra hne
    obtain ⟨hkey, before, after, rfl, hafter⟩ := lastRow_eq_some hlast
    rcases List.mem_append.mp hrow with hbefore | hmem
    · exact hcross ⟨before, last, after, rfl, .inr ⟨row, hbefore, hkey.symm, Ne.symm hne⟩⟩
    · rcases List.mem_cons.mp hmem with rfl | hmem
      · exact hne rfl
      · exact hafter row hmem hkey.symm

/-- **A load keeps a table that holds what was loaded**, with the rows of its payload. -/
theorem Holds.load (h : Holds loaded table) (hcross : ¬ CrossTenant table payload)
    (hload : Loaded table payload table') : Holds (payload ++ loaded) table' where
  rows := fun key chunk hget => by
    cases hlast : lastRow payload key with
    | none =>
      obtain ⟨row, hrow, hshows⟩ := h.rows key chunk ((hload.others key hlast).symm.trans hget)
      exact ⟨row, List.mem_append_right _ hrow, hshows⟩
    | some last =>
      obtain ⟨chunk', hget', htenant, hholds⟩ := hload.last key last hlast
      obtain rfl := Option.some.inj (hget.symm.trans hget')
      obtain ⟨hkey, before, after, rfl, -⟩ := lastRow_eq_some hlast
      exact ⟨last, List.mem_append_left _ (List.mem_append_right _ List.mem_cons_self), hkey,
        htenant.symm, hholds.chunk_text.symm⟩
  keys := fun row hrow => by
    rcases List.mem_append.mp hrow with hrow | hrow
    · obtain ⟨last, hlast, hsame⟩ := exists_lastRow hcross hrow
      obtain ⟨chunk, hget, htenant, -⟩ := hload.last row.key last hlast
      exact ⟨chunk, hget, htenant.trans hsame⟩
    · obtain ⟨chunk, hget, htenant⟩ := h.keys row hrow
      obtain ⟨chunk', hget', htenant', -⟩ := hload.kept row.key chunk hget
      exact ⟨chunk', hget', htenant'.trans htenant⟩

omit [Field K] [LinearOrder K] in
/-- **A chunk that a table holds is shown** to its tenant. -/
theorem Holds.shown (h : Holds loaded table) {key : Key} {chunk : DocChunk V T}
    (hget : table.get? key = some chunk) {tenant_id : String}
    (htenant : chunk.tenant_id = tenant_id)
    {c : Candidate K} (hc : c.Shows key chunk) :
    Shown loaded tenant_id c.chunk_id c.chunk_text := by
  obtain ⟨row, hrow, hkey, howner, htext⟩ := h.rows key chunk hget
  exact ⟨row, hrow, howner.trans htenant, by rw [hc.1, hkey], by rw [hc.2, htext]⟩

end Load

/-! ## Searches and completions -/

section Complete

variable {O : Operators} {loaded : List (CorpusRow V)} {table : DocChunks V T}
  {backing : Backing V T K} {q : Question V} {dense sparse : List (Candidate K)}
  {message : Message} {g : Generation K}

omit [Field K] in
theorem Holds.allShown_denseOf (h : Holds loaded table) (backing : Backing V T K) (q : Question V) :
    AllShown loaded q.tenant_id (denseOf O backing table q.query_vec q.tenant_id q.metadata_filter
      q.on) := by
  intro c hc
  obtain ⟨key, chunk, hget, htenant, -, -, hshows⟩ := mem_dense hc
  exact h.shown hget htenant hshows

omit [Field K] in
theorem Holds.allShown_sparseOf (h : Holds loaded table) (backing : Backing V T K)
    (q : Question V) :
    AllShown loaded q.tenant_id (sparseOf O backing table q.query_text q.tenant_id q.on) := by
  intro c hc
  unfold sparseOf at hc
  split at hc
  · obtain ⟨key, chunk, ⟨hget, htenant, -⟩, hshows⟩ := mem_sparse hc
    exact h.shown hget htenant hshows
  · exact absurd hc List.not_mem_nil

/-- **A completion chooses among its candidates**: its passages and its citations are theirs. -/
theorem complete_eq_ok (h : complete backing q dense sparse message = .ok g) :
    g.prompt = build_prompt q.query_text g.passages ∧ ∃ context : List (Candidate K),
      g.passages = context.map Candidate.chunk_text ∧ g.answer.citations
        = context.map (fun c => ⟨c.chunk_id, c.chunk_text, c.score, q.tenant_id⟩)
      ∧ ∀ c ∈ context, ∃ d ∈ dense ++ sparse, d.passage = c.passage := by
  obtain ⟨reranked, hreranked, rfl⟩ := map_eq_ok.mp h
  refine ⟨rfl, reranked.1, rfl, rfl, fun c hc => ?_⟩
  obtain ⟨d, hd, hp⟩ := exists_of_mem_rerankStage hreranked hc
  obtain ⟨e, he, hp'⟩ := exists_of_mem_diversify hd
  exact ⟨e, List.mem_append.mpr (he.imp_right And.right), hp'.trans hp⟩

/-- **What is completed from rows of a tenant shows rows of the tenant**, in its prompt and in its
citations. -/
theorem own_of_complete (h : complete backing q dense sparse message = .ok g)
    (hdense : AllShown loaded q.tenant_id dense) (hsparse : AllShown loaded q.tenant_id sparse) :
    Own loaded q.tenant_id g.answer
      ∧ ∀ passage ∈ g.passages, ∃ chunk_id, Shown loaded q.tenant_id chunk_id passage := by
  obtain ⟨-, context, hpassages, hcitations, hcontext⟩ := complete_eq_ok h
  have hshown : AllShown loaded q.tenant_id context := by
    intro c hc
    obtain ⟨d, hd, hp⟩ := hcontext c hc
    obtain ⟨hid, htext⟩ := Prod.mk.inj hp
    rw [← hid, ← htext]
    exact (List.mem_append.mp hd).elim (hdense d) (hsparse d)
  refine ⟨?_, ?_⟩
  · rw [Own, hcitations]
    exact List.forall_mem_map.mpr fun c hc => ⟨rfl, hshown c hc⟩
  · rw [hpassages]
    exact List.forall_mem_map.mpr fun c hc => ⟨c.chunk_id, hshown c hc⟩

/-- **Where both searches read one table**, the completion is the answer generated from it. -/
theorem complete_eq_generate (O : Operators) (table : DocChunks V T) (backing : Backing V T K)
    (q : Question V) (message : Message)
    (htext : ∀ prompt, backing.create q.model_name prompt = message.text) :
    complete backing q
      (denseOf O backing table q.query_vec q.tenant_id q.metadata_filter q.on)
      (sparseOf O backing table q.query_text q.tenant_id q.on) message
    = generate O backing table q.query_vec q.query_text q.tenant_id q.model_name q.metadata_filter
      q.on := by
  simp only [complete, generate, htext]

end Complete

/-! ## What every step keeps -/

variable {O : Operators} {E : Embedding V} {num : K → Json} {s s' : Service V T K}
  {r : Request V K} {i : ℕ}

omit [Field K] [LinearOrder K] in
theorem start_sound : (start : Service V T K).Sound E num where
  table := ⟨by rintro key chunk ⟨⟩, by rintro row ⟨⟩⟩
  redis := by rintro query_vec tenant_id epoch entry ⟨⟩
  requests := by rintro i r ⟨⟩
  prompts := by rintro p ⟨⟩
  delivered := by rintro d ⟨⟩

omit [Field K] [LinearOrder K] in
/-- Moving a request on to what is its tenant's own, or ending it, leaves the rest in order. -/
theorem Sound.put (hs : s.Sound E num) (i : ℕ) {o : Option (Request V K)}
    (ho : ∀ r, o = some r → r.Own s.loaded) : (s.put i o).Sound E num where
  table := hs.table
  redis := hs.redis
  requests := fun j r hj => by
    obtain ⟨-, hr⟩ | ⟨-, hr⟩ := update_eq_some_iff.mp hj
    · exact ho r hr
    · exact hs.requests j r hr
  prompts := hs.prompts
  delivered := hs.delivered

omit [Field K] [LinearOrder K] in
theorem Sound.goto (hs : s.Sound E num) (i : ℕ) {pc : Pc K}
    (hr : Request.Own s.loaded { r with pc := pc }) : (s.goto i r pc).Sound E num :=
  hs.put i fun _ h => by
    cases h
    exact hr

omit [Field K] [LinearOrder K] in
theorem Sound.drop (hs : s.Sound E num) (i : ℕ) (r : Request V K) : (s.drop i r).Sound E num where
  table := hs.table
  redis := hs.redis
  requests := (hs.put i fun _ h => by cases h).requests
  prompts := hs.prompts
  delivered := hs.delivered

omit [Field K] [LinearOrder K] in
/-- **An answer of a tenant's own can be delivered to it.** -/
theorem Sound.deliver (hs : s.Sound E num) (i : ℕ) {answer : Answer K} (usage : Option Usage)
    (hown : Own s.loaded r.question.tenant_id answer) :
    (s.deliver i r (withUsage (answer.payload num) usage)).Sound E num where
  table := hs.table
  redis := hs.redis
  requests := (hs.put i fun _ h => by cases h).requests
  prompts := hs.prompts
  delivered := List.forall_mem_cons.mpr ⟨⟨answer, usage, rfl, hown⟩, hs.delivered⟩

omit [Field K] [LinearOrder K] in
/-- A database that holds answers only where there were some leaves the service in order. -/
theorem Sound.withRedis (hs : s.Sound E num) {redis : Redis}
    (hredis : Filed E num s.loaded redis) : Sound E num { s with redis := redis } where
  table := hs.table
  redis := hredis
  requests := hs.requests
  prompts := hs.prompts
  delivered := hs.delivered

omit [Field K] [LinearOrder K] in
/-- **A cached answer is its tenant's own.** -/
theorem Sound.of_readAnswer (hs : s.Sound E num) {query_vec : V} {tenant_id : String} {epoch : ℤ}
    {fields : Json.Fields}
    (h : readAnswer E s.redis query_vec tenant_id epoch = .ok (some fields)) :
    ∃ answer : Answer K, fields = answer.payload num ∧ Own s.loaded tenant_id answer := by
  obtain ⟨⟨ex, hr⟩, -⟩ := readAnswer_eq_ok h
  obtain ⟨answer, hvalue, hown⟩ := hs.redis _ _ _ _ hr
  exact ⟨answer, Json.obj.inj hvalue, hown⟩

omit [Field K] [LinearOrder K] in
/-- **An answer of a tenant's own can be filed under its keys.** -/
theorem Filed.write {loaded : List (CorpusRow V)} {redis redis' : Redis} {query_vec : V}
    {tenant_id : String} {epoch ttl_seconds : ℤ} {answer : Answer K}
    (h : Filed E num loaded redis) (hown : Own loaded tenant_id answer)
    (hwrite : writeAnswer E redis query_vec tenant_id epoch (answer.payload num) ttl_seconds
      = .ok redis') : Filed E num loaded redis' := by
  obtain rfl := writeAnswer_eq_ok hwrite
  intro query_vec' tenant_id' epoch' entry hkey
  obtain ⟨he, hentry⟩ | ⟨-, hkey⟩ := update_eq_some_iff.mp hkey
  · obtain ⟨rfl, -, -⟩ := bucketKey_inj.mp he
    cases hentry
    exact ⟨answer, rfl, hown⟩
  · exact h _ _ _ _ hkey

omit [Field K] [LinearOrder K] in
/-- A counter that is written files nothing. -/
theorem Filed.bump {loaded : List (CorpusRow V)} {redis redis' : Redis} {tenant_id : String} {n : ℤ}
    (h : Filed E num loaded redis) (hbump : bumpEpoch redis tenant_id = .ok (redis', n)) :
    Filed E num loaded redis' := by
  obtain ⟨m, ex, -, -, rfl, -⟩ := bumpEpoch_eq_ok hbump
  intro query_vec tenant_id' epoch entry hkey
  obtain ⟨he, -⟩ | ⟨-, hkey⟩ := update_eq_some_iff.mp hkey
  · exact absurd he (bucketKey_ne_epochKey _ _ _ _ _)
  · exact h _ _ _ _ hkey

omit [Field K] [LinearOrder K] in
theorem Filed.expire {loaded : List (CorpusRow V)} {redis : Redis} (h : Filed E num loaded redis)
    (key : String) : Filed E num loaded (Function.update redis key none) := by
  intro query_vec tenant_id epoch entry hkey
  obtain ⟨-, he⟩ | ⟨-, hkey⟩ := update_eq_some_iff.mp hkey
  · cases he
  · exact h _ _ _ _ hkey

/-- **A command keeps the service in order.** -/
theorem sound_issue {c : Command V T K} (hs : s.Sound E num) (hr : r.Own s.loaded)
    (h : s.issue O E num i r c = some s') : s'.Sound E num := by
  obtain ⟨question, pc⟩ := r
  unfold issue at h
  split at h
  · -- the lookup's epoch
    split at h <;> cases h
    · exact hs.goto i trivial
    · exact hs.drop i _
  · -- the lookup
    split at h <;> cases h
    case h_1 hread =>
      obtain ⟨answer, rfl, hown⟩ := hs.of_readAnswer hread
      exact hs.deliver i none hown
    case h_2 => exact hs.goto i trivial
    case h_3 => exact hs.drop i _
  · -- the dense search
    cases h
    exact hs.goto i (hs.table.allShown_denseOf _ _)
  · -- the sparse search
    next hpc =>
    cases h
    obtain rfl : pc = _ := hpc
    exact hs.goto i ⟨hr, hs.table.allShown_sparseOf _ _⟩
  · -- the completion
    next dense sparse backing message hpc =>
    obtain rfl : pc = .create dense sparse := hpc
    split at h <;> cases h
    case h_1 g hg =>
      obtain ⟨hown, hpassages⟩ := own_of_complete hg hr.1 hr.2
      have hgoto := hs.put i (o := some ⟨question, .store g.answer message.usage⟩) fun _ h => by
        cases h
        exact hown
      exact ⟨hgoto.table, hgoto.redis, hgoto.requests,
        List.forall_mem_cons.mpr ⟨⟨⟨_, (complete_eq_ok hg).1⟩, hpassages⟩, hs.prompts⟩,
        hgoto.delivered⟩
    case h_2 => exact hs.drop i _
  · -- the store's epoch
    next hpc =>
    obtain rfl : pc = _ := hpc
    split at h <;> cases h
    · exact hs.goto i hr
    · exact hs.drop i _
  · -- the store
    next hpc =>
    obtain rfl : pc = _ := hpc
    split at h <;> cases h
    case h_1 redis hwrite =>
      exact (hs.withRedis (hs.redis.write hr hwrite)).deliver i _ hr
    case h_2 => exact hs.drop i _
  · cases h

/-- **Every step keeps the service in order.** -/
theorem sound_step {e : Event V T K} (hs : s.Sound E num) (h : step O E num s e = some s') :
    s'.Sound E num := by
  cases e with
  | ask i question =>
    simp only [step] at h
    split at h <;> cases h
    exact hs.put i fun r h => by
      cases h
      trivial
  | command i c =>
    simp only [step] at h
    split at h
    · next r hr => exact sound_issue hs (hs.requests i r hr) h
    · cases h
  | fail i =>
    simp only [step] at h
    split at h <;> cases h
    exact hs.drop i _
  | load now payload =>
    obtain ⟨-, e, hload⟩ | ⟨hcross, table', hload, hloaded⟩ := load_rows_spec now s.table payload
    · simp only [step, hload] at h
      cases h
      exact hs
    · simp only [step, hload] at h
      cases h
      have hsub : s.loaded ⊆ payload ++ s.loaded := List.subset_append_right _ _
      exact ⟨hs.table.load hcross hloaded,
        fun q t epoch entry hkey => (hs.redis q t epoch entry hkey).imp fun _ ha =>
          ⟨ha.1, ha.2.mono hsub⟩,
        fun i r hr => (hs.requests i r hr).mono hsub,
        fun p hp => ⟨(hs.prompts p hp).1, fun passage hpassage =>
          ((hs.prompts p hp).2 passage hpassage).imp fun _ hshown => hshown.mono hsub⟩,
        fun d hd => by
          obtain ⟨answer, usage, hanswer, hown⟩ := hs.delivered d hd
          exact ⟨answer, usage, hanswer, hown.mono hsub⟩⟩
  | bump tenant_id =>
    simp only [step] at h
    split at h <;> cases h
    · next redis n hbump => exact hs.withRedis (hs.redis.bump hbump)
    · exact hs
  | expire key =>
    simp only [step] at h
    split at h <;> cases h
    exact hs.withRedis (hs.redis.expire key)

/-- **A tenant's own chunk**, of this id and this text: a row loaded for it, whose key is its own
still. -/
def OwnChunk (s : Service V T K) (tenant_id chunk_id chunk_text : String) : Prop :=
  ∃ row ∈ s.loaded, row.tenant_id = tenant_id ∧ chunk_id = CHUNK_ID_EXPR row.key
    ∧ chunk_text = row.chunk_text
    ∧ ∃ chunk, s.table.get? row.key = some chunk ∧ chunk.tenant_id = tenant_id

omit [Field K] [LinearOrder K] in
theorem Sound.ownChunk (hs : s.Sound E num) {tenant_id chunk_id chunk_text : String}
    (h : Shown s.loaded tenant_id chunk_id chunk_text) :
    s.OwnChunk tenant_id chunk_id chunk_text := by
  obtain ⟨row, hrow, htenant, hid, htext⟩ := h
  obtain ⟨chunk, hget, howner⟩ := hs.table.keys row hrow
  exact ⟨row, hrow, htenant, hid, htext, chunk, hget, howner.trans htenant⟩

/-- **No answer and no prompt crosses a tenant.**  In every run of loads and requests, what is
delivered to a tenant, fresh or cached, is an answer each of whose citations names the tenant and
shows a row that was loaded for it and whose key is its own still; and what is sent to the model for
a tenant numbers passages of such rows. -/
theorem delivered_sound (O : Operators) (E : Embedding V) (num : K → Json)
    (es : List (Event V T K)) (s : Service V T K) (h : exec (step O E num) start es = some s) :
    (∀ d ∈ s.delivered, ∃ (answer : Answer K) (usage : Option Usage),
        d.answer = withUsage (answer.payload num) usage
        ∧ ∀ c ∈ answer.citations, c.tenant_id = d.tenant_id
          ∧ s.OwnChunk d.tenant_id c.chunk_id c.chunk_text)
      ∧ ∀ p ∈ s.prompts, (∃ query_text, p.prompt = build_prompt query_text p.passages)
        ∧ ∀ passage ∈ p.passages, ∃ chunk_id, s.OwnChunk p.tenant_id chunk_id passage := by
  have hs : s.Sound E num := exec_invariant sound_step start_sound h
  refine ⟨fun d hd => ?_, fun p hp => ⟨(hs.prompts p hp).1, fun passage hpassage => ?_⟩⟩
  · obtain ⟨answer, usage, hanswer, hown⟩ := hs.delivered d hd
    exact ⟨answer, usage, hanswer, fun c hc => ⟨(hown c hc).1, hs.ownChunk (hown c hc).2⟩⟩
  · obtain ⟨chunk_id, hshown⟩ := (hs.prompts p hp).2 passage hpassage
    exact ⟨chunk_id, hs.ownChunk hshown⟩

/-! ## What completions cost -/

/-- The tokens that a history has under a request. -/
def total (i : ℕ) (history : List (ℕ × Tokens)) : Tokens :=
  ((history.filter fun f => f.1 = i).map Prod.snd).sum

theorem total_cons (i : ℕ) (f : ℕ × Tokens) (history : List (ℕ × Tokens)) :
    total i (f :: history) = (if f.1 = i then f.2 else 0) + total i history := by
  by_cases h : f.1 = i
  · simp [total, h]
  · simp [total, h]

/-- The tokens reported to the callers. -/
def reports (s : Service V T K) : List (ℕ × Tokens) :=
  s.delivered.map fun d => (d.request, pipelineUsage d.answer)

/-- The tokens of a completion whose answer request `i` has not delivered yet. -/
def inFlight (s : Service V T K) (i : ℕ) : Tokens :=
  ((s.requests i).map fun r => r.pc.inFlight).getD 0

/-- **The tokens of a request's completions are accounted for**: reported, lost or in flight. -/
def Metered (s : Service V T K) : Prop :=
  ∀ i, total i s.completions = total i s.reports + total i s.lost + s.inFlight i

omit [Field K] [LinearOrder K] in
/-- An answer is cached without tokens… -/
theorem pipelineUsage_payload (answer : Answer K) : pipelineUsage (answer.payload num) = 0 := rfl

omit [Field K] [LinearOrder K] in
/-- …and reports those of its completion once they are added. -/
theorem pipelineUsage_withUsage (answer : Answer K) (usage : Option Usage) :
    pipelineUsage (withUsage (answer.payload num) usage) = (usage.map Usage.tokens).getD 0 := by
  cases usage with
  | none => rfl
  | some usage =>
    simp [withUsage, pipelineUsage, Usage.json, tokenCount, Dict.get?_set, Dict.get?_cons]

omit [Field K] [LinearOrder K] in
theorem start_metered : (start : Service V T K).Metered := fun _ => rfl

omit [Field K] [LinearOrder K] in
theorem inFlight_of_eq (h : s.requests i = some r) : s.inFlight i = r.pc.inFlight := by
  rw [inFlight, h, Option.map_some, Option.getD_some]

omit [Field K] [LinearOrder K] in
theorem inFlight_put_self (s : Service V T K) (i : ℕ) (o : Option (Request V K)) :
    (s.put i o).inFlight i = (o.map fun r => r.pc.inFlight).getD 0 := by
  simp only [inFlight, put, Function.update_self]

omit [Field K] [LinearOrder K] in
theorem inFlight_put_of_ne {i j : ℕ} (h : j ≠ i) (s : Service V T K) (o : Option (Request V K)) :
    (s.put i o).inFlight j = s.inFlight j := by
  simp only [inFlight, put, Function.update_of_ne h]

omit [Field K] [LinearOrder K] in
/-- **What a step of one request adds to its histories**, with what it had in flight, balances. -/
theorem Metered.account (hs : s.Metered) (i : ℕ) {spent report loss : Tokens}
    (hspent : s'.completions = (i, spent) :: s.completions ∨ spent = 0
      ∧ s'.completions = s.completions)
    (hreport : s'.reports = (i, report) :: s.reports ∨ report = 0 ∧ s'.reports = s.reports)
    (hloss : s'.lost = (i, loss) :: s.lost ∨ loss = 0 ∧ s'.lost = s.lost)
    (hothers : ∀ j, j ≠ i → s'.inFlight j = s.inFlight j)
    (hbalance : spent + s.inFlight i = report + loss + s'.inFlight i) : s'.Metered := by
  have hadds : ∀ {old new : List (ℕ × Tokens)} {n : Tokens},
      new = (i, n) :: old ∨ n = 0 ∧ new = old →
        ∀ j, total j new = (if i = j then n else 0) + total j old := by
    rintro old new n (rfl | ⟨rfl, rfl⟩) j
    · rw [total_cons]
    · rw [ite_self, zero_add]
  intro j
  rw [hadds hspent, hadds hreport, hadds hloss, hs j]
  by_cases hj : j = i
  · subst hj
    simp only [if_true]
    calc spent + (total j s.reports + total j s.lost + s.inFlight j)
        = total j s.reports + total j s.lost + (spent + s.inFlight j) := by abel
      _ = report + total j s.reports + (loss + total j s.lost) + s'.inFlight j := by
        rw [hbalance]
        abel
  · rw [if_neg (Ne.symm hj), if_neg (Ne.symm hj), if_neg (Ne.symm hj), hothers j hj, zero_add,
      zero_add, zero_add]

omit [Field K] [LinearOrder K] in
/-- A request that moves on with what it has in flight leaves the account as it was. -/
theorem Metered.put (hs : s.Metered) (i : ℕ) {o : Option (Request V K)}
    (h : (o.map fun r => r.pc.inFlight).getD 0 = s.inFlight i) : (s.put i o).Metered :=
  hs.account i (.inr ⟨rfl, rfl⟩) (.inr ⟨rfl, rfl⟩) (.inr ⟨rfl, rfl⟩)
    (fun _ hj => inFlight_put_of_ne hj s o) (by
      rw [inFlight_put_self, h, add_zero])

omit [Field K] [LinearOrder K] in
theorem Metered.goto (hs : s.Metered) (hr : s.requests i = some r) {pc : Pc K}
    (h : pc.inFlight = r.pc.inFlight) : (s.goto i r pc).Metered :=
  hs.put i (h.trans (inFlight_of_eq hr).symm)

omit [Field K] [LinearOrder K] in
/-- A request that ends with no answer loses what it has in flight. -/
theorem Metered.drop (hs : s.Metered) (hr : s.requests i = some r) : (s.drop i r).Metered :=
  hs.account i (.inr ⟨rfl, rfl⟩) (.inr ⟨rfl, rfl⟩) (.inl rfl)
    (fun _ hj => inFlight_put_of_ne hj s none) (by
      have hself : (s.drop i r).inFlight i = 0 := inFlight_put_self s i none
      rw [hself, inFlight_of_eq hr, add_zero])

omit [Field K] [LinearOrder K] in
/-- **A request that ends with an answer reports what it has in flight.** -/
theorem Metered.deliver (hs : s.Metered) (hr : s.requests i = some r) {answer : Json.Fields}
    (h : pipelineUsage answer = r.pc.inFlight) : (s.deliver i r answer).Metered :=
  hs.account i (.inr ⟨rfl, rfl⟩) (.inl rfl) (.inr ⟨rfl, rfl⟩)
    (fun _ hj => inFlight_put_of_ne hj s none) (by
      have hself : (s.deliver i r answer).inFlight i = 0 := inFlight_put_self s i none
      rw [hself, inFlight_of_eq hr, h, zero_add, add_zero, add_zero])

/-- **A command keeps the account.** -/
theorem metered_issue {c : Command V T K} (hs : s.Sound E num) (hm : s.Metered)
    (hr : s.requests i = some r) (h : s.issue O E num i r c = some s') : s'.Metered := by
  obtain ⟨question, pc⟩ := r
  unfold issue at h
  split at h
  · -- the lookup's epoch
    next hpc =>
    obtain rfl : pc = .lookup := hpc
    split at h <;> cases h
    · exact hm.goto hr rfl
    · exact hm.drop hr
  · -- the lookup: what is cached reports nothing
    next epoch hpc =>
    obtain rfl : pc = .lookupAt epoch := hpc
    split at h <;> cases h
    case h_1 hread =>
      obtain ⟨answer, rfl, -⟩ := hs.of_readAnswer hread
      exact hm.deliver hr (pipelineUsage_payload answer)
    case h_2 => exact hm.goto hr rfl
    case h_3 => exact hm.drop hr
  · -- the dense search
    next hpc =>
    obtain rfl : pc = .retrieve := hpc
    cases h
    exact hm.goto hr rfl
  · -- the sparse search
    next dense backing hpc =>
    obtain rfl : pc = .sparse dense := hpc
    cases h
    exact hm.goto hr rfl
  · -- the completion
    next dense sparse backing message hpc =>
    obtain rfl : pc = .create dense sparse := hpc
    split at h <;> cases h
    case h_1 g hg =>
      refine hm.account i (.inl rfl) (.inr ⟨rfl, rfl⟩) (.inr ⟨rfl, rfl⟩)
        (fun _ hj => inFlight_put_of_ne hj s _) ?_
      have hself : (s.goto i ⟨question, .create dense sparse⟩
          (.store g.answer message.usage)).inFlight i = (message.usage.map Usage.tokens).getD 0 :=
        inFlight_put_self s i _
      rw [inFlight_of_eq hr]
      exact (add_zero _).trans ((zero_add _).trans hself).symm
    case h_2 => exact hm.drop hr
  · -- the store's epoch
    next answer usage hpc =>
    obtain rfl : pc = .store answer usage := hpc
    split at h <;> cases h
    · exact hm.goto hr rfl
    · exact hm.drop hr
  · -- the store
    next answer usage epoch hpc =>
    obtain rfl : pc = .storeAt answer usage epoch := hpc
    split at h <;> cases h
    case h_1 redis hwrite =>
      have hm' : Metered { s with redis := redis } := hm
      exact hm'.deliver hr (pipelineUsage_withUsage answer usage)
    case h_2 => exact hm.drop hr
  · cases h

theorem metered_step {e : Event V T K} (hs : s.Sound E num) (hm : s.Metered)
    (h : step O E num s e = some s') : s'.Metered := by
  cases e with
  | ask i question =>
    simp only [step] at h
    split at h <;> cases h
    next hfree => exact hm.put i (by rw [inFlight, hfree]; rfl)
  | command i c =>
    simp only [step] at h
    split at h
    · next r hr => exact metered_issue hs hm hr h
    · cases h
  | fail i =>
    simp only [step] at h
    split at h <;> cases h
    next r hr => exact hm.drop hr
  | load now payload =>
    simp only [step] at h
    split at h <;> cases h <;> exact hm
  | bump tenant_id =>
    simp only [step] at h
    split at h <;> cases h <;> exact hm
  | expire key =>
    simp only [step] at h
    split at h <;> cases h
    exact hm

/-- **What is spent is reported, once.**  In every run of loads and requests, the tokens of the
completions of a request are those its answers report to their callers, with those of completions
whose answer was lost or is still to come: a cached answer reports none. -/
theorem spent_eq_reported (O : Operators) (E : Embedding V) (num : K → Json)
    (es : List (Event V T K)) (s : Service V T K) (h : exec (step O E num) start es = some s)
    (i : ℕ) :
    total i s.completions = total i s.reports + total i s.lost + s.inFlight i := by
  have hs : s.Sound E num ∧ s.Metered := exec_invariant
    (I := fun s => s.Sound E num ∧ s.Metered)
    (fun hs hstep => ⟨sound_step hs.1 hstep, metered_step hs.1 hs.2 hstep⟩)
    ⟨start_sound, start_metered⟩ h
  exact hs.2 i

/-! ## Two tenants -/

/-- A question of `tenant-a`'s, through the hybrid search alone. -/
def docsQuestion : Question (List ℤ) where
  query_vec := [42]
  tenant_id := "tenant-a"
  metadata_filter := none
  model_name := "claude-sonnet-4-5"
  use_hybrid := some true
  use_mmr := some false
  use_rerank := some false
  use_filter := some false
  environ := fun _ => none
  query_text := "standard deduction"

/-- A row of a tenant's. -/
def docsChunkRow (doc_id tenant_id : String) : CorpusRow (List ℤ) where
  doc_id := doc_id
  chunk_idx := 0
  chunk_text := "Deductions of " ++ tenant_id
  embedding := [42]
  model_version := "all-MiniLM-L6-v2"
  tenant_id := tenant_id

/-- A search that reads the rows as they lie, an encoder and rerankers that are not asked. -/
def docsBacking : Backing (List ℤ) ℕ ℚ where
  search := ⟨fun _ _ => 0, fun _ _ => 1, fun rows => rows, fun _ => .refl _, fun _ => true⟩
  encode _ := ⟨fun _ => 0, fun _ _ => 0⟩
  rerankers := ⟨none, none, fun _ => [], 0, fun _ _ _ => .ok none⟩
  create _ _ := "The deduction."

/-- Two tenants' rows are loaded; one tenant's question is answered, and asked again. -/
def docsEvents : List (Event (List ℤ) ℕ ℚ) :=
  [.load 0 [docsChunkRow "pub-17" "tenant-a", docsChunkRow "pub-501" "tenant-b"],
    .ask 0 docsQuestion, .command 0 .getEpoch, .command 0 .getAnswer,
    .command 0 (.dense docsBacking), .command 0 (.sparse docsBacking),
    .command 0 (.create docsBacking ⟨[.text "The deduction."], some ⟨some 120, some 40⟩⟩),
    .command 0 .getEpoch, .command 0 .setAnswer,
    .ask 1 docsQuestion, .command 1 .getEpoch, .command 1 .getAnswer]

/-- A number, as it is written where none is read. -/
def docsNum : ℚ → Json := fun _ => .null

theorem exists_docsEvents : ∃ s, exec (step docsOperators Cache.hundredths docsNum) start docsEvents
      = some s ∧ s.reports = [(1, (0, 0)), (0, (120, 40))]
    ∧ s.prompts.map Prompt.passages = [["Deductions of tenant-a"]] := by
  have hrun : (exec (step docsOperators Cache.hundredths docsNum) start docsEvents).map
      (fun s => (s.reports, s.prompts.map Prompt.passages))
      = some ([(1, (0, 0)), (0, (120, 40))], [["Deductions of tenant-a"]]) := by decide +kernel
  obtain ⟨s, hs, hvals⟩ := Option.map_eq_some_iff.mp hrun
  exact ⟨s, hs, (Prod.mk.inj hvals).1, (Prod.mk.inj hvals).2⟩

theorem delivered_sound_docsEvents : ∃ s, exec (step docsOperators Cache.hundredths docsNum) start
      docsEvents = some s ∧ s.reports.length = 2
    ∧ ∀ d ∈ s.delivered, ∃ (answer : Answer ℚ) (usage : Option Usage),
      d.answer = withUsage (answer.payload docsNum) usage
      ∧ ∀ c ∈ answer.citations, c.tenant_id = d.tenant_id
        ∧ s.OwnChunk d.tenant_id c.chunk_id c.chunk_text := by
  obtain ⟨s, hs, hreports, -⟩ := exists_docsEvents
  exact ⟨s, hs, by rw [hreports]; rfl, (delivered_sound _ _ _ docsEvents s hs).1⟩

theorem spent_eq_reported_docsEvents : ∃ s, exec (step docsOperators Cache.hundredths docsNum) start
      docsEvents = some s ∧ s.reports = [(1, (0, 0)), (0, (120, 40))]
    ∧ total 0 s.completions = total 0 s.reports + total 0 s.lost + s.inFlight 0 := by
  obtain ⟨s, hs, hreports, -⟩ := exists_docsEvents
  exact ⟨s, hs, hreports, spent_eq_reported _ _ _ docsEvents s hs 0⟩

end Service

end Rag
