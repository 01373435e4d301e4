import TaxLiability.Rag.Cache
import TaxLiability.Rag.Generation

/-!
# Rag/Calls — whose answer a cached call gets

    call ──▸ tenant, epoch, digest of the query vector ──▸ key ──┬── held ──▸ that answer
             filter, model, switches ── not in the key           └── free ──▸ its own, filed

What an answer depends on besides its question is resolved from arguments and environment before the
lookup, and is not part of the key.  The hits of a sequence of calls are answers to the calls that
were made exactly if calls of one key agree on it (`hits_answer_iff`).
-/

open Machine

namespace Rag

/-! ## Calls -/

/-- Values read as "off". -/
def FALSE_VALUES : List String := ["0", "false", "no", "off"]

/-- **`flag_from_env`**: on, unless the variable says off. -/
def flag_from_env (environ : String → Option String) (name : String) : Bool :=
  match environ name with
  | none => true
  | some raw => String.ofList (Python.lower (Python.strip raw.toList)) ∉ FALSE_VALUES

/-- **A call of `retrieve_and_generate`**, with the environment it is made in. -/
structure Call (Vec : Type) where
  query_vec : Vec
  tenant_id : String
  metadata_filter : Option Json.Fields
  model_name : String
  use_hybrid : Option Bool
  use_mmr : Option Bool
  use_rerank : Option Bool
  use_filter : Option Bool
  environ : String → Option String

variable {Vec : Type}

/-- The stages that are on: an argument that is not given is read from the environment. -/
def Call.on (c : Call Vec) : Switches where
  hybrid_on := c.use_hybrid.getD (flag_from_env c.environ "RAG_USE_HYBRID")
  mmr_on := c.use_mmr.getD (flag_from_env c.environ "RAG_USE_MMR")
  rerank_on := c.use_rerank.getD (flag_from_env c.environ "RAG_USE_RERANK")
  filter_on := c.use_filter.getD (flag_from_env c.environ "RAG_USE_FILTER")

/-- **What an answer depends on besides its question**: the effective filter, the model, and the
stages that are on. -/
structure Settings where
  filter : Option Json
  model_name : String
  on : Switches

/-- The settings of a call. -/
def Call.settings (c : Call Vec) : Settings where
  filter := if c.on.filter_on then c.metadata_filter.map jsonb else none
  model_name := c.model_name
  on := c.on

/-! ## Runs of calls -/

/-- **A cache hit**: the settings of the call that receives the answer, and of the call that
generated it. -/
structure Answered where
  received : Settings
  generated : Option Settings

/-- **The pipeline over its cache**, with the calls that are past a miss.  `filed` says what the
answer under a key was generated with, and `hits` is a history. -/
structure Calls (Vec : Type) where
  redis : Redis
  pending : ℕ → Option (Call Vec)
  filed : String → Option Settings
  hits : List Answered

/-- What happens next. -/
inductive CallEvent (Vec : Type)
  /-- call `i` is made, and looks for a cached answer -/
  | lookup (i : ℕ) (c : Call Vec)
  /-- call `i` has generated an answer, and stores it -/
  | store (i : ℕ) (answer : Json.Fields)
  /-- call `i` fails -/
  | fail (i : ℕ)
  /-- a tenant's epoch is bumped -/
  | bump (tenant_id : String)
  /-- an entry reaches the end of its time to live -/
  | expire (key : String)

/-- The call that is made, if one is. -/
def CallEvent.call? : CallEvent Vec → Option (Call Vec)
  | .lookup _ c => some c
  | _ => none

/-- The calls of a run, in order. -/
def callsOf (es : List (CallEvent Vec)) : List (Call Vec) := es.filterMap CallEvent.call?

theorem callsOf_append (es₁ es₂ : List (CallEvent Vec)) :
    callsOf (es₁ ++ es₂) = callsOf es₁ ++ callsOf es₂ := List.filterMap_append

namespace Calls

/-- Before the first call. -/
def start : Calls Vec := ⟨fun _ => none, fun _ => none, fun _ => none, []⟩

/-- Put call `i` past its miss, or past its end. -/
def put (s : Calls Vec) (i : ℕ) (c : Option (Call Vec)) : Calls Vec :=
  { s with pending := Function.update s.pending i c }

/-- **The lookup of a call**, in an epoch: what it finds is returned at once. -/
def lookup (E : Embedding Vec) (s : Calls Vec) (i : ℕ) (c : Call Vec) (epoch : ℤ) : Calls Vec :=
  match readAnswer E s.redis c.query_vec c.tenant_id epoch with
  | .ok (some _) =>
    { s with hits := ⟨c.settings, s.filed (bucketKey E c.query_vec c.tenant_id epoch)⟩ :: s.hits }
  | .ok none => s.put i (some c)
  | .error _ => s

/-- **The store of a call**, in an epoch. -/
def store (E : Embedding Vec) (s : Calls Vec) (c : Call Vec) (epoch : ℤ) (answer : Json.Fields) :
    Calls Vec :=
  match writeAnswer E s.redis c.query_vec c.tenant_id epoch answer DEFAULT_TTL_SECONDS with
  | .ok redis =>
    { s with
      redis := redis
      filed := Function.update s.filed (bucketKey E c.query_vec c.tenant_id epoch)
        (some c.settings) }
  | .error _ => s

/-- **One step.**  A command that raises ends its call. -/
def step (E : Embedding Vec) (s : Calls Vec) : CallEvent Vec → Option (Calls Vec)
  | .lookup i c =>
    match s.pending i with
    | none =>
      match getEpoch s.redis c.tenant_id with
      | .ok epoch => some (s.lookup E i c epoch)
      | .error _ => some s
    | some _ => none
  | .store i answer =>
    match s.pending i with
    | some c =>
      match getEpoch s.redis c.tenant_id with
      | .ok epoch => some ((s.store E c epoch answer).put i none)
      | .error _ => some (s.put i none)
    | none => none
  | .fail i => some (s.put i none)
  | .bump tenant_id =>
    match bumpEpoch s.redis tenant_id with
    | .ok (redis, _) => some { s with redis := redis }
    | .error _ => some s
  | .expire key =>
    match s.redis key with
    | some ⟨_, some _⟩ => some { s with redis := Function.update s.redis key none }
    | _ => none

variable {E : Embedding Vec} {s s' : Calls Vec} {cs : List (Call Vec)} {c : Call Vec} {i : ℕ}
  {answer : Json.Fields} {epoch : ℤ}

/-- What a store leaves. -/
theorem store_eq (s : Calls Vec) (c : Call Vec) (epoch : ℤ) (answer : Json.Fields) :
    s.store E c epoch answer = { s with
      redis := Function.update s.redis (bucketKey E c.query_vec c.tenant_id epoch)
        (some ⟨.obj answer, some DEFAULT_TTL_SECONDS⟩)
      filed := Function.update s.filed (bucketKey E c.query_vec c.tenant_id epoch)
        (some c.settings) } := rfl

/-! ## Agreeing calls -/

/-- **Two calls have one key** in one epoch. -/
def SameKey (E : Embedding Vec) (c c' : Call Vec) : Prop :=
  c.tenant_id = c'.tenant_id
    ∧ digest (E.quantised c.query_vec) = digest (E.quantised c'.query_vec)

/-- **Every hit is an answer to the call that received it.** -/
def HitsAnswer (s : Calls Vec) : Prop := ∀ hit ∈ s.hits, hit.generated = some hit.received

/-- **Every answer held was filed by one of the calls**, for its own key and with its settings. -/
structure FiledBy (E : Embedding Vec) (cs : List (Call Vec)) (s : Calls Vec) : Prop where
  pending : ∀ i c, s.pending i = some c → c ∈ cs
  filed : ∀ query_vec tenant_id epoch entry,
    s.redis (bucketKey E query_vec tenant_id epoch) = some entry →
    ∃ c ∈ cs, c.tenant_id = tenant_id
      ∧ digest (E.quantised c.query_vec) = digest (E.quantised query_vec)
      ∧ s.filed (bucketKey E query_vec tenant_id epoch) = some c.settings
  hits : HitsAnswer s

theorem start_filedBy : (start : Calls Vec).FiledBy E cs where
  pending := by
    rintro i c ⟨⟩
  filed := by
    rintro query_vec tenant_id epoch entry ⟨⟩
  hits := by
    rintro hit ⟨⟩

theorem FiledBy.put (hs : s.FiledBy E cs) (i : ℕ) {call : Option (Call Vec)}
    (hcall : ∀ c, call = some c → c ∈ cs) : (s.put i call).FiledBy E cs where
  pending := fun j c' hj => by
    obtain ⟨-, hc'⟩ | ⟨-, hc'⟩ := update_eq_some_iff.mp hj
    · exact hcall c' hc'
    · exact hs.pending j c' hc'
  filed := hs.filed
  hits := hs.hits

theorem FiledBy.drop (hs : s.FiledBy E cs) (i : ℕ) : (s.put i none).FiledBy E cs :=
  hs.put i fun _ h => by cases h

/-- A lookup serves what was filed by a call of its key, whose settings are its own. -/
theorem FiledBy.lookup (hs : s.FiledBy E cs) (hc : c ∈ cs)
    (hagree : ∀ c ∈ cs, ∀ c' ∈ cs, SameKey E c c' → c.settings = c'.settings) :
    (s.lookup E i c epoch).FiledBy E cs := by
  unfold Calls.lookup
  split
  · next found hread =>
    obtain ⟨⟨ex, hr⟩, -⟩ := readAnswer_eq_ok hread
    obtain ⟨c', hc', htenant, hdigest, hfiled⟩ := hs.filed _ _ _ _ hr
    refine ⟨hs.pending, hs.filed, List.forall_mem_cons.mpr ⟨?_, hs.hits⟩⟩
    rw [hfiled, hagree c' hc' c hc ⟨htenant, hdigest⟩]
  · refine hs.put i fun c' h => ?_
    cases h
    exact hc
  · exact hs

/-- A store files an answer under the key of its call, with its settings. -/
theorem FiledBy.store (hs : s.FiledBy E cs) (hc : c ∈ cs) :
    (s.store E c epoch answer).FiledBy E cs := by
  rw [store_eq]
  refine ⟨hs.pending, fun query_vec tenant_id epoch' entry hkey => ?_, hs.hits⟩
  dsimp only at hkey ⊢
  obtain ⟨he, -⟩ | ⟨hne, hkey⟩ := update_eq_some_iff.mp hkey
  · obtain ⟨htenant, -, hdigest⟩ := bucketKey_inj.mp he
    exact ⟨c, hc, htenant.symm, hdigest.symm, by rw [he, Function.update_self]⟩
  · obtain ⟨c', hc', htenant, hdigest, hfiled⟩ := hs.filed _ _ _ _ hkey
    exact ⟨c', hc', htenant, hdigest, by rw [Function.update_of_ne hne, hfiled]⟩

/-- A database that holds answers only where there were some leaves what was filed. -/
theorem FiledBy.withRedis (hs : s.FiledBy E cs) {redis : Redis}
    (hkeys : ∀ query_vec tenant_id epoch entry,
      redis (bucketKey E query_vec tenant_id epoch) = some entry →
        s.redis (bucketKey E query_vec tenant_id epoch) = some entry) :
    FiledBy E cs { s with redis := redis } where
  pending := hs.pending
  filed := fun query_vec tenant_id epoch entry hkey =>
    hs.filed query_vec tenant_id epoch entry (hkeys _ _ _ _ hkey)
  hits := hs.hits

/-- The call an event makes, if it makes one, is among these. -/
def CallOf (cs : List (Call Vec)) (e : CallEvent Vec) : Prop := ∀ c, e.call? = some c → c ∈ cs

/-- **Every step keeps what is filed.** -/
theorem filedBy_step (hagree : ∀ c ∈ cs, ∀ c' ∈ cs, SameKey E c c' → c.settings = c'.settings)
    {e : CallEvent Vec} (he : CallOf cs e) (hs : s.FiledBy E cs) (h : step E s e = some s') :
    s'.FiledBy E cs := by
  cases e with
  | lookup i c =>
    simp only [step] at h
    split at h
    · split at h <;> cases h
      · exact hs.lookup (he c rfl) hagree
      · exact hs
    · cases h
  | store i answer =>
    simp only [step] at h
    split at h
    · next c hc =>
      split at h <;> cases h
      · exact (hs.store (hs.pending i c hc)).drop i
      · exact hs.drop i
    · cases h
  | fail i =>
    cases h
    exact hs.drop i
  | bump tenant_id =>
    simp only [step] at h
    split at h <;> cases h
    · next redis n hbump =>
      obtain ⟨m, ex, -, -, rfl, -⟩ := bumpEpoch_eq_ok hbump
      refine hs.withRedis fun query_vec tenant_id' epoch entry hkey => ?_
      obtain ⟨he, -⟩ | ⟨-, hkey⟩ := update_eq_some_iff.mp hkey
      · exact absurd he (bucketKey_ne_epochKey _ _ _ _ _)
      · exact hkey
    · exact hs
  | expire key =>
    simp only [step] at h
    split at h <;> cases h
    refine hs.withRedis fun query_vec tenant_id epoch entry hkey => ?_
    obtain ⟨-, he⟩ | ⟨-, hkey⟩ := update_eq_some_iff.mp hkey
    · cases he
    · exact hkey

theorem hitsAnswer_of_agree
    (hagree : ∀ c ∈ cs, ∀ c' ∈ cs, SameKey E c c' → c.settings = c'.settings)
    {es : List (CallEvent Vec)} (hcs : callsOf es = cs) (h : exec (step E) start es = some s) :
    HitsAnswer s := by
  have hcalls : Throughout (step E) (fun _ => CallOf cs) start es := by
    refine throughout_of_forall fun e he _ c hc => ?_
    rw [← hcs]
    exact List.mem_filterMap.mpr ⟨e, he, hc⟩
  exact (exec_invariant_of_throughout (filedBy_step hagree) hcalls start_filedBy h).hits

/-! ## One call after another -/

/-- An answer that cites nothing. -/
def bareAnswer : Json.Fields :=
  [("text", .str ""), ("citations", .arr []), ("rerank_timed_out", .bool false)]

/-- **What calls made one after another, with no bump, leave**: their keys are all held, and what
each was served or filed is known. -/
structure Made (E : Embedding Vec) (cs : List (Call Vec)) (s : Calls Vec) : Prop where
  counters : ∀ tenant_id, s.redis (epochKey tenant_id) = none
  answers : ∀ key entry, s.redis key = some entry →
    (∃ ex, entry = ⟨.obj bareAnswer, ex⟩) ∧ ∃ settings, s.filed key = some settings
  pending : ∀ i, s.pending i = none
  filed : ∀ c ∈ cs, s.redis (bucketKey E c.query_vec c.tenant_id 0) ≠ none
    ∧ ∃ settings, s.filed (bucketKey E c.query_vec c.tenant_id 0) = some settings
      ∧ (settings = c.settings ∨ ⟨c.settings, some settings⟩ ∈ s.hits)

theorem start_made : (start : Calls Vec).Made E [] where
  counters := fun _ => rfl
  answers := by
    rintro key entry ⟨⟩
  pending := fun _ => rfl
  filed := by
    rintro c ⟨⟩

theorem Made.getEpoch (hs : s.Made E cs) (tenant_id : String) :
    getEpoch s.redis tenant_id = .ok 0 := getEpoch_eq_ok.mpr (.inl ⟨hs.counters tenant_id, rfl⟩)

/-- **A call whose key is held is served** what is filed there. -/
theorem Made.served (hs : s.Made E cs)
    (hkey : s.redis (bucketKey E c.query_vec c.tenant_id 0) ≠ none) :
    ∃ s', step E s (.lookup 0 c) = some s' ∧ s'.Made E (cs ++ [c]) := by
  obtain ⟨entry, hentry⟩ := Option.ne_none_iff_exists'.mp hkey
  obtain ⟨⟨ex, rfl⟩, settings, hsettings⟩ := hs.answers _ _ hentry
  have hread : readAnswer E s.redis c.query_vec c.tenant_id 0 = .ok (some bareAnswer) := by
    simp only [readAnswer, hentry]
    rfl
  refine ⟨{ s with hits := ⟨c.settings, some settings⟩ :: s.hits }, ?_,
    hs.counters, hs.answers, hs.pending, List.forall_mem_append.mpr ⟨fun c' hc' => ?_,
    List.forall_mem_singleton.mpr ⟨hkey, settings, hsettings, .inr List.mem_cons_self⟩⟩⟩
  · simp only [step, hs.pending, hs.getEpoch, Calls.lookup, hread, hsettings]
  · obtain ⟨hheld, filed, hfiled, hor⟩ := hs.filed c' hc'
    exact ⟨hheld, filed, hfiled, hor.imp_right (List.mem_cons_of_mem _)⟩

/-- **A call whose key is free files its answer** there. -/
theorem Made.files (hs : s.Made E cs)
    (hkey : s.redis (bucketKey E c.query_vec c.tenant_id 0) = none) :
    ∃ s', exec (step E) s [.lookup 0 c, .store 0 bareAnswer] = some s'
      ∧ s'.Made E (cs ++ [c]) := by
  have hread : readAnswer E s.redis c.query_vec c.tenant_id 0 = .ok none := by
    simp only [readAnswer, hkey]
  have hlookup : step E s (.lookup 0 c) = some (s.put 0 (some c)) := by
    simp only [step, hs.pending, hs.getEpoch, Calls.lookup, hread]
  have hstore : step E (s.put 0 (some c)) (.store 0 bareAnswer) = some { s with
      redis := Function.update s.redis (bucketKey E c.query_vec c.tenant_id 0)
        (some ⟨.obj bareAnswer, some DEFAULT_TTL_SECONDS⟩)
      filed := Function.update s.filed (bucketKey E c.query_vec c.tenant_id 0)
        (some c.settings) } := by
    have hpending : Function.update (Function.update s.pending 0 (some c)) 0 none = s.pending := by
      rw [Function.update_idem, Function.update_eq_self_iff, hs.pending]
    simp only [step, put, Function.update_self, hs.getEpoch, store_eq, hpending]
  refine ⟨_, exec_cons_eq_some.mpr ⟨_, hlookup, exec_cons_eq_some.mpr ⟨_, hstore, rfl⟩⟩,
    fun tenant_id => ?_, fun key entry hentry => ?_, hs.pending,
    List.forall_mem_append.mpr ⟨fun c' hc' => ?_, List.forall_mem_singleton.mpr ?_⟩⟩
  all_goals dsimp only
  · rw [Function.update_of_ne (bucketKey_ne_epochKey _ _ _ _ _).symm, hs.counters]
  · dsimp only at hentry
    obtain ⟨rfl, he⟩ | ⟨hne, he⟩ := update_eq_some_iff.mp hentry
    · cases he
      exact ⟨⟨_, rfl⟩, _, Function.update_self _ _ _⟩
    · rw [Function.update_of_ne hne]
      exact hs.answers key entry he
  · obtain ⟨hheld, hfiled⟩ := hs.filed c' hc'
    have hne : bucketKey E c'.query_vec c'.tenant_id 0 ≠ bucketKey E c.query_vec c.tenant_id 0 :=
      fun he => hheld (he ▸ hkey)
    rw [Function.update_of_ne hne, Function.update_of_ne hne]
    exact ⟨hheld, hfiled⟩
  · rw [Function.update_self, Function.update_self]
    exact ⟨Option.some_ne_none _, _, rfl, .inl rfl⟩

theorem Made.call (hs : s.Made E cs) (c : Call Vec) :
    ∃ es s', callsOf es = [c] ∧ exec (step E) s es = some s' ∧ s'.Made E (cs ++ [c]) := by
  by_cases hkey : s.redis (bucketKey E c.query_vec c.tenant_id 0) = none
  · obtain ⟨s', hs', hmade⟩ := hs.files hkey
    exact ⟨_, s', rfl, hs', hmade⟩
  · obtain ⟨s', hs', hmade⟩ := hs.served hkey
    exact ⟨[.lookup 0 c], s', rfl, exec_cons_eq_some.mpr ⟨s', hs', rfl⟩, hmade⟩

/-- **Any calls can be made one after another.** -/
theorem Made.run (hs : s.Made E cs) (cs' : List (Call Vec)) :
    ∃ es s', callsOf es = cs' ∧ exec (step E) s es = some s' ∧ s'.Made E (cs ++ cs') := by
  induction cs' generalizing cs s with
  | nil => exact ⟨[], s, rfl, rfl, by rwa [List.append_nil]⟩
  | cons c cs' ih =>
    obtain ⟨es₁, m, hes₁, hm, hmade⟩ := hs.call c
    obtain ⟨es₂, s', hes₂, h, hs'⟩ := ih hmade
    refine ⟨es₁ ++ es₂, s', ?_, exec_append_eq_some.mpr ⟨m, hm, h⟩, by rwa [List.append_cons]⟩
    rw [callsOf_append, hes₁, hes₂, List.singleton_append]

/-- Where the hits answer, calls of one key have one kind of settings. -/
theorem Made.agree (hs : s.Made E cs) (hhits : HitsAnswer s) {c' : Call Vec} (hc : c ∈ cs)
    (hc' : c' ∈ cs) (h : SameKey E c c') : c.settings = c'.settings := by
  have hown : ∀ c ∈ cs, s.filed (bucketKey E c.query_vec c.tenant_id 0) = some c.settings := by
    intro c hc
    obtain ⟨-, settings, hfiled, rfl | hhit⟩ := hs.filed c hc
    · exact hfiled
    · rw [hfiled, Option.some_inj]
      exact Option.some.inj (hhits _ hhit)
  have hkey : bucketKey E c.query_vec c.tenant_id 0 = bucketKey E c'.query_vec c'.tenant_id 0 :=
    bucketKey_inj.mpr ⟨h.1, rfl, h.2⟩
  exact Option.some.inj ((hown c hc).symm.trans (hkey ▸ hown c' hc'))

/-- **Every hit answers the call that was made**, in every run of a sequence of calls, exactly if
calls of one key have the same settings. -/
theorem hits_answer_iff (E : Embedding Vec) (cs : List (Call Vec)) :
    (∀ es s, callsOf es = cs → exec (step E) start es = some s → HitsAnswer s)
      ↔ ∀ c ∈ cs, ∀ c' ∈ cs, SameKey E c c' → c.settings = c'.settings := by
  constructor
  · intro h c hc c' hc' hsame
    obtain ⟨es, s, hes, hexec, hs⟩ := start_made.run cs
    exact hs.agree (h es s hes hexec) hc hc' hsame
  · exact fun hagree es s hes h => hitsAnswer_of_agree hagree hes h

/-- One question asked twice, and the second time without the reranker. -/
def asked (use_rerank : Bool) : Call (List ℤ) where
  query_vec := [42]
  tenant_id := "tenant-a"
  metadata_filter := none
  model_name := "claude-sonnet-4-5"
  use_hybrid := some true
  use_mmr := some true
  use_rerank := some use_rerank
  use_filter := some true
  environ := fun _ => none

/-- **An answer of the reranked pipeline is returned for the pipeline without.** -/
theorem hit_answers_another :
    ¬ ∀ es s, callsOf es = [asked true, asked false] →
      exec (step Cache.hundredths) start es = some s → HitsAnswer s := by
  intro h
  have hrun : (exec (step Cache.hundredths) start [.lookup 0 (asked true), .store 0 bareAnswer,
      .lookup 1 (asked false)]).map (fun s => s.hits.map fun hit =>
        (hit.received.on.rerank_on, hit.generated.map fun settings => settings.on.rerank_on))
      = some [(false, some true)] := by decide +kernel
  obtain ⟨s, hs, hhits⟩ := Option.map_eq_some_iff.mp hrun
  obtain ⟨hit, hmem, heq⟩ := List.map_eq_singleton_iff.mp hhits
  have hanswer : hit.generated = some hit.received := by
    exact h _ s rfl hs hit (hmem ▸ List.mem_singleton_self hit)
  rw [hanswer, Option.map_some, Prod.mk.injEq, Option.some_inj] at heq
  exact Bool.false_ne_true (heq.1.symm.trans heq.2)

end Calls

end Rag
