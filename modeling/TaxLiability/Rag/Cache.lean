import Mathlib.Algebra.Order.Ring.Int
import TaxLiability.Machinery.JsonText
import TaxLiability.Machinery.Machine
import TaxLiability.Machinery.Sha256

/-!
# Rag/Cache — the semantic cache, and why no answer crosses a tenant

    taxcalc_ai:cache-epoch:⟨tenant⟩            a counter
    taxcalc_ai:sem:⟨tenant⟩:e⟨epoch⟩:⟨digest⟩   an answer, with a time to live

A tenant may be any text, with any of the separators in it.  The digest and the epoch are written
without a colon, so the *last* two colons of an answer key part it (`bucketKey_inj`), and the two
kinds of key part at their twelfth character.  The cache then holds, under each key, what was filed
there (`Filed`).
-/

open Machine

namespace Rag

/-! ## Keys -/

/-- Quantisation factor: two decimal places. -/
def QUANTISATION_FACTOR : ℕ := 100

/-- Characters of the digest kept in the key. -/
def HASH_PREFIX_LENGTH : ℕ := 16

/-- Default time to live of a cached answer, in seconds. -/
def DEFAULT_TTL_SECONDS : ℤ := 3600

/-- **A query vector's rounding**: what the array library makes of
`np.round(query_vec * QUANTISATION_FACTOR).astype(np.int32)`. -/
structure Embedding (Vec : Type) where
  quantised : Vec → List (BitVec 32)

/-- The four bytes of an `int32`, low byte first. -/
def int32Bytes (w : BitVec 32) : List ℕ :=
  [w.toNat % 256, w.toNat / 256 % 256, w.toNat / 65536 % 256, w.toNat / 16777216 % 256]

/-- `.tobytes()`. -/
def tobytes (quantised : List (BitVec 32)) : List ℕ := quantised.flatMap int32Bytes

/-- The digest of a quantised vector, cut to the length kept. -/
def digest (quantised : List (BitVec 32)) : List Char :=
  (Sha256.hexdigest (tobytes quantised)).take HASH_PREFIX_LENGTH

/-- The key of a tenant's epoch counter. -/
def epochKey (tenant_id : String) : String := "taxcalc_ai:cache-epoch:" ++ tenant_id

/-- The key of an answer, from its parts. -/
def semanticKey (tenant_id : String) (epoch : ℤ) (digest : List Char) : String :=
  "taxcalc_ai:sem:" ++ tenant_id ++ ":e" ++ String.ofList (Json.intText epoch) ++ ":"
    ++ String.ofList digest

variable {Vec : Type}

/-- **The key of an answer** for one query vector under one tenant and epoch. -/
def bucketKey (E : Embedding Vec) (query_vec : Vec) (tenant_id : String) (epoch : ℤ) : String :=
  semanticKey tenant_id epoch (digest (E.quantised query_vec))

theorem colon_notMem_intText (n : ℤ) : ':' ∉ Json.intText n := fun h =>
  absurd (List.all_eq_true.mp (Json.intText_number n) _ h) (by decide)

theorem colon_notMem_digest (quantised : List (BitVec 32)) : ':' ∉ digest quantised := fun h => by
  rw [digest, Sha256.hexdigest] at h
  obtain ⟨w, -, hw⟩ := List.mem_flatMap.mp (List.mem_of_mem_take h)
  exact Uuid.notMem_hex (by decide) _ _ hw

theorem semanticKey_toList (tenant_id : String) (epoch : ℤ) (digest : List Char) :
    (semanticKey tenant_id epoch digest).toList
      = ("taxcalc_ai:sem:".toList ++ tenant_id.toList ++ ':' :: 'e' :: Json.intText epoch)
        ++ ':' :: digest := by
  unfold semanticKey
  simp only [String.toList_append, String.toList_ofList, List.append_assoc]
  rfl

/-- **An answer key tells its tenant, its epoch and its digest apart**, whatever the tenant's
text. -/
theorem semanticKey_inj {t t' : String} {e e' : ℤ} {d d' : List Char} (hd : ':' ∉ d)
    (hd' : ':' ∉ d') : semanticKey t e d = semanticKey t' e' d' ↔ t = t' ∧ e = e' ∧ d = d' := by
  refine ⟨fun h => ?_, ?_⟩
  · have h' := congrArg String.toList h
    rw [semanticKey_toList, semanticKey_toList] at h'
    obtain ⟨h₁, hdigest⟩ := Json.append_sep_inj hd hd' h'
    have hcolon : ∀ n : ℤ, ':' ∉ 'e' :: Json.intText n := fun n => by
      simpa using colon_notMem_intText n
    obtain ⟨htenant, hepoch⟩ := Json.append_sep_inj (hcolon e) (hcolon e') h₁
    exact ⟨String.toList_inj.mp (List.append_cancel_left htenant),
      Json.intText_injective (List.cons.inj hepoch).2, hdigest⟩
  · rintro ⟨rfl, rfl, rfl⟩
    rfl

/-- **A tenant's counter is its own.** -/
theorem epochKey_inj {t t' : String} : epochKey t = epochKey t' ↔ t = t' := by
  unfold epochKey
  exact String.append_right_inj _

/-- **No answer key is an epoch key.** -/
theorem semanticKey_ne_epochKey (t t' : String) (e : ℤ) (d : List Char) :
    semanticKey t e d ≠ epochKey t' := fun h => by
  unfold semanticKey epochKey at h
  have h' := congrArg (fun s => s.toList[11]?) h
  simp at h'

/-- The keys of two answers, and of an answer and a counter. -/
theorem bucketKey_inj {E : Embedding Vec} {q q' : Vec} {t t' : String} {e e' : ℤ} :
    bucketKey E q t e = bucketKey E q' t' e'
      ↔ t = t' ∧ e = e' ∧ digest (E.quantised q) = digest (E.quantised q') :=
  semanticKey_inj (colon_notMem_digest _) (colon_notMem_digest _)

theorem bucketKey_ne_epochKey (E : Embedding Vec) (q : Vec) (t t' : String) (e : ℤ) :
    bucketKey E q t e ≠ epochKey t' := semanticKey_ne_epochKey _ _ _ _

/-- The bytes of a quantised vector determine it. -/
theorem tobytes_injective {v w : List (BitVec 32)} (h : tobytes v = tobytes w) : v = w := by
  induction v generalizing w with
  | nil =>
    cases w with
    | nil => rfl
    | cons b w => simp [tobytes, int32Bytes] at h
  | cons a v ih =>
    cases w with
    | nil => simp [tobytes, int32Bytes] at h
    | cons b w =>
      simp only [tobytes, int32Bytes, List.flatMap_cons, List.cons_append, List.nil_append,
        List.cons.injEq] at h
      obtain ⟨h₀, h₁, h₂, h₃, ht⟩ := h
      have hab : a = b := BitVec.eq_of_toNat_eq (by have := a.isLt; have := b.isLt; omega)
      rw [hab, ih ht]

/-! ## Commands -/

/-- What a Redis key holds: its text, as the JSON it reads as, and a time to live in seconds. -/
structure Entry where
  value : Json
  ex : Option ℤ

/-- **A Redis database.** -/
abbrev Redis := String → Option Entry

/-- What an operation can raise. -/
inductive CacheError
  | valueError
  | attributeError
  | responseError
  deriving DecidableEq, Repr

/-- **A tenant's current epoch**, 0 when the counter has never been set. -/
def getEpoch (r : Redis) (tenant_id : String) : Except CacheError ℤ :=
  match r (epochKey tenant_id) with
  | none => .ok 0
  | some ⟨.int n, _⟩ => .ok n
  | some _ => .error .valueError

/-- **Invalidate a tenant's entire cache**: one `INCR`, which counts in 64 bits. -/
def bumpEpoch (r : Redis) (tenant_id : String) : Except CacheError (Redis × ℤ) :=
  match r (epochKey tenant_id) with
  | none => .ok (Function.update r (epochKey tenant_id) (some ⟨.int 1, none⟩), 1)
  | some ⟨.int n, ex⟩ =>
    if n + 1 < 2 ^ 63 then
      .ok (Function.update r (epochKey tenant_id) (some ⟨.int (n + 1), ex⟩), n + 1)
    else .error .responseError
  | some _ => .error .responseError

/-- Whether a citation is a dictionary of another tenant. -/
def foreign (tenant_id : String) : Json → Bool
  | .obj citation =>
    match Dict.get? citation "tenant_id" with
    | some (.str t) => t ≠ tenant_id
    | _ => true
  | _ => false

/-- **Defence in depth**: no citation of the answer is another tenant's. -/
def citationsKept (tenant_id : String) (answer : Json.Fields) : Bool :=
  match Dict.get? answer "citations" with
  | some (.arr citations) => !citations.any (foreign tenant_id)
  | _ => true

/-- The second half of a lookup: the `GET` of an answer and its check. -/
def readAnswer (E : Embedding Vec) (r : Redis) (query_vec : Vec) (tenant_id : String) (epoch : ℤ) :
    Except CacheError (Option Json.Fields) :=
  match r (bucketKey E query_vec tenant_id epoch) with
  | none => .ok none
  | some ⟨.obj answer, _⟩ => .ok (if citationsKept tenant_id answer then some answer else none)
  | some _ => .error .attributeError

/-- **Look up a cached answer**, treating a tenant mismatch in any citation as a miss. -/
def cacheLookup (E : Embedding Vec) (r : Redis) (query_vec : Vec) (tenant_id : String) :
    Except CacheError (Option Json.Fields) :=
  (getEpoch r tenant_id).bind fun epoch => readAnswer E r query_vec tenant_id epoch

/-- The second half of a store: the `SET` of an answer. -/
def writeAnswer (E : Embedding Vec) (r : Redis) (query_vec : Vec) (tenant_id : String)
    (epoch : ℤ) (answer : Json.Fields) (ttl_seconds : ℤ) : Except CacheError Redis :=
  if 0 < ttl_seconds then
    .ok (Function.update r (bucketKey E query_vec tenant_id epoch)
      (some ⟨.obj answer, some ttl_seconds⟩))
  else .error .responseError

/-- **Store an answer** under this tenant's current epoch. -/
def cacheStore (E : Embedding Vec) (r : Redis) (query_vec : Vec) (tenant_id : String)
    (answer : Json.Fields) (ttl_seconds : ℤ) : Except CacheError Redis :=
  (getEpoch r tenant_id).bind fun epoch =>
    writeAnswer E r query_vec tenant_id epoch answer ttl_seconds

/-! ## What the commands do -/

/-- An answer that is read lies under its key, with no citation of another tenant. -/
theorem readAnswer_eq_ok {E : Embedding Vec} {r : Redis} {query_vec : Vec} {tenant_id : String}
    {epoch : ℤ} {answer : Json.Fields}
    (h : readAnswer E r query_vec tenant_id epoch = .ok (some answer)) :
    (∃ ex, r (bucketKey E query_vec tenant_id epoch) = some ⟨.obj answer, ex⟩)
      ∧ citationsKept tenant_id answer := by
  unfold readAnswer at h
  split at h
  case h_2 answer' ex hr =>
    split at h <;> cases h
    case isTrue hkept => exact ⟨⟨ex, hr⟩, hkept⟩
  all_goals cases h

/-- A citation that is not foreign names the tenant. -/
theorem citation_of_kept {tenant_id : String} {answer citation : Json.Fields}
    {citations : List Json} (h : citationsKept tenant_id answer)
    (hc : Dict.get? answer "citations" = some (.arr citations)) (hm : .obj citation ∈ citations) :
    Dict.get? citation "tenant_id" = some (.str tenant_id) := by
  simp only [citationsKept, hc, Bool.not_eq_true', List.any_eq_false] at h
  have hown := h _ hm
  simp only [foreign] at hown
  split at hown
  case h_1 t ht => rw [ht, show t = tenant_id by simpa using hown]
  case h_2 => exact absurd rfl hown

/-- A counter is read as it stands. -/
theorem getEpoch_eq_ok {r : Redis} {tenant_id : String} {n : ℤ} :
    getEpoch r tenant_id = .ok n ↔ (r (epochKey tenant_id) = none ∧ n = 0)
      ∨ ∃ ex, r (epochKey tenant_id) = some ⟨.int n, ex⟩ := by
  unfold getEpoch
  split
  case h_1 h => simp [h, eq_comm]
  case h_2 m ex h => simp [h]
  case h_3 entry hne hr =>
    refine ⟨nofun, ?_⟩
    rintro (⟨h, -⟩ | ⟨ex, h⟩)
    · rw [hr] at h
      cases h
    · rw [hr] at h
      cases h
      exact absurd rfl (hne n ex)

/-- A write to another key leaves a counter as it was. -/
theorem getEpoch_update_ne {r : Redis} {key t : String} (h : key ≠ epochKey t)
    (entry : Option Entry) : getEpoch (Function.update r key entry) t = getEpoch r t := by
  unfold getEpoch
  rw [Function.update_of_ne (Ne.symm h)]

/-- A counter reads as it was written. -/
theorem getEpoch_update_self (r : Redis) (t : String) (n : ℤ) (ex : Option ℤ) :
    getEpoch (Function.update r (epochKey t) (some ⟨.int n, ex⟩)) t = .ok n := by
  unfold getEpoch
  rw [Function.update_self]

/-- **What a bump does**: the counter goes up by one, and keeps its time to live. -/
theorem bumpEpoch_eq_ok {r r' : Redis} {t : String} {n : ℤ} (h : bumpEpoch r t = .ok (r', n)) :
    ∃ m ex, getEpoch r t = .ok m ∧ n = m + 1
      ∧ r' = Function.update r (epochKey t) (some ⟨.int n, ex⟩)
      ∧ (ex = none ∨ ∃ value, r (epochKey t) = some ⟨value, ex⟩) := by
  unfold bumpEpoch at h
  split at h
  case h_1 hr =>
    cases h
    exact ⟨0, none, getEpoch_eq_ok.mpr (.inl ⟨hr, rfl⟩), rfl, rfl, .inl rfl⟩
  case h_2 m ex hr =>
    split at h <;> cases h
    exact ⟨m, ex, getEpoch_eq_ok.mpr (.inr ⟨ex, hr⟩), rfl, rfl, .inr ⟨_, hr⟩⟩
  case h_3 => cases h

/-- **What a store writes**: the answer under its key, to expire. -/
theorem writeAnswer_eq_ok {E : Embedding Vec} {r r' : Redis} {query_vec : Vec} {tenant_id : String}
    {epoch : ℤ} {answer : Json.Fields} {ttl_seconds : ℤ}
    (h : writeAnswer E r query_vec tenant_id epoch answer ttl_seconds = .ok r') :
    r' = Function.update r (bucketKey E query_vec tenant_id epoch)
      (some ⟨.obj answer, some ttl_seconds⟩) := by
  unfold writeAnswer at h
  split at h <;> cases h
  rfl

/-! ## Runs -/

/-- A record of one answer stored: for whom, for which vector, and under which epoch. -/
structure Stored (Vec : Type) where
  tenant_id : String
  query_vec : Vec
  epoch : ℤ
  answer : Json.Fields

/-- A cache and the history of what was stored in it. -/
structure Cache (Vec : Type) where
  redis : Redis
  stored : List (Stored Vec)

/-- An operation on the cache, or an entry reaching the end of its time to live. -/
inductive Op (Vec : Type)
  | store (query_vec : Vec) (tenant_id : String) (answer : Json.Fields) (ttl_seconds : ℤ)
  | lookup (query_vec : Vec) (tenant_id : String)
  | bump (tenant_id : String)
  | expire (key : String)

namespace Cache

/-- An empty Redis. -/
def empty : Cache Vec := ⟨fun _ => none, []⟩

/-- **One operation.**  One that raises leaves the cache as it was. -/
def step (E : Embedding Vec) (s : Cache Vec) : Op Vec → Option (Cache Vec)
  | .store query_vec tenant_id answer ttl_seconds =>
    match getEpoch s.redis tenant_id,
      cacheStore E s.redis query_vec tenant_id answer ttl_seconds with
    | .ok epoch, .ok redis => some ⟨redis, ⟨tenant_id, query_vec, epoch, answer⟩ :: s.stored⟩
    | _, _ => some s
  | .lookup _ _ => some s
  | .bump tenant_id =>
    match bumpEpoch s.redis tenant_id with
    | .ok (redis, _) => some { s with redis := redis }
    | .error _ => some s
  | .expire key =>
    match s.redis key with
    | some ⟨_, some _⟩ => some { s with redis := Function.update s.redis key none }
    | _ => none

/-- **Every key holds what was filed under it**: a counter under an epoch key, an answer under the
key it was stored with. -/
def Filed (E : Embedding Vec) (s : Cache Vec) : Prop :=
  ∀ key entry, s.redis key = some entry →
    (∃ t n, key = epochKey t ∧ entry.value = .int n)
      ∨ ∃ w ∈ s.stored, key = bucketKey E w.query_vec w.tenant_id w.epoch
          ∧ entry.value = .obj w.answer

theorem empty_filed (E : Embedding Vec) : (empty : Cache Vec).Filed E := nofun

/-- **Every operation files what it writes.** -/
theorem filed_step {E : Embedding Vec} {s s' : Cache Vec} {op : Op Vec} (hs : s.Filed E)
    (h : s.step E op = some s') : s'.Filed E := by
  cases op with
  | store query_vec tenant_id answer ttl_seconds =>
    simp only [step] at h
    split at h <;> cases h
    case h_2 => exact hs
    case h_1 epoch redis hepoch hstore =>
      obtain ⟨e, he, hwrite⟩ := bind_eq_ok.mp hstore
      obtain rfl : epoch = e := Except.ok.inj (hepoch.symm.trans he)
      obtain rfl := writeAnswer_eq_ok hwrite
      intro key entry hkey
      obtain ⟨rfl, h⟩ | ⟨-, h⟩ := update_eq_some_iff.mp hkey
      · cases h
        exact .inr ⟨_, List.mem_cons_self, rfl, rfl⟩
      · refine (hs key entry h).imp_right ?_
        rintro ⟨w, hw, hfile⟩
        exact ⟨w, List.mem_cons_of_mem _ hw, hfile⟩
  | lookup query_vec tenant_id =>
    cases h
    exact hs
  | bump tenant_id =>
    simp only [step] at h
    split at h <;> cases h
    case h_2 => exact hs
    case h_1 redis n hbump =>
      obtain ⟨m, ex, -, -, rfl, -⟩ := bumpEpoch_eq_ok hbump
      intro key entry hkey
      obtain ⟨rfl, h⟩ | ⟨-, h⟩ := update_eq_some_iff.mp hkey
      · cases h
        exact .inl ⟨tenant_id, n, rfl, rfl⟩
      · exact hs key entry h
  | expire key =>
    simp only [step] at h
    split at h <;> cases h
    intro key' entry hkey
    obtain ⟨-, h⟩ | ⟨-, h⟩ := update_eq_some_iff.mp hkey
    · cases h
    · exact hs key' entry h

/-- **The truncated digest is free of collisions** among the vectors stored and this one. -/
def CollisionFree (E : Embedding Vec) (s : Cache Vec) (query_vec : Vec) : Prop :=
  ∀ w ∈ s.stored, digest (E.quantised w.query_vec) = digest (E.quantised query_vec) →
    tobytes (E.quantised w.query_vec) = tobytes (E.quantised query_vec)

/-- **An answer a lookup finds was stored for its tenant**, for a vector of one quantisation with
the one asked for, under the tenant's current epoch. -/
theorem Filed.stored_of_lookup {E : Embedding Vec} {s : Cache Vec} (hs : s.Filed E)
    {query_vec : Vec} {tenant_id : String} {answer : Json.Fields}
    (hfree : s.CollisionFree E query_vec)
    (h : cacheLookup E s.redis query_vec tenant_id = .ok (some answer)) :
    ∃ w ∈ s.stored, w.tenant_id = tenant_id ∧ E.quantised w.query_vec = E.quantised query_vec
      ∧ getEpoch s.redis tenant_id = .ok w.epoch ∧ w.answer = answer := by
  obtain ⟨epoch, hepoch, hread⟩ := bind_eq_ok.mp h
  obtain ⟨⟨ex, hr⟩, -⟩ := readAnswer_eq_ok hread
  obtain ⟨t, n, hkey, -⟩ | ⟨w, hw, hkey, hval⟩ := hs _ _ hr
  · exact absurd hkey (bucketKey_ne_epochKey _ _ _ _ _)
  · obtain ⟨rfl, rfl, hdigest⟩ := bucketKey_inj.mp hkey
    exact ⟨w, hw, rfl, tobytes_injective (hfree w hw hdigest.symm), hepoch,
      (Json.obj.inj hval).symm⟩

/-- **Cached answers never cross a tenant.**  Along every run of the cache a lookup returns only
what was stored for its tenant, its quantised vector and its current epoch; no answer key is an
epoch key; and whatever a database holds, no dictionary among the citations returned is another
tenant's. -/
theorem lookup_keeps_tenant (E : Embedding Vec) (es : List (Op Vec)) (s : Cache Vec)
    (h : exec (step E) empty es = some s) (tenant_id : String) (query_vec : Vec)
    (hfree : s.CollisionFree E query_vec) :
    (∀ answer, cacheLookup E s.redis query_vec tenant_id = .ok (some answer) →
        ∃ w ∈ s.stored, w.tenant_id = tenant_id
          ∧ E.quantised w.query_vec = E.quantised query_vec
          ∧ getEpoch s.redis tenant_id = .ok w.epoch ∧ w.answer = answer)
      ∧ (∀ (v : Vec) (t t' : String) (epoch : ℤ), bucketKey E v t epoch ≠ epochKey t')
      ∧ ∀ (r : Redis) (answer : Json.Fields),
          cacheLookup E r query_vec tenant_id = .ok (some answer) →
          ∀ citations, Dict.get? answer "citations" = some (.arr citations) →
            ∀ citation, .obj citation ∈ citations →
              Dict.get? citation "tenant_id" = some (.str tenant_id) := by
  have hs : s.Filed E := exec_invariant filed_step (empty_filed E) h
  refine ⟨fun answer => hs.stored_of_lookup hfree,
    fun v t t' epoch => bucketKey_ne_epochKey _ _ _ _ _,
    fun r answer hr citations hc citation hm => ?_⟩
  obtain ⟨epoch, -, hread⟩ := bind_eq_ok.mp hr
  exact citation_of_kept (readAnswer_eq_ok hread).2 hc hm

/-- Vectors of hundredths, which rounding to two places leaves as they are. -/
def hundredths : Embedding (List ℤ) := ⟨fun v => v.map (BitVec.ofInt 32)⟩

/-- An answer is stored for a tenant whose name looks like a key, and another tenant's cache is
invalidated. -/
def lookalikeOps : List (Op (List ℤ)) :=
  [.store [25, -40] "a:e1:0123456789abcdef" [("text", .str "hit"), ("citations", .arr [])]
    DEFAULT_TTL_SECONDS, .bump "a", .lookup [25, -40] "a"]

theorem lookup_keeps_tenant_lookalike :
    ∃ s, exec (step hundredths) empty lookalikeOps = some s
      ∧ ∃ w ∈ s.stored, w.tenant_id = "a:e1:0123456789abcdef" ∧ w.epoch = 0 := by
  have hrun : (exec (step hundredths) empty lookalikeOps).map
      (fun s => (s.stored.map Stored.query_vec,
        (cacheLookup hundredths s.redis [25, -40] "a:e1:0123456789abcdef").toOption.join.isSome,
        (getEpoch s.redis "a:e1:0123456789abcdef").toOption))
      = some ([[25, -40]], true, some 0) := by decide +kernel
  obtain ⟨s, hs, hvals⟩ := Option.map_eq_some_iff.mp hrun
  simp only [Prod.mk.injEq] at hvals
  obtain ⟨hvecs, hhit, hepoch⟩ := hvals
  have hfree : s.CollisionFree hundredths [25, -40] := fun w hw _ => by
    have hv : w.query_vec ∈ s.stored.map Stored.query_vec := List.mem_map_of_mem hw
    rw [hvecs, List.mem_singleton] at hv
    rw [hv]
  obtain ⟨answer, hanswer⟩ := Option.isSome_iff_exists.mp hhit
  have hlookup : cacheLookup hundredths s.redis [25, -40] "a:e1:0123456789abcdef"
      = .ok (some answer) := by
    cases hl : cacheLookup hundredths s.redis [25, -40] "a:e1:0123456789abcdef" with
    | error e => simp [hl, Except.toOption] at hanswer
    | ok o => simpa [hl, Except.toOption] using hanswer
  obtain ⟨w, hw, ht, -, he, -⟩ :=
    (lookup_keeps_tenant hundredths lookalikeOps s hs _ _ hfree).1 answer hlookup
  rw [he] at hepoch
  exact ⟨s, hs, w, hw, ht, Option.some.inj hepoch⟩

end Cache

end Rag
