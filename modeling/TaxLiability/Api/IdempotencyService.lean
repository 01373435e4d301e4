import Mathlib.Data.Option.Basic
import Mathlib.Logic.Function.Basic
import TaxLiability.Machinery.Machine

/-!
# Api/IdempotencyService — one key of the Redis idempotency protocol

    GET ──hit──▸ replayed
     └─miss─▸ SETNX ──taken──▸ conflict
                └─acquired─▸ doWork ──▸ SET ──▸ fresh        (result stored)
                                └─────▸ DEL ──▸ fresh        (result cannot be stored)

Any number of calls of `handle` on one key run side by side; a step is one Redis command or one
outcome of `doWork`, and all happens within the TTL.  The protocol holds wherever `doWork` returns
and what it returns can be replayed from its text (`honoured_of_keeps`): a supplier that throws
leaves the sentinel behind, a hit answers 200 whatever was stored, and a text that does not read
back runs into `SETNX` on itself.
-/

open Machine

namespace Api

/-- The value that holds a key while its work is under way. -/
def IN_FLIGHT : String := "__in_flight__"

/-- The JSON mapper, as the protocol uses it: what a body is written as, if it can be, and what a
text reads back as.  A body is meant as its client sees it.  No body is written as the sentinel,
which is no JSON text. -/
structure ObjectMapper (B : Type) where
  writeValueAsString : B → Option String
  readValue : String → Option B
  written_ne_sentinel : ∀ b t, writeValueAsString b = some t → t ≠ IN_FLIGHT

/-- A response: its status and its body. -/
structure ResponseEntity (B : Type) where
  status : ℕ
  body : B
  deriving DecidableEq, Repr

/-- What `doWork` does. -/
inductive Outcome (B : Type)
  | returned (result : ResponseEntity B)
  | threw
  deriving DecidableEq, Repr

/-- Where a call of `handle` is. -/
inductive Call (B : Type)
  | idle
  /-- no hit; `unreadable` if a text was there and could not be read -/
  | acquiring (unreadable : Bool)
  /-- holds the key and runs `doWork` -/
  | working
  /-- about to `SET` the text of its result -/
  | storing (result : ResponseEntity B) (serialised : String)
  /-- about to `DEL` the key -/
  | deleting (result : ResponseEntity B)
  /-- answered with its own result -/
  | fresh (result : ResponseEntity B)
  /-- answered from the stored text -/
  | replayed (result : ResponseEntity B)
  /-- answered 409 -/
  | conflict (unreadable : Bool)
  | threw
  deriving DecidableEq, Repr

/-- Whether a call holds the key. -/
def Call.atWork {B : Type} : Call B → Bool
  | .working | .storing _ _ | .deleting _ => true
  | _ => false

/-- **One key**: its Redis value and the calls made on it.  `stored` is the history of the results
whose text was stored, latest first. -/
structure Key (B : Type) where
  redis : Option String
  calls : ℕ → Call B
  stored : List (ResponseEntity B)

/-- A key nobody has used. -/
def Key.start {B : Type} : Key B := ⟨none, fun _ => .idle, []⟩

/-- What call `i` does next. -/
inductive Command (B : Type)
  | get (i : ℕ)
  | setIfAbsent (i : ℕ)
  | doWork (i : ℕ) (outcome : Outcome B)
  | set (i : ℕ)
  /-- the `SET` fails -/
  | setFails (i : ℕ)
  | delete (i : ℕ)
  deriving DecidableEq, Repr

namespace Key

variable {B : Type} (mapper : ObjectMapper B)

/-- Move call `i`. -/
def goto (s : Key B) (i : ℕ) (c : Call B) : Key B := { s with calls := Function.update s.calls i c }

@[simp] theorem goto_self (s : Key B) (i : ℕ) (c : Call B) : (s.goto i c).calls i = c :=
  Function.update_self _ _ _

theorem goto_ne (s : Key B) {i j : ℕ} (c : Call B) (h : j ≠ i) :
    (s.goto i c).calls j = s.calls j := Function.update_of_ne h _ _

/-- What holds of the call moved and of all calls before holds of all calls after. -/
theorem forall_goto {s : Key B} {i : ℕ} {c : Call B} {P : Call B → Prop} (hc : P c)
    (hs : ∀ j, P (s.calls j)) (j : ℕ) : P ((s.goto i c).calls j) := by
  by_cases hj : j = i
  · rw [hj, goto_self]
    exact hc
  · rw [goto_ne s c hj]
    exact hs j

/-- What the `GET` of call `i` leads to: a readable text is a hit, anything else goes on. -/
def look (s : Key B) (i : ℕ) : Key B :=
  match s.redis with
  | none => s.goto i (.acquiring false)
  | some existing =>
    if existing = IN_FLIGHT then s.goto i (.acquiring false)
    else match mapper.readValue existing with
      | some body => s.goto i (.replayed ⟨200, body⟩)
      | none => s.goto i (.acquiring true)

/-- What the return of `doWork` leads to: a body that can be written is stored. -/
def serialise (s : Key B) (i : ℕ) (result : ResponseEntity B) : Key B :=
  match mapper.writeValueAsString result.body with
  | some serialised => s.goto i (.storing result serialised)
  | none => s.goto i (.deleting result)

/-- **One step of `handle`.**  The `DEL` of the catch branch is taken to succeed: if it threw,
`handle` would throw with it and leave the sentinel, which no outcome here stands for. -/
def step (s : Key B) : Command B → Option (Key B)
  | .get i =>
    match s.calls i with
    | .idle => some (s.look mapper i)
    | _ => none
  | .setIfAbsent i =>
    match s.calls i with
    | .acquiring unreadable =>
      match s.redis with
      | none => some { s.goto i .working with redis := some IN_FLIGHT }
      | some _ => some (s.goto i (.conflict unreadable))
    | _ => none
  | .doWork i outcome =>
    match s.calls i, outcome with
    -- outside the try: the exception leaves `handle`, and the sentinel stays
    | .working, .threw => some (s.goto i .threw)
    | .working, .returned result => some (s.serialise mapper i result)
    | _, _ => none
  | .set i =>
    match s.calls i with
    | .storing result serialised =>
      some { s.goto i (.fresh result) with redis := some serialised, stored := result :: s.stored }
    | _ => none
  | .setFails i =>
    match s.calls i with
    | .storing result _ => some (s.goto i (.deleting result))
    | _ => none
  | .delete i =>
    match s.calls i with
    | .deleting result => some { s.goto i (.fresh result) with redis := none }
    | _ => none

/-! ## The invariant -/

/-- A result a later call can be answered with from its text: its status is 200 and its text reads
back as its body, if it can be written at all. -/
def Replayable (result : ResponseEntity B) : Prop :=
  match mapper.writeValueAsString result.body with
  | some t => result.status = 200 ∧ mapper.readValue t = some result.body
  | none => True

instance [DecidableEq B] (result : ResponseEntity B) : Decidable (Replayable mapper result) := by
  unfold Replayable
  split <;> infer_instance

/-- **Work that keeps the protocol**: it returns, and what it returns can be replayed. -/
def Keeps (_ : Key B) : Command B → Prop
  | .doWork _ .threw => False
  | .doWork _ (.returned result) => Replayable mapper result
  | _ => True

instance [DecidableEq B] (s : Key B) : (e : Command B) → Decidable (s.Keeps mapper e)
  | .doWork _ .threw => inferInstanceAs (Decidable False)
  | .doWork _ (.returned result) => inferInstanceAs (Decidable (Replayable mapper result))
  | .get _ | .setIfAbsent _ | .set _ | .setFails _ | .delete _ => inferInstanceAs (Decidable True)

/-- What a call about to store has in hand can be replayed. -/
def Storable (c : Call B) : Prop :=
  ∀ result t, c = .storing result t →
    result.status = 200 ∧ mapper.readValue t = some result.body ∧ t ≠ IN_FLIGHT

/-- A call has not found a text it could not read. -/
def Readable (c : Call B) : Prop := c ≠ .acquiring true ∧ c ≠ .conflict true

/-- A call answered from the stored text is answered with a result stored. -/
def Answered (stored : List (ResponseEntity B)) (c : Call B) : Prop :=
  ∀ result, c = .replayed result → result ∈ stored

/-- **One holder, one result.** -/
structure Inv (s : Key B) : Prop where
  /-- a call at work holds the key… -/
  holds : ∀ i, (s.calls i).atWork → s.redis = some IN_FLIGHT
  /-- …alone… -/
  alone : ∀ i j, (s.calls i).atWork → (s.calls j).atWork → i = j
  /-- …and the key is held by nobody else -/
  held : s.redis = some IN_FLIGHT → ∃ i, (s.calls i).atWork
  /-- a stored text is that of the one result stored -/
  live : ∀ t, s.redis = some t → t ≠ IN_FLIGHT →
    ∃ result, s.stored = [result] ∧ result.status = 200 ∧ mapper.readValue t = some result.body
  /-- as long as none is, none has been -/
  unstored : s.redis = none ∨ s.redis = some IN_FLIGHT → s.stored = []
  storable : ∀ i, Storable mapper (s.calls i)
  answered : ∀ i, Answered s.stored (s.calls i)
  readable : ∀ i, Readable (s.calls i)

theorem start_inv : Inv mapper (start : Key B) where
  holds := nofun
  alone := nofun
  held := nofun
  live := nofun
  unstored := fun _ => rfl
  storable := fun _ => nofun
  answered := fun _ => nofun
  readable := fun _ => ⟨nofun, nofun⟩

variable {mapper}

/-- Moving a call outside work, or within it, without a Redis write. -/
theorem Inv.goto {s : Key B} (hs : Inv mapper s) (i : ℕ) (c : Call B)
    (hw : c.atWork = (s.calls i).atWork) (hst : Storable mapper c) (ha : Answered s.stored c)
    (hr : Readable c) : Inv mapper (s.goto i c) := by
  have hat : ∀ j, ((s.goto i c).calls j).atWork = (s.calls j).atWork := by
    intro j
    by_cases hj : j = i
    · rw [hj, goto_self, hw]
    · rw [goto_ne s c hj]
  exact
    { holds := fun j h => hs.holds j (hat j ▸ h)
      alone := fun j k hj hk => hs.alone j k (hat j ▸ hj) (hat k ▸ hk)
      held := fun h => (hs.held h).imp fun j hj => (hat j).symm ▸ hj
      live := hs.live
      unstored := hs.unstored
      storable := forall_goto hst hs.storable
      answered := forall_goto ha hs.answered
      readable := forall_goto hr hs.readable }

/-- Taking a free key. -/
theorem Inv.acquire {s : Key B} (hs : Inv mapper s) (i : ℕ) (h : s.redis = none) :
    Inv mapper { s.goto i .working with redis := some IN_FLIGHT } := by
  have hfree : ∀ j, ¬ (s.calls j).atWork := fun j hj => by
    rw [hs.holds j hj] at h
    cases h
  have honly : ∀ j, ((s.goto i .working).calls j).atWork → j = i := fun j hj => by
    by_contra hne
    rw [goto_ne s _ hne] at hj
    exact hfree j hj
  exact
    { holds := fun _ _ => rfl
      alone := fun j k hj hk => (honly j hj).trans (honly k hk).symm
      held := fun _ => ⟨i, by simp only [goto_self]; rfl⟩
      live := fun t ht hne => absurd (Option.some.inj ht).symm hne
      unstored := fun _ => hs.unstored (.inl h)
      storable := forall_goto nofun hs.storable
      answered := forall_goto nofun hs.answered
      readable := forall_goto ⟨nofun, nofun⟩ hs.readable }

/-- After its holder leaves work nobody is at work. -/
theorem Inv.not_atWork {s : Key B} (hs : Inv mapper s) {i : ℕ} (hi : (s.calls i).atWork)
    (result : ResponseEntity B) (j : ℕ) : ¬ ((s.goto i (.fresh result)).calls j).atWork := by
  by_cases hj : j = i
  · rw [hj, goto_self]
    exact Bool.false_ne_true
  · rw [goto_ne s _ hj]
    exact fun h => hj (hs.alone j i h hi)

/-- Storing a result. -/
theorem Inv.store {s : Key B} (hs : Inv mapper s) {i : ℕ} {result : ResponseEntity B} {t : String}
    (hi : s.calls i = .storing result t) :
    Inv mapper { s.goto i (.fresh result) with redis := some t, stored := result :: s.stored } := by
  have hwork : (s.calls i).atWork := by
    rw [hi]
    rfl
  have hnone : s.stored = [] := hs.unstored (.inr (hs.holds i hwork))
  obtain ⟨hstatus, hread, hne⟩ := hs.storable i result t hi
  have hfresh : ∀ j, ¬ ((s.goto i (.fresh result)).calls j).atWork := hs.not_atWork hwork result
  refine
    { holds := fun j hj => absurd hj (hfresh j)
      alone := fun j _ hj => absurd hj (hfresh j)
      held := fun h => absurd (Option.some.inj h) hne
      live := fun t' ht _ => ?_
      unstored := fun h => ?_
      storable := forall_goto nofun hs.storable
      answered := forall_goto nofun fun j r hr => List.mem_cons_of_mem _ (hs.answered j r hr)
      readable := forall_goto ⟨nofun, nofun⟩ hs.readable }
  · obtain rfl := Option.some.inj ht
    exact ⟨result, by rw [hnone], hstatus, hread⟩
  · rcases h with h | h
    · cases h
    · exact absurd (Option.some.inj h) hne

/-- Giving the key back. -/
theorem Inv.release {s : Key B} (hs : Inv mapper s) {i : ℕ} {result : ResponseEntity B}
    (hi : s.calls i = .deleting result) :
    Inv mapper { s.goto i (.fresh result) with redis := none } := by
  have hwork : (s.calls i).atWork := by
    rw [hi]
    rfl
  have hfresh : ∀ j, ¬ ((s.goto i (.fresh result)).calls j).atWork := hs.not_atWork hwork result
  exact
    { holds := fun j hj => absurd hj (hfresh j)
      alone := fun j _ hj => absurd hj (hfresh j)
      held := nofun
      live := nofun
      unstored := fun _ => hs.unstored (.inr (hs.holds i hwork))
      storable := forall_goto nofun hs.storable
      answered := forall_goto nofun hs.answered
      readable := forall_goto ⟨nofun, nofun⟩ hs.readable }

/-- A hit answers with the result stored. -/
theorem Inv.look {s : Key B} (hs : Inv mapper s) {i : ℕ} (hi : s.calls i = .idle) :
    Inv mapper (s.look mapper i) := by
  have hw : ∀ c : Call B, c.atWork = false → c.atWork = (s.calls i).atWork := fun c hc => by
    rw [hc, hi]
    rfl
  unfold Key.look
  split
  · exact hs.goto i _ (hw _ rfl) nofun nofun ⟨nofun, nofun⟩
  · rename_i existing hredis
    split
    · exact hs.goto i _ (hw _ rfl) nofun nofun ⟨nofun, nofun⟩
    · rename_i hne
      obtain ⟨result, hstored, hstatus, hread⟩ := hs.live existing hredis hne
      rw [hread]
      refine hs.goto i _ (hw _ rfl) nofun (fun r hr => ?_) ⟨nofun, nofun⟩
      cases hr
      rw [hstored, ← hstatus]
      exact List.mem_cons_self

/-- A result that can be replayed, or not be written, is dealt with within work. -/
theorem Inv.serialise {s : Key B} (hs : Inv mapper s) {i : ℕ} (hi : s.calls i = .working)
    {result : ResponseEntity B} (hr : Replayable mapper result) :
    Inv mapper (s.serialise mapper i result) := by
  have hw : ∀ c : Call B, c.atWork = true → c.atWork = (s.calls i).atWork := fun c hc => by
    rw [hc, hi]
    rfl
  unfold Key.serialise
  unfold Replayable at hr
  split
  · rename_i t ht
    rw [ht] at hr
    obtain ⟨hstatus, hread⟩ := hr
    refine hs.goto i _ (hw _ rfl) (fun r t' h => ?_) nofun ⟨nofun, nofun⟩
    cases h
    exact ⟨hstatus, hread, mapper.written_ne_sentinel _ _ ht⟩
  · exact hs.goto i _ (hw _ rfl) nofun nofun ⟨nofun, nofun⟩

/-- **A step of work that keeps the protocol keeps the invariant.** -/
theorem inv_step {s s' : Key B} {e : Command B} (hc : s.Keeps mapper e) (hs : Inv mapper s)
    (h : step mapper s e = some s') : Inv mapper s' := by
  cases e with
  | get i =>
    simp only [step] at h
    split at h <;> cases h
    exact hs.look ‹_›
  | setIfAbsent i =>
    simp only [step] at h
    split at h
    case h_2 => cases h
    case h_1 unreadable hi =>
      split at h <;> cases h
      · exact hs.acquire i ‹_›
      · have hr := (hs.readable i).1
        refine hs.goto i _ (by rw [hi]; rfl) nofun nofun ⟨nofun, fun hu => ?_⟩
        cases hu
        exact hr hi
  | doWork i outcome =>
    simp only [step] at h
    split at h
    · exact absurd hc id
    · cases h
      exact hs.serialise ‹_› hc
    · cases h
  | set i =>
    simp only [step] at h
    split at h <;> cases h
    exact hs.store ‹_›
  | setFails i =>
    simp only [step] at h
    split at h <;> cases h
    case h_1 result t hi =>
      exact hs.goto i _ (by rw [hi]; rfl) nofun nofun ⟨nofun, nofun⟩
  | delete i =>
    simp only [step] at h
    split at h <;> cases h
    exact hs.release ‹_›

/-! ## The protocol -/

/-- **What the protocol promises of a key**, in any state. -/
structure Honoured (s : Key B) : Prop where
  /-- while a result is stored no work is under way, and it is the only one stored -/
  once : ∀ t, s.redis = some t → t ≠ IN_FLIGHT →
    (∀ i, ¬ (s.calls i).atWork) ∧ s.stored.length = 1
  /-- the key is held only by a call at work: not after its work threw or could not be stored -/
  held : s.redis = some IN_FLIGHT → ∃ i, (s.calls i).atWork
  /-- a call answered from the key is answered with the status and the body of the stored run -/
  replayed : ∀ i result, s.calls i = .replayed result → s.stored = [result]
  /-- a call that finds a text it cannot read is not answered 409 -/
  recomputed : ∀ i, s.calls i ≠ .conflict true

/-- At most one result is ever stored. -/
theorem Inv.stored_cases {s : Key B} (hs : Inv mapper s) :
    s.stored = [] ∨ ∃ result, s.stored = [result] := by
  rcases hr : s.redis with _ | t
  · exact .inl (hs.unstored (.inl hr))
  · by_cases ht : t = IN_FLIGHT
    · exact .inl (hs.unstored (.inr (ht ▸ hr)))
    · obtain ⟨result, hstored, -⟩ := hs.live t hr ht
      exact .inr ⟨result, hstored⟩

theorem Inv.honoured {s : Key B} (hs : Inv mapper s) : s.Honoured where
  once := fun t ht hne => by
    obtain ⟨result, hstored, -⟩ := hs.live t ht hne
    refine ⟨fun i hi => ?_, by rw [hstored, List.length_singleton]⟩
    rw [hs.holds i hi] at ht
    exact hne (Option.some.inj ht).symm
  held := hs.held
  replayed := fun i result hi => by
    have hmem := hs.answered i result hi
    rcases hs.stored_cases with h | ⟨r, h⟩
    · rw [h] at hmem
      cases hmem
    · rw [h, List.mem_singleton] at hmem
      rw [h, hmem]
  recomputed := fun i => (hs.readable i).2

variable (mapper) in
/-- **The protocol is honoured wherever work keeps it**: in every run in which each `doWork`
returns, and what it returns is answered 200 and reads back from its text if it can be written at
all. -/
theorem honoured_of_keeps (es : List (Command B)) (s : Key B)
    (h : exec (step mapper) start es = some s)
    (hc : Throughout (step mapper) (Keeps mapper) start es) : s.Honoured :=
  (exec_invariant_of_throughout inv_step hc (start_inv mapper) h).honoured

/-- Bodies of one field, `{"summary":"…"}`, for texts that need no escape. -/
def summaryMapper : ObjectMapper String where
  writeValueAsString := fun s => some ("\x7b\"summary\":\"" ++ s ++ "\"\x7d")
  readValue := fun t =>
    if t.toList.take 12 = "\x7b\"summary\":\"".toList then
      some (String.ofList (t.toList.drop 12).dropLast.dropLast)
    else none
  written_ne_sentinel := fun s t h ht => by
    have h' := congrArg (fun t : String => t.toList.head?) ((Option.some.inj h).trans ht)
    simp [IN_FLIGHT] at h'

/-- Call 0 works and stores, call 1 comes in between and call 2 after. -/
def threeCalls : List (Command String) :=
  [.get 0, .setIfAbsent 0, .get 1, .doWork 0 (.returned ⟨200, "Stub"⟩), .setIfAbsent 1, .set 0,
    .get 2]

theorem honoured_threeCalls :
    ∃ s, exec (step summaryMapper) start threeCalls = some s ∧ s.Honoured
      ∧ s.calls 1 = .conflict false ∧ s.calls 2 = .replayed ⟨200, "Stub"⟩ := by
  have hrun : (exec (step summaryMapper) start threeCalls).map (fun s => (s.calls 1, s.calls 2))
      = some (.conflict false, .replayed ⟨200, "Stub"⟩) := by decide
  obtain ⟨s, hs, hcalls⟩ := Option.map_eq_some_iff.mp hrun
  simp only [Prod.mk.injEq] at hcalls
  exact ⟨s, hs, honoured_of_keeps summaryMapper threeCalls s hs (by decide), hcalls⟩

/-- **A throw holds the key**: nobody is at work and the sentinel stays. -/
theorem throw_holds_key :
    ¬ ∀ (es : List (Command String)) (s : Key String),
      exec (step summaryMapper) start es = some s → s.Honoured := by
  intro h
  have hrun : exec (step summaryMapper) start [.get 0, .setIfAbsent 0, .doWork 0 .threw]
      = some (((({ start with redis := some IN_FLIGHT } : Key String).goto 0
          (.acquiring false)).goto 0 .working).goto 0 .threw) := rfl
  obtain ⟨i, hi⟩ := (h _ _ hrun).held rfl
  by_cases hi0 : i = 0
  · subst hi0
    rw [goto_self] at hi
    cases hi
  · rw [goto_ne _ _ hi0, goto_ne _ _ hi0, goto_ne _ _ hi0] at hi
    cases hi

end Key

end Api
