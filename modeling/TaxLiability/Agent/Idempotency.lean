import Mathlib.Data.Finset.Insert
import TaxLiability.Machinery.JsonText
import TaxLiability.Machinery.Uuid

/-!
# Agent/Idempotency — the arguments a tool call is sent with

The model proposes arguments; `injectContext` overwrites the tenant and adds an idempotency key,
each where the tool's schema declares it.  The key is derived from the proposal as the model made
it, the two overwritten fields included, so it names the proposal and not the arguments sent:
`injectContext_same_iff`.
-/

namespace Agent

open Json

/-! ## The derivation of the key -/

/-- The fixed namespace of the keys. -/
def IDEMPOTENCY_NS : ℕ := 0x12345678123456781234567812345678

def TENANT_ARG : String := "tenant_id"

def IDEMPOTENCY_ARG : String := "idempotency_key"

/-- **Arguments of a tool call**: a JSON object, no key twice. -/
structure Arguments where
  fields : Fields
  nodup : Dict.Nodup fields

namespace Arguments

/-- The value at a key. -/
def get? (a : Arguments) (k : String) : Option Json := Dict.get? a.fields k

/-- Set a key. -/
def set (a : Arguments) (k : String) (v : Json) : Arguments :=
  ⟨Dict.set a.fields k v, a.nodup.set k v⟩

/-- Equal up to the order of keys, at every depth. -/
def Same (a b : Arguments) : Prop := (obj a.fields).Same (obj b.fields)

/-- Both have the same value at a key, or neither has one. -/
def Agree (a b : Arguments) (k : String) : Prop := (a.get? k).map canon = (b.get? k).map canon

theorem same_iff {a b : Arguments} : a.Same b ↔ ∀ k, a.Agree b k := same_obj_iff a.nodup b.nodup

theorem get?_set (a : Arguments) (k : String) (v : Json) (k' : String) :
    (a.set k v).get? k' = if k = k' then some v else a.get? k' := Dict.get?_set _ _ _ _

end Arguments

/-- The text a key is derived from. -/
def payload (thread_id tool : String) (args : Arguments) : List Char :=
  thread_id.toList ++ '|' :: (tool.toList ++ '|' :: dumps (obj args.fields))

/-- The UUID text of a payload. -/
def keyOf (text : List Char) : String :=
  String.ofList (Uuid.format (Uuid.uuid5 IDEMPOTENCY_NS text))

/-- **The deterministic idempotency key of one tool call.** -/
def idempotencyKey (thread_id tool : String) (args : Arguments) : String :=
  keyOf (payload thread_id tool args)

/-- **Overwrite tenancy and add a key**, each only where the schema declares it.  The key is taken
over the proposal, not over what is sent. -/
def injectContext (args : Arguments) (declared : Finset String)
    (tenant_id thread_id tool : String) : Arguments :=
  let sent := if TENANT_ARG ∈ declared then args.set TENANT_ARG (str tenant_id) else args
  if IDEMPOTENCY_ARG ∈ declared then
    sent.set IDEMPOTENCY_ARG (str (idempotencyKey thread_id tool args))
  else sent

/-! ## What the key depends on -/

/-- In one thread and for one tool, proposals have one payload exactly when they are the same. -/
theorem payload_eq_iff {thread_id tool : String} {a b : Arguments} :
    payload thread_id tool a = payload thread_id tool b ↔ a.Same b := by
  unfold payload
  rw [List.append_cancel_left_eq, List.cons.injEq, List.append_cancel_left_eq, List.cons.injEq,
    dumps_eq_iff]
  simp only [true_and]
  rfl

/-- Two payloads with one key. -/
def Collide (p q : List Char) : Prop := p ≠ q ∧ keyOf p = keyOf q

theorem idempotencyKey_eq_iff {thread_id tool : String} {a b : Arguments} :
    idempotencyKey thread_id tool a = idempotencyKey thread_id tool b
      ↔ a.Same b ∨ Collide (payload thread_id tool a) (payload thread_id tool b) := by
  have hpay : payload thread_id tool a = payload thread_id tool b ↔ a.Same b := payload_eq_iff
  rw [← hpay]
  unfold idempotencyKey Collide
  constructor
  · intro h
    by_cases hp : payload thread_id tool a = payload thread_id tool b
    · exact .inl hp
    · exact .inr ⟨hp, h⟩
  · rintro (h | ⟨-, h⟩)
    · rw [h]
    · exact h

/-- **A payload determines the call it was made of**: the proposal's text can hold no bar that
parts it, and the tool's name holds none. -/
theorem payload_eq_iff_call {thread_id thread_id' tool tool' : String} {a b : Arguments}
    (htool : '|' ∉ tool.toList) (htool' : '|' ∉ tool'.toList) :
    payload thread_id tool a = payload thread_id' tool' b
      ↔ thread_id = thread_id' ∧ tool = tool' ∧ a.Same b := by
  constructor
  · intro h
    have hjoined : (thread_id.toList ++ '|' :: tool.toList) ++ '|' :: dumps (obj a.fields)
        = (thread_id'.toList ++ '|' :: tool'.toList) ++ '|' :: dumps (obj b.fields) := by
      simpa only [payload, List.append_assoc, List.cons_append] using h
    obtain ⟨hcall, hproposal⟩ := append_bar_render_inj hjoined
    obtain ⟨hthread, htools⟩ := append_sep_inj htool htool' hcall
    exact ⟨String.toList_injective hthread, String.toList_injective htools, hproposal⟩
  · rintro ⟨rfl, rfl, hsame⟩
    exact payload_eq_iff.mpr hsame

/-- **Keys separate distinct calls**: but for a collision of the hash, two calls have one key
exactly when their thread, their tool and their proposal, up to the order of keys, are one. -/
theorem idempotencyKey_separates (thread_id thread_id' tool tool' : String) (a b : Arguments)
    (htool : '|' ∉ tool.toList) (htool' : '|' ∉ tool'.toList)
    (hcollide : ¬ Collide (payload thread_id tool a) (payload thread_id' tool' b)) :
    idempotencyKey thread_id tool a = idempotencyKey thread_id' tool' b
      ↔ thread_id = thread_id' ∧ tool = tool' ∧ a.Same b := by
  rw [← payload_eq_iff_call htool htool']
  constructor
  · intro hkey
    by_contra hne
    exact hcollide ⟨hne, hkey⟩
  · intro h
    rw [idempotencyKey, h, ← idempotencyKey]

/-- A refund of an amount. -/
def refundOf (amount : String) : Arguments where
  fields := [("order_id", str "ord-1"), ("amount", str amount)]
  nodup := by simp [Dict.Nodup]

/-- A thread id with a bar and a quote in it, and a proposal with them in it, are told apart. -/
theorem idempotencyKey_separates_refunds :
    idempotencyKey "t|\"1" "orders.create_refund" (refundOf "1|0")
      ≠ idempotencyKey "t" "orders.create_refund" (refundOf "10") := by
  intro h
  have hcollide : ¬ Collide (payload "t|\"1" "orders.create_refund" (refundOf "1|0"))
      (payload "t" "orders.create_refund" (refundOf "10")) := fun hc =>
    absurd hc.2 (by decide +kernel)
  have hcall := (idempotencyKey_separates "t|\"1" "t" "orders.create_refund" "orders.create_refund"
    (refundOf "1|0") (refundOf "10") (by decide) (by decide) hcollide).mp h
  exact absurd hcall.1 (by decide)

/-- What is sent at each key, where both overwritten fields are declared. -/
theorem injectContext_get? {declared : Finset String} (ht : TENANT_ARG ∈ declared)
    (hk : IDEMPOTENCY_ARG ∈ declared) (args : Arguments) (tenant_id thread_id tool k : String) :
    (injectContext args declared tenant_id thread_id tool).get? k
      = if IDEMPOTENCY_ARG = k then some (str (idempotencyKey thread_id tool args))
        else if TENANT_ARG = k then some (str tenant_id) else args.get? k := by
  simp only [injectContext, ht, hk, if_true, Arguments.get?_set]

/-- **The arguments sent depend on what they overwrite.**  Of two proposals that agree on every
other key the same is sent exactly when they agree on the overwritten two as well, but for a
collision of the hash. -/
theorem injectContext_same_iff (thread_id tool tenant_id : String) (declared : Finset String)
    (ht : TENANT_ARG ∈ declared) (hk : IDEMPOTENCY_ARG ∈ declared) (a b : Arguments)
    (hab : ∀ k, k ≠ TENANT_ARG → k ≠ IDEMPOTENCY_ARG → a.Agree b k) :
    (injectContext a declared tenant_id thread_id tool).Same
        (injectContext b declared tenant_id thread_id tool)
      ↔ (a.Agree b TENANT_ARG ∧ a.Agree b IDEMPOTENCY_ARG)
        ∨ Collide (payload thread_id tool a) (payload thread_id tool b) := by
  -- the two agree on all keys once they agree on the overwritten ones
  have hsame : a.Same b ↔ a.Agree b TENANT_ARG ∧ a.Agree b IDEMPOTENCY_ARG := by
    rw [Arguments.same_iff]
    refine ⟨fun h => ⟨h _, h _⟩, fun ⟨h₁, h₂⟩ k => ?_⟩
    by_cases hkt : k = TENANT_ARG
    · rw [hkt]
      exact h₁
    · by_cases hki : k = IDEMPOTENCY_ARG
      · rw [hki]
        exact h₂
      · exact hab k hkt hki
  rw [← hsame, ← idempotencyKey_eq_iff, Arguments.same_iff]
  constructor
  · intro h
    have hkey := h IDEMPOTENCY_ARG
    simp only [Arguments.Agree, injectContext_get? ht hk, if_true, Option.map_some,
      Option.some.injEq] at hkey
    exact same_str_iff.mp hkey
  · intro h k
    simp only [Arguments.Agree, injectContext_get? ht hk, h]
    by_cases hki : IDEMPOTENCY_ARG = k
    · simp [hki]
    · by_cases hkt : TENANT_ARG = k
      · simp [hki, hkt]
      · simp only [hki, hkt, if_false]
        exact hab k (Ne.symm hkt) (Ne.symm hki)

/-- A refund as the model proposes it, with a key of its own. -/
def refundProposal (idempotency_key : String) : Arguments where
  fields := [("order_id", str "ord-synth-9001"), ("amount", str "10.00"),
    ("reason", str "duplicate"), (TENANT_ARG, str "tenant-a"),
    (IDEMPOTENCY_ARG, str idempotency_key)]
  nodup := by simp [Dict.Nodup, TENANT_ARG, IDEMPOTENCY_ARG]

/-- What the refund tool declares. -/
def refundDeclared : Finset String := {"order_id", "amount", "reason", TENANT_ARG, IDEMPOTENCY_ARG}

theorem refundProposal_agree (key key' k : String) (h : k ≠ IDEMPOTENCY_ARG) :
    (refundProposal key).Agree (refundProposal key') k := by
  simp only [Arguments.Agree, Arguments.get?, refundProposal, Dict.get?_cons, Dict.get?_nil,
    Ne.symm h, if_false]

/-- The same refund, its arguments in another order. -/
def refundReordered (idempotency_key : String) : Arguments where
  fields := (refundProposal idempotency_key).fields.reverse
  nodup := by simp [refundProposal, Dict.Nodup, TENANT_ARG, IDEMPOTENCY_ARG]

theorem refundReordered_agree (key k : String) :
    (refundProposal key).Agree (refundReordered key) k := by
  refine congrArg (Option.map canon) (Option.ext fun v => ?_)
  rw [Arguments.get?, Arguments.get?, ← Dict.mem_iff (refundProposal key).nodup,
    ← Dict.mem_iff (refundReordered key).nodup, refundReordered, List.mem_reverse]

/-- A proposal whose arguments come in another order is sent as the same call. -/
theorem injectContext_same_reordered :
    (injectContext (refundProposal "123e4567-e89b-42d3-a456-426614174000") refundDeclared
        "tenant-a" "t-1" "orders.create_refund").Same
      (injectContext (refundReordered "123e4567-e89b-42d3-a456-426614174000") refundDeclared
        "tenant-a" "t-1" "orders.create_refund") :=
  (injectContext_same_iff "t-1" "orders.create_refund" "tenant-a" refundDeclared (by decide)
    (by decide) _ _ (fun k _ _ => refundReordered_agree _ k)).mpr
    (.inl ⟨refundReordered_agree _ _, refundReordered_agree _ _⟩)

/-- **A retry with a key of its own is another call.** -/
theorem injectContext_not_same :
    ¬ ∀ (thread_id tool tenant_id : String) (declared : Finset String), TENANT_ARG ∈ declared →
      IDEMPOTENCY_ARG ∈ declared → ∀ a b : Arguments,
      (∀ k, k ≠ TENANT_ARG → k ≠ IDEMPOTENCY_ARG → a.Agree b k) →
      (injectContext a declared tenant_id thread_id tool).Same
        (injectContext b declared tenant_id thread_id tool) := by
  intro h
  have hs := h "t-1" "orders.create_refund" "tenant-a" refundDeclared (by decide) (by decide)
    (refundProposal "123e4567-e89b-42d3-a456-426614174000")
    (refundProposal "9f0c2b7e-3a41-4c55-8d5e-0b1f6a2c7d88")
    (fun k _ hk => refundProposal_agree _ _ k hk)
  have hkey := Arguments.same_iff.mp hs IDEMPOTENCY_ARG
  have ht : TENANT_ARG ∈ refundDeclared := by decide
  have hk : IDEMPOTENCY_ARG ∈ refundDeclared := by decide
  simp only [Arguments.Agree, injectContext_get? ht hk, if_true, Option.map_some,
    Option.some.injEq] at hkey
  exact absurd (same_str_iff.mp hkey) (by decide +kernel)

end Agent
