import TaxLiability.Mcp.Amounts
import TaxLiability.Orders.RefundService

/-!
# Mcp/Agreement — the two validators of a refund

    CreateRefundArgs ──"10.00", reason, key──▸ CreateRefundRequest ──normalise──▸ NUMERIC(12,2)

One side counts code points and the other UTF-16 units, one takes amounts up to 28 digits and the
other's column takes 12, one lets blank ids through; and the first has no answer at all where
rounding overflows.  `agree_iff` says where they agree.
-/

open Validation Machine

namespace Mcp

/-! ## The service's side -/

/-- The limits the service's JSON reader is configured with: the longest number, an `int`. -/
structure StreamReadConstraints where
  maxNumLen : ℕ
  int : maxNumLen < 2 ^ 31

/-- **A decimal string of the body, read as a `BigDecimal`**; `none` where that throws. -/
def StreamReadConstraints.readDecimal (R : StreamReadConstraints) (s : String) :
    Option BigDecimal :=
  if s.toList.length ≤ R.maxNumLen then BigDecimal.ofString s.toList else none

/-- **The order service takes the forwarded request and has exactly its amount to record**: on any
ledger with the order, the call gets to its insert, with a row the table takes. -/
def Recorded (R : StreamReadConstraints) (args : CreateRefundArgs) : Prop :=
  ∃ amount body, R.readDecimal (String.ofList args.amount.1.str) = some amount
    ∧ Orders.CreateRefundRequest.create args.order_id.1 amount args.reason.1
      (uuidText args.idempotency_key) = .ok body
    ∧ ∀ (s : Orders.Ledger) (i : ℕ), s.calls i = .idle →
      (args.order_id.1, args.tenant_id.1) ∈ s.orders →
      ∃ s₁ s₂ c recorded,
        s.step (.request i args.order_id.1 args.tenant_id.1 (some (uuidText args.idempotency_key))
          body) = some s₁
        ∧ s₁.step (.existsForTenant i) = some s₂
        ∧ s₂.calls i = .checked c recorded
        ∧ recorded.value = args.amount.1.value
        ∧ ∀ uuid, (c.row recorded uuid).Storable

/-! ## What the service asks of a request -/

/-- **What the service takes**, of what the tool takes. -/
structure Fits (R : StreamReadConstraints) (args : CreateRefundArgs) : Prop where
  order_id : ¬ Java.IsBlank args.order_id.1
  reason : Java.length args.reason.1 ≤ 200
  amount : args.amount.1.value < 10 ^ 10
  text : args.amount.1.str.length ≤ R.maxNumLen

/-- A text has no fewer UTF-16 units than code points. -/
theorem length_le_javaLength (s : String) : s.length ≤ Java.length s := by
  rw [← String.length_toList, Java.length]
  generalize s.toList = l
  induction l with
  | nil => exact le_rfl
  | cons c l ih =>
    rw [List.map_cons, List.sum_cons, List.length_cons]
    split <;> omega

/-- A UUID's text is not blank. -/
theorem uuidText_not_blank (u : ℕ) : ¬ Java.IsBlank (uuidText u) := by
  intro h
  rw [Java.IsBlank, uuidText, String.toList_ofList] at h
  have hdash : '-' ∈ Uuid.format u := by simp [Uuid.format]
  exact absurd (List.all_eq_true.mp h _ hdash) (by decide)

/-- The fraction of an amount shows in its text. -/
theorem neg_exponent_le_length {d : Decimal} (h : Payable d) : -d.exponent ≤ d.str.length := by
  rcases le_or_gt d.exponent 0 with he | he
  · have hsmall := Decimal.small_of_value h.1 (one_le_of_payable h)
    have hlen := (Decimal.split_spec Nat.toDigits_ne_nil
      (Numeral.all_isDigit_toDigits d.coefficient)
      (show d.exponent + (Nat.toDigits 10 d.coefficient).length
        ≤ (Nat.toDigits 10 d.coefficient).length by omega)).2.2.2.2
    have hpoint : ∀ f : List Char, f.length ≤ (Decimal.point f).length := by
      intro f
      unfold Decimal.point
      split <;> simp [*]
    have := hpoint (Decimal.split (Nat.toDigits 10 d.coefficient)
      (d.exponent + (Nat.toDigits 10 d.coefficient).length)).2
    rw [Decimal.str_plain h.1.1 he hsmall, List.length_append]
    omega
  · omega

/-- The amount, as the service reads it. -/
def bigDecimal (d : Decimal) : BigDecimal :=
  ⟨(if d.negative then -1 else 1) * d.coefficient, -d.exponent⟩

theorem value_bigDecimal (d : Decimal) : (bigDecimal d).value = d.value := by
  rw [bigDecimal, BigDecimal.value, Decimal.value, neg_neg]
  push_cast
  rfl

theorem signum_bigDecimal {d : Decimal} (h : d.Positive) : 0 < (bigDecimal d).signum := by
  rw [BigDecimal.signum, bigDecimal, h.1, if_neg Bool.false_ne_true, one_mul]
  rw [Int.sign_eq_one_of_pos (Int.natCast_pos.mpr h.2)]
  decide

/-- A payable amount has no large exponent. -/
theorem exponent_lt_of_payable {d : Decimal} (h : Payable d) : d.exponent < 26 := by
  obtain ⟨n, -, hn, hvalue⟩ := (payable_iff d).mp h
  have hn' : (n : ℚ) < 10 ^ 28 := by exact_mod_cast hn
  rw [Decimal.value_of_positive h.1] at hvalue
  by_contra hle
  have hpow : (10 : ℚ) ^ (26 : ℤ) ≤ 10 ^ d.exponent :=
    zpow_le_zpow_right₀ (by norm_num) (not_lt.mp hle)
  have hc : (1 : ℚ) ≤ d.coefficient := by exact_mod_cast h.1.2
  have hmul : (1 : ℚ) * 10 ^ (26 : ℤ) ≤ d.coefficient * 10 ^ d.exponent :=
    mul_le_mul hc hpow (Decimal.zpow_pos' _).le (by linarith)
  have hnum : (10 : ℚ) ^ (26 : ℤ) * 100 = 10 ^ 28 := by norm_num
  linarith

/-- **What the service reads is what the tool has printed**, if it is not too long. -/
theorem readDecimal_str (R : StreamReadConstraints) {d : Decimal} (h : Payable d) :
    R.readDecimal (String.ofList d.str)
      = if d.str.length ≤ R.maxNumLen then some (bigDecimal d) else none := by
  rw [StreamReadConstraints.readDecimal, String.toList_ofList]
  split
  case isFalse hlen => rfl
  case isTrue hlen =>
    have hscale := neg_exponent_le_length h
    have hexp := exponent_lt_of_payable h
    have hint := R.int
    rw [BigDecimal.ofString, Decimal.read_str, Option.bind_some, if_pos ⟨by omega, by omega⟩]
    rfl

/-- The amount, normalised: so many cents. -/
theorem normalise_bigDecimal {d : Decimal} (h : Payable d) :
    ∃ cents : ℕ, 0 < cents ∧ d.value * 100 = cents
      ∧ Orders.Money.normalise (bigDecimal d) = .ok ⟨cents, 2⟩ := by
  obtain ⟨n, hn, -, hvalue⟩ := (payable_iff d).mp h
  refine ⟨n, hn, hvalue, ?_⟩
  have hcents : (bigDecimal d).value * 10 ^ (2 : ℤ) = (n : ℤ) := by
    rw [value_bigDecimal, Int.cast_natCast, ← hvalue]
    norm_num
  rw [Orders.Money.normalise, if_neg (not_le.mpr (signum_bigDecimal h.1)), Orders.Money.SCALE,
    BigDecimal.setScale_eq hcents]

/-- The bodies the service takes. -/
theorem exists_create {orderId : String} {amount : BigDecimal} {reason key : String}
    (horder : ¬ Java.IsBlank orderId) (hkey : ¬ Java.IsBlank key)
    (hreason : Orders.MIN_REASON_LENGTH ≤ Java.length reason
      ∧ Java.length reason ≤ Orders.MAX_REASON_LENGTH) (hamount : 0 < amount.signum) :
    ∃ body, Orders.CreateRefundRequest.create orderId amount reason key = .ok body := by
  rw [Orders.CreateRefundRequest.create, dif_neg horder, dif_neg hkey, dif_pos hreason,
    dif_pos hamount]
  exact ⟨_, rfl⟩

/-! ## The run -/

/-- **A request for an order there is gets to its insert**, with the amount normalised. -/
theorem run_to_insert {body request : Orders.CreateRefundRequest} {orderId tenantId key : String}
    {amount : BigDecimal} (hkey : ¬ Java.IsBlank key)
    (hrequest : Orders.CreateRefundRequest.create orderId body.amount body.reason key = .ok request)
    (hamount : Orders.Money.normalise body.amount = .ok amount) (s : Orders.Ledger) (i : ℕ)
    (hidle : s.calls i = .idle) (horder : (orderId, tenantId) ∈ s.orders) :
    ∃ s₁ s₂, s.step (.request i orderId tenantId (some key) body) = some s₁
      ∧ s₁.step (.existsForTenant i) = some s₂
      ∧ s₂.calls i = .checked ⟨orderId, tenantId, request⟩ amount := by
  have heffective : Orders.CreateRefundRequest.effective orderId (some key) body = .ok request := by
    rw [Orders.CreateRefundRequest.effective, if_neg hkey, hrequest]
  have hbegun : s.step (.request i orderId tenantId (some key) body)
      = some (s.goto i (.begun ⟨orderId, tenantId, request⟩)) := by
    simp only [Orders.Ledger.step, hidle, heffective, Orders.Ledger.orFail]
  set s₁ := s.goto i (.begun ⟨orderId, tenantId, request⟩) with hs₁
  have hcall : s₁.calls i = .begun ⟨orderId, tenantId, request⟩ := Orders.Ledger.goto_self s i _
  have hchecked : s₁.step (.existsForTenant i)
      = some (s₁.goto i (.checked ⟨orderId, tenantId, request⟩ amount)) := by
    simp only [Orders.Ledger.step, hcall]
    rw [if_pos (show (orderId, tenantId) ∈ s₁.orders from horder),
      (Orders.CreateRefundRequest.fields_of_create hrequest).2.1, hamount, Orders.Ledger.orFail]
  exact ⟨s₁, _, hbegun, hchecked, Orders.Ledger.goto_self s₁ i _⟩

/-- A body made of the args is made again of its own values. -/
theorem create_again {args : CreateRefundArgs} {body : Orders.CreateRefundRequest}
    (h : Orders.CreateRefundRequest.create args.order_id.1 (bigDecimal args.amount.1) args.reason.1
      (uuidText args.idempotency_key) = .ok body) :
    Orders.CreateRefundRequest.create args.order_id.1 body.amount body.reason
      (uuidText args.idempotency_key) = .ok body := by
  obtain ⟨-, hamount, hreason, -⟩ := Orders.CreateRefundRequest.fields_of_create h
  rw [hamount, hreason, h]

/-- What is recorded fits… -/
theorem Recorded.fits {R : StreamReadConstraints} {args : CreateRefundArgs} (h : Recorded R args) :
    Fits R args := by
  obtain ⟨n, hn, hvalue, hnormal⟩ := normalise_bigDecimal args.amount.2
  obtain ⟨amount, body, hamount, hbody, hrun⟩ := h
  rw [readDecimal_str R args.amount.2] at hamount
  obtain ⟨hlen, hamount⟩ := Option.ite_none_right_eq_some.mp hamount
  cases hamount
  obtain ⟨horder, hbamount, hreason, -⟩ := Orders.CreateRefundRequest.fields_of_create hbody
  refine ⟨horder ▸ body.orderId_notBlank, hreason ▸ body.reason_length.2, ?_, hlen⟩
  let s : Orders.Ledger :=
    { Orders.Ledger.start with orders := [(args.order_id.1, args.tenant_id.1)] }
  obtain ⟨s₁, s₂, c, recorded, h₁, h₂, h₃, -, hstorable⟩ := hrun s 0 rfl List.mem_cons_self
  obtain ⟨t₁, t₂, h₁', h₂', h₃'⟩ := run_to_insert (uuidText_not_blank args.idempotency_key)
    (create_again hbody) (hbamount ▸ hnormal) s 0 rfl List.mem_cons_self
  obtain rfl := Option.some.inj (h₁.symm.trans h₁')
  obtain rfl := Option.some.inj (h₂.symm.trans h₂')
  cases h₃.symm.trans h₃'
  have hlt : (n : ℤ) < 10 ^ 12 := (hstorable "").2
  have hlt' : (n : ℚ) < 10 ^ 12 := by exact_mod_cast hlt
  linarith

/-- …and what fits is recorded. -/
theorem Fits.recorded {R : StreamReadConstraints} {args : CreateRefundArgs} (h : Fits R args) :
    Recorded R args := by
  obtain ⟨n, hn, hvalue, hnormal⟩ := normalise_bigDecimal args.amount.2
  have hkey := uuidText_not_blank args.idempotency_key
  have hread := readDecimal_str R args.amount.2
  rw [if_pos h.text] at hread
  obtain ⟨body, hbody⟩ := exists_create h.order_id hkey
    ⟨args.reason.2.1.trans (length_le_javaLength _), h.reason⟩ (signum_bigDecimal args.amount.2.1)
  obtain ⟨-, hbamount, -, -⟩ := Orders.CreateRefundRequest.fields_of_create hbody
  refine ⟨_, body, hread, hbody, fun s i hidle horder => ?_⟩
  obtain ⟨s₁, s₂, h₁, h₂, h₃⟩ := run_to_insert hkey (create_again hbody) (hbamount ▸ hnormal) s i
    hidle horder
  refine ⟨s₁, s₂, _, _, h₁, h₂, h₃, ?_, fun uuid => ⟨Int.natCast_pos.mpr hn, ?_⟩⟩
  · have htwo : (10 : ℚ) ^ (-2 : ℤ) = 1 / 100 := by norm_num
    rw [BigDecimal.value, Int.cast_natCast, ← hvalue, htwo]
    ring
  · have hlt : (n : ℚ) < 10 ^ 12 := by
      have := h.amount
      linarith
    have hlt' : (n : ℤ) < 10 ^ 12 := by exact_mod_cast hlt
    exact hlt'

/-- **The service takes and records a request of the tool** exactly when it fits. -/
theorem recorded_iff (R : StreamReadConstraints) (args : CreateRefundArgs) :
    Recorded R args ↔ Fits R args :=
  ⟨Recorded.fits, Fits.recorded⟩

/-! ## Agreement -/

/-- **Values these args are made from.** -/
structure MadeFrom (P : Pydantic) (given : Dict String Value) (args : CreateRefundArgs) : Prop where
  order_id : Dict.get? given "order_id" = some (.json (.str args.order_id.1))
  amount : ∃ v, Dict.get? given "amount" = some v ∧ isInexactBinary v = false
    ∧ decimal v = some args.amount.1
  reason : Dict.get? given "reason" = some (.json (.str args.reason.1))
  tenant_id : Dict.get? given "tenant_id" = some (.json (.str args.tenant_id.1))
  idempotency_key : ∃ v, Dict.get? given "idempotency_key" = some v
    ∧ uuid P v = .ok args.idempotency_key
  extra : ∀ f ∈ given, f.1 ∈ ["order_id", "amount", "reason", "tenant_id", "idempotency_key"]

theorem validate_eq_ok_iff_madeFrom {P : Pydantic} {given : Dict String Value}
    {args : CreateRefundArgs} :
    CreateRefundArgs.validate P given = .ok args ↔ MadeFrom P given args := by
  rw [CreateRefundArgs.validate, RefundArgs.validate_eq_ok]
  simp only [amount_eq_ok]
  constructor
  · rintro ⟨ho, ha, hr, ht, hk, he⟩
    exact ⟨ho, ha, hr, ht, hk, he⟩
  · rintro ⟨ho, ha, hr, ht, hk, he⟩
    exact ⟨ho, ha, hr, ht, hk, he⟩

/-- **The two validators agree on these values**: what `CreateRefundArgs` accepts is recorded with
exactly its amount, and what it does not accept it answers with a `ValidationError`. -/
structure Agree (P : Pydantic) (R : StreamReadConstraints) (given : Dict String Value) : Prop where
  recorded : ∀ args, CreateRefundArgs.validate P given = .ok args → Recorded R args
  answered : ∀ e, CreateRefundArgs.validate P given = .error e → ∃ errors, e = .flaws errors

/-- **Values they agree on**: an amount that rounds within 28 digits, and args that fit the
service. -/
structure Agreeable (P : Pydantic) (R : StreamReadConstraints) (given : Dict String Value) :
    Prop where
  rounds : ∀ v d, Dict.get? given "amount" = some v → isInexactBinary v = false →
    decimal v = some d → d.value * 100 < 10 ^ 28 - 1 / 2
  fits : ∀ args, MadeFrom P given args → Fits R args

/-- **The validators agree exactly on the agreeable values.** -/
theorem agree_iff (P : Pydantic) (R : StreamReadConstraints) (given : Dict String Value) :
    Agree P R given ↔ Agreeable P R given := by
  have hraised : (∃ e, CreateRefundArgs.validate P given = .error (.raised e)) ↔
      ∃ v d, Dict.get? given "amount" = some v ∧ isInexactBinary v = false ∧ decimal v = some d
        ∧ (10 ^ 28 - 1 / 2 : ℚ) ≤ d.value * 100 := by
    simp only [CreateRefundArgs.validate, RefundArgs.validate_eq_raised, amount_eq_raised]
    constructor
    · rintro ⟨e, v, hv, -, hexact, d, hd, hle⟩
      exact ⟨v, d, hv, hexact, hd, hle⟩
    · rintro ⟨v, d, hv, hexact, hd, hle⟩
      exact ⟨_, v, hv, rfl, hexact, d, hd, hle⟩
  constructor
  · intro h
    refine ⟨fun v d hv hexact hd => not_le.mp fun hle => ?_, fun args hargs => ?_⟩
    · obtain ⟨e, he⟩ := hraised.mpr ⟨v, d, hv, hexact, hd, hle⟩
      obtain ⟨errors, herrors⟩ := h.answered _ he
      cases herrors
    · exact (recorded_iff R args).mp (h.recorded args (validate_eq_ok_iff_madeFrom.mpr hargs))
  · intro h
    refine ⟨fun args hargs => ?_, fun e he => ?_⟩
    · exact (recorded_iff R args).mpr (h.fits args (validate_eq_ok_iff_madeFrom.mp hargs))
    · rcases e with errors | e
      · exact ⟨errors, rfl⟩
      · obtain ⟨v, d, hv, hexact, hd, hle⟩ := hraised.mp ⟨e, he⟩
        exact absurd (h.rounds v d hv hexact hd) (not_lt.mpr hle)

/-- Jackson's default. -/
def thousand : StreamReadConstraints := ⟨1000, by decide⟩

/-- **The tool takes an amount the column does not**: ten thousand million. -/
theorem validators_disagree :
    ¬ Agree oneUuid thousand (fromJson (refundOf (.str "10000000000.00"))) := by
  intro h
  have hok : (CreateRefundArgs.validate oneUuid
      (fromJson (refundOf (.str "10000000000.00")))).toOption.map (·.amount.1)
      = some ⟨false, 1000000000000, -2⟩ := by decide +kernel
  obtain ⟨args, hargs, hamount⟩ := Option.map_eq_some_iff.mp hok
  have hlt := ((recorded_iff thousand args).mp
    (h.recorded args (toOption_eq_some_iff.mp hargs))).amount
  rw [hamount, Decimal.value] at hlt
  norm_num at hlt

end Mcp
