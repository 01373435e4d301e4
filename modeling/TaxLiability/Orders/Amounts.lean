import TaxLiability.Machinery.Decimal
import TaxLiability.Orders.RefundLedger

/-!
# Orders/Amounts — an amount on its way into the ledger

    body ──0 < signum──▸ CreateRefundRequest ──0 < signum, HALF_UP──▸ NUMERIC(12,2), > 0

The sign is checked before the amount is rounded, and its size is not checked: an amount below half
a cent becomes no amount, and one of more than ten digits does not fit.  `refund_amount_iff` says
which amounts the column takes.
-/

open Machine

namespace Orders

/-- **A valid amount of the ledger**, for what the caller has sent: positive, that amount rounded
half up to two places, and one that the column takes. -/
structure LedgerAmount (amount inserted : BigDecimal) : Prop where
  positive : 0 < inserted.value
  rounded : inserted = ⟨BigDecimal.halfUp (amount.value * 100), Money.SCALE⟩
  fits : ∀ (c : Refund) (uuid : String), (c.row inserted uuid).Storable

/-- **An amount the ledger can hold**: half a cent or more, and below ten billion even rounded. -/
def Holdable (amount : BigDecimal) : Prop :=
  1 / 200 ≤ amount.value ∧ amount.value < 10 ^ 10 - 1 / 200

/-! ## Rounding -/

theorem value_pos_iff (amount : BigDecimal) : 0 < amount.value ↔ 0 < amount.signum := by
  have hpow : (0 : ℚ) < 10 ^ (-amount.scale) := zpow_pos (by norm_num) _
  rw [BigDecimal.value, mul_pos_iff_of_pos_right hpow, Int.cast_pos, BigDecimal.signum,
    Int.sign_pos_iff]

/-- **What is inserted**: the amount in cents, rounded half up. -/
theorem normalise_eq {amount : BigDecimal} (h : 0 < amount.signum) : Money.normalise amount
    = .ok ⟨BigDecimal.halfUp (amount.value * 100), Money.SCALE⟩ := by
  have hcents : (10 : ℚ) ^ Money.SCALE = 100 := by norm_num [Money.SCALE]
  rw [Money.normalise, if_neg (not_le.mpr h), BigDecimal.setScale_eq_halfUp, hcents]

theorem pos_of_normalise {amount inserted : BigDecimal}
    (h : Money.normalise amount = .ok inserted) : 0 < amount.signum := by
  unfold Money.normalise at h
  split_ifs at h with hle
  exact not_le.mp hle

/-- **The rounded amount has a place in the column** exactly if the amount can be held. -/
theorem halfUp_iff_holdable {amount : BigDecimal} (h : 0 < amount.value) :
    (0 < BigDecimal.halfUp (amount.value * 100)
      ∧ BigDecimal.halfUp (amount.value * 100) < 10 ^ 12) ↔ Holdable amount := by
  rw [BigDecimal.halfUp, if_pos (by linarith), Int.floor_pos, Int.floor_lt, Holdable]
  push_cast
  constructor <;> rintro ⟨hlow, hhigh⟩ <;> constructor <;> linarith

/-- **What is inserted is valid** exactly if the amount can be held. -/
theorem ledgerAmount_iff {amount inserted : BigDecimal}
    (h : Money.normalise amount = .ok inserted) :
    LedgerAmount amount inserted ↔ Holdable amount := by
  have hpos := pos_of_normalise h
  obtain rfl := Except.ok.inj ((normalise_eq hpos).symm.trans h)
  rw [← halfUp_iff_holdable ((value_pos_iff amount).mpr hpos)]
  constructor
  · intro hvalid
    exact hvalid.fits ⟨"", "", ⟨"-", amount, "-- -", "-", by decide, by decide, by decide, hpos⟩⟩ ""
  · intro hcents
    refine ⟨?_, rfl, fun c uuid => hcents⟩
    rw [value_pos_iff, BigDecimal.signum]
    exact Int.sign_pos_iff.mpr hcents.1

/-! ## The ledger -/

/-- What a call is about to insert is what `normalise` has made of its request's amount. -/
theorem normalise_of_checked {es : List Event} {s : Ledger} {i : ℕ} {c : Refund}
    {inserted : BigDecimal} (h : exec Ledger.step Ledger.start es = some s)
    (hcall : s.calls i = .checked c inserted) :
    Money.normalise c.request.amount = .ok inserted := by
  have hsound := (Ledger.sound_of_exec h).calls i
  rwa [hcall] at hsound

/-- **No constraint of the column refuses** the insert of a call for such an amount, in any run. -/
def NeverRefused (amount : BigDecimal) : Prop :=
  ∀ (es : List Event) (s : Ledger), exec Ledger.step Ledger.start es = some s →
    ∀ (i : ℕ) (c : Refund) (inserted : BigDecimal), s.calls i = .checked c inserted →
      c.request.amount = amount → ∀ uuid, (c.row inserted uuid).Storable

theorem Holdable.neverRefused {amount : BigDecimal} (h : Holdable amount) :
    NeverRefused amount := by
  rintro es s hs i c inserted hcall rfl uuid
  exact ((ledgerAmount_iff (normalise_of_checked hs hcall)).mpr h).fits c uuid

/-- **An accepted amount is a valid amount of the ledger**, and no insert of it is refused, exactly
if it is half a cent or more and below ten billion when rounded. -/
theorem refund_amount_iff {orderId reason idempotencyKey : String} {amount : BigDecimal}
    {body : CreateRefundRequest}
    (h : CreateRefundRequest.create orderId amount reason idempotencyKey = .ok body) :
    ((∃ inserted, Money.normalise body.amount = .ok inserted ∧ LedgerAmount amount inserted)
      ∧ NeverRefused amount) ↔ Holdable amount := by
  obtain ⟨-, rfl, -, -⟩ := CreateRefundRequest.fields_of_create h
  constructor
  · rintro ⟨⟨inserted, hinserted, hvalid⟩, -⟩
    exact (ledgerAmount_iff hinserted).mp hvalid
  · intro hholdable
    have hinserted := normalise_eq body.amount_pos
    exact ⟨⟨_, hinserted, (ledgerAmount_iff hinserted).mpr hholdable⟩, hholdable.neverRefused⟩

/-- A refund of ten dollars… -/
def tenDollars : CreateRefundRequest :=
  ⟨"ord-synth-9001", ⟨10, 0⟩, "late filing", "key-1", by decide, by decide, by decide, by decide⟩

/-- …is recorded as such. -/
theorem tenDollars_valid : ∃ inserted, Money.normalise tenDollars.amount = .ok inserted
    ∧ LedgerAmount ⟨10, 0⟩ inserted :=
  ((@refund_amount_iff "ord-synth-9001" "late filing" "key-1" ⟨10, 0⟩ tenDollars (by decide)).mpr
    ⟨by norm_num [BigDecimal.value], by norm_num [BigDecimal.value]⟩).1

/-- A refund of four tenths of a cent, and one of ten billion. -/
def fractionOfACent : CreateRefundRequest :=
  ⟨"ord-synth-9001", ⟨4, 3⟩, "late filing", "key-2", by decide, by decide, by decide, by decide⟩

def tenBillion : CreateRefundRequest :=
  ⟨"ord-synth-9001", ⟨10 ^ 10, 0⟩, "late filing", "key-3", by decide, by decide, by decide,
    by decide⟩

/-- **Both are accepted, and refused by the column**: the first is rounded to nothing, and the
second has a digit too many.  The caller's call fails at its insert. -/
theorem accepted_not_storable :
    (CreateRefundRequest.create "ord-synth-9001" ⟨4, 3⟩ "late filing" "key-2" = .ok fractionOfACent
      ∧ Money.normalise fractionOfACent.amount = .ok ⟨0, 2⟩
      ∧ ∀ (c : Refund) uuid, ¬ (c.row ⟨0, 2⟩ uuid).Storable)
    ∧ (CreateRefundRequest.create "ord-synth-9001" ⟨10 ^ 10, 0⟩ "late filing" "key-3"
        = .ok tenBillion
      ∧ Money.normalise tenBillion.amount = .ok ⟨10 ^ 12, 2⟩
      ∧ ∀ (c : Refund) uuid, ¬ (c.row ⟨10 ^ 12, 2⟩ uuid).Storable)
    ∧ ∀ body ∈ [fractionOfACent, tenBillion],
        (exec Ledger.step Ledger.start [.order "ord-synth-9001" "tenant-a",
          .request 0 "ord-synth-9001" "tenant-a" none body, .existsForTenant 0,
          .insertIfAbsent 0 "1"]).map (fun s => s.calls 0) = some (.failed .dataAccess) := by
  refine ⟨⟨by decide, by decide, ?_⟩, ⟨by decide, by decide, ?_⟩, by decide⟩
  · rintro c uuid ⟨hpos, -⟩
    exact absurd hpos (lt_irrefl _)
  · rintro c uuid ⟨-, hlt⟩
    exact absurd hlt (lt_irrefl _)

end Orders
