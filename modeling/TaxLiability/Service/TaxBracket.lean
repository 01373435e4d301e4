import TaxLiability.Machinery.Decimal
import TaxLiability.Machinery.Java

/-!
# Service/TaxBracket — a bracket, and whether it is of any use

    floor < ceiling ──setScale(2)──▸ floor ≤ ceiling

The constructor compares the bounds as they are given, and keeps them rounded.  So a bracket exists
that begins where it ends: exactly if no half cent lies above its floor and not above its ceiling
(`usable_iff`).
-/

namespace Service

/-- **A bracket**, without a ceiling if it has no bound. -/
@[ext]
structure TaxBracket where
  id : String
  jurisdiction : String
  rate : BigDecimal
  floor : BigDecimal
  ceiling : Option BigDecimal
  id_notBlank : ¬ Java.IsBlank id
  jurisdiction_notBlank : ¬ Java.IsBlank jurisdiction
  rate_nonneg : 0 ≤ rate.signum
  floor_nonneg : 0 ≤ floor.signum
  floor_scale : floor.scale = 2
  ceiling_scale : ∀ c ∈ ceiling, c.scale = 2
  /-- not always `<` -/
  floor_le_ceiling : ∀ c ∈ ceiling, 0 ≤ c.compareTo floor

namespace TaxBracket

instance : DecidableEq TaxBracket := fun _ _ => decidable_of_iff' _ TaxBracket.ext_iff

/-! ## Rounded to cents -/

/-- Rounding keeps the order. -/
theorem compareTo_setScale {x y : BigDecimal} (hx : 0 ≤ x.signum) (h : 0 < y.compareTo x) :
    0 ≤ (y.setScale 2).compareTo (x.setScale 2) := by
  rw [BigDecimal.signum_nonneg_iff] at hx
  rw [BigDecimal.compareTo_pos_iff] at h
  rw [← not_lt, BigDecimal.compareTo_neg_iff, BigDecimal.value_setScale, BigDecimal.value_setScale,
    not_lt]
  have hmono : BigDecimal.halfUp (x.value * 10 ^ (2 : ℤ))
      ≤ BigDecimal.halfUp (y.value * 10 ^ (2 : ℤ)) :=
    BigDecimal.halfUp_mono (by positivity) (by gcongr)
  gcongr

/-! ## The constructor -/

/-- **The constructor of `TaxBracket`.** -/
def create (id jurisdiction : String) (rate floor : BigDecimal) (ceiling : Option BigDecimal) :
    Except String TaxBracket :=
  if h₁ : Java.IsBlank id then .error "id must not be blank"
  else if h₂ : Java.IsBlank jurisdiction then .error "jurisdiction must not be blank"
  else if h₃ : rate.signum < 0 then .error ("rate must not be negative: " ++ rate.toString)
  else if h₄ : floor.signum < 0 then .error ("floor must not be negative: " ++ floor.toString)
  else match ceiling with
    | none => .ok ⟨id, jurisdiction, rate, floor.setScale 2, none, h₁, h₂, not_lt.mp h₃,
        BigDecimal.signum_cents_nonneg h₄, BigDecimal.scale_cents floor,
        fun _ h => absurd h (Option.not_mem_none _), fun _ h => absurd h (Option.not_mem_none _)⟩
    | some ceiling =>
      if h₅ : ceiling.compareTo floor ≤ 0 then
        .error ("ceiling must be greater than floor: " ++ ceiling.toString ++ " <= "
          ++ floor.toString)
      else .ok ⟨id, jurisdiction, rate, floor.setScale 2, some (ceiling.setScale 2), h₁, h₂,
        not_lt.mp h₃, BigDecimal.signum_cents_nonneg h₄, BigDecimal.scale_cents floor,
        fun _ h => Option.some.inj h ▸ BigDecimal.scale_cents ceiling,
        fun _ h => Option.some.inj h ▸ compareTo_setScale (not_lt.mp h₄) (not_le.mp h₅)⟩

/-- **`covers`.** -/
def covers (b : TaxBracket) (taxableAmount : BigDecimal) : Bool :=
  let atOrAboveFloor := 0 ≤ taxableAmount.compareTo b.floor
  let belowCeiling := b.ceiling.all fun c => taxableAmount.compareTo c < 0
  atOrAboveFloor && belowCeiling

variable {id jurisdiction : String} {rate floor : BigDecimal} {ceiling : Option BigDecimal}
  {b : TaxBracket}

/-- **What is made of what**: the bounds are rounded, and were in order before. -/
theorem create_eq_ok_iff : create id jurisdiction rate floor ceiling = .ok b ↔
    b.id = id ∧ b.jurisdiction = jurisdiction ∧ b.rate = rate ∧ b.floor = floor.setScale 2
      ∧ b.ceiling = ceiling.map (·.setScale 2) ∧ 0 ≤ floor.signum
      ∧ ∀ c ∈ ceiling, 0 < c.compareTo floor := by
  constructor
  · intro h
    unfold create at h
    split_ifs at h with h₁ h₂ h₃ h₄
    cases ceiling with
    | none =>
      cases h
      exact ⟨rfl, rfl, rfl, rfl, rfl, not_lt.mp h₄, by simp⟩
    | some c =>
      simp only at h
      split_ifs at h with h₅
      cases h
      exact ⟨rfl, rfl, rfl, rfl, rfl, not_lt.mp h₄, fun _ hc => Option.some.inj hc ▸ not_le.mp h₅⟩
  · rintro ⟨rfl, rfl, rfl, hfloor, hceiling, hsignum, horder⟩
    unfold create
    rw [dif_neg b.id_notBlank, dif_neg b.jurisdiction_notBlank, dif_neg (not_lt.mpr b.rate_nonneg),
      dif_neg (not_lt.mpr hsignum)]
    cases ceiling with
    | none => exact congrArg Except.ok (TaxBracket.ext rfl rfl rfl hfloor.symm hceiling.symm)
    | some c =>
      simp only [dif_neg (not_le.mpr (horder c rfl))]
      exact congrArg Except.ok (TaxBracket.ext rfl rfl rfl hfloor.symm hceiling.symm)

/-! ## The property and the condition -/

/-- **A bracket is usable**: its ceiling is above its floor, it covers some amount, and it can be
made again of its own components. -/
structure Usable (b : TaxBracket) : Prop where
  floor_lt_ceiling : ∀ c ∈ b.ceiling, 0 < c.compareTo b.floor
  covers_some : ∃ taxableAmount, b.covers taxableAmount
  made_again : create b.id b.jurisdiction b.rate b.floor b.ceiling = .ok b

/-- **A bound between which there is a half cent**: above the floor, and not above the ceiling. -/
def HalfCentBetween (floor ceiling : BigDecimal) : Prop :=
  ∃ k : ℤ, floor.value < (k + 1 / 2) / 100 ∧ (k + 1 / 2) / 100 ≤ ceiling.value

theorem covers_iff {x : BigDecimal} : b.covers x ↔
    b.floor.value ≤ x.value ∧ ∀ c ∈ b.ceiling, x.value < c.value := by
  have hfloor : 0 ≤ x.compareTo b.floor ↔ b.floor.value ≤ x.value := by
    rw [← not_lt, BigDecimal.compareTo_neg_iff, not_lt]
  simp only [covers, Bool.and_eq_true, decide_eq_true_eq, hfloor, Option.all_eq_true,
    BigDecimal.compareTo_neg_iff, Option.mem_def]

/-- **A bracket is usable exactly if it is not empty.** -/
theorem usable_iff_floor_lt : b.Usable ↔ ∀ c ∈ b.ceiling, 0 < c.compareTo b.floor := by
  refine ⟨Usable.floor_lt_ceiling, fun h => ⟨h, ⟨b.floor, covers_iff.mpr ⟨le_rfl, fun c hc => ?_⟩⟩,
    create_eq_ok_iff.mpr ⟨rfl, rfl, rfl, ?_, ?_, b.floor_nonneg, h⟩⟩⟩
  · exact (BigDecimal.compareTo_pos_iff _ _).mp (h c hc)
  · have hfloor := b.floor.setScale_self
    rw [b.floor_scale] at hfloor
    exact hfloor.symm
  · have hceiling : b.ceiling.map (·.setScale 2) = b.ceiling := by
      refine (Option.map_congr fun c hc => ?_).trans Option.map_id_apply
      have hself := c.setScale_self
      rwa [b.ceiling_scale c hc] at hself
    exact hceiling.symm

/-- **Rounded bounds are apart** exactly if there is a half cent between them. -/
theorem compareTo_setScale_pos_iff {x y : BigDecimal} (hx : 0 ≤ x.signum)
    (h : 0 < y.compareTo x) :
    0 < (y.setScale 2).compareTo (x.setScale 2) ↔ HalfCentBetween x y := by
  rw [BigDecimal.signum_nonneg_iff] at hx
  rw [BigDecimal.compareTo_pos_iff] at h
  have hy : 0 ≤ y.value := hx.trans h.le
  rw [BigDecimal.compareTo_pos_iff, BigDecimal.value_setScale, BigDecimal.value_setScale,
    mul_lt_mul_iff_left₀ (by norm_num), Int.cast_lt,
    BigDecimal.halfUp_lt_halfUp_iff (by positivity) (by positivity)]
  refine exists_congr fun k => and_congr ?_ ?_
  · rw [lt_div_iff₀ (by norm_num)]
    norm_num
  · rw [div_le_iff₀ (by norm_num)]
    norm_num

/-- **A bracket that is made is usable** exactly if it has no ceiling, or some half cent lies above
its floor and not above its ceiling. -/
theorem usable_iff (h : create id jurisdiction rate floor ceiling = .ok b) :
    b.Usable ↔ ∀ c ∈ ceiling, HalfCentBetween floor c := by
  obtain ⟨-, -, -, hfloor, hceiling, hsignum, horder⟩ := create_eq_ok_iff.mp h
  rw [usable_iff_floor_lt, hfloor, hceiling]
  cases ceiling with
  | none => exact iff_of_true (by simp) (by simp)
  | some c =>
    simp only [Option.map_some, Option.mem_some_iff, forall_eq']
    exact compareTo_setScale_pos_iff hsignum (horder c rfl)

/-- A bracket from nothing to ten thousand dollars. -/
theorem usable_toTenThousand : ∃ b, create "ca-bracket-1" "CALIFORNIA" ⟨1, 2⟩ ⟨0, 0⟩
    (some ⟨10000, 0⟩) = .ok b ∧ b.Usable := by
  have hhalf : HalfCentBetween ⟨0, 0⟩ ⟨10000, 0⟩ :=
    ⟨0, by norm_num [BigDecimal.value], by norm_num [BigDecimal.value]⟩
  obtain ⟨b, hb⟩ : ∃ b, create "ca-bracket-1" "CALIFORNIA" ⟨1, 2⟩ ⟨0, 0⟩ (some ⟨10000, 0⟩)
      = .ok b := ⟨_, rfl⟩
  exact ⟨b, hb, (usable_iff hb).mpr fun _ hc => Option.some.inj hc ▸ hhalf⟩

/-- **From a tenth of a cent to two tenths**: both bounds are kept as nothing. -/
theorem empty_bracket : ∃ b, create "ca-bracket-1" "CALIFORNIA" ⟨1, 2⟩ ⟨1, 3⟩ (some ⟨2, 3⟩) = .ok b
    ∧ b.floor = ⟨0, 2⟩ ∧ b.ceiling = some ⟨0, 2⟩ ∧ (∀ taxableAmount, ¬ b.covers taxableAmount)
    ∧ create b.id b.jurisdiction b.rate b.floor b.ceiling
      = .error "ceiling must be greater than floor: 0.00 <= 0.00" ∧ ¬ b.Usable := by
  refine ⟨_, rfl, by decide, by decide, fun x hx => ?_, by decide, fun h => ?_⟩
  · obtain ⟨hfloor, hceiling⟩ := covers_iff.mp hx
    exact absurd (hceiling _ rfl) (not_lt.mpr hfloor)
  · exact absurd (h.floor_lt_ceiling _ rfl) (by decide)

end TaxBracket

end Service
