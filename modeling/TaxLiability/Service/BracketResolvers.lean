import TaxLiability.Machinery.Dict
import TaxLiability.Machinery.Intervals
import TaxLiability.Machinery.Machine
import TaxLiability.ReadModel.TaxpayerReadModel
import TaxLiability.Service.ProgressiveStateBracketResolver

/-!
# Service/BracketResolvers — the strategies, and the tables that leave no amount out

    registry ──findByJurisdictionAbove──▸ brackets ──▸ progressive ──┐
    FEDERAL_BRACKETS ──────────────────────────────────▸ federal ────┼──▸ resolve
    properties ─▸ flat, no income tax, progressive ──────────────────┘

A table puts every amount into exactly one bracket if and only if, in order of the floors, the
brackets that are not empty lie end to end from nothing (`resolve_once_iff`).  Over such a table it
makes no difference in which order the brackets are tried, or come out of a map: the federal loop
and a progressive resolver over a registry resolve alike (`federal_resolve_eq`).
-/

namespace Service

open Machine

/-! ## The strategies -/

/-- `BigDecimal.ZERO`. -/
def ZERO : BigDecimal := ⟨0, 0⟩

namespace FederalBracketResolver

/-- The arguments of the federal brackets: id, rate, floor and ceiling. -/
def federalArguments : List (String × BigDecimal × BigDecimal × Option BigDecimal) :=
  [("fed-bracket-10", ⟨10, 2⟩, ⟨0, 0⟩, some ⟨11600, 0⟩),
    ("fed-bracket-12", ⟨12, 2⟩, ⟨11600, 0⟩, some ⟨47150, 0⟩),
    ("fed-bracket-22", ⟨22, 2⟩, ⟨47150, 0⟩, some ⟨100525, 0⟩),
    ("fed-bracket-24", ⟨24, 2⟩, ⟨100525, 0⟩, none)]

/-- What the constructor makes of them. -/
def federalBracket (f : String × BigDecimal × BigDecimal × Option BigDecimal) :
    Except String TaxBracket :=
  TaxBracket.create f.1 "FEDERAL" f.2.1 f.2.2.1 f.2.2.2

/-- The constructor refuses none. -/
theorem federalArguments_created : ∀ f ∈ federalArguments, (federalBracket f).toOption.isSome := by
  decide

/-- **`FEDERAL_BRACKETS`.** -/
def FEDERAL_BRACKETS : List TaxBracket :=
  federalArguments.pmap (fun f h => (federalBracket f).toOption.get h) federalArguments_created

/-- **`FederalBracketResolver.resolve`.** -/
def resolve (taxableAmount : BigDecimal) : Except ResolverException (Option TaxBracket) :=
  if taxableAmount.signum < 0 then
    .error (.invalidIncome ("taxableAmount must be non-null and non-negative: "
      ++ taxableAmount.toString))
  else .ok (FEDERAL_BRACKETS.find? fun b => b.covers taxableAmount)

end FederalBracketResolver

/-- **`FlatStateBracketResolver`**: one rate, in one bracket without a ceiling. -/
structure FlatStateBracketResolver where
  jurisdiction : String
  rate : BigDecimal
  bracket : TaxBracket

/-- **`NoIncomeTaxStateBracketResolver`**: no rate. -/
structure NoIncomeTaxStateBracketResolver where
  jurisdiction : String
  bracket : TaxBracket

section Flat

-- what `toLowerCase` makes of a text depends on the locale
variable (toLowerCase : String → String)

/-- **The constructor of `FlatStateBracketResolver`.** -/
def FlatStateBracketResolver.create (jurisdiction : String) (rate : BigDecimal) :
    Except ResolverException FlatStateBracketResolver :=
  if Java.IsBlank jurisdiction then .error (.illegalArgument "jurisdiction must not be blank")
  else if rate.signum < 0 then
    .error (.illegalArgument ("rate must not be negative: " ++ rate.toString))
  else
    match TaxBracket.create ("state-flat-" ++ toLowerCase jurisdiction) jurisdiction rate ZERO
      none with
    | .ok bracket => .ok ⟨jurisdiction, rate, bracket⟩
    | .error message => .error (.illegalArgument message)

/-- **The constructor of `NoIncomeTaxStateBracketResolver`.** -/
def NoIncomeTaxStateBracketResolver.create (jurisdiction : String) :
    Except ResolverException NoIncomeTaxStateBracketResolver :=
  if Java.IsBlank jurisdiction then .error (.illegalArgument "jurisdiction must not be blank")
  else
    match TaxBracket.create ("state-no-tax-" ++ toLowerCase jurisdiction) jurisdiction ZERO ZERO
      none with
    | .ok bracket => .ok ⟨jurisdiction, bracket⟩
    | .error message => .error (.illegalArgument message)

end Flat

/-- **`FlatStateBracketResolver.resolve`.** -/
def FlatStateBracketResolver.resolve (R : FlatStateBracketResolver) (taxableAmount : BigDecimal) :
    Except ResolverException (Option TaxBracket) :=
  if taxableAmount.signum < 0 then
    .error (.invalidIncome ("taxableAmount must be non-null and non-negative: "
      ++ taxableAmount.toString))
  else if 0 ≤ taxableAmount.compareTo ProgressiveStateBracketResolver.EXTENDED_TABLE_THRESHOLD then
    .error (.bracketResolutionFailed ("failed loading extended bracket table for jurisdiction "
      ++ R.jurisdiction))
  else .ok (some R.bracket)

/-- **`NoIncomeTaxStateBracketResolver.resolve`**, whose refusal is of another class. -/
def NoIncomeTaxStateBracketResolver.resolve (R : NoIncomeTaxStateBracketResolver)
    (taxableAmount : BigDecimal) : Except ResolverException (Option TaxBracket) :=
  if taxableAmount.signum < 0 then
    .error (.illegalArgument ("taxableAmount must not be negative: " ++ taxableAmount.toString))
  else .ok (some R.bracket)

/-! ## The registry -/

/-- **`BracketRegistry`**: brackets under their ids. -/
structure BracketRegistry where
  bracketsById : Dict String TaxBracket
  unique : bracketsById.Nodup

namespace BracketRegistry

/-- Brackets under their ids. -/
def byId (brackets : List TaxBracket) : Dict String TaxBracket := brackets.map fun b => (b.id, b)

theorem nodup_byId {brackets : List TaxBracket} (h : (brackets.map TaxBracket.id).Nodup) :
    (byId brackets).Nodup := by
  rw [Dict.Nodup, byId, List.map_map]
  exact h

/-- **The constructor of `BracketRegistry`.**  `toUnmodifiableMap` throws on an id that repeats. -/
def create (brackets : List TaxBracket) : Option BracketRegistry :=
  if h : (brackets.map TaxBracket.id).Nodup then some ⟨byId brackets, nodup_byId h⟩ else none

/-- **`size`.** -/
def size (registry : BracketRegistry) : ℕ := registry.bracketsById.length

/-- **`findById`.** -/
def findById (registry : BracketRegistry) (id : String) : Option TaxBracket :=
  registry.bracketsById.get? id

/-- **The order in which a map yields its values**, which is not specified. -/
structure Iteration where
  values : BracketRegistry → List TaxBracket
  values_perm : ∀ registry, (values registry).Perm (registry.bracketsById.map Prod.snd)

/-- **`findByJurisdictionAbove`.** -/
def findByJurisdictionAbove (I : Iteration) (registry : BracketRegistry) (jurisdiction : String)
    (floor : BigDecimal) : List TaxBracket :=
  ((I.values registry).filter fun b =>
    b.jurisdiction = jurisdiction ∧ 0 ≤ b.floor.compareTo floor).insertionSort TaxBracket.floorLe

end BracketRegistry

/-! ## The configuration -/

/-- A bracket of the configuration. -/
structure BracketProperties where
  id : String
  rate : BigDecimal
  floor : BigDecimal
  ceiling : Option BigDecimal

/-- **`BracketResolverProperties`**: `taxcalc.strategies`. -/
structure BracketResolverProperties where
  flatState : String × BigDecimal
  noIncomeTaxState : String
  progressiveState : String × List BracketProperties

namespace BracketResolverConfig

/-- **`flatStateBracketResolver`.** -/
def flatStateBracketResolver (toLowerCase : String → String)
    (properties : BracketResolverProperties) : Except ResolverException FlatStateBracketResolver :=
  FlatStateBracketResolver.create toLowerCase properties.flatState.1 properties.flatState.2

/-- **`noIncomeTaxStateBracketResolver`.** -/
def noIncomeTaxStateBracketResolver (toLowerCase : String → String)
    (properties : BracketResolverProperties) :
    Except ResolverException NoIncomeTaxStateBracketResolver :=
  NoIncomeTaxStateBracketResolver.create toLowerCase properties.noIncomeTaxState

/-- The bracket of a row of the configuration. -/
def bracketOf (jurisdiction : String) (bracket : BracketProperties) :
    Except ResolverException TaxBracket :=
  match TaxBracket.create bracket.id jurisdiction bracket.rate bracket.floor bracket.ceiling with
  | .ok b => .ok b
  | .error message => .error (.illegalArgument message)

/-- **`progressiveStateBracketResolver`.** -/
def progressiveStateBracketResolver (properties : BracketResolverProperties) :
    Except ResolverException ProgressiveStateBracketResolver :=
  (properties.progressiveState.2.mapM (bracketOf properties.progressiveState.1)).bind
    (ProgressiveStateBracketResolver.create properties.progressiveState.1)

end BracketResolverConfig

/-! ## Tables -/

namespace TaxBracket

/-- **Brackets as intervals of amounts.** -/
def amounts : Intervals TaxBracket BigDecimal ℚ where
  val := BigDecimal.value
  lower := TaxBracket.floor
  upper := TaxBracket.ceiling

/-- **Every amount falls into one bracket** of a table, and no other. -/
def OnceCovered (brackets : List TaxBracket) : Prop :=
  ∀ taxableAmount : BigDecimal, 0 ≤ taxableAmount.signum →
    (brackets.countP fun b => b.covers taxableAmount) = 1

/-- **Brackets end to end**, from nothing: each begins where the one before it ends, and the last
has no ceiling. -/
def EndToEnd (brackets : List TaxBracket) : Prop := amounts.Chained ZERO brackets

instance (brackets : List TaxBracket) : Decidable (EndToEnd brackets) :=
  inferInstanceAs (Decidable (amounts.Chained ZERO brackets))

/-- A bracket that is not empty. -/
def NotEmpty (b : TaxBracket) : Prop := ∀ c ∈ b.ceiling, 0 < c.compareTo b.floor

instance (b : TaxBracket) : Decidable b.NotEmpty :=
  inferInstanceAs (Decidable (∀ c ∈ b.ceiling, 0 < c.compareTo b.floor))

variable {b b' : TaxBracket} {brackets brackets' : List TaxBracket} {x y : BigDecimal}

theorem covers_iff_amounts : b.covers x ↔ amounts.Covers b x := covers_iff

theorem covers_eq_decide : b.covers x = decide (amounts.Covers b x) :=
  Bool.eq_iff_iff.mpr (covers_iff_amounts.trans decide_eq_true_iff.symm)

theorem proper_iff : amounts.Proper b ↔ b.NotEmpty :=
  forall₂_congr fun c _ => (BigDecimal.compareTo_pos_iff c b.floor).symm

theorem value_ZERO : ZERO.value = 0 := by simp [ZERO, BigDecimal.value]

theorem onceCovered_iff_partitions : OnceCovered brackets ↔ amounts.Partitions ZERO brackets := by
  refine forall_congr' fun x => ?_
  simp only [covers_eq_decide, BigDecimal.signum_nonneg_iff]
  rw [show amounts.val ZERO = 0 from value_ZERO]
  rfl

theorem OnceCovered.perm (h : OnceCovered brackets) (hperm : brackets'.Perm brackets) :
    OnceCovered brackets' :=
  onceCovered_iff_partitions.mpr
    ((Intervals.partitions_perm hperm).mpr (onceCovered_iff_partitions.mp h))

/-- **An amount's bracket in a table that leaves none out**: any order of it finds the same. -/
theorem OnceCovered.find?_eq (h : OnceCovered brackets) (hx : 0 ≤ x.signum) :
    ∃ b ∈ brackets, b.covers x ∧ (∀ b' ∈ brackets, b'.covers x → b' = b)
      ∧ ∀ brackets' : List TaxBracket, brackets'.Perm brackets →
        (brackets'.find? fun b => b.covers x) = some b := by
  have hone := h x hx
  have hcount : 0 < brackets.countP fun b => b.covers x := by omega
  obtain ⟨b, hb, hcovers⟩ := List.countP_pos_iff.mp hcount
  simp only [covers_eq_decide] at hone
  refine ⟨b, hb, hcovers, fun b' hb' hcovers' => ?_, fun brackets' hperm => ?_⟩
  · exact Intervals.eq_of_covers hone hb' hb (covers_iff_amounts.mp hcovers')
      (covers_iff_amounts.mp hcovers)
  · simp only [covers_eq_decide]
    exact Intervals.find?_eq_some ((hperm.countP_eq _).trans hone) (hperm.mem_iff.mpr hb)
      (covers_iff_amounts.mp hcovers)

/-- **More falls into a bracket that begins no earlier.** -/
theorem OnceCovered.floorLe (h : OnceCovered brackets) (hx : 0 ≤ x.signum) (hb : b ∈ brackets)
    (hb' : b' ∈ brackets) (hcovers : b.covers x) (hcovers' : b'.covers y)
    (hle : x.compareTo y ≤ 0) : b.floorLe b' := by
  rw [← not_lt, BigDecimal.compareTo_pos_iff, not_lt] at hle
  refine floorLe_iff.mpr (Intervals.lower_le_of_covers (onceCovered_iff_partitions.mp h) ?_ hb hb'
    (covers_iff_amounts.mp hcovers) (covers_iff_amounts.mp hcovers') hle)
  rw [show amounts.val ZERO = 0 from value_ZERO]
  exact (BigDecimal.signum_nonneg_iff x).mp hx

/-- **A table in order of its floors puts every amount into one bracket** exactly if the brackets
that are not empty lie end to end. -/
theorem onceCovered_iff_of_sorted (hsorted : brackets.Pairwise floorLe) :
    OnceCovered brackets ↔ EndToEnd (brackets.filter fun b => b.NotEmpty) := by
  have hbelow : ∀ {l : List TaxBracket}, l.Pairwise floorLe → l.Pairwise amounts.Below :=
    fun hl => hl.imp floorLe_iff.mp
  have hproper : (brackets.filter fun b => amounts.Proper b)
      = brackets.filter fun b => b.NotEmpty :=
    List.filter_congr fun b _ => by rw [decide_eq_decide, proper_iff]
  rw [onceCovered_iff_partitions, ← Intervals.partitions_filter, hproper]
  refine ⟨Intervals.chained_of_partitions (fun b hb => ?_)
    (hbelow (hsorted.sublist List.filter_sublist)) fun b _ => ?_, Intervals.Chained.partitions⟩
  · exact proper_iff.mpr (of_decide_eq_true (List.mem_filter.mp hb).2)
  · rw [show amounts.val ZERO = 0 from value_ZERO]
    exact (BigDecimal.signum_nonneg_iff _).mp b.floor_nonneg

end TaxBracket

/-! ## One bracket for every amount -/

namespace ProgressiveStateBracketResolver

open TaxBracket

variable {jurisdiction : String} {brackets : List TaxBracket} {x y : BigDecimal}
  {R : ProgressiveStateBracketResolver}

theorem brackets_perm (h : create jurisdiction brackets = .ok R) : R.brackets.Perm brackets := by
  rw [(create_eq_ok h).2.2.2]
  exact List.perm_insertionSort _ _

/-- A resolver of such a table finds the one bracket of an amount. -/
theorem resolve_of_onceCovered (h : create jurisdiction brackets = .ok R)
    (honce : OnceCovered brackets) (hx : InTable x) :
    ∃ b ∈ brackets, R.resolve x = .ok (some b) ∧ b.covers x
      ∧ ∀ b' ∈ brackets, b'.covers x → b' = b := by
  obtain ⟨b, hb, hcovers, hone, hfind⟩ := honce.find?_eq hx.1
  refine ⟨b, hb, ?_, hcovers, hone⟩
  rw [resolve_of_inTable hx, findCoveringBracket, hfind _ (brackets_perm h)]

/-- An amount that is resolved to a bracket lies in the table, and in the bracket. -/
theorem of_resolve_eq_some (h : create jurisdiction brackets = .ok R) {b : TaxBracket}
    (hb : R.resolve x = .ok (some b)) : InTable x ∧ b ∈ brackets ∧ b.covers x := by
  have hx : InTable x := by
    unfold resolve at hb
    split_ifs at hb with h₁ h₂
    exact ⟨not_lt.mp h₁, not_le.mp h₂⟩
  rw [resolve_of_inTable hx, Except.ok.injEq] at hb
  obtain ⟨hmem, hcovers, -⟩ := isLeast_of_find h hb
  exact ⟨hx, hmem, hcovers⟩

/-- **A table puts every amount into one bracket** exactly if, in order of the floors, its brackets
that are not empty lie end to end from nothing.  Every amount in the table is then resolved, to the
one bracket that covers it, and more to a bracket that begins no earlier. -/
theorem resolve_once_iff (jurisdiction : String) (brackets : List TaxBracket)
    (R : ProgressiveStateBracketResolver) (h : create jurisdiction brackets = .ok R) :
    (OnceCovered brackets ↔ EndToEnd (R.brackets.filter fun b => b.NotEmpty))
      ∧ (OnceCovered brackets → ∀ x, InTable x → ∃ b ∈ brackets, R.resolve x = .ok (some b)
        ∧ b.covers x ∧ ∀ b' ∈ brackets, b'.covers x → b' = b)
      ∧ (OnceCovered brackets → ∀ x y b b', R.resolve x = .ok (some b) →
        R.resolve y = .ok (some b') → x.compareTo y ≤ 0 → b.floorLe b') := by
  refine ⟨?_, fun honce x => resolve_of_onceCovered h honce, fun honce x y b b' hb hb' hle => ?_⟩
  · have hperm := brackets_perm h
    rw [← onceCovered_iff_of_sorted R.sorted]
    exact ⟨fun honce => honce.perm hperm, fun honce => honce.perm hperm.symm⟩
  · obtain ⟨hx, hmem, hcovers⟩ := of_resolve_eq_some h hb
    obtain ⟨-, hmem', hcovers'⟩ := of_resolve_eq_some h hb'
    exact honce.floorLe hx.1 hmem hmem' hcovers hcovers' hle

/-- The table of `application.yml`. -/
def californiaProperties : BracketResolverProperties where
  flatState := ("COLORADO", ⟨44, 3⟩)
  noIncomeTaxState := "TEXAS"
  progressiveState := ("CALIFORNIA", [⟨"ca-bracket-1", ⟨1, 2⟩, ⟨0, 0⟩, some ⟨10412, 0⟩⟩,
    ⟨"ca-bracket-2", ⟨2, 2⟩, ⟨10412, 0⟩, some ⟨24684, 0⟩⟩,
    ⟨"ca-bracket-3", ⟨4, 2⟩, ⟨24684, 0⟩, none⟩])

theorem resolve_once_california : ∃ R,
    BracketResolverConfig.progressiveStateBracketResolver californiaProperties = .ok R
      ∧ ∀ x, InTable x → ∃ b, R.resolve x = .ok (some b) ∧ b.covers x := by
  have hrun : ((BracketResolverConfig.progressiveStateBracketResolver
      californiaProperties).toOption.any fun R =>
        EndToEnd (R.brackets.filter fun b => b.NotEmpty)) = true := by decide +kernel
  cases hR : BracketResolverConfig.progressiveStateBracketResolver californiaProperties with
  | error e =>
    rw [hR] at hrun
    cases hrun
  | ok R =>
    rw [hR] at hrun
    obtain ⟨brackets, -, hcreate⟩ := bind_eq_ok.mp hR
    obtain ⟨hiff, hresolve, -⟩ := resolve_once_iff "CALIFORNIA" brackets R hcreate
    refine ⟨R, rfl, fun x hx => ?_⟩
    obtain ⟨b, -, hb, hcovers, -⟩ := hresolve (hiff.mpr (of_decide_eq_true hrun)) x hx
    exact ⟨b, hb, hcovers⟩

end ProgressiveStateBracketResolver

/-! ## The federal loop, and a registry -/

namespace BracketRegistry

open TaxBracket ProgressiveStateBracketResolver

variable {I : Iteration} {registry : BracketRegistry} {brackets : List TaxBracket}
  {jurisdiction : String}

theorem create_eq_some (h : create brackets = some registry) :
    registry.bracketsById.map Prod.snd = brackets := by
  unfold create at h
  split_ifs at h
  cases h
  simp [byId, Function.comp_def]

/-- **What is registered is found**, by its id and by no other. -/
theorem findById_eq_some_iff (h : create brackets = some registry) {id : String} {b : TaxBracket} :
    registry.findById id = some b ↔ b ∈ brackets ∧ b.id = id := by
  unfold create at h
  split_ifs at h
  cases h
  rw [findById, ← Dict.mem_iff (nodup_byId ‹_›), byId, List.mem_map]
  constructor
  · rintro ⟨b', hb', he⟩
    obtain ⟨rfl, rfl⟩ := Prod.mk.inj he
    exact ⟨hb', rfl⟩
  · rintro ⟨hb, rfl⟩
    exact ⟨b, hb, rfl⟩

/-- **The brackets of a jurisdiction from a floor on**, in some order of equals. -/
theorem findByJurisdictionAbove_perm (h : create brackets = some registry) (floor : BigDecimal) :
    (registry.findByJurisdictionAbove I jurisdiction floor).Perm (brackets.filter fun b =>
      b.jurisdiction = jurisdiction ∧ 0 ≤ b.floor.compareTo floor) :=
  (List.perm_insertionSort _ _).trans
    (((I.values_perm registry).trans (.of_eq (create_eq_some h))).filter _)

/-- No bracket begins below nothing. -/
theorem findByJurisdictionAbove_ZERO_perm (h : create brackets = some registry) :
    (registry.findByJurisdictionAbove I jurisdiction ZERO).Perm
      (brackets.filter fun b => b.jurisdiction = jurisdiction) := by
  refine (findByJurisdictionAbove_perm h ZERO).trans (.of_eq (List.filter_congr fun b _ => ?_))
  have hfloor : 0 ≤ b.floor.compareTo ZERO := by
    rw [← not_lt, BigDecimal.compareTo_neg_iff, value_ZERO, not_lt]
    exact (BigDecimal.signum_nonneg_iff _).mp b.floor_nonneg
  simp only [hfloor, and_true]

/-- **A resolver made from a registry** finds what a search of the registered brackets finds. -/
theorem exists_resolver (I : Iteration) (h : create brackets = some registry)
    (honce : OnceCovered (brackets.filter fun b => b.jurisdiction = jurisdiction)) :
    ∃ R, ProgressiveStateBracketResolver.create jurisdiction
        (registry.findByJurisdictionAbove I jurisdiction ZERO) = .ok R
      ∧ R.jurisdiction = jurisdiction
      ∧ ∀ x, InTable x → R.resolve x = .ok ((brackets.filter fun b =>
        b.jurisdiction = jurisdiction).find? fun b => b.covers x) := by
  have hperm : (registry.findByJurisdictionAbove I jurisdiction ZERO).Perm
      (brackets.filter fun b => b.jurisdiction = jurisdiction) :=
    findByJurisdictionAbove_ZERO_perm h
  have honce' := honce.perm hperm
  have hbelongs : ∀ b ∈ registry.findByJurisdictionAbove I jurisdiction ZERO,
      b.jurisdiction = jurisdiction := fun b hb =>
    of_decide_eq_true (List.mem_filter.mp (hperm.mem_iff.mp hb)).2
  -- nothing falls into some bracket, so there is one, and its jurisdiction is not blank
  obtain ⟨b, hb, -⟩ := honce'.find?_eq (x := ZERO) le_rfl
  have hblank : ¬ Java.IsBlank jurisdiction := hbelongs b hb ▸ b.jurisdiction_notBlank
  have hnil : registry.findByJurisdictionAbove I jurisdiction ZERO ≠ [] := List.ne_nil_of_mem hb
  obtain ⟨R, hR, hjurisdiction⟩ : ∃ R, ProgressiveStateBracketResolver.create jurisdiction
      (registry.findByJurisdictionAbove I jurisdiction ZERO) = .ok R
      ∧ R.jurisdiction = jurisdiction := by
    unfold ProgressiveStateBracketResolver.create
    rw [dif_neg hblank, dif_neg hnil]
    split
    · next b' hfind =>
      have hne := List.find?_some hfind
      exact absurd (hbelongs b' (List.mem_of_find?_eq_some hfind)) (by simpa using hne)
    · exact ⟨_, rfl, rfl⟩
  refine ⟨R, hR, hjurisdiction, fun x hx => ?_⟩
  obtain ⟨b, -, -, -, hfind⟩ := honce.find?_eq hx.1
  rw [resolve_of_inTable hx, findCoveringBracket, hfind _ ((brackets_perm hR).trans hperm),
    hfind _ (.refl _)]

end BracketRegistry

namespace FederalBracketResolver

open TaxBracket ProgressiveStateBracketResolver

/-- **The federal table leaves no amount out**, and counts none twice. -/
theorem onceCovered_federal : OnceCovered FEDERAL_BRACKETS := by
  have hsorted : FEDERAL_BRACKETS.Pairwise floorLe := by decide
  rw [onceCovered_iff_of_sorted hsorted]
  decide +kernel

/-- **The federal loop is the progressive resolver of a registry** that holds the federal brackets,
among those of other jurisdictions: below a billion they resolve alike, whatever order the brackets
were registered in and the map yields; from a billion on the loop resolves to the bracket without a
ceiling, where the other resolver throws. -/
theorem federal_resolve_eq (I : BracketRegistry.Iteration) (brackets : List TaxBracket)
    (registry : BracketRegistry) (h : BracketRegistry.create brackets = some registry)
    (hfederal : (brackets.filter fun b => b.jurisdiction = "FEDERAL").Perm FEDERAL_BRACKETS) :
    ∃ R, ProgressiveStateBracketResolver.create "FEDERAL"
        (registry.findByJurisdictionAbove I "FEDERAL" ZERO) = .ok R
      ∧ ∀ x : BigDecimal, (x.compareTo EXTENDED_TABLE_THRESHOLD < 0 → resolve x = R.resolve x)
        ∧ (0 ≤ x.compareTo EXTENDED_TABLE_THRESHOLD →
          resolve x = .ok FEDERAL_BRACKETS.getLast?
          ∧ R.resolve x = .error (.bracketResolutionFailed
            "failed loading extended bracket table for jurisdiction FEDERAL")) := by
  obtain ⟨R, hR, hjurisdiction, hresolve⟩ :=
    BracketRegistry.exists_resolver I h (onceCovered_federal.perm hfederal)
  refine ⟨R, hR, fun x => ⟨fun hlt => ?_, fun hge => ?_⟩⟩
  · by_cases hneg : x.signum < 0
    · rw [resolve, ProgressiveStateBracketResolver.resolve, if_pos hneg, if_pos hneg]
    · have hx : InTable x := ⟨not_lt.mp hneg, hlt⟩
      obtain ⟨b, -, -, -, hfind⟩ := onceCovered_federal.find?_eq hx.1
      rw [resolve, if_neg hneg, hresolve x hx, hfind _ (.refl _), hfind _ hfederal]
  · have hvalue : (10 : ℚ) ^ 9 ≤ x.value := by
      rw [← not_lt, BigDecimal.compareTo_neg_iff, not_lt] at hge
      refine le_trans ?_ hge
      norm_num [EXTENDED_TABLE_THRESHOLD, BigDecimal.value]
    have hneg : ¬ x.signum < 0 := by
      rw [not_lt, BigDecimal.signum_nonneg_iff]
      exact le_trans (by norm_num) hvalue
    constructor
    · -- the bracket without a ceiling covers it, and no other does
      obtain ⟨b, hb, hcovers, hone, hfind⟩ := onceCovered_federal.find?_eq (not_lt.mp hneg)
      obtain ⟨top, hmem, htop, hceiling, hfloor⟩ : ∃ top ∈ FEDERAL_BRACKETS,
          FEDERAL_BRACKETS.getLast? = some top ∧ top.ceiling = none
            ∧ top.floor = ⟨10052500, 2⟩ := by decide
      have hcovers' : top.covers x := by
        rw [covers_iff, hceiling, hfloor]
        refine ⟨le_trans ?_ hvalue, fun c hc => absurd hc (Option.not_mem_none c)⟩
        norm_num [BigDecimal.value]
      rw [resolve, if_neg hneg, hfind _ (.refl _), htop, hone top hmem hcovers']
    · rw [ProgressiveStateBracketResolver.resolve, if_neg hneg, if_pos hge, hjurisdiction]
      rfl

/-- The federal brackets, the highest first, and one of a state. -/
def docsBrackets : List TaxBracket := FEDERAL_BRACKETS.reverse ++ [upToHundred]

theorem federal_resolve_eq_docs : ∃ registry,
    BracketRegistry.create docsBrackets = some registry ∧ ∃ R,
      ProgressiveStateBracketResolver.create "FEDERAL" (registry.findByJurisdictionAbove
        ⟨fun registry => registry.bracketsById.map Prod.snd, fun _ => .refl _⟩ "FEDERAL" ZERO)
          = .ok R
      ∧ resolve ⟨5000000, 2⟩ = R.resolve ⟨5000000, 2⟩ := by
  have hfederal : (docsBrackets.filter fun b => b.jurisdiction = "FEDERAL").Perm
      FEDERAL_BRACKETS := by decide
  obtain ⟨registry, hregistry⟩ : ∃ registry, BracketRegistry.create docsBrackets = some registry :=
    ⟨_, rfl⟩
  obtain ⟨R, hR, halike⟩ := federal_resolve_eq _ docsBrackets registry hregistry hfederal
  exact ⟨registry, hregistry, R, hR, (halike ⟨5000000, 2⟩).1 (by decide)⟩

end FederalBracketResolver

/-! ## The injected strategy -/

/-- **A strategy as the service sees it**: the jurisdiction of the bracket, and the exceptions by
their class. -/
def strategy (resolve : BigDecimal → Except ResolverException (Option TaxBracket)) :
    ReadModel.BracketResolver := fun taxableAmount =>
  match resolve taxableAmount with
  | .ok bracket => .ok (bracket.map TaxBracket.jurisdiction)
  | .error (.illegalArgument message) => .error (.illegalArgument message)
  | .error (.invalidIncome message) => .error (.strategyFailed message)
  | .error (.bracketResolutionFailed message) => .error (.strategyFailed message)

/-- **The primary strategy leaves no amount without a bracket**: a call that is not negative comes
past it. -/
theorem strategy_federal (x : BigDecimal) (hx : 0 ≤ x.signum) :
    strategy FederalBracketResolver.resolve x = .ok (some "FEDERAL") := by
  have honce := FederalBracketResolver.onceCovered_federal
  obtain ⟨b, hb, -, -, hfind⟩ := honce.find?_eq hx
  have hall : ∀ b ∈ FederalBracketResolver.FEDERAL_BRACKETS, b.jurisdiction = "FEDERAL" := by
    decide
  rw [strategy, FederalBracketResolver.resolve, if_neg (not_lt.mpr hx), hfind _ (.refl _)]
  exact congrArg (Except.ok ∘ some) (hall b hb)

/-! ## A flat state -/

/-- **A flat state is a progressive one of a single bracket**, for every amount and refusal. -/
theorem FlatStateBracketResolver.resolve_eq {toLowerCase : String → String} {jurisdiction : String}
    {rate : BigDecimal} {R : FlatStateBracketResolver}
    (h : FlatStateBracketResolver.create toLowerCase jurisdiction rate = .ok R) :
    ∃ P, ProgressiveStateBracketResolver.create jurisdiction [R.bracket] = .ok P
      ∧ P.brackets = [R.bracket] ∧ R.bracket.rate = rate ∧ ∀ x, R.resolve x = P.resolve x := by
  unfold FlatStateBracketResolver.create at h
  split_ifs at h with hblank hrate
  split at h <;> cases h
  next bracket hbracket =>
  obtain ⟨-, hjurisdiction, hrate', hfloor, hceiling, -⟩ := TaxBracket.create_eq_ok_iff.mp hbracket
  obtain ⟨P, hP, hPj, hbrackets⟩ : ∃ P, ProgressiveStateBracketResolver.create jurisdiction
      [bracket] = .ok P ∧ P.jurisdiction = jurisdiction ∧ P.brackets = [bracket] := by
    unfold ProgressiveStateBracketResolver.create
    rw [dif_neg hblank, dif_neg (List.cons_ne_nil _ _)]
    split
    · next b hfind =>
      have hne := List.find?_some hfind
      have hmem := List.mem_singleton.mp (List.mem_of_find?_eq_some hfind)
      simp [hmem, hjurisdiction] at hne
    · exact ⟨_, rfl, rfl, rfl⟩
  refine ⟨P, hP, hbrackets, hrate', fun x => ?_⟩
  rw [FlatStateBracketResolver.resolve, ProgressiveStateBracketResolver.resolve, hPj]
  split_ifs with hneg hge
  · rfl
  · rfl
  · have hcovers : bracket.covers x := by
      refine TaxBracket.covers_iff.mpr ⟨?_, fun c hc => ?_⟩
      · have hzero : (ZERO.setScale 2).value = 0 := by
          rw [show ZERO.setScale 2 = ⟨0, 2⟩ by decide, BigDecimal.value, Int.cast_zero, zero_mul]
        rw [hfloor, hzero]
        exact (BigDecimal.signum_nonneg_iff x).mp (not_lt.mp hneg)
      · rw [hceiling] at hc
        exact absurd hc (Option.not_mem_none c)
    rw [ProgressiveStateBracketResolver.findCoveringBracket, hbrackets]
    simp only [List.find?_cons, hcovers]

end Service
