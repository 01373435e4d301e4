import TaxLiability.Service.TaxLiabilityService
import TaxLiability.Sidecar.Models

/-!
# Sidecar/Documents — what Postgres may hold, and what the sidecar lets in of it

    taxpayer, liability ──toReadModel──▸ document ──JSON──▸ Taxpayer
        ▲ computeLiability                                   same values?

The schema and the sidecar each state the one contract.  A row comes through as it is exactly if it
is `Readable` (`acceptedAs_iff`): of the four filing statuses of the schema the sidecar knows two.
What recomputations write is new to the contract, and has no liabilities left to be out of order.
-/

open Validation ReadModel Service

namespace Sidecar

/-! ## The document on the wire -/

/-- A liability, by the names of its properties. -/
def embeddedJson (iso : Java.Instant → String) (l : EmbeddedLiability) : Json :=
  .obj [("taxYear", .int l.taxYear), ("bracketId", .str l.bracketId),
    ("taxableAmount", .str l.taxableAmount.toString),
    ("liabilityAmount", .str l.liabilityAmount.toString), ("computedAt", .str (iso l.computedAt))]

/-- **A document**, by the names of its properties. -/
def documentJson (iso : Java.Instant → String) (d : TaxpayerReadModel) : Json :=
  .obj [("id", .str d.id), ("displayName", .str d.displayName),
    ("filingStatus", .str d.filingStatus), ("homeJurisdiction", .str d.homeJurisdiction),
    ("createdAt", .str (iso d.createdAt)),
    ("liabilities", .arr (d.liabilities.map (embeddedJson iso))),
    ("tags", .arr (d.tags.map .str)), ("tenantId", .str d.tenantId)]

/-- The instants a `datetime` can be, of the years 1 to 9999, in microseconds. -/
def IsDatetime (t : Java.Instant) : Prop := -62135596800000000 ≤ t ∧ t ≤ 253402300799999999

instance (t : Java.Instant) : Decidable (IsDatetime t) := inferInstanceAs (Decidable (_ ∧ _))

/-- **What is written is read**, within the years there are. -/
structure Reads (iso : Java.Instant → String) (L : Library) : Prop where
  datetime : ∀ t, L.datetime (.str (iso t)) = if IsDatetime t then some t else none

/-- The liability is that of the document. -/
structure SameLiability (p : Liability) (l : EmbeddedLiability) : Prop where
  tax_year : p.tax_year.1 = l.taxYear
  bracket_id : p.bracket_id.1 = l.bracketId
  taxable_amount : p.taxable_amount.1.value = l.taxableAmount.value
  liability_amount : p.liability_amount.1.value = l.liabilityAmount.value
  computed_at : p.computed_at = l.computedAt

/-- **The taxpayer is that of the document**, value for value. -/
structure SameTaxpayer (p : Taxpayer) (d : TaxpayerReadModel) : Prop where
  id : p.id.1 = d.id
  tenant_id : p.tenant_id.1.1 = d.tenantId
  display_name : p.display_name.1 = d.displayName
  filing_status : p.filing_status.1 = d.filingStatus
  home_jurisdiction : p.home_jurisdiction.1 = d.homeJurisdiction
  created_at : p.created_at = d.createdAt
  liabilities : List.Forall₂ SameLiability p.liabilities d.liabilities
  tags : p.tags = d.tags

/-- **The sidecar accepts a document** with the values it has. -/
def AcceptedAs (iso : Java.Instant → String) (L : Library) (d : TaxpayerReadModel) : Prop :=
  ∃ p, Taxpayer.validate L (documentJson iso d) = .ok p ∧ SameTaxpayer p d

/-! ## The rows -/

/-- `NUMERIC(12,2)`, not negative. -/
def IsNumeric (x : BigDecimal) : Prop := ∃ n : ℕ, n < 10 ^ 12 ∧ x = ⟨n, 2⟩

/-- **The checks of `taxcalc.liability`.** -/
structure LiabilityChecks (l : ReadModel.Liability) : Prop where
  taxYear : 2000 ≤ l.taxYear ∧ l.taxYear ≤ 2100
  taxableAmount : IsNumeric l.taxableAmount
  liabilityAmount : IsNumeric l.liabilityAmount

/-- **What the schema lets Postgres hold.** -/
structure Valid (s : Databases) : Prop where
  taxpayer : ∀ id row, s.taxpayer id = some row → row.Checks
  liability : ∀ id, ∀ l ∈ s.liability id, LiabilityChecks l
  primaryKey : ∀ id, ((s.liability id).map (·.taxYear)).Nodup
  references : ∀ id, s.liability id ≠ [] → (s.taxpayer id).isSome

/-- **The projection of a row** for a tenant: `toReadModel` of the entity loaded from it, which is
not built by its constructor. -/
def project (s : Databases) (id : String) (row : TaxpayerRow) (tenantId : String) :
    Except ServiceException TaxpayerReadModel :=
  TaxpayerReadModel.create id row.displayName row.filingStatus row.homeJurisdiction row.createdAt
    ((s.liability id).map toEmbeddedLiability) [] tenantId

/-- A row is projected exactly if its id is not blank and the tenant is one, to its own values. -/
theorem project_eq_ok {s : Databases} {id tenantId : String} {row : TaxpayerRow}
    {d : TaxpayerReadModel} : project s id row tenantId = .ok d
      ↔ ∃ (h₁ : ¬ Java.IsBlank id) (h₂ : Java.StartsWith tenantId ReadModel.TENANT_ID_PREFIX),
        d = ⟨id, row.displayName, row.filingStatus, row.homeJurisdiction, row.createdAt,
          (s.liability id).map toEmbeddedLiability, [], tenantId, h₁, h₂⟩ := by
  unfold project TaxpayerReadModel.create
  split_ifs with h₁ h₂
  · exact iff_of_false not_false fun h => h.1 h₁
  · rw [Except.ok.injEq, eq_comm]
    refine ⟨fun h => ⟨h₁, h₂, h⟩, ?_⟩
    rintro ⟨_, _, h⟩
    exact h
  · exact iff_of_false not_false fun h => h₂ h.2.1

/-- An entity that was built is projected in the same way. -/
theorem toReadModel_eq_project {s : Databases} {entity : ReadModel.Taxpayer}
    (h : s.liability entity.id = entity.liabilities) (tenantId : String) :
    toReadModel entity tenantId = project s entity.id (toRow entity) tenantId := by
  rw [project, h]
  rfl

/-- **A row that comes through as it is.** -/
structure Readable (id : String) (row : TaxpayerRow) (liabilities : List ReadModel.Liability)
    (tenantId : String) : Prop where
  id : Bare 64 id
  tenantId : Bare 64 tenantId
  displayName : Bare 255 row.displayName
  homeJurisdiction : Bare 64 row.homeJurisdiction
  filingStatus : row.filingStatus = "SINGLE" ∨ row.filingStatus = "HEAD_OF_HOUSEHOLD"
  createdAt : IsDatetime row.createdAt
  bracketId : ∀ l ∈ liabilities, Bare 64 l.bracketId
  computedAt : ∀ l ∈ liabilities, IsDatetime l.computedAt ∧ row.createdAt ≤ l.computedAt
  within : ∀ l ∈ liabilities, l.liabilityAmount.value ≤ l.taxableAmount.value

/-! ## What comes through -/

section Validate

variable {iso : Java.Instant → String} {L : Library}

theorem datetime_eq_ok (hL : Reads iso L) {t t' : Java.Instant} :
    datetime L (.str (iso t)) = .ok t' ↔ IsDatetime t ∧ t = t' := by
  rw [datetime, hL.datetime]
  split_ifs with h
  · rw [Option.elim_some, Except.ok.injEq, and_iff_right h]
  · exact iff_of_false nofun fun hn => h hn.1

/-- **A `NUMERIC(12,2)` is an amount.** -/
theorem isAmount_of_lt {n : ℕ} (h : n < 10 ^ 12) : IsAmount ⟨false, n, -2⟩ := by
  have hvalue : 0 ≤ (⟨false, n, -2⟩ : Decimal).value := by
    rw [Decimal.value, if_neg Bool.false_ne_true, one_mul]
    positivity
  have hlen : (Nat.toDigits 10 n).length ≤ 12 :=
    (Nat.length_toDigits_le_iff (by decide) (by decide)).mpr h
  have hkept : ((Nat.toDigits 10 n).rdropWhile (· = '0')).length ≤ (Nat.toDigits 10 n).length :=
    List.IsPrefix.length_le (List.rdropWhile_prefix _ _)
  have hinfo : (digitsInfo ⟨false, n, -2⟩).2 ≤ 12 ∧ (digitsInfo ⟨false, n, -2⟩).1 ≤ 2 := by
    simp only [digitsInfo]
    split_ifs <;> dsimp only <;> omega
  exact ⟨by omega, hinfo.2, by omega, hvalue⟩

/-- …and is read as it was written. -/
theorem exists_amount_eq_ok {x : BigDecimal} (h : IsNumeric x) :
    ∃ a : Amount, amount (.str x.toString) = .ok a ∧ a.1.value = x.value := by
  obtain ⟨n, hn, rfl⟩ := h
  have hplain : BigDecimal.toString ⟨n, 2⟩ = BigDecimal.toPlainString ⟨n, 2⟩ := by
    have hpos : 0 < (Nat.toDigits 10 n).length := List.length_pos_iff.mpr Nat.toDigits_ne_nil
    rw [BigDecimal.toString, Int.natAbs_natCast]
    exact if_pos ⟨Int.zero_le_ofNat 2, by dsimp only; omega⟩
  have hparse : Mcp.decimal (.json (.str (BigDecimal.toString ⟨n, 2⟩))) = some ⟨false, n, -2⟩ := by
    rw [hplain]
    exact @BigDecimal.parse_toPlainString n 2 (by decide)
      (hn.trans (Nat.pow_lt_pow_right (by decide) (by decide))) (by decide)
  refine ⟨⟨⟨false, n, -2⟩, isAmount_of_lt hn⟩, ?_, ?_⟩
  · rw [amount, hparse]
    exact dif_pos (isAmount_of_lt hn)
  · rw [Decimal.value, BigDecimal.value, if_neg Bool.false_ne_true, one_mul]
    rfl

/-- The fields of a liability, checked one by one. -/
theorem validate_embeddedJson_eq_ok {l : EmbeddedLiability} {p : Liability} :
    Liability.validate L (embeddedJson iso l) = .ok p
      ↔ leaf (Mcp.int L.pydantic 1913 2999 (.json (.int l.taxYear))) = .ok p.tax_year
        ∧ text 64 (.str l.bracketId) = .ok p.bracket_id
        ∧ amount (.str l.taxableAmount.toString) = .ok p.taxable_amount
        ∧ amount (.str l.liabilityAmount.toString) = .ok p.liability_amount
        ∧ datetime L (.str (iso l.computedAt)) = .ok p.computed_at := by
  rw [embeddedJson, Liability.validate, Machine.bind_eq_ok]
  constructor
  · rintro ⟨⟨tax_year, bracket_id, taxable_amount, liability_amount, computed_at, _⟩, hfields, hp⟩
    obtain ⟨rfl, rfl, rfl, rfl, rfl⟩ := Liability.make_eq_ok.mp hp
    obtain ⟨h₁, hfields⟩ := both_eq_ok.mp hfields
    obtain ⟨h₂, hfields⟩ := both_eq_ok.mp hfields
    obtain ⟨h₃, hfields⟩ := both_eq_ok.mp hfields
    obtain ⟨h₄, hfields⟩ := both_eq_ok.mp hfields
    obtain ⟨h₅, -⟩ := both_eq_ok.mp hfields
    exact ⟨(aliased_eq_ok rfl).mp h₁, (aliased_eq_ok rfl).mp h₂, (aliased_eq_ok rfl).mp h₃,
      (aliased_eq_ok rfl).mp h₄, (aliased_eq_ok rfl).mp h₅⟩
  · rintro ⟨h₁, h₂, h₃, h₄, h₅⟩
    refine ⟨(p.tax_year, p.bracket_id, p.taxable_amount, p.liability_amount, p.computed_at, ()), ?_,
      Liability.make_eq_ok.mpr ⟨rfl, rfl, rfl, rfl, rfl⟩⟩
    have hextra : noExtra Liability.names [("taxYear", .int l.taxYear),
        ("bracketId", .str l.bracketId), ("taxableAmount", .str l.taxableAmount.toString),
        ("liabilityAmount", .str l.liabilityAmount.toString),
        ("computedAt", .str (iso l.computedAt))] = .ok () := rfl
    exact both_eq_ok.mpr ⟨(aliased_eq_ok rfl).mpr h₁, both_eq_ok.mpr ⟨(aliased_eq_ok rfl).mpr h₂,
      both_eq_ok.mpr ⟨(aliased_eq_ok rfl).mpr h₃, both_eq_ok.mpr ⟨(aliased_eq_ok rfl).mpr h₄,
        both_eq_ok.mpr ⟨(aliased_eq_ok rfl).mpr h₅, hextra⟩⟩⟩⟩⟩

/-- **A liability comes through** exactly if its bracket's id is bare, its instant a `datetime` and
its amount no more than the amount it is of. -/
theorem exists_liability_iff (hL : Reads iso L) {l : ReadModel.Liability}
    (hl : LiabilityChecks l) :
    (∃ p, Liability.validate L (embeddedJson iso (toEmbeddedLiability l)) = .ok p
        ∧ SameLiability p (toEmbeddedLiability l))
      ↔ Bare 64 l.bracketId ∧ IsDatetime l.computedAt
        ∧ l.liabilityAmount.value ≤ l.taxableAmount.value := by
  constructor
  · rintro ⟨p, hp, hsame⟩
    obtain ⟨-, hbracket, -, -, hcomputed⟩ := validate_embeddedJson_eq_ok.mp hp
    refine ⟨exists_text_iff.mp ⟨_, hbracket, hsame.bracket_id⟩,
      ((datetime_eq_ok hL).mp hcomputed).1, ?_⟩
    have hwithin := p.within
    rwa [hsame.taxable_amount, hsame.liability_amount] at hwithin
  · rintro ⟨hbracket, hcomputed, hwithin⟩
    obtain ⟨b, hb, hbeq⟩ := exists_text_iff.mpr hbracket
    obtain ⟨taxable, htaxable, htvalue⟩ := exists_amount_eq_ok hl.taxableAmount
    obtain ⟨liability, hliability, hlvalue⟩ := exists_amount_eq_ok hl.liabilityAmount
    have hyear : 1913 ≤ l.taxYear ∧ l.taxYear ≤ 2999 := by
      have := hl.taxYear
      omega
    rw [← htvalue, ← hlvalue] at hwithin
    exact ⟨⟨⟨l.taxYear, hyear⟩, b, taxable, liability, l.computedAt, hwithin⟩,
      validate_embeddedJson_eq_ok.mpr ⟨leaf_eq_ok.mpr (dif_pos hyear), hb, htaxable, hliability,
        (datetime_eq_ok hL).mpr ⟨hcomputed, rfl⟩⟩,
      ⟨rfl, hbeq, htvalue, hlvalue, rfl⟩⟩

/-- The fields of a document, checked one by one. -/
theorem validate_documentJson_eq_ok {d : TaxpayerReadModel} {p : Taxpayer} :
    Taxpayer.validate L (documentJson iso d) = .ok p
      ↔ text 64 (.str d.id) = .ok p.id ∧ tenantId (.str d.tenantId) = .ok p.tenant_id
        ∧ text 255 (.str d.displayName) = .ok p.display_name
        ∧ filingStatus (.str d.filingStatus) = .ok p.filing_status
        ∧ text 64 (.str d.homeJurisdiction) = .ok p.home_jurisdiction
        ∧ datetime L (.str (iso d.createdAt)) = .ok p.created_at
        ∧ List.Forall₂ (fun v l => Liability.validate L v = .ok l)
          (d.liabilities.map (embeddedJson iso)) p.liabilities
        ∧ List.Forall₂ (fun v t => anyText v = .ok t) (d.tags.map .str) p.tags := by
  rw [documentJson, Taxpayer.validate, Machine.bind_eq_ok]
  constructor
  · rintro ⟨⟨id, tenant_id, display_name, filing_status, home_jurisdiction, created_at, liabilities,
      tags, _⟩, hfields, hp⟩
    obtain ⟨rfl, rfl, rfl, rfl, rfl, rfl, rfl, rfl⟩ := Taxpayer.make_eq_ok.mp hp
    obtain ⟨h₁, hfields⟩ := both_eq_ok.mp hfields
    obtain ⟨h₂, hfields⟩ := both_eq_ok.mp hfields
    obtain ⟨h₃, hfields⟩ := both_eq_ok.mp hfields
    obtain ⟨h₄, hfields⟩ := both_eq_ok.mp hfields
    obtain ⟨h₅, hfields⟩ := both_eq_ok.mp hfields
    obtain ⟨h₆, hfields⟩ := both_eq_ok.mp hfields
    obtain ⟨h₇, hfields⟩ := both_eq_ok.mp hfields
    obtain ⟨h₈, -⟩ := both_eq_ok.mp hfields
    exact ⟨(aliased_eq_ok rfl).mp h₁, (aliased_eq_ok rfl).mp h₂, (aliased_eq_ok rfl).mp h₃,
      (aliased_eq_ok rfl).mp h₄, (aliased_eq_ok rfl).mp h₅, (aliased_eq_ok rfl).mp h₆,
      tuple_eq_ok.mp ((aliasedD_eq_ok rfl).mp h₇), tuple_eq_ok.mp ((aliasedD_eq_ok rfl).mp h₈)⟩
  · rintro ⟨h₁, h₂, h₃, h₄, h₅, h₆, h₇, h₈⟩
    refine ⟨(p.id, p.tenant_id, p.display_name, p.filing_status, p.home_jurisdiction, p.created_at,
      p.liabilities, p.tags, ()), ?_,
      Taxpayer.make_eq_ok.mpr ⟨rfl, rfl, rfl, rfl, rfl, rfl, rfl, rfl⟩⟩
    have hextra : noExtra Taxpayer.names [("id", .str d.id), ("displayName", .str d.displayName),
        ("filingStatus", .str d.filingStatus), ("homeJurisdiction", .str d.homeJurisdiction),
        ("createdAt", .str (iso d.createdAt)),
        ("liabilities", .arr (d.liabilities.map (embeddedJson iso))),
        ("tags", .arr (d.tags.map .str)), ("tenantId", .str d.tenantId)] = .ok () := rfl
    exact both_eq_ok.mpr ⟨(aliased_eq_ok rfl).mpr h₁, both_eq_ok.mpr ⟨(aliased_eq_ok rfl).mpr h₂,
      both_eq_ok.mpr ⟨(aliased_eq_ok rfl).mpr h₃, both_eq_ok.mpr ⟨(aliased_eq_ok rfl).mpr h₄,
        both_eq_ok.mpr ⟨(aliased_eq_ok rfl).mpr h₅, both_eq_ok.mpr ⟨(aliased_eq_ok rfl).mpr h₆,
          both_eq_ok.mpr ⟨(aliasedD_eq_ok rfl).mpr (tuple_eq_ok.mpr h₇),
            both_eq_ok.mpr ⟨(aliasedD_eq_ok rfl).mpr (tuple_eq_ok.mpr h₈), hextra⟩⟩⟩⟩⟩⟩⟩⟩

/-- **A list of liabilities comes through** exactly if each does, and none is from before `t`. -/
theorem exists_liabilities_iff (hL : Reads iso L) (t : Java.Instant)
    {ls : List ReadModel.Liability} (hls : ∀ l ∈ ls, LiabilityChecks l) :
    (∃ ps, List.Forall₂ (fun l p =>
          Liability.validate L (embeddedJson iso (toEmbeddedLiability l)) = .ok p) ls ps
        ∧ List.Forall₂ (fun p l => SameLiability p (toEmbeddedLiability l)) ps ls
        ∧ ∀ p ∈ ps, t ≤ p.computed_at)
      ↔ ∀ l ∈ ls, (Bare 64 l.bracketId ∧ IsDatetime l.computedAt
        ∧ l.liabilityAmount.value ≤ l.taxableAmount.value) ∧ t ≤ l.computedAt := by
  induction ls with
  | nil => exact iff_of_true ⟨[], .nil, .nil, List.forall_mem_nil _⟩ (List.forall_mem_nil _)
  | cons l ls ih =>
    obtain ⟨hl, hls⟩ := List.forall_mem_cons.mp hls
    rw [List.forall_mem_cons, ← ih hls, ← exists_liability_iff hL hl]
    constructor
    · rintro ⟨_, hvalid, hsame, hordered⟩
      cases hvalid with
      | cons hp hps =>
        cases hsame with
        | cons hpl hpls =>
          obtain ⟨ht, hts⟩ := List.forall_mem_cons.mp hordered
          exact ⟨⟨⟨_, hp, hpl⟩, ht.trans_eq hpl.computed_at⟩, _, hps, hpls, hts⟩
    · rintro ⟨⟨⟨p, hp, hpl⟩, ht⟩, ps, hps, hpls, hts⟩
      exact ⟨p :: ps, .cons hp hps, .cons hpl hpls,
        List.forall_mem_cons.mpr ⟨ht.trans_eq hpl.computed_at.symm, hts⟩⟩

/-- A tenant's id comes through exactly if it is bare. -/
theorem exists_tenantId_iff {s : String} (h : Java.StartsWith s TENANT_ID_PREFIX) :
    (∃ t, tenantId (.str s) = .ok t ∧ t.1.1 = s) ↔ Bare 64 s := by
  rw [← exists_text_iff]
  constructor
  · rintro ⟨t, ht, rfl⟩
    obtain ⟨u, hu, htu⟩ := Machine.bind_eq_ok.mp ht
    split_ifs at htu
    · cases htu
      exact ⟨u, hu, rfl⟩
    · cases htu
  · rintro ⟨t, ht, rfl⟩
    exact ⟨⟨t, h⟩, Machine.bind_eq_ok.mpr ⟨t, ht, dif_pos h⟩, rfl⟩

/-- **Of the filing statuses of the schema** two come through. -/
theorem exists_filingStatus_iff {s : String} (h : s ∈ Service.FILING_STATUSES) :
    (∃ t, filingStatus (.str s) = .ok t ∧ t.1 = s) ↔ s = "SINGLE" ∨ s = "HEAD_OF_HOUSEHOLD" := by
  constructor
  · rintro ⟨t, -, rfl⟩
    have hboth : ∀ s ∈ Service.FILING_STATUSES, s ∈ FILING_STATUSES →
        s = "SINGLE" ∨ s = "HEAD_OF_HOUSEHOLD" := by decide
    exact hboth t.1 h t.2
  · rintro (rfl | rfl)
    · exact ⟨⟨"SINGLE", by decide⟩, rfl, rfl⟩
    · exact ⟨⟨"HEAD_OF_HOUSEHOLD", by decide⟩, rfl, rfl⟩

/-- A document that comes through is of a readable row… -/
theorem AcceptedAs.readable (hL : Reads iso L) {s : Databases} (hs : Valid s) {id tenant : String}
    {row : TaxpayerRow} (hrow : s.taxpayer id = some row) {d : TaxpayerReadModel}
    (hd : project s id row tenant = .ok d) (h : AcceptedAs iso L d) :
    Readable id row (s.liability id) tenant := by
  obtain ⟨hblank, hprefixed, rfl⟩ := project_eq_ok.mp hd
  obtain ⟨p, hp, hsame⟩ := h
  obtain ⟨hid, htenant, hname, hstatus, hjurisdiction, hcreated, hps, -⟩ :=
    validate_documentJson_eq_ok.mp hp
  have hpairs := hsame.liabilities
  rw [List.map_map, List.forall₂_map_left_iff] at hps
  rw [List.forall₂_map_right_iff] at hpairs
  have hread := (exists_liabilities_iff hL row.createdAt (hs.liability id)).mp
    ⟨p.liabilities, hps, hpairs, fun l hl =>
      hsame.created_at.ge.trans (p.ordered l hl)⟩
  exact {
    id := exists_text_iff.mp ⟨_, hid, hsame.id⟩
    tenantId := (exists_tenantId_iff hprefixed).mp ⟨_, htenant, hsame.tenant_id⟩
    displayName := exists_text_iff.mp ⟨_, hname, hsame.display_name⟩
    homeJurisdiction := exists_text_iff.mp ⟨_, hjurisdiction, hsame.home_jurisdiction⟩
    filingStatus :=
      (exists_filingStatus_iff (hs.taxpayer id row hrow).2.1).mp ⟨_, hstatus, hsame.filing_status⟩
    createdAt := ((datetime_eq_ok hL).mp hcreated).1
    bracketId := fun l hl => (hread l hl).1.1
    computedAt := fun l hl => ⟨(hread l hl).1.2.1, (hread l hl).2⟩
    within := fun l hl => (hread l hl).1.2.2 }

/-- …and the document of a readable row comes through. -/
theorem Readable.acceptedAs (hL : Reads iso L) {s : Databases} (hs : Valid s) {id tenant : String}
    {row : TaxpayerRow} (hrow : s.taxpayer id = some row) {d : TaxpayerReadModel}
    (hd : project s id row tenant = .ok d) (h : Readable id row (s.liability id) tenant) :
    AcceptedAs iso L d := by
  obtain ⟨hblank, hprefixed, rfl⟩ := project_eq_ok.mp hd
  obtain ⟨i, hi, hieq⟩ := exists_text_iff.mpr h.id
  obtain ⟨t, ht, hteq⟩ := (exists_tenantId_iff hprefixed).mpr h.tenantId
  obtain ⟨n, hn, hneq⟩ := exists_text_iff.mpr h.displayName
  obtain ⟨f, hf, hfeq⟩ :=
    (exists_filingStatus_iff (hs.taxpayer id row hrow).2.1).mpr h.filingStatus
  obtain ⟨j, hj, hjeq⟩ := exists_text_iff.mpr h.homeJurisdiction
  obtain ⟨ps, hps, hpairs, hordered⟩ :=
    (exists_liabilities_iff hL row.createdAt (hs.liability id)).mpr fun l hl =>
      ⟨⟨h.bracketId l hl, (h.computedAt l hl).1, h.within l hl⟩, (h.computedAt l hl).2⟩
  have hcreated : datetime L (.str (iso row.createdAt)) = .ok row.createdAt :=
    (datetime_eq_ok hL).mpr ⟨h.createdAt, rfl⟩
  have hvalid : List.Forall₂ (fun v l => Liability.validate L v = .ok l)
      (((s.liability id).map toEmbeddedLiability).map (embeddedJson iso)) ps := by
    rwa [List.map_map, List.forall₂_map_left_iff]
  exact ⟨⟨i, t, n, f, j, row.createdAt, ps, [], hordered⟩,
    validate_documentJson_eq_ok.mpr ⟨hi, ht, hn, hf, hj, hcreated, hvalid, .nil⟩,
    ⟨hieq, hteq, hneq, hfeq, hjeq, rfl, List.forall₂_map_right_iff.mpr hpairs, rfl⟩⟩

/-- **A document comes through** exactly if its row is readable. -/
theorem acceptedAs_iff (hL : Reads iso L) {s : Databases} (hs : Valid s) {id tenant : String}
    {row : TaxpayerRow} (hrow : s.taxpayer id = some row) {d : TaxpayerReadModel}
    (hd : project s id row tenant = .ok d) :
    AcceptedAs iso L d ↔ Readable id row (s.liability id) tenant :=
  ⟨AcceptedAs.readable hL hs hrow hd, Readable.acceptedAs hL hs hrow hd⟩

end Validate

/-! ## Recomputations -/

/-- A call of `computeLiability`, with all it depends on. -/
structure Recomputation where
  bracketResolver : BracketResolver
  call : ComputeLiability
  createdAt : Java.Instant
  rowId : String
  occurredAt : Java.Instant
  breaks : Breaks

/-- **One recomputation**, through to its end or broken off. -/
def recompute (s : Databases) (r : Recomputation) : Databases :=
  (computeLiability r.bracketResolver s r.call r.createdAt r.rowId r.occurredAt r.breaks).1

/-- A sequence of them. -/
def recomputed (s : Databases) (rs : List Recomputation) : Databases := rs.foldl recompute s

namespace Recomputation

/-- **The recomputations that commit**, for the bracket's jurisdiction. -/
def Commits (r : Recomputation) (jurisdiction : String) : Prop :=
  Accepts r.bracketResolver r.call jurisdiction ∧ r.call.filingStatus ∈ Service.FILING_STATUSES
    ∧ r.breaks = .nowhere

/-- The row one writes. -/
def row (r : Recomputation) (jurisdiction : String) : TaxpayerRow :=
  ⟨r.call.displayName, r.call.filingStatus, jurisdiction, r.createdAt⟩

end Recomputation

/-- **What a recomputation can do** to a taxpayer: write its row and take its liabilities away, if
it is of that taxpayer and commits, or else nothing. -/
theorem recompute_cases (s : Databases) (r : Recomputation) (id : String) :
    (r.call.id = id ∧ ∃ jurisdiction, r.Commits jurisdiction
        ∧ (recompute s r).taxpayer id = some (r.row jurisdiction)
        ∧ (recompute s r).liability id = [])
      ∨ (r.call.id = id → ∀ jurisdiction, ¬ r.Commits jurisdiction)
        ∧ (recompute s r).taxpayer id = s.taxpayer id
        ∧ (recompute s r).liability id = s.liability id := by
  unfold recompute Service.computeLiability
  split
  · next w hok =>
    obtain ⟨jurisdiction, haccepts, hw⟩ := writeOf_of_eq_ok hok
    obtain ⟨hfails, hleft⟩ := hw.save_fails s r.breaks
    by_cases hcommits : r.breaks = .nowhere ∧ r.call.filingStatus ∈ Service.FILING_STATUSES
    · rw [hcommits.1, hw.save_nowhere, if_pos hcommits.2, Databases.committed, hw.entity_id,
        hw.entity_row]
      by_cases hid : r.call.id = id
      · subst hid
        exact .inl ⟨rfl, jurisdiction, ⟨haccepts, hcommits.2, hcommits.1⟩,
          Function.update_self _ _ _, Function.update_self _ _ _⟩
      · exact .inr ⟨fun h => absurd h hid, Function.update_of_ne (Ne.symm hid) _ _,
          Function.update_of_ne (Ne.symm hid) _ _⟩
    · refine .inr ⟨fun _ _ h => hcommits ⟨h.2.2, h.2.1⟩, ?_⟩
      rw [hleft (hfails.mpr hcommits)]
      split <;> exact ⟨rfl, rfl⟩
  · next hrefused =>
    refine .inr ⟨fun _ jurisdiction h => ?_, rfl, rfl⟩
    obtain ⟨w, hw, -⟩ := writeOf_of_accepts h.1
    cases hrefused.symm.trans hw

/-- The row of a recomputation that commits passes the checks. -/
theorem Recomputation.Commits.checks {r : Recomputation} {jurisdiction : String}
    (h : r.Commits jurisdiction) : (r.row jurisdiction).Checks := by
  obtain ⟨⟨-, -, hname, -, hjurisdiction, -⟩, hstatus, -⟩ := h
  exact ⟨length_pos hname, hstatus, length_pos hjurisdiction⟩

/-- **A recomputation keeps to the schema.** -/
theorem Valid.recompute {s : Databases} (hs : Valid s) (r : Recomputation) :
    Valid (recompute s r) := by
  refine ⟨fun id row hrow => ?_, fun id => ?_, fun id => ?_, fun id hne => ?_⟩ <;>
    obtain ⟨-, jurisdiction, hcommits, htaxpayer, hliability⟩ | ⟨-, htaxpayer, hliability⟩ :=
      recompute_cases s r id
  · cases htaxpayer.symm.trans hrow
    exact hcommits.checks
  · exact hs.taxpayer id row (htaxpayer.symm.trans hrow)
  · rw [hliability]
    exact List.forall_mem_nil _
  · rw [hliability]
    exact hs.liability id
  · rw [hliability]
    exact List.nodup_nil
  · rw [hliability]
    exact hs.primaryKey id
  · exact absurd hliability hne
  · rw [htaxpayer]
    exact hs.references id (hliability ▸ hne)

/-- …and so do all of them. -/
theorem Valid.recomputed {s : Databases} (hs : Valid s) (rs : List Recomputation) :
    Valid (recomputed s rs) := by
  induction rs generalizing s with
  | nil => exact hs
  | cons r rs ih => exact ih (hs.recompute r)

/-! ## Runs -/

/-- **Every document projected is let in** as it is: after each of the recomputations. -/
def Served (iso : Java.Instant → String) (L : Library) (s : Databases) (rs : List Recomputation)
    (id tenant : String) : Prop :=
  ∀ pre, pre <+: rs → ∀ row, (recomputed s pre).taxpayer id = some row → ∀ d,
    project (recomputed s pre) id row tenant = .ok d → AcceptedAs iso L d

/-- Whether there are documents of an id and a tenant. -/
def Projects (id tenant : String) : Prop :=
  ¬ Java.IsBlank id ∧ Java.StartsWith tenant TENANT_ID_PREFIX

theorem projects_iff (s : Databases) (id tenant : String) (row : TaxpayerRow) :
    (∃ d, project s id row tenant = .ok d) ↔ Projects id tenant := by
  constructor
  · rintro ⟨d, hd⟩
    obtain ⟨hblank, hprefixed, -⟩ := project_eq_ok.mp hd
    exact ⟨hblank, hprefixed⟩
  · rintro ⟨hblank, hprefixed⟩
    exact ⟨_, project_eq_ok.mpr ⟨hblank, hprefixed, rfl⟩⟩

/-- The row of an id, if there is one, is readable with its liabilities. -/
def ReadableAt (s : Databases) (id tenant : String) : Prop :=
  ∀ row, s.taxpayer id = some row → Readable id row (s.liability id) tenant

/-- **The runs that stay readable**: the row stored before them is, and so is every row they
write. -/
structure ReadableRun (s : Databases) (rs : List Recomputation) (id tenant : String) : Prop where
  stored : ReadableAt s id tenant
  written : ∀ r ∈ rs, r.call.id = id → ∀ jurisdiction, r.Commits jurisdiction →
    Readable id (r.row jurisdiction) [] tenant

/-- A recomputation keeps a run readable… -/
theorem ReadableRun.recompute {s : Databases} {r : Recomputation} {rs : List Recomputation}
    {id tenant : String} (h : ReadableRun s (r :: rs) id tenant) :
    ReadableRun (recompute s r) rs id tenant := by
  refine ⟨fun row hrow => ?_, fun r' hr' => h.written r' (List.mem_cons_of_mem _ hr')⟩
  obtain ⟨hid, jurisdiction, hcommits, htaxpayer, hliability⟩ | ⟨-, htaxpayer, hliability⟩ :=
    recompute_cases s r id
  · cases htaxpayer.symm.trans hrow
    rw [hliability]
    exact h.written r List.mem_cons_self hid jurisdiction hcommits
  · rw [hliability]
    exact h.stored row (htaxpayer.symm.trans hrow)

/-- …and so its end is. -/
theorem ReadableRun.readableAt {s : Databases} {rs : List Recomputation} {id tenant : String}
    (h : ReadableRun s rs id tenant) : ReadableAt (recomputed s rs) id tenant := by
  induction rs generalizing s with
  | nil => exact h.stored
  | cons r rs ih => exact ih h.recompute

/-- **Every run is let in** exactly if it stays readable, or there is no document at all. -/
theorem served_iff {iso : Java.Instant → String} {L : Library} (hL : Reads iso L) {s : Databases}
    (hs : Valid s) (rs : List Recomputation) (id tenant : String) :
    Served iso L s rs id tenant ↔ (Projects id tenant → ReadableRun s rs id tenant) := by
  constructor
  · intro hserved hprojects
    have hreadable : ∀ pre, pre <+: rs → ReadableAt (recomputed s pre) id tenant := by
      intro pre hpre row hrow
      obtain ⟨d, hd⟩ := (projects_iff _ _ _ row).mpr hprojects
      exact (acceptedAs_iff hL (hs.recomputed pre) hrow hd).mp (hserved pre hpre row hrow d hd)
    refine ⟨hreadable [] List.nil_prefix, fun r hr hid jurisdiction hcommits => ?_⟩
    obtain ⟨pre, post, rfl⟩ := List.append_of_mem hr
    have hafter := hreadable (pre ++ [r]) ⟨post, by simp⟩
    rw [recomputed, List.foldl_append] at hafter
    obtain ⟨-, jurisdiction', hcommits', htaxpayer, hliability⟩ | ⟨hnot, -⟩ :=
      recompute_cases (recomputed s pre) r id
    · obtain rfl : jurisdiction' = jurisdiction := by
        simpa using hcommits'.1.1.symm.trans hcommits.1.1
      exact hliability ▸ hafter _ htaxpayer
    · exact absurd hcommits (hnot hid jurisdiction)
  · intro hrun pre hpre row hrow d hd
    obtain ⟨hstored, hwritten⟩ := hrun ((projects_iff _ _ _ row).mp ⟨d, hd⟩)
    have hpart : ReadableRun s pre id tenant :=
      ⟨hstored, fun r hr => hwritten r (hpre.subset hr)⟩
    exact (acceptedAs_iff hL (hs.recomputed pre) hrow hd).mpr (hpart.readableAt row hrow)

/-- A writer of one instant's text, and of some text for the others. -/
def docsIso (t : Java.Instant) : String :=
  if t = 1 then "1970-01-01T00:00:00.000001Z" else String.ofList ('E' :: Decimal.signed t)

/-- Its reader. -/
def docsDatetime : Json → Option Java.Instant
  | .str s =>
    if s = "1970-01-01T00:00:00.000001Z" then some 1
    else (Decimal.readExponent s.toList).filter fun t => IsDatetime t
  | _ => none

def docsLibrary : Library := ⟨⟨fun _ => none, fun _ => none, fun _ => none⟩, docsDatetime, docsIso⟩

theorem docs_reads : Reads docsIso docsLibrary where
  datetime t := by
    change docsDatetime (.str (docsIso t)) = _
    unfold docsIso docsDatetime
    by_cases h : t = 1
    · subst h
      rfl
    · have hne : String.ofList ('E' :: Decimal.signed t) ≠ "1970-01-01T00:00:00.000001Z" := by
        intro heq
        have := congrArg (fun s => s.toList.head?) heq
        rw [String.toList_ofList, List.head?_cons] at this
        exact absurd this (by decide)
      simp only [if_neg h, if_neg hne, String.toList_ofList, Decimal.readExponent_signed,
        Option.filter_some, decide_eq_true_eq]

/-- A filing status in the place of a stored one. -/
def docsFiling (filingStatus : String) : Databases :=
  { docsStored with
    taxpayer := Function.update (fun _ => none) "tp-1" (some ⟨"Ada", filingStatus, "federal", 1⟩) }

/-- Its rows. -/
theorem docsFiling_rows (filingStatus id : String) :
    (id = "tp-1" ∧ (docsFiling filingStatus).taxpayer id
          = some ⟨"Ada", filingStatus, "federal", 1⟩
        ∧ (docsFiling filingStatus).liability id
          = [⟨2026, "fed-2026-10pct", ⟨950000, 2⟩, ⟨95000, 2⟩, 1⟩])
      ∨ (docsFiling filingStatus).taxpayer id = none
        ∧ (docsFiling filingStatus).liability id = [] := by
  by_cases hid : id = "tp-1"
  · subst hid
    exact .inl ⟨rfl, rfl, rfl⟩
  · refine .inr ?_
    simp only [docsFiling, docsStored, Function.update_of_ne hid, and_self]

theorem docs_valid {filingStatus : String} (h : filingStatus ∈ Service.FILING_STATUSES) :
    Valid (docsFiling filingStatus) := by
  refine ⟨fun id row hrow => ?_, fun id => ?_, fun id => ?_, fun id hne => ?_⟩ <;>
    obtain ⟨-, htaxpayer, hliability⟩ | ⟨htaxpayer, hliability⟩ := docsFiling_rows filingStatus id
  · cases htaxpayer.symm.trans hrow
    exact ⟨show 0 < "Ada".length by decide, h, show 0 < "federal".length by decide⟩
  · cases htaxpayer.symm.trans hrow
  · rw [hliability, List.forall_mem_singleton]
    exact ⟨by decide, ⟨950000, by decide, rfl⟩, ⟨95000, by decide, rfl⟩⟩
  · rw [hliability]
    exact List.forall_mem_nil _
  · rw [hliability]
    exact List.nodup_singleton _
  · rw [hliability]
    exact List.nodup_nil
  · rw [htaxpayer]
    rfl
  · exact absurd hliability hne

theorem docs_served : Served docsIso docsLibrary (docsFiling "SINGLE")
    [⟨federal, docsCall, 1, "e-1", 2, .nowhere⟩] "tp-1" "tenant-shared" := by
  refine (served_iff docs_reads (docs_valid (by decide)) _ _ _).mpr fun _ => ⟨?_, ?_⟩
  · intro row hrow
    obtain ⟨-, htaxpayer, hliability⟩ | ⟨htaxpayer, -⟩ := docsFiling_rows "SINGLE" "tp-1"
    · cases htaxpayer.symm.trans hrow
      rw [hliability]
      refine ⟨by decide, by decide, by decide, by decide, .inl rfl, by decide, ?_, ?_, ?_⟩ <;>
        rw [List.forall_mem_singleton]
      · decide
      · decide
      · norm_num [BigDecimal.value]
    · cases htaxpayer.symm.trans hrow
  · intro r hr _ jurisdiction hcommits
    obtain rfl := List.mem_singleton.mp hr
    obtain rfl : "federal" = jurisdiction := by simpa [federal] using hcommits.1.1
    exact ⟨by decide, by decide, by decide, by decide, .inl rfl, by decide, List.forall_mem_nil _,
      List.forall_mem_nil _, List.forall_mem_nil _⟩

/-- **A joint return is not let in**: the schema calls it `MARRIED_FILING_JOINTLY`. -/
theorem joint_not_served :
    ¬ ∀ (iso : Java.Instant → String) (L : Library), Reads iso L → ∀ s, Valid s →
      ∀ (rs : List Recomputation) (id tenant : String), Served iso L s rs id tenant := by
  intro hall
  obtain ⟨d, hd⟩ := (projects_iff (docsFiling "MARRIED_FILING_JOINTLY") "tp-1" "tenant-shared"
    ⟨"Ada", "MARRIED_FILING_JOINTLY", "federal", 1⟩).mpr ⟨by decide, by decide⟩
  obtain ⟨p, -, hsame⟩ := hall docsIso docsLibrary docs_reads _ (docs_valid (by decide)) [] "tp-1"
    "tenant-shared" [] List.nil_prefix _ rfl d hd
  obtain ⟨hblank, hprefixed, rfl⟩ := project_eq_ok.mp hd
  have hstatus : p.filing_status.1 = "MARRIED_FILING_JOINTLY" := hsame.filing_status
  exact absurd (hstatus ▸ p.filing_status.2) (by decide)

end Sidecar
