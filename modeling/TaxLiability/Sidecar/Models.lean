import Mathlib.Data.List.DropRight
import TaxLiability.Machinery.Java
import TaxLiability.Mcp.Arguments

/-!
# Sidecar/Models — the taxpayer the sidecar lets in

    JSON ──strip, bounds──▸ fields ──validators──▸ Liability ──┐
    JSON ──strip, bounds──▸ fields ──validators────────────────┴──▸ Taxpayer

A field may come under its alias or its own name, and nothing else may come.  What is stripped,
bounded and compared here is what a document must satisfy to come through as it is.
-/

open Validation

namespace Sidecar

/-- **What the libraries do**: how an integer in lax mode and a date are read, and how a date is
printed in a message. -/
structure Library where
  pydantic : Mcp.Pydantic
  datetime : Json → Option Java.Instant
  str : Java.Instant → String

/-- The result of a validation. -/
abbrev Validated (α : Type) := Except (Failure Mcp.Exc) α

variable {α β : Type}

/-! ## Places -/

/-- A flaw's place, below another. -/
def placed (place : String) (at_ : String) : String :=
  if at_ = "" then place else place ++ "." ++ at_

/-- A failure below a place. -/
def under (place : String) : Failure Mcp.Exc → Failure Mcp.Exc
  | .flaws errors => .flaws (errors.map fun e => (placed place e.1, e.2))
  | .raised e => .raised e

/-- A validation below a place. -/
def located (place : String) (x : Validated α) : Validated α := x.mapError (under place)

/-- The check of a value, at its own place. -/
def leaf (x : Mcp.Checked α) : Validated α := x.mapError (atField "")

/-- A flaw of the value itself. -/
def flaw (f : Flaw) : Validated α := .error (.flaws [("", f)])

/-- **A field by its alias or its name.** -/
def aliased (given : Json.Fields) (names : String × String) (check : Json → Validated α) :
    Validated α :=
  match (Dict.get? given names.1).or (Dict.get? given names.2) with
  | none => .error (.flaws [(names.1, .missing)])
  | some v => located names.1 (check v)

/-- …with a default. -/
def aliasedD (given : Json.Fields) (names : String × String) (check : Json → Validated α)
    (default : α) : Validated α :=
  match (Dict.get? given names.1).or (Dict.get? given names.2) with
  | none => .ok default
  | some v => located names.1 (check v)

/-- The key a field is read from. -/
def keyOf (given : Json.Fields) (names : String × String) : String :=
  if (Dict.get? given names.1).isSome then names.1 else names.2

/-- **`extra="forbid"`.** -/
def noExtra (names : List (String × String)) (given : Json.Fields) : Validated Unit :=
  forbidExtra (names.map (keyOf given)) given

/-- The items of a tuple, each at its index. -/
def items (check : Json → Validated α) : ℕ → List Json → Validated (List α)
  | _, [] => .ok []
  | i, v :: vs =>
    (both (located (toString i) (check v)) (items check (i + 1) vs)).map fun p => p.1 :: p.2

/-- **`tuple[…, ...]`.** -/
def tuple (check : Json → Validated α) : Json → Validated (List α)
  | .arr vs => items check 0 vs
  | _ => flaw .constraint

/-! ## Values -/

/-- What `str_strip_whitespace` strips: the characters that are Unicode white space. -/
def isWhitespace (c : Char) : Bool :=
  let n := c.toNat
  (9 ≤ n && n ≤ 13) || n = 0x20 || n = 0x85 || n = 0xa0 || n = 0x1680
    || (0x2000 ≤ n && n ≤ 0x200a) || n = 0x2028 || n = 0x2029 || n = 0x202f || n = 0x205f
    || n = 0x3000

def strip (s : String) : String :=
  String.ofList ((s.toList.dropWhile isWhitespace).rdropWhile isWhitespace)

/-- A value whose text, if it is one, is stripped. -/
def stripped : Json → Json
  | .str s => .str (strip s)
  | v => v

/-- **A text of one to so many characters.** -/
def text (max : ℕ) (v : Json) : Validated (Mcp.Str 1 max) :=
  leaf (Mcp.str 1 max (.json (stripped v)))

/-- A text of any length. -/
def anyText : Json → Validated String
  | .str s => .ok (strip s)
  | _ => flaw .constraint

/-- How many places a decimal has, and how many digits: those of its normalised form. -/
def digitsInfo (x : Decimal) : ℕ × ℕ :=
  let digits := Nat.toDigits 10 x.coefficient
  let kept := digits.rdropWhile (· = '0')
  let exponent := x.exponent + (digits.length - kept.length)
  if x.coefficient = 0 then (0, 1)
  else if 0 ≤ exponent then (0, kept.length + exponent.toNat)
  else ((-exponent).toNat, max (-exponent).toNat kept.length)

/-- **An amount**: `max_digits=14`, `decimal_places=2`, `ge=0`. -/
def IsAmount (x : Decimal) : Prop :=
  (digitsInfo x).2 ≤ 14 ∧ (digitsInfo x).1 ≤ 2 ∧ (digitsInfo x).2 - (digitsInfo x).1 ≤ 14 - 2
    ∧ 0 ≤ x.value

instance (x : Decimal) : Decidable (IsAmount x) := inferInstanceAs (Decidable (_ ∧ _))

abbrev Amount := { x : Decimal // IsAmount x }

def amount (v : Json) : Validated Amount :=
  match Mcp.decimal (.json v) with
  | none => flaw .constraint
  | some x => if h : IsAmount x then .ok ⟨x, h⟩ else flaw .constraint

def datetime (L : Library) (v : Json) : Validated Java.Instant :=
  (L.datetime v).elim (flaw .constraint) .ok

/-! ## `Liability` -/

/-- **`Liability`.** -/
structure Liability where
  tax_year : Mcp.IntIn 1913 2999
  bracket_id : Mcp.Str 1 64
  taxable_amount : Amount
  liability_amount : Amount
  computed_at : Java.Instant
  within : liability_amount.1.value ≤ taxable_amount.1.value

/-- Its fields, by alias and name. -/
def Liability.names : List (String × String) :=
  [("taxYear", "tax_year"), ("bracketId", "bracket_id"), ("taxableAmount", "taxable_amount"),
    ("liabilityAmount", "liability_amount"), ("computedAt", "computed_at")]

/-- `_liability_cannot_exceed_taxable_amount`. -/
def Liability.make (tax_year : Mcp.IntIn 1913 2999) (bracket_id : Mcp.Str 1 64)
    (taxable_amount liability_amount : Amount) (computed_at : Java.Instant) :
    Validated Liability :=
  if h : liability_amount.1.value ≤ taxable_amount.1.value then
    .ok ⟨tax_year, bracket_id, taxable_amount, liability_amount, computed_at, h⟩
  else flaw (.value_error ("liability_amount " ++ String.ofList liability_amount.1.str
    ++ " exceeds taxable_amount " ++ String.ofList taxable_amount.1.str))

/-- **The validation of a `Liability`.** -/
def Liability.validate (L : Library) : Json → Validated Liability
  | .obj given =>
    (both (aliased given ("taxYear", "tax_year") fun v =>
        leaf (Mcp.int L.pydantic 1913 2999 (.json v)))
      (both (aliased given ("bracketId", "bracket_id") (text 64))
        (both (aliased given ("taxableAmount", "taxable_amount") amount)
          (both (aliased given ("liabilityAmount", "liability_amount") amount)
            (both (aliased given ("computedAt", "computed_at") (datetime L))
              (noExtra Liability.names given)))))).bind
      fun ⟨tax_year, bracket_id, taxable_amount, liability_amount, computed_at, _⟩ =>
        Liability.make tax_year bracket_id taxable_amount liability_amount computed_at
  | _ => flaw .constraint

/-! ## `Taxpayer` -/

/-- **`FILING_STATUSES`**, sorted. -/
def FILING_STATUSES : List String :=
  ["HEAD_OF_HOUSEHOLD", "MARRIED_JOINT", "MARRIED_SEPARATE", "SINGLE"]

def TENANT_ID_PREFIX : String := "tenant-"

/-- A tenant's id. -/
abbrev TenantId := { s : Mcp.Str 1 64 // Java.StartsWith s.1 TENANT_ID_PREFIX }

/-- `tenant_id`, with `_tenant_id_shape`. -/
def tenantId (v : Json) : Validated TenantId :=
  (text 64 v).bind fun s =>
    if h : Java.StartsWith s.1 TENANT_ID_PREFIX then .ok ⟨s, h⟩
    else flaw (.value_error ("tenant_id must start with '" ++ TENANT_ID_PREFIX ++ "'"))

/-- A filing status that is known. -/
abbrev FilingStatus := { s : String // s ∈ FILING_STATUSES }

/-- `filing_status`, with `_filing_status_is_known`. -/
def filingStatus (v : Json) : Validated FilingStatus :=
  (anyText v).bind fun s =>
    if s.length < 1 then flaw .constraint
    else if h : s ∈ FILING_STATUSES then .ok ⟨s, h⟩
    else flaw (.value_error ("filing_status must be one of: " ++ ", ".intercalate FILING_STATUSES))

/-- **`Taxpayer`.** -/
structure Taxpayer where
  id : Mcp.Str 1 64
  tenant_id : TenantId
  display_name : Mcp.Str 1 255
  filing_status : FilingStatus
  home_jurisdiction : Mcp.Str 1 64
  created_at : Java.Instant
  liabilities : List Liability
  tags : List String
  ordered : ∀ l ∈ liabilities, created_at ≤ l.computed_at

/-- Its fields, by alias and name. -/
def Taxpayer.names : List (String × String) :=
  [("id", "id"), ("tenantId", "tenant_id"), ("displayName", "display_name"),
    ("filingStatus", "filing_status"), ("homeJurisdiction", "home_jurisdiction"),
    ("createdAt", "created_at"), ("liabilities", "liabilities"), ("tags", "tags")]

/-- `_liabilities_are_not_computed_before_the_taxpayer_existed`. -/
def Taxpayer.make (L : Library) (id : Mcp.Str 1 64) (tenant_id : TenantId)
    (display_name : Mcp.Str 1 255) (filing_status : FilingStatus)
    (home_jurisdiction : Mcp.Str 1 64) (created_at : Java.Instant) (liabilities : List Liability)
    (tags : List String) : Validated Taxpayer :=
  match h : liabilities.find? fun l => l.computed_at < created_at with
  | none => .ok ⟨id, tenant_id, display_name, filing_status, home_jurisdiction, created_at,
      liabilities, tags, fun l hl => not_lt.mp (by simpa using List.find?_eq_none.mp h l hl)⟩
  | some l => flaw (.value_error ("liability for tax_year " ++ toString l.tax_year.1
      ++ " was computed at " ++ L.str l.computed_at ++ ", before the taxpayer was created at "
      ++ L.str created_at))

/-- **The validation of a `Taxpayer`.** -/
def Taxpayer.validate (L : Library) : Json → Validated Taxpayer
  | .obj given =>
    (both (aliased given ("id", "id") (text 64))
      (both (aliased given ("tenantId", "tenant_id") tenantId)
        (both (aliased given ("displayName", "display_name") (text 255))
          (both (aliased given ("filingStatus", "filing_status") filingStatus)
            (both (aliased given ("homeJurisdiction", "home_jurisdiction") (text 64))
              (both (aliased given ("createdAt", "created_at") (datetime L))
                (both (aliasedD given ("liabilities", "liabilities")
                    (tuple (Liability.validate L)) [])
                  (both (aliasedD given ("tags", "tags") (tuple anyText) [])
                    (noExtra Taxpayer.names given))))))))).bind
      fun ⟨id, tenant_id, display_name, filing_status, home_jurisdiction, created_at, liabilities,
          tags, _⟩ =>
        Taxpayer.make L id tenant_id display_name filing_status home_jurisdiction created_at
          liabilities tags
  | _ => flaw .constraint

/-! ## What passes -/

theorem located_eq_ok {place : String} {x : Validated α} {a : α} :
    located place x = .ok a ↔ x = .ok a := mapError_eq_ok

theorem leaf_eq_ok {x : Mcp.Checked α} {a : α} : leaf x = .ok a ↔ x = .ok a := mapError_eq_ok

theorem aliased_eq_ok {given : Json.Fields} {names : String × String} {check : Json → Validated α}
    {v : Json} (h : Dict.get? given names.1 = some v) {a : α} :
    aliased given names check = .ok a ↔ check v = .ok a := by
  rw [aliased, h]
  exact located_eq_ok

theorem aliasedD_eq_ok {given : Json.Fields} {names : String × String}
    {check : Json → Validated α} {default : α} {v : Json} (h : Dict.get? given names.1 = some v)
    {a : α} : aliasedD given names check default = .ok a ↔ check v = .ok a := by
  rw [aliasedD, h]
  exact located_eq_ok

theorem items_eq_ok {check : Json → Validated α} {i : ℕ} {vs : List Json} {as : List α} :
    items check i vs = .ok as ↔ List.Forall₂ (fun v a => check v = .ok a) vs as := by
  induction vs generalizing i as with
  | nil =>
    rw [items, Except.ok.injEq, List.forall₂_nil_left_iff]
    exact eq_comm
  | cons v vs ih =>
    rw [items, Machine.map_eq_ok]
    constructor
    · rintro ⟨⟨a, as⟩, hboth, rfl⟩
      obtain ⟨ha, has⟩ := both_eq_ok.mp hboth
      exact .cons (located_eq_ok.mp ha) (ih.mp has)
    · intro h
      cases h with
      | cons ha has => exact ⟨(_, _), both_eq_ok.mpr ⟨located_eq_ok.mpr ha, ih.mpr has⟩, rfl⟩

theorem tuple_eq_ok {check : Json → Validated α} {vs : List Json} {as : List α} :
    tuple check (.arr vs) = .ok as ↔ List.Forall₂ (fun v a => check v = .ok a) vs as :=
  items_eq_ok

/-- **A text that comes through as it is**: no white space around it, and of a length in bounds. -/
def Bare (max : ℕ) (s : String) : Prop := strip s = s ∧ 1 ≤ s.length ∧ s.length ≤ max

instance (max : ℕ) (s : String) : Decidable (Bare max s) := inferInstanceAs (Decidable (_ ∧ _))

theorem text_str_eq_ok {max : ℕ} {s : String} {t : Mcp.Str 1 max} :
    text max (.str s) = .ok t ↔ strip s = t.1 := by
  rw [text, leaf_eq_ok, stripped, Mcp.str]
  split_ifs with h
  · rw [Except.ok.injEq, Subtype.ext_iff]
  · refine iff_of_false (by simp) fun heq => h ?_
    rw [heq]
    exact t.2

/-- **A text comes through** exactly if it is bare. -/
theorem exists_text_iff {max : ℕ} {s : String} :
    (∃ t, text max (.str s) = .ok t ∧ t.1 = s) ↔ Bare max s := by
  constructor
  · rintro ⟨t, ht, rfl⟩
    exact ⟨text_str_eq_ok.mp ht, t.2⟩
  · rintro ⟨hstrip, hbounds⟩
    exact ⟨⟨s, hbounds⟩, text_str_eq_ok.mpr hstrip, rfl⟩

theorem Liability.make_eq_ok {tax_year : Mcp.IntIn 1913 2999} {bracket_id : Mcp.Str 1 64}
    {taxable_amount liability_amount : Amount} {computed_at : Java.Instant} {l : Liability} :
    Liability.make tax_year bracket_id taxable_amount liability_amount computed_at = .ok l
      ↔ tax_year = l.tax_year ∧ bracket_id = l.bracket_id ∧ taxable_amount = l.taxable_amount
        ∧ liability_amount = l.liability_amount ∧ computed_at = l.computed_at := by
  unfold Liability.make
  constructor
  · intro h
    split_ifs at h
    · cases h
      exact ⟨rfl, rfl, rfl, rfl, rfl⟩
    · cases h
  · rintro ⟨rfl, rfl, rfl, rfl, rfl⟩
    rw [dif_pos l.within]

theorem Taxpayer.make_eq_ok {L : Library} {id : Mcp.Str 1 64} {tenant_id : TenantId}
    {display_name : Mcp.Str 1 255} {filing_status : FilingStatus}
    {home_jurisdiction : Mcp.Str 1 64} {created_at : Java.Instant} {liabilities : List Liability}
    {tags : List String} {p : Taxpayer} :
    Taxpayer.make L id tenant_id display_name filing_status home_jurisdiction created_at liabilities
        tags = .ok p
      ↔ id = p.id ∧ tenant_id = p.tenant_id ∧ display_name = p.display_name
        ∧ filing_status = p.filing_status ∧ home_jurisdiction = p.home_jurisdiction
        ∧ created_at = p.created_at ∧ liabilities = p.liabilities ∧ tags = p.tags := by
  unfold Taxpayer.make
  constructor
  · intro h
    split at h
    · cases h
      exact ⟨rfl, rfl, rfl, rfl, rfl, rfl, rfl, rfl⟩
    · cases h
  · rintro ⟨rfl, rfl, rfl, rfl, rfl, rfl, rfl, rfl⟩
    split
    · rfl
    · next l h =>
      have hlate := p.ordered l (List.mem_of_find?_eq_some h)
      have hearly := List.find?_some h
      exact absurd hlate (not_le.mpr (of_decide_eq_true hearly))

end Sidecar
