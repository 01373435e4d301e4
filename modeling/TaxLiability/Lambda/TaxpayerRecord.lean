import TaxLiability.Machinery.Decimal
import TaxLiability.Machinery.Dict
import TaxLiability.Machinery.Java
import TaxLiability.Machinery.Machine

/-!
# Lambda/TaxpayerRecord — an item of DynamoDB, and the record made of it

    item ──liabilities──▸ lines ──▸ total
      └────strings, instant──▸ record, or an IllegalArgumentException

Every attribute that is missing, of another type or no number is refused, at the line it is in or at
the record.  One is not: a `liabilities` that is no list is passed over as if it were not there, and
the record has no lines and owes nothing (`fromItem_iff`).
-/

open Machine

namespace Lambda

/-! ## Items -/

/-- **An attribute of an item.** -/
inductive AttributeValue
  | s (text : String)
  | n (text : String)
  | b (bytes : List UInt8)
  | ss (texts : List String)
  | ns (texts : List String)
  | bs (bytes : List (List UInt8))
  | m (fields : List (String × AttributeValue))
  | l (elements : List AttributeValue)
  | bool (value : Bool)
  | nul (value : Bool)

/-- An item, by the names of its attributes. -/
abbrev Item : Type := Dict String AttributeValue

/-- What is thrown while an item is read. -/
inductive Thrown
  | illegalArgument (message : String)
  | arithmetic
  | numberFormat
  | dateTimeParse
  deriving DecidableEq, Repr

variable {α β : Type}

/-- `catch (caught e) { throw new IllegalArgumentException(message, e); }` -/
def catching (caught : Thrown) (message : String) : Except Thrown α → Except Thrown α
  | .error e => if e = caught then .error (.illegalArgument message) else .error e
  | .ok a => .ok a

/-- `intValueExact` -/
def intValueExact (x : BigDecimal) : Except Thrown ℤ :=
  match x.longValueExact with
  | some num => if -2 ^ 31 ≤ num ∧ num < 2 ^ 31 then .ok num else .error .arithmetic
  | none => .error .arithmetic

/-- `new BigDecimal(String)` -/
def bigDecimal (text : String) : Except Thrown BigDecimal :=
  match BigDecimal.ofString text.toList with
  | some x => .ok x
  | none => .error .numberFormat

/-! ## Attributes -/

/-- **`requiredString`.** -/
def requiredString (item : Item) (key : String) : Except Thrown String :=
  match item.get? key with
  | some (.s text) => .ok text
  | _ => .error (.illegalArgument ("item is missing required string attribute: " ++ key))

/-- **`requiredNumber`.** -/
def requiredNumber (item : Item) (key : String) : Except Thrown BigDecimal :=
  match item.get? key with
  | some (.n text) =>
    catching .numberFormat ("attribute " ++ key ++ " is not a number: " ++ text) (bigDecimal text)
  | _ => .error (.illegalArgument ("item is missing required numeric attribute: " ++ key))

/-- **`requiredWholeNumber`.** -/
def requiredWholeNumber (item : Item) (key : String) : Except Thrown ℤ :=
  (requiredNumber item key).bind fun value =>
    catching .arithmetic ("attribute " ++ key ++ " is not a whole number: " ++ value.toString)
      (intValueExact value)

/-- `Instant.parse`, of a text it may not take. -/
def instantOf (parse : String → Option Java.Instant) (text : String) : Except Thrown Java.Instant :=
  match parse text with
  | some t => .ok t
  | none => .error .dateTimeParse

/-- **`requiredInstant`.** -/
def requiredInstant (parse : String → Option Java.Instant) (item : Item) (key : String) :
    Except Thrown Java.Instant :=
  (requiredString item key).bind fun raw =>
    catching .dateTimeParse ("attribute " ++ key ++ " is not an ISO-8601 instant: " ++ raw)
      (instantOf parse raw)

/-! ## Lines -/

/-- **A line**, its amounts in cents. -/
structure LiabilityLine where
  taxYear : ℤ
  bracketId : String
  taxableAmount : BigDecimal
  liabilityAmount : BigDecimal
  computedAt : Java.Instant
  bracketId_notBlank : ¬ Java.IsBlank bracketId
  taxableAmount_nonneg : 0 ≤ taxableAmount.signum
  liabilityAmount_nonneg : 0 ≤ liabilityAmount.signum
  taxableAmount_scale : taxableAmount.scale = 2
  liabilityAmount_scale : liabilityAmount.scale = 2
  deriving DecidableEq

/-- **The constructor of `LiabilityLine`.** -/
def LiabilityLine.create (taxYear : ℤ) (bracketId : String)
    (taxableAmount liabilityAmount : BigDecimal) (computedAt : Java.Instant) :
    Except Thrown LiabilityLine :=
  if h₁ : Java.IsBlank bracketId then .error (.illegalArgument "bracketId must not be blank")
  else if h₂ : taxableAmount.signum < 0 then
    .error (.illegalArgument ("taxableAmount must not be negative: " ++ taxableAmount.toString))
  else if h₃ : liabilityAmount.signum < 0 then
    .error (.illegalArgument ("liabilityAmount must not be negative: " ++ liabilityAmount.toString))
  else .ok ⟨taxYear, bracketId, taxableAmount.setScale 2, liabilityAmount.setScale 2, computedAt,
    h₁, BigDecimal.signum_cents_nonneg h₂, BigDecimal.signum_cents_nonneg h₃,
    BigDecimal.scale_cents _, BigDecimal.scale_cents _⟩

variable (parse : String → Option Java.Instant)

/-- **`LiabilityLine.fromItem`.** -/
def LiabilityLine.fromItem (item : Item) : Except Thrown LiabilityLine :=
  (requiredWholeNumber item "taxYear").bind fun taxYear =>
  (requiredString item "bracketId").bind fun bracketId =>
  (requiredNumber item "taxableAmount").bind fun taxableAmount =>
  (requiredNumber item "liabilityAmount").bind fun liabilityAmount =>
  (requiredInstant parse item "computedAt").bind fun computedAt =>
  LiabilityLine.create taxYear bracketId taxableAmount liabilityAmount computedAt

/-- The lines of the elements of a list. -/
def linesOf : List AttributeValue → Except Thrown (List LiabilityLine)
  | [] => .ok []
  | .m item :: elements =>
    (LiabilityLine.fromItem parse item).bind fun line => (linesOf elements).map (line :: ·)
  | _ :: _ => .error (.illegalArgument "liabilities elements must be maps")

/-! ## Records -/

/-- The sum of the lines' amounts, as the loop runs up to it. -/
def running (lines : List LiabilityLine) : BigDecimal :=
  lines.foldl (fun running line => running.add line.liabilityAmount) ⟨0, 0⟩

/-- **A taxpayer's record.** -/
structure TaxpayerRecord where
  id : String
  displayName : String
  filingStatus : String
  homeJurisdiction : String
  createdAt : Java.Instant
  liabilities : List LiabilityLine
  totalLiability : BigDecimal
  id_notBlank : ¬ Java.IsBlank id
  displayName_notBlank : ¬ Java.IsBlank displayName
  filingStatus_notBlank : ¬ Java.IsBlank filingStatus
  homeJurisdiction_notBlank : ¬ Java.IsBlank homeJurisdiction
  total : totalLiability = (running liabilities).setScale 2
  deriving DecidableEq

/-- **The constructor of `TaxpayerRecord`.** -/
def TaxpayerRecord.create (id displayName filingStatus homeJurisdiction : String)
    (createdAt : Java.Instant) (liabilities : List LiabilityLine) :
    Except Thrown TaxpayerRecord :=
  if h₁ : Java.IsBlank id then .error (.illegalArgument "id must not be blank")
  else if h₂ : Java.IsBlank displayName then
    .error (.illegalArgument "displayName must not be blank")
  else if h₃ : Java.IsBlank filingStatus then
    .error (.illegalArgument "filingStatus must not be blank")
  else if h₄ : Java.IsBlank homeJurisdiction then
    .error (.illegalArgument "homeJurisdiction must not be blank")
  else .ok ⟨id, displayName, filingStatus, homeJurisdiction, createdAt, liabilities,
    (running liabilities).setScale 2, h₁, h₂, h₃, h₄, rfl⟩

/-- The lines of an item: those of its `liabilities`, if that is a list. -/
def linesAt (item : Item) : Except Thrown (List LiabilityLine) :=
  match item.get? "liabilities" with
  | some (.l elements) => linesOf parse elements
  | _ => .ok []

/-- **`TaxpayerRecord.fromItem`.** -/
def TaxpayerRecord.fromItem (item : Item) : Except Thrown TaxpayerRecord :=
  (linesAt parse item).bind fun lines =>
  (requiredString item "id").bind fun id =>
  (requiredString item "displayName").bind fun displayName =>
  (requiredString item "filingStatus").bind fun filingStatus =>
  (requiredString item "homeJurisdiction").bind fun homeJurisdiction =>
  (requiredInstant parse item "createdAt").bind fun createdAt =>
  TaxpayerRecord.create id displayName filingStatus homeJurisdiction createdAt lines

/-! ## The property and the condition -/

/-- A number stored at a key. -/
def NumberAt (item : Item) (key : String) (x : BigDecimal) : Prop :=
  ∃ text, item.get? key = some (.n text) ∧ BigDecimal.ofString text.toList = some x

/-- An instant stored at a key. -/
def InstantAt (item : Item) (key : String) (t : Java.Instant) : Prop :=
  ∃ text, item.get? key = some (.s text) ∧ parse text = some t

/-- An amount stored at a key, rounded half up to cents. -/
def CentsAt (item : Item) (key : String) (amount : BigDecimal) : Prop :=
  ∃ x, NumberAt item key x ∧ amount = ⟨BigDecimal.halfUp (x.value * 100), 2⟩

/-- **The line of an element** of the stored list. -/
def LineOf (element : AttributeValue) (line : LiabilityLine) : Prop :=
  ∃ fields, element = .m fields
    ∧ (∃ x, NumberAt fields "taxYear" x ∧ x.value = line.taxYear)
    ∧ Dict.get? fields "bracketId" = some (.s line.bracketId)
    ∧ CentsAt fields "taxableAmount" line.taxableAmount
    ∧ CentsAt fields "liabilityAmount" line.liabilityAmount
    ∧ InstantAt parse fields "computedAt" line.computedAt

/-- **A record is faithful to its item**: it has the stored strings and the stored instant, one line
for each element of the stored list, in order, and the exact sum of the lines. -/
structure Faithful (item : Item) (record : TaxpayerRecord) : Prop where
  id : item.get? "id" = some (.s record.id)
  displayName : item.get? "displayName" = some (.s record.displayName)
  filingStatus : item.get? "filingStatus" = some (.s record.filingStatus)
  homeJurisdiction : item.get? "homeJurisdiction" = some (.s record.homeJurisdiction)
  createdAt : InstantAt parse item "createdAt" record.createdAt
  lines : ∃ elements, (item.get? "liabilities" = some (.l elements)
      ∨ item.get? "liabilities" = none ∧ elements = [])
    ∧ List.Forall₂ (LineOf parse) elements record.liabilities
  total : record.totalLiability.scale = 2 ∧ record.totalLiability.value
    = (record.liabilities.map fun line => line.liabilityAmount.value).sum

/-- Whatever is thrown is an `IllegalArgumentException`. -/
def Refuses (x : Except Thrown α) : Prop :=
  ∀ e, x = .error e → ∃ message, e = .illegalArgument message

/-- The `liabilities` are a list, or there are none. -/
def ListOrAbsent (item : Item) : Prop :=
  ∀ v, item.get? "liabilities" = some v → ∃ elements, v = .l elements

/-- The other attributes a record needs. -/
def HasRequired (item : Item) : Prop :=
  (∀ key ∈ ["id", "displayName", "filingStatus", "homeJurisdiction"],
    ∃ text, item.get? key = some (.s text) ∧ ¬ Java.IsBlank text)
  ∧ ∃ t, InstantAt parse item "createdAt" t

variable {parse} {item : Item} {key : String}

/-! ## What is refused -/

theorem refuses_ok (a : α) : Refuses (.ok a : Except Thrown α) := nofun

theorem refuses_error (message : String) :
    Refuses (.error (.illegalArgument message) : Except Thrown α) := fun _ h =>
  ⟨message, (Except.error.inj h).symm⟩

theorem Refuses.bind {x : Except Thrown α} {f : α → Except Thrown β} (hx : Refuses x)
    (hf : ∀ a, Refuses (f a)) : Refuses (x.bind f) := by
  cases x with
  | error e =>
    obtain ⟨message, rfl⟩ := hx e rfl
    exact refuses_error message
  | ok a => exact hf a

/-- **What is caught is refused.** -/
theorem refuses_catching {caught : Thrown} {message : String} {x : Except Thrown α}
    (h : ∀ e, x = .error e → e = caught) : Refuses (catching caught message x) := by
  cases x with
  | error e =>
    rw [catching, if_pos (h e rfl)]
    exact refuses_error message
  | ok a => exact refuses_ok a

theorem refuses_requiredString : Refuses (requiredString item key) := by
  unfold requiredString
  split
  · exact refuses_ok _
  · exact refuses_error _

theorem refuses_requiredNumber : Refuses (requiredNumber item key) := by
  unfold requiredNumber
  split
  · refine refuses_catching fun e he => ?_
    unfold bigDecimal at he
    split at he <;> cases he
    rfl
  · exact refuses_error _

theorem refuses_requiredWholeNumber : Refuses (requiredWholeNumber item key) := by
  refine refuses_requiredNumber.bind fun value => refuses_catching fun e he => ?_
  unfold intValueExact at he
  split at he
  · split_ifs at he
    cases he
    rfl
  · cases he
    rfl

theorem refuses_requiredInstant : Refuses (requiredInstant parse item key) := by
  refine refuses_requiredString.bind fun raw => refuses_catching fun e he => ?_
  unfold instantOf at he
  split at he <;> cases he
  rfl

theorem refuses_lineFromItem : Refuses (LiabilityLine.fromItem parse item) := by
  refine refuses_requiredWholeNumber.bind fun _ => refuses_requiredString.bind fun _ =>
    refuses_requiredNumber.bind fun _ => refuses_requiredNumber.bind fun _ =>
    refuses_requiredInstant.bind fun _ => ?_
  unfold LiabilityLine.create
  split_ifs
  · exact refuses_error _
  · exact refuses_error _
  · exact refuses_error _
  · exact refuses_ok _

theorem refuses_linesOf (elements : List AttributeValue) : Refuses (linesOf parse elements) := by
  induction elements with
  | nil => exact refuses_ok _
  | cons element elements ih =>
    cases element with
    | m fields =>
      exact refuses_lineFromItem.bind fun _ e he => ih e (map_eq_error.mp he)
    | _ => exact refuses_error _

/-- **Whatever is thrown while an item is read is an `IllegalArgumentException`.** -/
theorem refuses_fromItem (item : Item) : Refuses (TaxpayerRecord.fromItem parse item) := by
  have hlines : Refuses (linesAt parse item) := by
    unfold linesAt
    split
    · exact refuses_linesOf _
    · exact refuses_ok _
  refine hlines.bind fun _ => refuses_requiredString.bind fun _ =>
    refuses_requiredString.bind fun _ => refuses_requiredString.bind fun _ =>
    refuses_requiredString.bind fun _ => refuses_requiredInstant.bind fun _ => ?_
  unfold TaxpayerRecord.create
  split_ifs
  · exact refuses_error _
  · exact refuses_error _
  · exact refuses_error _
  · exact refuses_error _
  · exact refuses_ok _

/-! ## What is read -/

theorem catching_eq_ok {caught : Thrown} {message : String} {x : Except Thrown α} {a : α} :
    catching caught message x = .ok a ↔ x = .ok a := by
  cases x with
  | error e =>
    rw [catching]
    split_ifs <;> simp
  | ok b => rfl

theorem requiredString_eq_ok {text : String} :
    requiredString item key = .ok text ↔ item.get? key = some (.s text) := by
  unfold requiredString
  split
  · next h => rw [h, Except.ok.injEq, Option.some.injEq, AttributeValue.s.injEq]
  · next h => exact iff_of_false (by simp) (h text)

theorem requiredNumber_eq_ok {x : BigDecimal} :
    requiredNumber item key = .ok x ↔ NumberAt item key x := by
  have hread : ∀ text, bigDecimal text = .ok x ↔ BigDecimal.ofString text.toList = some x := by
    intro text
    unfold bigDecimal
    split
    · next h => rw [h, Except.ok.injEq, Option.some.injEq]
    · next h => exact iff_of_false (by simp) (by simp [h])
  unfold requiredNumber NumberAt
  split
  · next text h =>
    rw [catching_eq_ok, hread]
    constructor
    · exact fun hx => ⟨text, h, hx⟩
    · rintro ⟨text', h', hx⟩
      cases h.symm.trans h'
      exact hx
  · next h =>
    refine iff_of_false (by simp) ?_
    rintro ⟨text, htext, -⟩
    exact h text htext

theorem requiredInstant_eq_ok {t : Java.Instant} :
    requiredInstant parse item key = .ok t ↔ InstantAt parse item key t := by
  have hread : ∀ text, instantOf parse text = .ok t ↔ parse text = some t := by
    intro text
    unfold instantOf
    split
    · next h => rw [h, Except.ok.injEq, Option.some.injEq]
    · next h => exact iff_of_false (by simp) (by simp [h])
  simp only [requiredInstant, bind_eq_ok, requiredString_eq_ok, catching_eq_ok, hread, InstantAt]

/-- A whole number is the number stored. -/
theorem of_requiredWholeNumber {n : ℤ} (h : requiredWholeNumber item key = .ok n) :
    ∃ x, NumberAt item key x ∧ x.value = n := by
  obtain ⟨x, hx, hn⟩ := bind_eq_ok.mp h
  refine ⟨x, requiredNumber_eq_ok.mp hx, ?_⟩
  have hexact := catching_eq_ok.mp hn
  unfold intValueExact at hexact
  split at hexact
  · next hlong =>
    split_ifs at hexact
    cases hexact
    exact BigDecimal.value_of_longValueExact hlong
  · cases hexact

theorem centsAt_setScale {x : BigDecimal} (h : NumberAt item key x) :
    CentsAt item key (x.setScale 2) := by
  refine ⟨x, h, (BigDecimal.setScale_eq_halfUp x 2).trans ?_⟩
  norm_num

/-- **A line has what is stored**, its amounts rounded. -/
theorem lineOf_of_fromItem {fields : Item} {line : LiabilityLine}
    (h : LiabilityLine.fromItem parse fields = .ok line) : LineOf parse (.m fields) line := by
  simp only [LiabilityLine.fromItem, bind_eq_ok, requiredString_eq_ok, requiredNumber_eq_ok,
    requiredInstant_eq_ok] at h
  obtain ⟨taxYear, hyear, bracketId, hbracket, taxable, htaxable, liability, hliability, computedAt,
    hcomputed, hline⟩ := h
  unfold LiabilityLine.create at hline
  split_ifs at hline
  cases hline
  exact ⟨fields, rfl, of_requiredWholeNumber hyear, hbracket, centsAt_setScale htaxable,
    centsAt_setScale hliability, hcomputed⟩

/-- **One line for each element**, in order. -/
theorem lines_of_linesOf {elements : List AttributeValue} {lines : List LiabilityLine}
    (h : linesOf parse elements = .ok lines) : List.Forall₂ (LineOf parse) elements lines := by
  induction elements generalizing lines with
  | nil =>
    cases h
    exact .nil
  | cons element elements ih =>
    cases element with
    | m fields =>
      obtain ⟨line, hline, hrest⟩ := bind_eq_ok.mp h
      obtain ⟨rest, hlines, rfl⟩ := map_eq_ok.mp hrest
      exact .cons (lineOf_of_fromItem hline) (ih hlines)
    | _ => cases h

/-- **What an item is read as**: its strings, its instant and its lines. -/
theorem fromItem_eq_ok {record : TaxpayerRecord} : TaxpayerRecord.fromItem parse item = .ok record ↔
    linesAt parse item = .ok record.liabilities ∧ item.get? "id" = some (.s record.id)
      ∧ item.get? "displayName" = some (.s record.displayName)
      ∧ item.get? "filingStatus" = some (.s record.filingStatus)
      ∧ item.get? "homeJurisdiction" = some (.s record.homeJurisdiction)
      ∧ InstantAt parse item "createdAt" record.createdAt := by
  simp only [TaxpayerRecord.fromItem, bind_eq_ok, requiredString_eq_ok, requiredInstant_eq_ok]
  constructor
  · rintro ⟨lines, hlines, id, hid, displayName, hname, filingStatus, hstatus, homeJurisdiction,
      hhome, createdAt, hcreated, h⟩
    unfold TaxpayerRecord.create at h
    split_ifs at h
    cases h
    exact ⟨hlines, hid, hname, hstatus, hhome, hcreated⟩
  · rintro ⟨hlines, hid, hname, hstatus, hhome, hcreated⟩
    refine ⟨_, hlines, _, hid, _, hname, _, hstatus, _, hhome, _, hcreated, ?_⟩
    obtain ⟨id, displayName, filingStatus, homeJurisdiction, createdAt, liabilities, totalLiability,
      h₁, h₂, h₃, h₄, htotal⟩ := record
    subst htotal
    unfold TaxpayerRecord.create
    rw [dif_neg h₁, dif_neg h₂, dif_neg h₃, dif_neg h₄]

/-! ## The total -/

/-- The sum runs up in whole cents. -/
theorem value_running (lines : List LiabilityLine) :
    (running lines).value = (lines.map fun line => line.liabilityAmount.value).sum := by
  have hfold : ∀ (x : BigDecimal), (lines.foldl (fun r line => r.add line.liabilityAmount) x).value
      = x.value + (lines.map fun line => line.liabilityAmount.value).sum := by
    induction lines with
    | nil => simp
    | cons line lines ih =>
      intro x
      rw [List.foldl_cons, ih, BigDecimal.value_add, List.map_cons, List.sum_cons, add_assoc]
  rw [running, hfold, BigDecimal.value, Int.cast_zero, zero_mul, zero_add]

theorem exists_cents (lines : List LiabilityLine) :
    ∃ n : ℤ, (lines.map fun line => line.liabilityAmount.value).sum * 10 ^ (2 : ℤ) = n := by
  induction lines with
  | nil => exact ⟨0, by simp⟩
  | cons line lines ih =>
    obtain ⟨n, hn⟩ := ih
    refine ⟨line.liabilityAmount.unscaled + n, ?_⟩
    rw [List.map_cons, List.sum_cons, add_mul, hn, BigDecimal.value, line.liabilityAmount_scale,
      mul_assoc, ← zpow_add₀ (by norm_num)]
    norm_num

/-- **The total is exact**: there is nothing to round. -/
theorem totalLiability_eq (record : TaxpayerRecord) : record.totalLiability.scale = 2
    ∧ record.totalLiability.value
      = (record.liabilities.map fun line => line.liabilityAmount.value).sum := by
  obtain ⟨n, hn⟩ := exists_cents record.liabilities
  have hcents : (running record.liabilities).value * 10 ^ (2 : ℤ) = n := by
    rw [value_running, hn]
  rw [record.total, BigDecimal.setScale_eq hcents]
  refine ⟨rfl, ?_⟩
  rw [BigDecimal.value, ← hn, mul_assoc, ← zpow_add₀ (by norm_num)]
  norm_num

/-! ## What a record tells of its item -/

/-- **A record is faithful** exactly if the item's `liabilities` are a list, or there are none. -/
theorem faithful_iff {record : TaxpayerRecord}
    (h : TaxpayerRecord.fromItem parse item = .ok record) :
    Faithful parse item record ↔ ListOrAbsent item := by
  obtain ⟨hlines, hid, hname, hstatus, hhome, hcreated⟩ := fromItem_eq_ok.mp h
  constructor
  · rintro hfaithful v hv
    obtain ⟨elements, hlist | ⟨hnone, -⟩, -⟩ := hfaithful.lines
    · exact ⟨elements, Option.some.inj (hv.symm.trans hlist)⟩
    · cases hv.symm.trans hnone
  · intro hlist
    refine ⟨hid, hname, hstatus, hhome, hcreated, ?_, totalLiability_eq record⟩
    cases hattribute : item.get? "liabilities" with
    | none =>
      rw [linesAt, hattribute] at hlines
      exact ⟨[], .inr ⟨rfl, rfl⟩, Except.ok.inj hlines ▸ .nil⟩
    | some v =>
      obtain ⟨elements, rfl⟩ := hlist v hattribute
      rw [linesAt, hattribute] at hlines
      exact ⟨elements, .inl rfl, lines_of_linesOf hlines⟩

/-- **Passed over**: an item whose `liabilities` are no list is read as if it had none. -/
theorem exists_fromItem (hlist : ¬ ListOrAbsent item) (hrequired : HasRequired parse item) :
    ∃ record, TaxpayerRecord.fromItem parse item = .ok record ∧ record.liabilities = []
      ∧ record.totalLiability = ⟨0, 2⟩ := by
  obtain ⟨htexts, t, ht⟩ := hrequired
  obtain ⟨id, hid, h₁⟩ := htexts "id" (by simp)
  obtain ⟨displayName, hname, h₂⟩ := htexts "displayName" (by simp)
  obtain ⟨filingStatus, hstatus, h₃⟩ := htexts "filingStatus" (by simp)
  obtain ⟨homeJurisdiction, hhome, h₄⟩ := htexts "homeJurisdiction" (by simp)
  have hlines : linesAt parse item = .ok [] := by
    unfold linesAt
    split
    · next elements h =>
      exact absurd (fun v hv => ⟨elements, Option.some.inj (hv.symm.trans h)⟩) hlist
    · rfl
  exact ⟨⟨id, displayName, filingStatus, homeJurisdiction, t, [], _, h₁, h₂, h₃, h₄, rfl⟩,
    fromItem_eq_ok.mpr ⟨hlines, hid, hname, hstatus, hhome, ht⟩, rfl, rfl⟩

/-- **Reading an item is faithful** exactly if its `liabilities` are a list, or there are none, or
the item is refused for another attribute. -/
theorem fromItem_iff (parse : String → Option Java.Instant) (item : Item) :
    (Refuses (TaxpayerRecord.fromItem parse item)
        ∧ ∀ record, TaxpayerRecord.fromItem parse item = .ok record → Faithful parse item record)
      ↔ ListOrAbsent item ∨ ¬ HasRequired parse item := by
  constructor
  · rintro ⟨-, hfaithful⟩
    by_contra hnot
    rw [not_or, not_not] at hnot
    obtain ⟨record, hrecord, -⟩ := exists_fromItem hnot.1 hnot.2
    exact hnot.1 ((faithful_iff hrecord).mp (hfaithful record hrecord))
  · intro hor
    refine ⟨refuses_fromItem item, fun record hrecord => (faithful_iff hrecord).mpr ?_⟩
    refine hor.resolve_right fun hnot => hnot ?_
    obtain ⟨-, hid, hname, hstatus, hhome, hcreated⟩ := fromItem_eq_ok.mp hrecord
    refine ⟨?_, _, hcreated⟩
    simp only [List.forall_mem_cons]
    exact ⟨⟨_, hid, record.id_notBlank⟩, ⟨_, hname, record.displayName_notBlank⟩,
      ⟨_, hstatus, record.filingStatus_notBlank⟩, ⟨_, hhome, record.homeJurisdiction_notBlank⟩,
      List.forall_mem_nil _⟩

/-- An item whose `liabilities` are a map, of a taxpayer who owes ten dollars. -/
def docsItem : Item :=
  [("id", .s "txp_synth_001"), ("displayName", .s "Synthetic Taxpayer One"),
    ("filingStatus", .s "SINGLE"), ("homeJurisdiction", .s "CA"),
    ("createdAt", .s "1970-01-01T00:00:00Z"),
    ("liabilities", .m [("taxYear", .n "2025"), ("bracketId", .s "brk-fed-2025-22"),
      ("taxableAmount", .n "100"), ("liabilityAmount", .n "10"),
      ("computedAt", .s "1970-01-01T00:00:00Z")])]

/-- The epoch's text, and no other. -/
def docsParse (text : String) : Option Java.Instant :=
  if text = "1970-01-01T00:00:00Z" then some 0 else none

theorem fromItem_docsItem :
    (∃ record, TaxpayerRecord.fromItem docsParse docsItem = .ok record ∧ record.liabilities = []
        ∧ record.totalLiability = ⟨0, 2⟩)
      ∧ ¬ (Refuses (TaxpayerRecord.fromItem docsParse docsItem)
        ∧ ∀ record, TaxpayerRecord.fromItem docsParse docsItem = .ok record
          → Faithful docsParse docsItem record) := by
  have hlist : ¬ ListOrAbsent docsItem := fun h => by
    obtain ⟨elements, helements⟩ := h _ rfl
    cases helements
  have hrequired : HasRequired docsParse docsItem := by
    refine ⟨?_, 0, _, rfl, by decide⟩
    simp only [List.forall_mem_cons]
    exact ⟨⟨_, rfl, by decide⟩, ⟨_, rfl, by decide⟩, ⟨_, rfl, by decide⟩, ⟨_, rfl, by decide⟩,
      List.forall_mem_nil _⟩
  obtain ⟨record, hrecord, hempty⟩ := exists_fromItem hlist hrequired
  refine ⟨⟨record, hrecord, hempty⟩, fun hfaithful => hlist ?_⟩
  exact (faithful_iff hrecord).mp (hfaithful.2 record hrecord)

end Lambda
