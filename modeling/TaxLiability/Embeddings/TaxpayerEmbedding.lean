import TaxLiability.ReadModel.Tenancy

/-!
# Embeddings/TaxpayerEmbedding — whose vector a row holds, and which row an ingest writes

    claim ──tenantOf──▸ tenant ─┐
                                ├─▸ rowId = UUID of "tenant|id" ─▸ upsert {tenant, vector}
    path  ─────────────▸ id ────┤
                                └─▸ document of id ─▸ text ─▸ vector

The tenant names the row and labels it, and the document is looked up by its id alone.  Rows belong
to their tenants exactly along the runs in which each ingest that stores is by a caller of the
document's tenant, and joins its tenant and id to a text of its own (`belong_iff`).
-/

open Machine ReadModel

namespace Embeddings

/-! ## The text -/

/-- **`valueOrUnknown`.** -/
def valueOrUnknown (value : String) : String := if Java.IsBlank value then "unknown" else value

def EmbeddedLiability.text (liability : EmbeddedLiability) : String :=
  "tax year " ++ toString liability.taxYear ++ " bracket " ++ liability.bracketId
    ++ " taxable " ++ liability.taxableAmount.toString
    ++ " liability " ++ liability.liabilityAmount.toString

/-- **`embeddableText`.** -/
def embeddableText (taxpayer : TaxpayerReadModel) : String :=
  "; ".intercalate
    (["taxpayer " ++ taxpayer.id,
      "filing status " ++ valueOrUnknown taxpayer.filingStatus,
      "jurisdiction " ++ valueOrUnknown taxpayer.homeJurisdiction]
      ++ (if taxpayer.liabilities = [] then ["no recorded liabilities"]
        else taxpayer.liabilities.map EmbeddedLiability.text)
      ++ if taxpayer.tags = [] then [] else ["tags " ++ ",".intercalate taxpayer.tags])

/-! ## The row -/

/-- **A row of `taxpayer_embeddings`**, and the taxpayer whose vector it holds, which is not in the
table. -/
structure TaxpayerEmbedding (V : Type) where
  tenantId : String
  embedding : V
  taxpayerId : String
  deriving DecidableEq, Repr

/-- What a row's id is made of. -/
def joined (tenantId taxpayerId : String) : String := tenantId ++ "|" ++ taxpayerId

/-- **`tenantOf`.** -/
def tenantOf (claim : Option String) : String :=
  match claim with
  | none => "shared"
  | some claim => if Java.IsBlank claim then "shared" else claim

/-- Two texts with a separator are one exactly if the parts are, or the first part of one goes on
with the separator and the beginning of the other's second. -/
theorem append_cons_eq_iff {α : Type} {sep : α} {s u s' u' : List α} :
    s ++ sep :: u = s' ++ sep :: u' ↔ (s = s' ∧ u = u')
      ∨ (∃ m, s' = s ++ sep :: m ∧ u = m ++ sep :: u')
      ∨ ∃ m, s = s' ++ sep :: m ∧ u' = m ++ sep :: u := by
  -- one direction of what `List.append_eq_append_iff` leaves, for either text
  have hlonger : ∀ {a b c : List α}, sep :: b = a ++ sep :: c →
      (a = [] ∧ b = c) ∨ ∃ m, a = sep :: m ∧ b = m ++ sep :: c := by
    rintro (_ | ⟨x, m⟩) b c h
    · exact .inl ⟨rfl, (List.cons.inj h).2⟩
    · obtain ⟨rfl, hm⟩ := List.cons.inj h
      exact .inr ⟨m, rfl, hm⟩
  constructor
  · intro h
    obtain ⟨a, rfl, ha⟩ | ⟨a, rfl, ha⟩ := List.append_eq_append_iff.mp h
    · obtain ⟨rfl, rfl⟩ | ⟨m, rfl, rfl⟩ := hlonger ha
      · exact .inl ⟨(List.append_nil s).symm, rfl⟩
      · exact .inr (.inl ⟨m, rfl, rfl⟩)
    · obtain ⟨rfl, rfl⟩ | ⟨m, rfl, rfl⟩ := hlonger ha
      · exact .inl ⟨List.append_nil s', rfl⟩
      · exact .inr (.inr ⟨m, rfl, rfl⟩)
  · rintro (⟨rfl, rfl⟩ | ⟨m, rfl, rfl⟩ | ⟨m, rfl, rfl⟩)
    · rfl
    · rw [List.append_assoc, List.cons_append]
    · rw [List.append_assoc, List.cons_append]

theorem toList_joined (t i : String) : (joined t i).toList = t.toList ++ '|' :: i.toList := by
  rw [joined, String.toList_append, String.toList_append, List.append_assoc]
  rfl

/-- **Two pairs join to one text** exactly if they are one pair, or the tenant of one goes on with
the separator and the beginning of the other's id. -/
theorem joined_eq_iff {t i t' i' : String} : joined t i = joined t' i' ↔
    (t = t' ∧ i = i') ∨ (∃ m, t' = joined t m ∧ i = joined m i')
      ∨ ∃ m, t = joined t' m ∧ i' = joined m i := by
  have hexists : ∀ {P : List Char → Prop}, (∃ m : List Char, P m) ↔ ∃ m : String, P m.toList :=
    ⟨fun ⟨m, hm⟩ => ⟨String.ofList m, by rwa [String.toList_ofList]⟩, fun ⟨m, hm⟩ => ⟨m.toList, hm⟩⟩
  simp only [← String.toList_inj, toList_joined, append_cons_eq_iff, hexists]

/-- **No tenants without the separator share a row**, whatever the ids are. -/
theorem joined_injective {t i t' i' : String} (ht : '|' ∉ t.toList) (ht' : '|' ∉ t'.toList)
    (h : joined t i = joined t' i') : t = t' ∧ i = i' := by
  have hmem : ∀ s m : String, '|' ∈ (joined s m).toList := fun s m => by
    rw [toList_joined]
    exact List.mem_append_right _ List.mem_cons_self
  obtain hsame | ⟨m, rfl, -⟩ | ⟨m, rfl, -⟩ := joined_eq_iff.mp h
  · exact hsame
  · exact absurd (hmem t m) ht'
  · exact absurd (hmem t' m) ht

/-! ## The requests -/

/-- **The table**, and the pairs of tenant and id whose ingests were stored, latest first. -/
structure Table (V : Type) where
  rows : String → Option (TaxpayerEmbedding V)
  stored : List (String × String)

namespace Table

/-- A request, with the `tenant` claim of its token. -/
inductive Request
  /-- an ingest; the embeddings service may be out of reach, or its answer of no use -/
  | ingest (claim : Option String) (id : String) (answers : Bool)
  | similar (claim : Option String) (id : String) (limit : ℤ)
  deriving DecidableEq, Repr

def start {V : Type} : Table V := ⟨fun _ => none, []⟩

variable {V : Type} (documents : String → Option TaxpayerReadModel) (embed : String → V)
  (nameUUIDFromBytes : ByteArray → String)

/-- **`rowId`.** -/
def rowId (tenantId taxpayerId : String) : String :=
  nameUUIDFromBytes (joined tenantId taxpayerId).toUTF8

/-- **`ingest`**, of the service: the row it saves, if it does not throw. -/
def row (taxpayerId tenantId : String) (answers : Bool) : Option (TaxpayerEmbedding V) :=
  if Java.IsBlank tenantId then none
  else (documents taxpayerId).bind fun taxpayer =>
    if answers then some ⟨tenantId, embed (embeddableText taxpayer), taxpayerId⟩ else none

/-- **`save`**, an upsert: the row under the id takes the vector and the tenant. -/
def save (s : Table V) (id : String) (row : TaxpayerEmbedding V) : Table V where
  rows := Function.update s.rows id (some row)
  stored := (row.tenantId, row.taxpayerId) :: s.stored

/-- **One request.**  A search writes nothing. -/
def step (s : Table V) : Request → Option (Table V)
  | .ingest claim id answers =>
    match row documents embed id (tenantOf claim) answers with
    | some row => some (s.save (rowId nameUUIDFromBytes (tenantOf claim) id) row)
    | none => some s
  | .similar _ _ _ => some s

/-! ## The property and the condition -/

/-- **Rows belong to their tenants.** -/
structure Belong (s : Table V) : Prop where
  /-- a row holds the vector of a taxpayer whose document the row's tenant owns -/
  owned : ∀ id row, s.rows id = some row → ∃ taxpayer, documents row.taxpayerId = some taxpayer
    ∧ row.embedding = embed (embeddableText taxpayer)
    ∧ taxpayer.tenantId = owningTenantOf (some row.tenantId)
  /-- no two pairs have written one row -/
  apart : ∀ p ∈ s.stored, ∀ q ∈ s.stored, p ≠ q →
    rowId nameUUIDFromBytes p.1 p.2 ≠ rowId nameUUIDFromBytes q.1 q.2

/-- **The ingests that keep rows with their tenants**: those that store nothing, and those by a
caller of the document's tenant, none before which has joined another pair to the same text. -/
def Keeps (s : Table V) : Request → Prop
  | .ingest claim id answers =>
    ∀ taxpayer ∈ documents id, answers = true → taxpayer.tenantId = owningTenantOf claim
      ∧ ∀ p ∈ s.stored, joined p.1 p.2 = joined (tenantOf claim) id → p = (tenantOf claim, id)
  | .similar _ _ _ => True

instance (s : Table V) : (e : Request) → Decidable (s.Keeps documents e)
  | .ingest _ id _ => inferInstanceAs (Decidable (∀ taxpayer ∈ documents id, _))
  | .similar _ _ _ => isTrue trivial

variable {documents embed nameUUIDFromBytes}

/-- The tenant a row is labelled with is owned as the caller's is. -/
theorem owningTenantOf_tenantOf (claim : Option String) :
    owningTenantOf (some (tenantOf claim)) = owningTenantOf claim := by
  have hshared : owningTenantOf (some "shared") = DEFAULT_TENANT_ID := by decide
  cases claim with
  | none => exact hshared
  | some claim =>
    rw [tenantOf]
    split
    · next hblank => rw [hshared, owningTenantOf, if_pos hblank]
    · rfl

theorem tenantOf_notBlank (claim : Option String) : ¬ Java.IsBlank (tenantOf claim) := by
  have hshared : ¬ Java.IsBlank "shared" := by decide
  cases claim with
  | none => exact hshared
  | some claim =>
    rw [tenantOf]
    split
    · exact hshared
    · assumption

/-- **What an ingest stores**, if its taxpayer is known and the service answers. -/
theorem step_ingest {s : Table V} {claim : Option String} {id : String} {answers : Bool} :
    step documents embed nameUUIDFromBytes s (.ingest claim id answers)
      = match documents id with
        | some taxpayer => some (if answers then
            s.save (rowId nameUUIDFromBytes (tenantOf claim) id)
              ⟨tenantOf claim, embed (embeddableText taxpayer), id⟩ else s)
        | none => some s := by
  rw [step, row, if_neg (tenantOf_notBlank claim)]
  cases documents id with
  | none => rfl
  | some taxpayer => cases answers <;> rfl

theorem rowId_eq_iff (hinjective : Function.Injective nameUUIDFromBytes) {t i t' i' : String} :
    rowId nameUUIDFromBytes t i = rowId nameUUIDFromBytes t' i' ↔ joined t i = joined t' i' := by
  rw [rowId, rowId, hinjective.eq_iff, String.toUTF8_eq_toByteArray, String.toUTF8_eq_toByteArray,
    String.toByteArray_inj]

/-- **An ingest that stores keeps rows with their tenants** exactly if it meets the condition. -/
theorem Belong.save (hinjective : Function.Injective nameUUIDFromBytes) {s : Table V}
    (hs : s.Belong documents embed nameUUIDFromBytes) (claim : Option String) {id : String}
    {taxpayer : TaxpayerReadModel} (htaxpayer : documents id = some taxpayer) :
    (s.save (rowId nameUUIDFromBytes (tenantOf claim) id)
        ⟨tenantOf claim, embed (embeddableText taxpayer), id⟩).Belong documents embed
        nameUUIDFromBytes
      ↔ taxpayer.tenantId = owningTenantOf claim ∧ ∀ p ∈ s.stored,
        joined p.1 p.2 = joined (tenantOf claim) id → p = (tenantOf claim, id) := by
  constructor
  · intro ht
    refine ⟨?_, fun p hp hjoined => ?_⟩
    · obtain ⟨taxpayer', htaxpayer', -, howned⟩ := ht.owned _ _ (Function.update_self _ _ _)
      cases htaxpayer.symm.trans htaxpayer'
      exact howned.trans (owningTenantOf_tenantOf claim)
    · by_contra hne
      exact ht.apart p (List.mem_cons_of_mem _ hp) _ List.mem_cons_self hne
        ((rowId_eq_iff hinjective).mpr hjoined)
  · rintro ⟨howned, hjoined⟩
    refine ⟨fun id' row' hrow => ?_, ?_⟩
    · obtain ⟨-, hrow⟩ | ⟨-, hrow⟩ := update_eq_some_iff.mp hrow
      · cases hrow
        exact ⟨taxpayer, htaxpayer, rfl, howned.trans (owningTenantOf_tenantOf claim).symm⟩
      · exact hs.owned id' row' hrow
    · have hnew : ∀ p ∈ s.stored, p ≠ (tenantOf claim, id) →
          rowId nameUUIDFromBytes p.1 p.2 ≠ rowId nameUUIDFromBytes (tenantOf claim) id :=
        fun p hp hne heq => hne (hjoined p hp ((rowId_eq_iff hinjective).mp heq))
      intro p hp q hq hne
      obtain rfl | hp := List.mem_cons.mp hp
      · obtain rfl | hq := List.mem_cons.mp hq
        · exact absurd rfl hne
        · exact (hnew q hq hne.symm).symm
      · obtain rfl | hq := List.mem_cons.mp hq
        · exact hnew p hp hne
        · exact hs.apart p hp q hq hne

/-- **One request** keeps rows with their tenants exactly if it meets the condition. -/
theorem belong_step (hinjective : Function.Injective nameUUIDFromBytes) {s t : Table V}
    {e : Request} (hs : s.Belong documents embed nameUUIDFromBytes)
    (h : step documents embed nameUUIDFromBytes s e = some t) :
    t.Belong documents embed nameUUIDFromBytes ↔ s.Keeps documents e := by
  cases e with
  | similar claim id limit =>
    cases h
    exact iff_of_true hs trivial
  | ingest claim id answers =>
    rw [step_ingest] at h
    cases htaxpayer : documents id with
    | none =>
      rw [htaxpayer] at h
      cases h
      refine iff_of_true hs fun taxpayer hmem => ?_
      rw [htaxpayer] at hmem
      cases hmem
    | some taxpayer =>
      rw [htaxpayer] at h
      cases h
      have hkeeps : s.Keeps documents (.ingest claim id answers) ↔ (answers = true →
          taxpayer.tenantId = owningTenantOf claim ∧ ∀ p ∈ s.stored,
            joined p.1 p.2 = joined (tenantOf claim) id → p = (tenantOf claim, id)) := by
        rw [Keeps, htaxpayer]
        simp
      rw [hkeeps]
      cases answers with
      | true => exact (hs.save hinjective claim htaxpayer).trans (by simp)
      | false => exact iff_of_true hs nofun

variable (documents embed) in
/-- **Rows belong to their tenants throughout** exactly the runs whose ingests meet the
condition. -/
theorem belong_iff (hinjective : Function.Injective nameUUIDFromBytes) {requests : List Request}
    {s : Table V} (h : exec (step documents embed nameUUIDFromBytes) start requests = some s) :
    Always (step documents embed nameUUIDFromBytes) (Belong documents embed nameUUIDFromBytes) start
        requests
      ↔ Throughout (step documents embed nameUUIDFromBytes) (Keeps documents) start requests :=
  always_iff_throughout (I := fun _ => True) (fun _ _ => trivial)
    (fun _ hs hstep => belong_step hinjective hs hstep) trivial ⟨nofun, nofun⟩ h

/-- One taxpayer, of tenant `a`. -/
def docsDocuments : String → Option TaxpayerReadModel :=
  Function.update (fun _ => none) "tp-1"
    (some ⟨"tp-1", "Ada", "SINGLE", "federal", 1, [], ["vip"], "tenant-a", by decide, by decide⟩)

example : (docsDocuments "tp-1").map embeddableText
    = some ("taxpayer tp-1; filing status SINGLE; jurisdiction federal; "
      ++ "no recorded liabilities; tags vip") := by decide

/-- The UUID of the row of `a` and `tp-1`, and for all other bytes a text of their own. -/
def docsUUID (bytes : ByteArray) : String :=
  if bytes.data.toList = (joined "a" "tp-1").toUTF8.data.toList then
    "9cb01c7b-7157-3cd8-8513-df460d90a625"
  else String.ofList ('x' :: bytes.data.toList.map fun b => Char.ofNat b.toNat)

theorem docsUUID_injective : Function.Injective docsUUID := by
  have hvalid : ∀ b : UInt8, b.toNat.isValidChar := fun b => .inl (b.toNat_lt.trans (by decide))
  have hchar : Function.Injective fun b : UInt8 => Char.ofNat b.toNat := by
    intro b c h
    have hofNat : ∀ d : UInt8, Char.ofNat d.toNat = Char.ofNatAux d.toNat (hvalid d) := fun d =>
      dif_pos (hvalid d)
    have hnat : (Char.ofNat b.toNat).toNat = (Char.ofNat c.toNat).toNat := congrArg Char.toNat h
    rw [hofNat, hofNat] at hnat
    exact UInt8.toNat_inj.mp hnat
  have hother : ∀ bytes : List UInt8, "9cb01c7b-7157-3cd8-8513-df460d90a625"
      ≠ String.ofList ('x' :: bytes.map fun b => Char.ofNat b.toNat) := by
    intro bytes h
    have hhead := congrArg (fun s : String => s.toList.head?) h
    simp at hhead
  intro b c h
  unfold docsUUID at h
  split at h <;> split at h
  · next hb hc => exact ByteArray.ext (Array.toList_inj.mp (hb.trans hc.symm))
  · exact absurd h (hother _)
  · exact absurd h.symm (hother _)
  · have hlist := (List.cons.inj (String.ofList_injective h)).2
    exact ByteArray.ext (Array.toList_inj.mp (hchar.list_map hlist))

/-- A taxpayer is embedded, searched around and embedded again. -/
def docsRequests : List Request :=
  [.ingest (some "a") "tp-1" true, .similar (some "a") "tp-1" 5, .ingest (some "a") "tp-1" true]

theorem belong_docsRequests : ∃ s, exec (step docsDocuments id docsUUID) start docsRequests = some s
    ∧ Always (step docsDocuments id docsUUID) (Belong docsDocuments id docsUUID) start
      docsRequests := by
  have hrun : (exec (step docsDocuments id docsUUID) start docsRequests).isSome := by decide
  obtain ⟨s, hs⟩ := Option.isSome_iff_exists.mp hrun
  exact ⟨s, hs, (belong_iff docsDocuments id docsUUID_injective hs).mpr (by decide)⟩

/-- **A caller of another tenant stores the vector**: nobody asks whose document it is. -/
theorem row_of_another_tenant :
    ¬ ∀ (documents : String → Option TaxpayerReadModel) (embed : String → String)
      (nameUUIDFromBytes : ByteArray → String) (requests : List Request) (s : Table String),
      Function.Injective nameUUIDFromBytes →
      exec (step documents embed nameUUIDFromBytes) start requests = some s →
      s.Belong documents embed nameUUIDFromBytes := by
  intro hall
  have hrun : exec (step docsDocuments id docsUUID) start [.ingest (some "b") "tp-1" true]
      = some (start.save (rowId docsUUID "b" "tp-1") ⟨"b", _, "tp-1"⟩) := rfl
  obtain ⟨taxpayer, htaxpayer, -, howned⟩ :=
    (hall _ _ _ _ _ docsUUID_injective hrun).owned _ _ (Function.update_self _ _ _)
  cases htaxpayer
  exact absurd howned (by decide)

end Table

end Embeddings
