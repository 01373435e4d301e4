import TaxLiability.Embeddings.TaxpayerEmbedding
import TaxLiability.Machinery.Dict
import TaxLiability.Machinery.StableSort

/-!
# Embeddings/Similar — the taxpayers nearest to one

    limit ≤ MAX_LIMIT ──▸ rows of the tenant, nearest first ──▸ limit + 1 ──own row off──▸ limit

One row more is fetched than is asked for, since the own row may be among them.  Whichever rows tie
with it, what is left are the nearest of the others (`StableSort.take_filter_take`).  The one limit
that has no successor would be refused (`findSimilar_iff`), and is far above what the controller
lets through (`similar_eq`).
-/

open Machine StableSort

namespace Embeddings

variable {V K : Type}

/-- **The rows of `taxpayer_embeddings`** by their ids. -/
structure Stored (V : Type) where
  rows : Dict String (TaxpayerEmbedding V)
  unique : Dict.Nodup rows

/-- **A search**: the distance `<=>`, and the order in which the rows are read, which decides
between equal distances. -/
structure Search (V K : Type) where
  distance : V → V → K
  scan : Dict String (TaxpayerEmbedding V) → Dict String (TaxpayerEmbedding V)
  scan_perm : ∀ rows, (scan rows).Perm rows

/-! ## The queries -/

/-- How far a row is from a vector. -/
def Search.from (S : Search V K) (query : V) (f : String × TaxpayerEmbedding V) : K :=
  S.distance f.2.embedding query

variable [LinearOrder K] (S : Search V K) (nameUUIDFromBytes : ByteArray → String)

/-- The rows of a tenant, nearest first. -/
def ordered (table : Stored V) (tenantId : String) (query : V) :
    Dict String (TaxpayerEmbedding V) :=
  ((S.scan table.rows).filter fun f => f.2.tenantId = tenantId).insertionSort
    fun f g => S.from query f ≤ S.from query g

/-- **`findNearest`.** -/
def findNearest (table : Stored V) (tenantId : String) (query : V) (limit : Int32) :
    Except String (Dict String (TaxpayerEmbedding V)) :=
  if Java.IsBlank tenantId then .error "tenantId must not be blank"
  else if limit ≤ 0 then .error ("limit must be positive, was " ++ toString limit)
  else .ok ((ordered S table tenantId query).take limit.toInt.toNat)

/-- **`findSimilar`.** -/
def findSimilar (table : Stored V) (taxpayerId tenantId : String) (limit : Int32) :
    Except String (Dict String (TaxpayerEmbedding V)) :=
  if Java.IsBlank tenantId then .error "tenantId must not be blank"
  else if limit ≤ 0 then .error ("limit must be positive, was " ++ toString limit)
  else
    let id := Table.rowId nameUUIDFromBytes tenantId taxpayerId
    match table.rows.get? id with
    | none => .error ("taxpayer " ++ taxpayerId ++ " has no stored embedding for tenant "
        ++ tenantId ++ " - POST /api/v1/taxpayers/" ++ taxpayerId ++ "/embedding first")
    | some self =>
      (findNearest S table tenantId self.embedding (limit + 1)).map fun nearest =>
        let neighbours := nearest.filter fun f => f.1 ≠ id
        if limit.toInt.toNat < neighbours.length then neighbours.take limit.toInt.toNat
        else neighbours

/-- Upper bound on `limit`: a caller must not be able to ask for the whole tenant. -/
def MAX_LIMIT : Int32 := 50

/-- An answer of the controller. -/
inductive Response
  | badRequest
  | notFound
  | ok (id tenant : String) (neighbours : List String)
  deriving DecidableEq, Repr

/-- **`similar`**, of the controller. -/
def similar (table : Stored V) (claim : Option String) (id : String) (limit : Int32) : Response :=
  if limit ≤ 0 ∨ MAX_LIMIT < limit then .badRequest
  else match findSimilar S nameUUIDFromBytes table id (tenantOf claim) limit with
    | .ok neighbours => .ok id (tenantOf claim) (neighbours.map Prod.fst)
    | .error _ => .notFound

/-! ## The property -/

/-- The rows of a tenant but one. -/
def others (table : Stored V) (tenantId id : String) : Dict String (TaxpayerEmbedding V) :=
  table.rows.filter fun f => f.2.tenantId = tenantId ∧ f.1 ≠ id

/-- **The search is exact**: it returns rows of the tenant, and not the taxpayer's own, as many as
there are up to the limit, in order of their distance, and none nearer is left out. -/
structure Exact (table : Stored V) (tenantId id : String) (query : V) (limit : Int32)
    (neighbours : Dict String (TaxpayerEmbedding V)) : Prop where
  tenant : ∀ f ∈ neighbours, f ∈ table.rows ∧ f.2.tenantId = tenantId
  not_self : ∀ f ∈ neighbours, f.1 ≠ id
  distinct : Dict.Nodup neighbours
  count : (neighbours.length : ℤ) = min limit.toInt (others table tenantId id).length
  sorted : neighbours.Pairwise fun f g => S.from query f ≤ S.from query g
  left_out : ∀ f ∈ neighbours, ∀ g ∈ others table tenantId id, g ∉ neighbours →
    S.from query f ≤ S.from query g

variable {S nameUUIDFromBytes} {table : Stored V} {tenantId id : String} {query : V}

theorem ordered_perm : (ordered S table tenantId query).Perm
    (table.rows.filter fun f => f.2.tenantId = tenantId) :=
  (List.perm_insertionSort _ _).trans ((S.scan_perm _).filter _)

theorem ordered_sorted : (ordered S table tenantId query).Pairwise
    fun f g => S.from query f ≤ S.from query g :=
  List.pairwise_insertionSort _ _

/-- **One row at most has an id.** -/
theorem length_filter_id_le (id : String) :
    ((ordered S table tenantId query).filter fun f => !decide (f.1 ≠ id)).length ≤ 1 := by
  have hkeys : Dict.Nodup (ordered S table tenantId query) :=
    (ordered_perm.map Prod.fst).nodup_iff.mpr (table.unique.sublist (List.filter_sublist.map _))
  have hown : (((ordered S table tenantId query).filter fun f => !decide (f.1 ≠ id)).map
      Prod.fst).Nodup := hkeys.sublist (List.filter_sublist.map _)
  have hall : ∀ i ∈ ((ordered S table tenantId query).filter fun f => !decide (f.1 ≠ id)).map
      Prod.fst, i = id := by
    intro i hi
    obtain ⟨f, hf, rfl⟩ := List.mem_map.mp hi
    simpa using (List.mem_filter.mp hf).2
  rw [List.eq_replicate_of_mem hall, List.nodup_replicate, List.length_map] at hown
  exact hown

/-! ## The limit -/

/-- The successor of a positive limit is positive, but for the largest. -/
theorem succ_le_zero_iff {limit : Int32} (h : 0 < limit) : limit + 1 ≤ 0 ↔ limit = 2147483647 := by
  rw [Int32.lt_iff_toInt_lt] at h
  rw [Int32.le_iff_toInt_le, Int32.toInt_add, ← Int32.toInt_inj]
  have hlt := limit.toInt_lt
  simp only [Int32.reduceToInt, Int.bmod_def] at *
  omega

theorem toNat_succ {limit : Int32} (h : 0 < limit) (hmax : limit ≠ 2147483647) :
    (limit + 1).toInt.toNat = limit.toInt.toNat + 1 := by
  rw [Int32.lt_iff_toInt_lt] at h
  rw [ne_eq, ← Int32.toInt_inj] at hmax
  rw [Int32.toInt_add]
  have hlt := limit.toInt_lt
  simp only [Int32.reduceToInt, Int.bmod_def] at *
  omega

/-! ## What is found -/

/-- **What a search returns**: the first of the tenant's other rows, if the limit has a
successor. -/
theorem findSimilar_eq {taxpayerId : String} {limit : Int32} {self : TaxpayerEmbedding V}
    (htenant : ¬ Java.IsBlank tenantId) (hlimit : 0 < limit)
    (hself : table.rows.get? (Table.rowId nameUUIDFromBytes tenantId taxpayerId) = some self) :
    findSimilar S nameUUIDFromBytes table taxpayerId tenantId limit
      = if limit = 2147483647 then .error "limit must be positive, was -2147483648"
        else .ok (((ordered S table tenantId self.embedding).filter fun f =>
          f.1 ≠ Table.rowId nameUUIDFromBytes tenantId taxpayerId).take limit.toInt.toNat) := by
  have hpos : ¬ limit ≤ 0 := Int32.not_le.mpr hlimit
  rw [findSimilar, if_neg htenant, if_neg hpos]
  simp only [hself, findNearest, if_neg htenant, succ_le_zero_iff hlimit]
  split_ifs with hmax
  · rw [hmax]
    rfl
  · rw [Except.map, toNat_succ hlimit hmax, ← take_filter_take (length_filter_id_le _)]
    congr 1
    split_ifs with hlength
    · rfl
    · exact (List.take_of_length_le (not_lt.mp hlength)).symm

/-- The tenant's other rows, in the order of the search. -/
theorem filter_ordered_perm :
    ((ordered S table tenantId query).filter fun f => f.1 ≠ id).Perm
      (others table tenantId id) := by
  refine (ordered_perm.filter _).trans (List.Perm.of_eq ?_)
  rw [others, List.filter_filter]
  exact List.filter_congr fun f _ => by simp [Bool.and_comm]

/-- **The first of them are exact.** -/
theorem exact_take {limit : Int32} (hlimit : 0 < limit) : Exact S table tenantId id query limit
    (((ordered S table tenantId query).filter fun f => f.1 ≠ id).take limit.toInt.toNat) := by
  have hsorted : ((ordered S table tenantId query).filter fun f => f.1 ≠ id).Pairwise
      fun f g => S.from query f ≤ S.from query g := ordered_sorted.sublist List.filter_sublist
  have hnearest := nearest_take filter_ordered_perm hsorted limit.toInt.toNat
  have hothers := hnearest.subperm.subset
  refine ⟨fun f hf => ?_, fun f hf => ?_, ?_, ?_, hnearest.sorted, hnearest.left_out⟩
  · have hmem := List.mem_filter.mp (hothers hf)
    exact ⟨hmem.1, (of_decide_eq_true hmem.2).1⟩
  · exact (of_decide_eq_true (List.mem_filter.mp (hothers hf)).2).2
  · have hkeys : Dict.Nodup (others table tenantId id) :=
      table.unique.sublist (List.filter_sublist.map _)
    obtain ⟨m, hperm, hsub⟩ := hnearest.subperm
    exact (hperm.map Prod.fst).nodup_iff.mp (hkeys.sublist (hsub.map Prod.fst))
  · rw [hnearest.length]
    rw [Int32.lt_iff_toInt_lt] at hlimit
    simp only [Int32.reduceToInt] at hlimit
    omega

/-- **The search is exact** exactly if the limit has a successor. -/
theorem findSimilar_iff (S : Search V K) (nameUUIDFromBytes : ByteArray → String)
    (table : Stored V) (taxpayerId tenantId : String) (limit : Int32) (self : TaxpayerEmbedding V)
    (htenant : ¬ Java.IsBlank tenantId) (hlimit : 0 < limit)
    (hself : table.rows.get? (Table.rowId nameUUIDFromBytes tenantId taxpayerId) = some self) :
    (∃ neighbours, findSimilar S nameUUIDFromBytes table taxpayerId tenantId limit = .ok neighbours
        ∧ Exact S table tenantId (Table.rowId nameUUIDFromBytes tenantId taxpayerId) self.embedding
          limit neighbours)
      ↔ limit < 2147483647 := by
  rw [findSimilar_eq htenant hlimit hself]
  have hmax : limit < 2147483647 ↔ limit ≠ 2147483647 := by
    have hle := limit.toInt_lt
    rw [Int32.lt_iff_toInt_lt, ne_eq, ← Int32.toInt_inj]
    simp only [Int32.reduceToInt]
    omega
  rw [hmax]
  split_ifs with h
  · exact iff_of_false (fun ⟨_, herror, _⟩ => nomatch herror) (not_not.mpr h)
  · exact iff_of_true ⟨_, rfl, exact_take hlimit⟩ h

/-- A limit the controller lets through has a successor. -/
theorem lt_of_le_MAX_LIMIT {limit : Int32} (h : limit ≤ MAX_LIMIT) : limit < 2147483647 :=
  Int32.lt_of_le_of_lt h (by decide)

/-- **What the controller answers with**: refused limits, taxpayers without a row, and the rows a
search finds. -/
theorem similar_eq (claim : Option String) (taxpayerId : String) (limit : Int32) :
    similar S nameUUIDFromBytes table claim taxpayerId limit
      = if limit ≤ 0 ∨ MAX_LIMIT < limit then .badRequest
        else match table.rows.get? (Table.rowId nameUUIDFromBytes (tenantOf claim) taxpayerId) with
          | none => .notFound
          | some self => .ok taxpayerId (tenantOf claim)
            ((((ordered S table (tenantOf claim) self.embedding).filter fun f =>
              f.1 ≠ Table.rowId nameUUIDFromBytes (tenantOf claim) taxpayerId).take
                limit.toInt.toNat).map Prod.fst) := by
  unfold similar
  split
  · rfl
  · next hallowed =>
    obtain ⟨hpos, hmax⟩ := not_or.mp hallowed
    have htenant := Table.tenantOf_notBlank claim
    cases hself : table.rows.get? (Table.rowId nameUUIDFromBytes (tenantOf claim) taxpayerId) with
    | none => simp only [findSimilar, if_neg htenant, if_neg hpos, hself]
    | some self =>
      have hlt := lt_of_le_MAX_LIMIT (Int32.not_lt.mp hmax)
      have hne : limit ≠ 2147483647 := by
        rintro rfl
        exact absurd hlt (by decide)
      rw [findSimilar_eq htenant (Int32.not_le.mp hpos) hself, if_neg hne]

/-- **A search is exact** for every limit the controller lets through. -/
theorem findSimilar_exact (S : Search V K) (nameUUIDFromBytes : ByteArray → String)
    (table : Stored V) (taxpayerId tenantId : String) (limit : Int32) (self : TaxpayerEmbedding V)
    (htenant : ¬ Java.IsBlank tenantId) (hlimit : 0 < limit) (hmax : limit ≤ MAX_LIMIT)
    (hself : table.rows.get? (Table.rowId nameUUIDFromBytes tenantId taxpayerId) = some self) :
    ∃ neighbours, findSimilar S nameUUIDFromBytes table taxpayerId tenantId limit = .ok neighbours
      ∧ Exact S table tenantId (Table.rowId nameUUIDFromBytes tenantId taxpayerId) self.embedding
        limit neighbours :=
  (findSimilar_iff S nameUUIDFromBytes table taxpayerId tenantId limit self htenant hlimit
    hself).mpr (lt_of_le_MAX_LIMIT hmax)

/-- Distances on a line, the rows read as they stand. -/
def docsSearch : Search ℤ ℤ := ⟨fun x y => |x - y|, fun rows => rows, .refl⟩

/-- A taxpayer, one whose vector is the same, and one of another tenant. -/
def docsTable : Stored ℤ where
  rows := [("e5bad2be-e90d-3a0d-8cb2-0d527b3a1297", ⟨"shared", 7, "taxpayer-002"⟩),
    ("3e96242e-b3e6-3284-8258-024b1c0c9a5e", ⟨"shared", 7, "taxpayer-001"⟩),
    ("9cb01c7b-7157-3cd8-8513-df460d90a625", ⟨"a", 7, "tp-1"⟩)]
  unique := by unfold Dict.Nodup; decide

/-- The UUID of the row of `shared` and `taxpayer-001`. -/
def docsRowId (_ : ByteArray) : String := "3e96242e-b3e6-3284-8258-024b1c0c9a5e"

theorem findSimilar_docs : ∃ neighbours,
    findSimilar docsSearch docsRowId docsTable "taxpayer-001" "shared" 5 = .ok neighbours
      ∧ Exact docsSearch docsTable "shared" "3e96242e-b3e6-3284-8258-024b1c0c9a5e" 7 5 neighbours :=
  findSimilar_exact docsSearch docsRowId docsTable "taxpayer-001" "shared" 5
    ⟨"shared", 7, "taxpayer-001"⟩ (by decide) (by decide) (by decide) (by decide)

/-! ## The tables of the ingests -/

variable {documents : String → Option ReadModel.TaxpayerReadModel} {embed : String → V}

/-- The rows of a table, listed. -/
def Lists (s : Table V) (table : Stored V) : Prop := ∀ id, table.rows.get? id = s.rows id

theorem rows_save (s : Table V) (id : String) (row : TaxpayerEmbedding V) (id' : String) :
    (s.save id row).rows id' = if id = id' then some row else s.rows id' :=
  (Function.update_apply _ _ _ _).trans (if_congr eq_comm rfl rfl)

/-- **Every table the ingests leave is listed**: an upsert sets a row under its id. -/
theorem exists_lists {requests : List Table.Request} {s : Table V}
    (h : exec (Table.step documents embed nameUUIDFromBytes) Table.start requests = some s) :
    ∃ table, Lists s table := by
  refine exec_invariant (I := fun s => ∃ table, Lists s table) ?_
    ⟨⟨[], List.nodup_nil⟩, fun _ => rfl⟩ h
  rintro s e s' ⟨table, htable⟩ hs
  have hsave : ∀ id row, ∃ table', Lists (s.save id row) table' := fun id row => by
    refine ⟨⟨table.rows.set id row, table.unique.set id row⟩, fun id' => ?_⟩
    rw [Dict.get?_set, htable, rows_save]
  cases e with
  | similar claim id limit =>
    cases hs
    exact ⟨table, htable⟩
  | ingest claim id answers =>
    rw [Table.step] at hs
    split at hs
    · cases hs
      exact hsave _ _
    · cases hs
      exact ⟨table, htable⟩

/-- **A taxpayer just ingested is found**, whatever the table was. -/
theorem get?_of_ingest {s s' : Table V} {claim : Option String} {taxpayerId : String}
    {taxpayer : ReadModel.TaxpayerReadModel} (htaxpayer : documents taxpayerId = some taxpayer)
    (hs : Table.step documents embed nameUUIDFromBytes s (.ingest claim taxpayerId true) = some s')
    {table : Stored V} (hlists : Lists s' table) :
    table.rows.get? (Table.rowId nameUUIDFromBytes (tenantOf claim) taxpayerId)
      = some ⟨tenantOf claim, embed (embeddableText taxpayer), taxpayerId⟩ := by
  simp only [Table.step_ingest, htaxpayer, if_true, Option.some.injEq] at hs
  rw [hlists, ← hs, rows_save, if_pos rfl]

end Embeddings
