import TaxLiability.Mcp.Tools
import TaxLiability.Rag.Ingest

/-!
# Agent/ChunkIds — a chunk's id, and what is read off it again

    d, n ──chunk_id_for──▸ chunk-⟨d⟩-p⟨n⟩ ──doc_id_of──▸ d
                                          ──hydrate_contexts──▸ (d, n)

The ordinal has no `p`, so the last `-p` of an id is the one that was put there, whatever the
document's id is made of (`beforeLast_append`).
-/

/-! ## What Python takes for digits -/

namespace Python

/-- The digits of Unicode that are no decimal digits, from a first to a last: superscripts, circled
digits and the like. -/
def OTHER_DIGITS : List (ℕ × ℕ) :=
  [(0xb2, 0xb3), (0xb9, 0xb9), (0x1369, 0x1371), (0x19da, 0x19da), (0x2070, 0x2070),
    (0x2074, 0x2079), (0x2080, 0x2089), (0x2460, 0x2468), (0x2474, 0x247c), (0x2488, 0x2490),
    (0x24ea, 0x24ea), (0x24f5, 0x24fd), (0x24ff, 0x24ff), (0x2776, 0x277e), (0x2780, 0x2788),
    (0x278a, 0x2792), (0x10a40, 0x10a43), (0x10e60, 0x10e68), (0x11052, 0x1105a),
    (0x1f100, 0x1f10a)]

/-- **`str.isdigit`.** -/
def isdigit (s : List Char) : Bool :=
  !s.isEmpty && s.all fun c => (Decimal.asciiDigit c).isDigit
    || OTHER_DIGITS.any fun r => r.1 ≤ c.toNat && c.toNat ≤ r.2

/-- **`int`** of digits, `none` where it raises: a digit that is no decimal digit. -/
def intOfDigits (s : List Char) : Option ℕ :=
  let ascii := s.map Decimal.asciiDigit
  if ascii.all Char.isDigit then some (Numeral.val ascii) else none

end Python

namespace Agent

/-! ## The id taken apart -/

/-- **`doc_id_of`.** -/
def doc_id_of (chunk_id : String) : String :=
  let front := "chunk-".toList
  if front.isPrefixOf chunk_id.toList ∧ (Mcp.beforeLast "-p".toList chunk_id.toList).isSome then
    let rest := chunk_id.toList.drop front.length
    String.ofList ((Mcp.beforeLast "-p".toList rest).getD rest)
  else chunk_id

/-- What stands after the last occurrence of a text, if it occurs. -/
def afterLast (sep s : List Char) : Option (List Char) :=
  (Mcp.beforeLast sep s).map fun before => s.drop (before.length + sep.length)

/-- The ordinal read off an id, 0 where it has none; `none` where `int` raises. -/
def ordinalOf (chunk_id : String) : Option ℕ :=
  match afterLast "-p".toList chunk_id.toList with
  | some tail =>
    if "chunk-".toList.isPrefixOf chunk_id.toList ∧ Python.isdigit tail then
      Python.intOfDigits tail
    else some 0
  | none => some 0

variable {V : Type}

/-- The key the text of a document is looked up by: its id and its ordinal. -/
def contextKey (L : Rag.Library V) (d : Json.Fields) : Option (String × ℕ) :=
  (ordinalOf (Rag.textAt L d "chunk_id" "")).map fun idx => (Rag.textAt L d "doc_id" "", idx)

/-- **The keys of the documents**, those without an id left out. -/
def contextKeys (L : Rag.Library V) (docs : List Json.Fields) : Option (List (String × ℕ)) :=
  (docs.mapM (contextKey L)).map fun keys => keys.filter (·.1 ≠ "")

/-- **`hydrate_contexts`**, with what the corpus holds of some keys, `none` where it is out of
reach. -/
def hydrate_contexts (L : Rag.Library V) (dsn : Option String)
    (fetch : List (String × ℕ) → Option (Dict (String × ℕ) String)) (docs : List Json.Fields) :
    Option (List String) :=
  if dsn.getD "" = "" ∨ docs = [] then some []
  else (contextKeys L docs).map fun keys =>
    if keys = [] then []
    else match fetch keys with
      | some found => keys.filterMap found.get?
      | none => []

/-! ## The last separator -/

theorem beforeLast_eq_none {sep s : List Char} {c : Char} (hsep : c ∈ sep) (h : c ∉ s) :
    Mcp.beforeLast sep s = none := by
  induction s with
  | nil => rfl
  | cons d s ih =>
    have hfront : sep.isPrefixOf (d :: s) = false := by
      by_contra hp
      exact h ((List.isPrefixOf_iff_prefix.mp (by simpa using hp)).subset hsep)
    rw [Mcp.beforeLast, ih fun hs => h (List.mem_cons_of_mem d hs), hfront]
    rfl

/-- **The last `-p`** is the one that no `p` comes after. -/
theorem beforeLast_append (a : List Char) {b : List Char} (hb : 'p' ∉ b) :
    Mcp.beforeLast "-p".toList (a ++ "-p".toList ++ b) = some a := by
  induction a with
  | nil =>
    have hnone : Mcp.beforeLast "-p".toList b = none := beforeLast_eq_none (by simp) hb
    change Mcp.beforeLast ['-', 'p'] ('-' :: 'p' :: b) = some []
    change Mcp.beforeLast ['-', 'p'] b = none at hnone
    simp [Mcp.beforeLast, hnone]
  | cons c a ih =>
    rw [List.cons_append, List.cons_append, Mcp.beforeLast, ih]

theorem afterLast_append (a : List Char) {b : List Char} (hb : 'p' ∉ b) :
    afterLast "-p".toList (a ++ "-p".toList ++ b) = some b := by
  rw [afterLast, beforeLast_append a hb, Option.map_some, ← List.length_append,
    List.drop_left]

/-! ## The round trip -/

theorem toList_chunk_id_for (d : String) (n : ℤ) : (Rag.chunk_id_for d n).toList
    = ("chunk-".toList ++ d.toList) ++ "-p".toList ++ Json.intText n := by
  simp only [Rag.chunk_id_for, String.toList_append, String.toList_ofList]

theorem isPrefixOf_chunk_id_for (d : String) (n : ℤ) :
    "chunk-".toList.isPrefixOf (Rag.chunk_id_for d n).toList := by
  rw [toList_chunk_id_for, List.append_assoc, List.append_assoc]
  exact List.isPrefixOf_iff_prefix.mpr (List.prefix_append _ _)

/-- **The document is read back.** -/
theorem doc_id_of_chunk_id (d : String) (n : ℤ) : doc_id_of (Rag.chunk_id_for d n) = d := by
  have hsome : Mcp.beforeLast "-p".toList (Rag.chunk_id_for d n).toList
      = some ("chunk-".toList ++ d.toList) := by
    rw [toList_chunk_id_for]
    exact beforeLast_append _ (Rag.p_notMem_intText n)
  have hrest : (Rag.chunk_id_for d n).toList.drop "chunk-".toList.length
      = d.toList ++ "-p".toList ++ Json.intText n := by
    rw [toList_chunk_id_for, List.append_assoc, List.append_assoc, List.drop_left,
      List.append_assoc]
  rw [doc_id_of, if_pos ⟨isPrefixOf_chunk_id_for d n, by rw [hsome]; rfl⟩, hrest]
  simp only [beforeLast_append _ (Rag.p_notMem_intText n), Option.getD_some, String.ofList_toList]

/-- **`int` undoes `str`**, by the digits of ASCII. -/
theorem intOfDigits_toDigits (n : ℕ) :
    Python.isdigit (Nat.toDigits 10 n) ∧ Python.intOfDigits (Nat.toDigits 10 n) = some n := by
  have hdigits := Numeral.all_isDigit_toDigits n
  have hself : ∀ c ∈ Nat.toDigits 10 n, Decimal.asciiDigit c = c := fun c hc =>
    Decimal.asciiDigit_of_ascii (Decimal.plain_of_digits hdigits c hc).1
  constructor
  · rw [Python.isdigit, Bool.and_eq_true, List.all_eq_true]
    refine ⟨by simp [Nat.toDigits_ne_nil], fun c hc => ?_⟩
    rw [hself c hc, List.all_eq_true.mp hdigits c hc, Bool.true_or]
  · have hmap : (Nat.toDigits 10 n).map Decimal.asciiDigit = Nat.toDigits 10 n :=
      (List.map_congr_left hself).trans (List.map_id _)
    simp only [Python.intOfDigits, hmap, if_pos hdigits, Nat.ofDigitChars_ten_toDigits]

/-- **The ordinal is read back.** -/
theorem ordinalOf_chunk_id (d : String) (n : ℕ) : ordinalOf (Rag.chunk_id_for d n) = some n := by
  have htail : afterLast "-p".toList (Rag.chunk_id_for d n).toList = some (Nat.toDigits 10 n) := by
    rw [toList_chunk_id_for]
    exact afterLast_append _ (Rag.p_notMem_intText n)
  obtain ⟨hdigit, hint⟩ := intOfDigits_toDigits n
  rw [ordinalOf, htail]
  exact (if_pos ⟨isPrefixOf_chunk_id_for d n, hdigit⟩).trans hint

/-- A document of the state that is one chunk: its id, and the id of the chunk's document. -/
def IsOf (d : Json.Fields) (ref : String × ℕ) : Prop :=
  Dict.get? d "chunk_id" = some (.str (Rag.chunk_id_for ref.1 ref.2))
    ∧ Dict.get? d "doc_id" = some (.str ref.1)

variable {L : Rag.Library V}

theorem contextKey_of_isOf {d : Json.Fields} {ref : String × ℕ} (h : IsOf d ref) :
    contextKey L d = some ref := by
  simp only [contextKey, Rag.textAt, h.1, h.2, Option.map_some, Option.getD_some, L.str_str,
    ordinalOf_chunk_id]

/-- **The chunks are looked up** by their own keys. -/
theorem contextKeys_of_isOf {docs : List Json.Fields} {refs : List (String × ℕ)}
    (h : List.Forall₂ IsOf docs refs) : contextKeys L docs = some (refs.filter (·.1 ≠ "")) := by
  have hmapM : docs.mapM (contextKey L) = some refs :=
    Machine.mapM_eq_some_iff.mpr (h.imp fun _ _ => contextKey_of_isOf)
  rw [contextKeys, hmapM, Option.map_some]

/-- …and their texts are what the corpus holds of these. -/
theorem hydrate_contexts_of_isOf {dsn : String} {docs : List Json.Fields}
    {refs : List (String × ℕ)} {fetch : List (String × ℕ) → Option (Dict (String × ℕ) String)}
    {found : Dict (String × ℕ) String} (hdsn : dsn ≠ "") (h : List.Forall₂ IsOf docs refs)
    (hfetch : fetch (refs.filter (·.1 ≠ "")) = some found) :
    hydrate_contexts L (some dsn) fetch docs
      = some ((refs.filter (·.1 ≠ "")).filterMap found.get?) := by
  rw [hydrate_contexts]
  split_ifs with hnone
  · obtain rfl : docs = [] := hnone.resolve_left hdsn
    obtain rfl : refs = [] := List.forall₂_nil_left_iff.mp h
    rfl
  · rw [contextKeys_of_isOf h, Option.map_some, hfetch]
    split_ifs with hempty
    · rw [hempty]
      rfl
    · rfl

/-! ## The ordinals of a run -/

/-- The ordinal and the id a chunk is stamped with. -/
def stampOf (chunk : Rag.Document) : Option Json × Option Json :=
  (Dict.get? chunk.metadata Rag.CHUNK_ORDINAL_KEY, Dict.get? chunk.metadata Rag.CHUNK_ID_KEY)

/-- A chunk's document and its text, which a stamp leaves as they are. -/
def partOf (L : Rag.Library V) (chunk : Rag.Document) : String × String :=
  (Rag.docIdOf L chunk, chunk.page_content)

/-- The chunks of one document. -/
def chunksOf (L : Rag.Library V) (chunks : List Rag.Document) (doc_id : String) :
    List Rag.Document := chunks.filter fun chunk => Rag.docIdOf L chunk = doc_id

theorem stampOf_stamp (chunk : Rag.Document) (doc_id : String) (ordinal : ℕ) :
    stampOf { chunk with metadata := Rag.stamp chunk.metadata doc_id ordinal }
      = (some (.int ordinal), some (.str (Rag.chunk_id_for doc_id ordinal))) := by
  simp [stampOf, Rag.stamp, Dict.get?_set, Rag.CHUNK_ID_KEY, Rag.CHUNK_ORDINAL_KEY]

theorem docIdOf_stamp (chunk : Rag.Document) (doc_id : String) (ordinal : ℕ) :
    Rag.docIdOf L { chunk with metadata := Rag.stamp chunk.metadata doc_id ordinal } = doc_id := by
  simp [Rag.docIdOf, Rag.textAt, Rag.stamp, Dict.get?_set, Rag.CHUNK_ID_KEY, Rag.CHUNK_ORDINAL_KEY,
    Rag.DOC_ID_KEY, L.str_str]

theorem partOf_stampAll (seen : Dict String ℕ) (chunks : List Rag.Document) :
    (Rag.stampAll L seen chunks).map (partOf L) = chunks.map (partOf L) := by
  induction chunks generalizing seen with
  | nil => rfl
  | cons chunk chunks ih =>
    rw [Rag.stampAll, List.map_cons, List.map_cons, ih, partOf, docIdOf_stamp, partOf]

/-- **The chunks of a document are counted on** from what has been seen of it. -/
theorem stampOf_stampAll (seen : Dict String ℕ) (chunks : List Rag.Document) (doc_id : String) :
    (chunksOf L (Rag.stampAll L seen chunks) doc_id).map stampOf
      = (List.range' (Rag.seenOf seen doc_id) (chunksOf L chunks doc_id).length).map fun i =>
        (some (.int (i : ℤ)), some (.str (Rag.chunk_id_for doc_id i))) := by
  induction chunks generalizing seen with
  | nil => rfl
  | cons chunk chunks ih =>
    have ih := ih (seen.set (Rag.docIdOf L chunk) (Rag.seenOf seen (Rag.docIdOf L chunk) + 1))
    rw [Rag.seenOf_set] at ih
    simp only [chunksOf, Rag.stampAll, List.filter_cons, docIdOf_stamp, decide_eq_true_eq] at ih ⊢
    split_ifs with h
    · rw [if_pos h, h] at ih
      rw [List.map_cons, List.length_cons, List.range'_succ, List.map_cons, h, stampOf_stamp, ih]
    · rw [if_neg h] at ih
      exact ih

/-- The ids of stamped chunks are those of what is offered. -/
theorem chunkId_stampAll (seen : Dict String ℕ) (chunks : List Rag.Document) :
    (Rag.stampAll L seen chunks).map (fun chunk => (stampOf chunk).2)
      = (Rag.offered L seen chunks).map fun c =>
        some (.str (Rag.chunk_id_for c.gateKey.1 c.gateKey.2)) := by
  induction chunks generalizing seen with
  | nil => rfl
  | cons chunk chunks ih =>
    rw [Rag.stampAll, Rag.offered, List.map_cons, List.map_cons, ih, stampOf_stamp]
    rfl

/-- An id tells its document and its ordinal. -/
theorem chunk_id_inj {d d' : String} {n n' : ℤ}
    (h : Rag.chunk_id_for d n = Rag.chunk_id_for d' n') : d = d' ∧ n = n' := by
  have hkeys : Rag.CHUNK_ID_EXPR ⟨d, n, ""⟩ = Rag.CHUNK_ID_EXPR ⟨d', n', ""⟩ := h
  exact Rag.chunkId_inj.mp hkeys

/-- **No two chunks of a run have one id.** -/
theorem nodup_chunkId (chunks : List Rag.Document) :
    ((Rag.stampAll L [] chunks).map fun chunk => (stampOf chunk).2).Nodup := by
  have hinj : Function.Injective fun key : String × ℤ =>
      some (Json.str (Rag.chunk_id_for key.1 key.2)) := fun key key' h => by
    obtain ⟨hdoc, hidx⟩ := chunk_id_inj (Json.str.inj (Option.some.inj h))
    exact Prod.ext hdoc hidx
  have hkeys := (Rag.nodup_offered (L := L) [] chunks).map hinj
  rw [List.map_map] at hkeys
  rw [chunkId_stampAll]
  exact hkeys

/-- **A run of the splitter**: every chunk keeps its document and its text, those of a document are
numbered from 0 in order, and no two have one id. -/
structure Numbered (L : Rag.Library V) (split chunks : List Rag.Document) : Prop where
  parts : chunks.map (partOf L) = split.map (partOf L)
  ordinals : ∀ doc_id, (chunksOf L chunks doc_id).map stampOf
    = (List.range (chunksOf L chunks doc_id).length).map fun i =>
      (some (.int (i : ℤ)), some (.str (Rag.chunk_id_for doc_id i)))
  distinct : (chunks.map fun chunk => (stampOf chunk).2).Nodup

theorem numbered_stampAll (split : List Rag.Document) :
    Numbered L split (Rag.stampAll L [] split) where
  parts := partOf_stampAll [] split
  ordinals doc_id := by
    have h := stampOf_stampAll (L := L) [] split doc_id
    have hlength := congrArg List.length h
    simp only [List.length_map, List.length_range'] at hlength
    rw [h, hlength, List.range_eq_range']
    rfl
  distinct := nodup_chunkId split

/-- **The chunk ids round-trip**: both readers of the document and the reader of the ordinal undo
`chunk_id_for`, which no two chunks share, and a run of `chunk_docs` numbers the chunks of every
document from 0 in order. -/
theorem chunk_id_round_trip (L : Rag.Library V) :
    (∀ (d : String) (n : ℕ), doc_id_of (Rag.chunk_id_for d n) = d
        ∧ Mcp.docIdOf (Rag.chunk_id_for d n) = d ∧ ordinalOf (Rag.chunk_id_for d n) = some n)
      ∧ (∀ docs refs, List.Forall₂ IsOf docs refs
        → contextKeys L docs = some (refs.filter (·.1 ≠ "")))
      ∧ (∀ (d d' : String) (n n' : ℤ),
        Rag.chunk_id_for d n = Rag.chunk_id_for d' n' → d = d' ∧ n = n')
      ∧ ∀ docs chunk_size overlap split_text,
        Rag.make_splitter L chunk_size overlap = .ok split_text
        → ∃ chunks, Rag.chunk_docs L docs chunk_size overlap = .ok chunks
          ∧ Numbered L (Rag.split_documents split_text docs) chunks := by
  refine ⟨fun d n => ⟨doc_id_of_chunk_id d n, doc_id_of_chunk_id d n, ordinalOf_chunk_id d n⟩,
    fun _ _ => contextKeys_of_isOf, fun _ _ _ _ => chunk_id_inj, ?_⟩
  intro docs chunk_size overlap split_text h
  exact ⟨_, by rw [Rag.chunk_docs, h]; rfl, numbered_stampAll _⟩

/-- A library whose splitter cuts at the ends of lines. -/
def docsLibrary : Rag.Library Unit :=
  { Rag.Ingest.docsLibrary with
    split_text := fun _ _ text => (text.toList.splitOn '\n').map String.ofList }

/-- Two documents, one of two lines, and one whose id looks like a chunk's. -/
def docsDocuments : List Rag.Document :=
  [⟨"Standard deduction.\nItemized deductions.", [("doc_id", .str "pub-17")]⟩,
    ⟨"Credits.", [("doc_id", .str "chunk-a-p3")]⟩]

theorem chunk_id_round_trip_docsLibrary :
    ∃ chunks, Rag.chunk_docs docsLibrary docsDocuments 24 4 = .ok chunks
      ∧ Numbered docsLibrary
        (Rag.split_documents (docsLibrary.split_text 24 4) docsDocuments) chunks
      ∧ chunks.map stampOf = [(some (.int 0), some (.str "chunk-pub-17-p0")),
        (some (.int 1), some (.str "chunk-pub-17-p1")),
        (some (.int 0), some (.str "chunk-chunk-a-p3-p0"))]
      ∧ doc_id_of "chunk-chunk-a-p3-p0" = "chunk-a-p3"
      ∧ ordinalOf "chunk-chunk-a-p3-p0" = some 0 := by
  obtain ⟨hread, -, -, hrun⟩ := chunk_id_round_trip docsLibrary
  obtain ⟨chunks, hchunks, hnumbered⟩ := hrun docsDocuments 24 4 _ rfl
  refine ⟨chunks, hchunks, hnumbered, ?_, (hread "chunk-a-p3" 0).1, (hread "chunk-a-p3" 0).2.2⟩
  obtain rfl := Except.ok.inj hchunks
  rfl

end Agent
