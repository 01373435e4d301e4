import TaxLiability.Agent.ChunkIds
import TaxLiability.Rag.Cohere

/-!
# Agent/ShapeDocs — the pipeline's citations, as the documents of the state

    citations ──first top_k──▸ objects ──str──▸ chunk_id ──doc_id_of──▸ doc_id
                                       ──or 0.0, float──▸ score

What is no list is no citations, what is no object is passed over, and a field that is missing has a
default.  A field that is there is converted, and nothing catches what the conversion raises: one
score that is no number, or one id that cannot be printed, takes all the documents with it
(`shape_docs_iff`).
-/

open Machine

namespace Agent.ShapeDocs

open Rag.Cohere

/-! ## The shaping -/

mutual

/-- **What keeps a value from being printed**: an integer of too many digits, or what lies deeper in
it than the recursion limit lets `repr` go. -/
def checkRepr (levels : ℕ) : Json → Except ReadError Unit
  | .int n =>
    if (Nat.toDigits 10 n.natAbs).length ≤ MAX_STR_DIGITS then .ok () else .error .valueError
  | .arr xs => checkElems levels xs
  | .obj fields => checkValues levels fields
  | .null | .bool _ | .float _ | .str _ => .ok ()

/-- …among the elements of a list, each a level down. -/
def checkElems (levels : ℕ) : List Json → Except ReadError Unit
  | [] => .ok ()
  | x :: xs =>
    (if levels = 0 then .error .recursionError else checkRepr (levels - 1) x).bind fun _ =>
      checkElems levels xs

/-- …and among the values of an object. -/
def checkValues (levels : ℕ) : List (String × Json) → Except ReadError Unit
  | [] => .ok ()
  | (_, x) :: fields =>
    (if levels = 0 then .error .recursionError else checkRepr (levels - 1) x).bind fun _ =>
      checkValues levels fields

end

/-- **What is left to the language**: the levels that the recursion limit leaves, and the text of a
list or an object. -/
structure Interpreter where
  levels : ℕ
  repr : Json → String

/-- `str` of a float. -/
def floatText (x : Json.Float) : String :=
  if x.text = "NaN".toList then "nan"
  else if x.text = "Infinity".toList then "inf"
  else if x.text = "-Infinity".toList then "-inf"
  else String.ofList x.text

/-- The text of a value that is printed. -/
def Interpreter.text (I : Interpreter) : Json → String
  | .null => "None"
  | .bool b => if b then "True" else "False"
  | .int n => String.ofList (Json.intText n)
  | .float x => floatText x
  | .str s => s
  | .arr xs => I.repr (.arr xs)
  | .obj fields => I.repr (.obj fields)

/-- **`str`**, of a value. -/
def Interpreter.str (I : Interpreter) (v : Json) : Except ReadError String :=
  (checkRepr I.levels v).map fun _ => I.text v

theorem Interpreter.str_str (I : Interpreter) (s : String) : I.str (.str s) = .ok s := rfl

/-- **A document of the state.** -/
structure Doc where
  chunk_id : String
  doc_id : String
  score : Float64
  deriving DecidableEq

/-- `value or 0.0`. -/
def orZero (v : Json) : Json := if Mcp.truthy v then v else .float Mcp.zeroScore

/-- `item.get("score", 0.0) or 0.0`. -/
def scoreOf (item : Json.Fields) : Json :=
  orZero ((Dict.get? item "score").getD (.float Mcp.zeroScore))

/-- `item.get("chunk_id", "")`. -/
def idOf (item : Json.Fields) : Json := (Dict.get? item "chunk_id").getD (.str "")

/-- What is appended for an item. -/
def shapeItem (I : Interpreter) (item : Json.Fields) : Except ReadError Doc :=
  (I.str (idOf item)).bind fun chunk_id =>
    (pyFloat (scoreOf item)).map fun score => ⟨chunk_id, doc_id_of chunk_id, score⟩

/-- The objects among some values, in order. -/
def objects (raw : List Json) : List Json.Fields :=
  raw.filterMap fun
    | .obj item => some item
    | _ => none

/-- **The items that are shaped**: the objects among the first `top_k` citations. -/
def items (result : Json.Fields) (top_k : ℕ) : List Json.Fields :=
  match (Dict.get? result "citations").getD (.arr []) with
  | .arr raw => objects (raw.take top_k)
  | _ => []

/-- **`shape_docs`**: the items in turn, up to one that raises. -/
def shape_docs (I : Interpreter) (result : Json.Fields) (top_k : ℕ) : Except ReadError (List Doc) :=
  (items result top_k).mapM (shapeItem I)

/-! ## The property and the condition -/

variable {I : Interpreter} {item result : Json.Fields} {doc : Doc} {top_k : ℕ} {v : Json}

/-- **A document is an item's**: its texts and its number are those of the item's fields. -/
structure IsShapeOf (I : Interpreter) (item : Json.Fields) (doc : Doc) : Prop where
  chunk_id : I.str (idOf item) = .ok doc.chunk_id
  doc_id : doc.doc_id = doc_id_of doc.chunk_id
  score : pyFloat (scoreOf item) = .ok doc.score

/-- **The shaping is borne**: it returns, a document for each item, in order. -/
def Tolerated (I : Interpreter) (result : Json.Fields) (top_k : ℕ) : Prop :=
  ∃ docs, shape_docs I result top_k = .ok docs
    ∧ List.Forall₂ (IsShapeOf I) (items result top_k) docs

/-- No integer of too many digits. -/
def Short : Json → Prop
  | .int n => (Nat.toDigits 10 n.natAbs).length ≤ MAX_STR_DIGITS
  | _ => True

/-- **A value that `str` takes**: nothing in it lies too deep, and no integer in it has too many
digits. -/
def Prints (levels : ℕ) (v : Json) : Prop :=
  ∀ d w, Json.Within d v w → d ≤ levels ∧ Short w

/-- **A score that `float` takes**, or that is nothing: an integer in the range of the floats, a
text of a number, no list or object that holds something. -/
def Scores : Json → Prop
  | .int n => |(n : ℚ)| < Float64.limit
  | .str s => s = "" ∨ Mcp.Numeric.readFloat s.toList ≠ none
  | .arr xs => xs = []
  | .obj fields => fields = []
  | _ => True

/-- **An item that can be shaped**: each field is missing, or can be converted. -/
structure Shapeable (I : Interpreter) (item : Json.Fields) : Prop where
  chunk_id : ∀ v, Dict.get? item "chunk_id" = some v → Prints I.levels v
  score : ∀ v, Dict.get? item "score" = some v → Scores v

/-! ## What `str` takes -/

theorem checkElems_eq_ok {levels : ℕ} {xs : List Json} : checkElems levels xs = .ok () ↔
    ∀ x ∈ xs, 0 < levels ∧ checkRepr (levels - 1) x = .ok () := by
  induction xs with
  | nil => exact iff_of_true rfl (List.forall_mem_nil _)
  | cons x xs ih =>
    rw [checkElems, bind_eq_ok, List.forall_mem_cons, ← ih, Nat.pos_iff_ne_zero, Unique.exists_iff]
    split_ifs with h <;> simp [h]

theorem checkValues_eq {levels : ℕ} {fields : List (String × Json)} :
    checkValues levels fields = checkElems levels (fields.map Prod.snd) := by
  induction fields with
  | nil => rfl
  | cons f fields ih => rw [checkValues, ih, List.map_cons, checkElems]

/-- **A value passes** if it is no integer of too many digits and what is directly in it passes, a
level down. -/
theorem checkRepr_eq_ok {levels : ℕ} : checkRepr levels v = .ok () ↔
    Short v ∧ ∀ x ∈ v.children, 0 < levels ∧ checkRepr (levels - 1) x = .ok () := by
  cases v with
  | int n =>
    rw [checkRepr, Short]
    split_ifs with h <;> simp [h, Json.children]
  | arr xs =>
    rw [checkRepr, checkElems_eq_ok, Json.children]
    exact (and_iff_right trivial).symm
  | obj fields =>
    rw [checkRepr, checkValues_eq, checkElems_eq_ok, Json.children]
    exact (and_iff_right trivial).symm
  | _ => simp [checkRepr, Short, Json.children]

theorem prints_iff {levels : ℕ} : Prints levels v ↔
    Short v ∧ ∀ x ∈ v.children, 0 < levels ∧ Prints (levels - 1) x := by
  rw [Prints, Json.forall_within_iff]
  refine and_congr (and_iff_right (Nat.zero_le _)) (forall₂_congr fun x _ => ?_)
  constructor
  · intro h
    have hpos : 0 < levels := (h 0 x (.self x)).1
    exact ⟨hpos, fun d w hw => ⟨Nat.le_sub_one_of_lt (h d w hw).1, (h d w hw).2⟩⟩
  · rintro ⟨hpos, h⟩ d w hw
    exact ⟨(Nat.le_sub_one_iff_lt hpos).mp (h d w hw).1, (h d w hw).2⟩

/-- **What is checked is that a value prints**, whatever it holds. -/
theorem checkRepr_iff (levels : ℕ) (v : Json) : checkRepr levels v = .ok () ↔ Prints levels v := by
  rw [checkRepr_eq_ok, prints_iff]
  exact and_congr_right' (forall₂_congr fun x hx =>
    and_congr_right' (checkRepr_iff (levels - 1) x))
termination_by sizeOf v
decreasing_by exact Json.sizeOf_lt_of_mem_children hx

theorem exists_str_iff : (∃ s, I.str v = .ok s) ↔ Prints I.levels v := by
  rw [← checkRepr_iff, Interpreter.str]
  cases checkRepr I.levels v <;> simp [Except.map]

theorem prints_str {levels : ℕ} {s : String} : Prints levels (.str s) :=
  prints_iff.mpr ⟨trivial, List.forall_mem_nil _⟩

/-! ## What `float` takes -/

/-- An integer is a float below the limit. -/
theorem exists_pyFloat_int_iff {n : ℤ} :
    (∃ x, pyFloat (.int n) = .ok x) ↔ |(n : ℚ)| < Float64.limit := by
  rw [← Float64.abs_round_lt_iff, pyFloat_int, Mcp.Numeric.floatOfInt]
  split_ifs with h <;> simp [Except.mapError, h]

/-- A text is a float if it reads as one. -/
theorem exists_pyFloat_str_iff {s : String} :
    (∃ x, pyFloat (.str s) = .ok x) ↔ Mcp.Numeric.readFloat s.toList ≠ none := by
  rw [pyFloat_str, Mcp.Numeric.floatOfStr]
  rcases Mcp.Numeric.readFloat s.toList with _ | (_ | _ | _) <;> simp [Except.mapError]

/-- What is taken for false is zero. -/
theorem pyFloat_orZero_of_not (h : Mcp.truthy v = false) : ∃ x, pyFloat (orZero v) = .ok x := by
  rw [orZero, if_neg (by simp [h])]
  exact ⟨_, rfl⟩

theorem orZero_of_truthy (h : Mcp.truthy v = true) : orZero v = v := if_pos h

/-- **A score is converted** exactly if `float` takes it, or it is nothing. -/
theorem exists_pyFloat_orZero_iff : (∃ x, pyFloat (orZero v) = .ok x) ↔ Scores v := by
  cases htruthy : Mcp.truthy v with
  | false =>
    refine iff_of_true (pyFloat_orZero_of_not htruthy) ?_
    cases v with
    | int n =>
      obtain rfl : n = 0 := by simpa [Mcp.truthy] using htruthy
      rw [Scores, Int.cast_zero, abs_zero]
      exact zero_lt_one.trans Float64.one_lt_limit
    | str s => exact .inl (by simpa [Mcp.truthy] using htruthy)
    | arr xs => simpa [Mcp.truthy, Scores] using htruthy
    | obj fields => simpa [Mcp.truthy, Scores] using htruthy
    | _ => trivial
  | true =>
    rw [orZero_of_truthy htruthy]
    cases v with
    | null => cases htruthy
    | bool b => exact iff_of_true ⟨_, rfl⟩ trivial
    | int n => exact exists_pyFloat_int_iff
    | float x => exact iff_of_true ⟨_, rfl⟩ trivial
    | str s =>
      have hne : s ≠ "" := by simpa [Mcp.truthy] using htruthy
      rw [exists_pyFloat_str_iff, Scores, or_iff_right hne]
    | arr xs =>
      have hne : xs ≠ [] := by simpa [Mcp.truthy] using htruthy
      exact iff_of_false (fun hx => by cases hx.choose_spec) hne
    | obj fields =>
      have hne : fields ≠ [] := by simpa [Mcp.truthy] using htruthy
      exact iff_of_false (fun hx => by cases hx.choose_spec) hne

/-! ## One item -/

/-- **What is made of an item** has its texts and its number. -/
theorem shapeItem_eq_ok : shapeItem I item = .ok doc ↔ IsShapeOf I item doc := by
  rw [shapeItem, bind_eq_ok]
  constructor
  · rintro ⟨chunk_id, hid, hdoc⟩
    obtain ⟨score, hscore, rfl⟩ := map_eq_ok.mp hdoc
    exact ⟨hid, rfl, hscore⟩
  · rintro ⟨hid, hdoc, hscore⟩
    refine ⟨doc.chunk_id, hid, map_eq_ok.mpr ⟨doc.score, hscore, ?_⟩⟩
    rw [← hdoc]

/-- A field with a default can be converted if it can be where it is there. -/
theorem forall_get?_iff_getD {P : Json → Prop} {key : String} {v : Json} (hdefault : P v) :
    P ((Dict.get? item key).getD v) ↔ ∀ w, Dict.get? item key = some w → P w := by
  cases Dict.get? item key with
  | none => simpa using hdefault
  | some w => simp

/-- **An item is shaped** exactly if each of its fields can be converted. -/
theorem exists_shapeItem_iff : (∃ doc, shapeItem I item = .ok doc) ↔ Shapeable I item := by
  have hid : (∃ s, I.str (idOf item) = .ok s)
      ↔ ∀ v, Dict.get? item "chunk_id" = some v → Prints I.levels v :=
    exists_str_iff.trans (forall_get?_iff_getD prints_str)
  have hscore : (∃ x, pyFloat (scoreOf item) = .ok x)
      ↔ ∀ v, Dict.get? item "score" = some v → Scores v :=
    exists_pyFloat_orZero_iff.trans (forall_get?_iff_getD trivial)
  constructor
  · rintro ⟨doc, hdoc⟩
    obtain ⟨hprints, -, hscores⟩ := shapeItem_eq_ok.mp hdoc
    exact ⟨hid.mp ⟨_, hprints⟩, hscore.mp ⟨_, hscores⟩⟩
  · rintro ⟨hprints, hscores⟩
    obtain ⟨chunk_id, hprints⟩ := hid.mpr hprints
    obtain ⟨score, hscores⟩ := hscore.mpr hscores
    exact ⟨⟨chunk_id, doc_id_of chunk_id, score⟩, shapeItem_eq_ok.mpr ⟨hprints, rfl, hscores⟩⟩

/-! ## All of them -/

/-- **A shaping that returns has shaped each item**, in order. -/
theorem shape_docs_eq_ok {docs : List Doc} : shape_docs I result top_k = .ok docs ↔
    List.Forall₂ (IsShapeOf I) (items result top_k) docs := by
  simp only [shape_docs, mapM_eq_ok_iff, shapeItem_eq_ok]

theorem length_items_le : (items result top_k).length ≤ top_k := by
  rw [items]
  split
  · exact (List.length_filterMap_le _ _).trans (List.length_take_le _ _)
  · exact Nat.zero_le _

/-- No more documents are kept than were asked for. -/
theorem length_shape_docs_le {docs : List Doc} (h : shape_docs I result top_k = .ok docs) :
    docs.length ≤ top_k :=
  (shape_docs_eq_ok.mp h).length_eq ▸ length_items_le

/-- **The shaping is borne** exactly if every item can be shaped. -/
theorem shape_docs_iff (I : Interpreter) (result : Json.Fields) (top_k : ℕ) :
    Tolerated I result top_k ↔ ∀ item ∈ items result top_k, Shapeable I item := by
  simp only [Tolerated, ← shape_docs_eq_ok, and_self, ← exists_shapeItem_iff]
  exact exists_mapM_eq_ok_iff

/-- Two citations, of which one has a text for its score. -/
def docsResult : Json.Fields :=
  [("text", .str "answer"), ("citations", .arr [
    .obj [("chunk_id", .str "chunk-doc-1-p0"), ("score", .int 1)],
    .obj [("chunk_id", .str "chunk-doc-2-p1"), ("score", .str "n/a")]])]

/-- **One score that is no number** raises, and takes the other document with it. -/
theorem shape_docs_docsResult : (∀ I, shape_docs I docsResult 8 = .error .valueError)
    ∧ ¬ ∃ I, Tolerated I docsResult 8 := by
  have hraises : ∀ I, shape_docs I docsResult 8 = .error .valueError := fun I => by
    have hreads : pyFloat (.str "n/a") = .error .valueError := by
      have hnone : Mcp.Numeric.readFloat "n/a".toList = none := by decide
      rw [pyFloat_str, Mcp.Numeric.floatOfStr, hnone]
      rfl
    have hone : Scores (.int 1) := by
      rw [Scores, Int.cast_one, abs_one]
      exact Float64.one_lt_limit
    obtain ⟨doc, hfirst⟩ : ∃ doc,
        shapeItem I [("chunk_id", .str "chunk-doc-1-p0"), ("score", .int 1)] = .ok doc :=
      exists_shapeItem_iff.mpr
        ⟨fun _ hv => Option.some.inj hv ▸ prints_str, fun _ hv => Option.some.inj hv ▸ hone⟩
    have hsecond : shapeItem I [("chunk_id", .str "chunk-doc-2-p1"), ("score", .str "n/a")]
        = .error .valueError := by
      rw [shapeItem, show idOf _ = .str "chunk-doc-2-p1" from rfl, I.str_str,
        show scoreOf _ = .str "n/a" from rfl, hreads]
      rfl
    have hitems : items docsResult 8
        = [[("chunk_id", .str "chunk-doc-1-p0"), ("score", .int 1)],
          [("chunk_id", .str "chunk-doc-2-p1"), ("score", .str "n/a")]] := rfl
    rw [shape_docs, hitems, List.mapM_cons, List.mapM_cons, hfirst, hsecond]
    rfl
  refine ⟨hraises, ?_⟩
  rintro ⟨I, docs, hok, -⟩
  rw [hraises I] at hok
  cases hok

/-! ## The pipeline's own citations -/

/-- **A citation of the pipeline**: a chunk's id, and a float. -/
structure IsChunk (item : Json.Fields) (ref : String × ℕ) : Prop where
  chunk_id : Dict.get? item "chunk_id" = some (.str (Rag.chunk_id_for ref.1 ref.2))
  score : ∃ x, Dict.get? item "score" = some (.float x)

theorem shapeable_of_isChunk {ref : String × ℕ} (h : IsChunk item ref) : Shapeable I item where
  chunk_id v hv := by
    obtain rfl := Option.some.inj (h.chunk_id.symm.trans hv)
    exact prints_str
  score v hv := by
    obtain ⟨x, hx⟩ := h.score
    obtain rfl := Option.some.inj (hx.symm.trans hv)
    trivial

/-- The document as it stands in the state, its score written somehow. -/
def Doc.fields (write : Float64 → Json) (doc : Doc) : Json.Fields :=
  [("chunk_id", .str doc.chunk_id), ("doc_id", .str doc.doc_id), ("score", write doc.score)]

/-- What is shaped of a chunk names it. -/
theorem isOf_of_isChunk {ref : String × ℕ} (write : Float64 → Json) (hchunk : IsChunk item ref)
    (h : IsShapeOf I item doc) : IsOf (doc.fields write) ref := by
  have hid : doc.chunk_id = Rag.chunk_id_for ref.1 ref.2 := by
    have hstr := h.chunk_id
    rw [idOf, hchunk.chunk_id, Option.getD_some, I.str_str] at hstr
    exact (Except.ok.inj hstr).symm
  have hdoc : doc.doc_id = ref.1 := by rw [h.doc_id, hid, doc_id_of_chunk_id]
  exact ⟨congrArg (some ∘ Json.str) hid, congrArg (some ∘ Json.str) hdoc⟩

/-- **What is shaped of chunks** names them, in order. -/
theorem exists_docs_of_chunks {cited : List Json.Fields} {refs : List (String × ℕ)}
    (I : Interpreter) (write : Float64 → Json) (h : List.Forall₂ IsChunk cited refs) :
    ∃ docs, List.Forall₂ (IsShapeOf I) cited docs
      ∧ List.Forall₂ IsOf (docs.map (Doc.fields write)) refs := by
  induction h with
  | nil => exact ⟨[], .nil, .nil⟩
  | cons hchunk _ ih =>
    obtain ⟨doc, hdoc⟩ := exists_shapeItem_iff.mpr (shapeable_of_isChunk (I := I) hchunk)
    have hshape := shapeItem_eq_ok.mp hdoc
    obtain ⟨docs, hdocs, hof⟩ := ih
    exact ⟨doc :: docs, .cons hshape hdocs, .cons (isOf_of_isChunk write hchunk hshape) hof⟩

/-- The items of a list of objects are the first of them. -/
theorem items_of_objects {cited : List Json.Fields}
    (hresult : Dict.get? result "citations" = some (.arr (cited.map .obj))) :
    items result top_k = cited.take top_k := by
  rw [items, hresult, Option.getD_some]
  simp only [objects, ← List.map_take, List.filterMap_map]
  exact List.filterMap_some

/-- **The pipeline's own citations are shaped**, and the chunks are looked up by the keys of the
first of them. -/
theorem shape_docs_of_chunks {V : Type} {L : Rag.Library V} {cited : List Json.Fields}
    {refs : List (String × ℕ)} (write : Float64 → Json)
    (hresult : Dict.get? result "citations" = some (.arr (cited.map .obj)))
    (h : List.Forall₂ IsChunk cited refs) :
    ∃ docs, shape_docs I result top_k = .ok docs
      ∧ contextKeys L (docs.map (Doc.fields write))
        = some ((refs.take top_k).filter (·.1 ≠ "")) := by
  obtain ⟨docs, hdocs, hof⟩ := exists_docs_of_chunks I write (List.forall₂_take top_k h)
  refine ⟨docs, shape_docs_eq_ok.mpr ?_, contextKeys_of_isOf hof⟩
  rwa [items_of_objects hresult]

end Agent.ShapeDocs
