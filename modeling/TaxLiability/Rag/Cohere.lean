import TaxLiability.Mcp.Numeric
import TaxLiability.Rag.Rerank

/-!
# Rag/Cohere — the vendor's answer, from the bytes to the order of the candidates

    post ──┬── timeout, transport, not 2xx ─────────────────▸ as retrieved, flagged
           └── 2xx ──json──▸ body ──rows──▸ (index, score) ──sort, cut──▸ reranked
                  └──────────────┴── of another shape ──▸ raises

What fails before the body is read degrades, and what fails in it is raised; an index may come twice
as long as it is in range.  `soft_iff` says which answers are borne.  The reranker of the pipeline,
which starts from the rows, is this one where they are read as they are here
(`cohere_rerank_asFloat`).
-/

open Mcp.Numeric Rounding

namespace Rag.Cohere

/-! ## What Python makes of the answer's values -/

/-- What reading an answer raises. -/
inductive ReadError
  | attributeError
  | keyError
  | typeError
  /-- a text that is no number, or a body that is no JSON -/
  | valueError
  | overflowError
  | recursionError
  deriving DecidableEq, Repr

/-- Digits that `int` takes of a text. -/
def MAX_STR_DIGITS : ℕ := 4300

/-- **The texts `int` takes.** -/
def readInt (s : List Char) : Option ℤ :=
  let s := ((s.dropWhile isFloatSpace).reverse.dropWhile isFloatSpace).reverse.map
    Decimal.asciiDigit
  if underscoresBetween ' ' s then
    let (negative, digits) := Decimal.takeSign (s.filter (· ≠ '_'))
    if digits ≠ [] ∧ digits.all Char.isDigit ∧ digits.length ≤ MAX_STR_DIGITS then
      some (if negative then -Numeral.val digits else Numeral.val digits)
    else none
  else none

/-- **`int(value)`.** -/
def pyInt : Json → Except ReadError ℤ
  | .bool b => .ok b.toNat
  | .int n => .ok n
  | .float x =>
    match floatValue x with
    | .nan => .error .valueError
    | .infinite _ => .error .overflowError
    | .finite q => .ok (trunc q)
  | .str s => (readInt s.toList).elim (.error .valueError) .ok
  | .null | .arr _ | .obj _ => .error .typeError

/-- **`float(value)`.** -/
def pyFloat : Json → Except ReadError Float64
  | .bool b => .ok (.finite b.toNat)
  | .int n =>
    match floatOfInt n with
    | .ok x => .ok x
    | .error _ => .error .overflowError
  | .float x => .ok (floatValue x)
  | .str s =>
    match floatOfStr s with
    | .ok x => .ok x
    | .error _ => .error .valueError
  | .null | .arr _ | .obj _ => .error .typeError

theorem pyFloat_int (n : ℤ) :
    pyFloat (.int n) = (floatOfInt n).mapError fun _ => .overflowError := by
  -- the function's own equations would evaluate what the integer is rounded to
  delta pyFloat
  dsimp only
  cases floatOfInt n <;> rfl

theorem pyFloat_str (s : String) :
    pyFloat (.str s) = (floatOfStr s).mapError fun _ => .valueError := by
  delta pyFloat
  dsimp only
  cases floatOfStr s <;> rfl

/-- **`value.get(key, default)`.** -/
def get (value : Json) (key : String) (default : Json) : Except ReadError Json :=
  match value with
  | .obj fields => .ok ((Dict.get? fields key).getD default)
  | _ => .error .attributeError

/-- **`value[key]`**, of a value that has a `get`. -/
def getItem (value : Json) (key : String) : Except ReadError Json :=
  match value with
  | .obj fields => (Dict.get? fields key).elim (.error .keyError) .ok
  | _ => .error .typeError

/-- **`iter(value)`**: the elements of a list, the keys of an object, the characters of a text. -/
def iter : Json → Except ReadError (List Json)
  | .arr xs => .ok xs
  | .obj fields => .ok (fields.map fun f => .str f.1)
  | .str s => .ok (s.toList.map fun c => .str (String.singleton c))
  | .null | .bool _ | .int _ | .float _ => .error .typeError

/-! ## The answer -/

/-- **What comes of the request**: an answer has a status, and a body that is JSON or not. -/
inductive Exchange
  | timeoutException
  /-- any other `httpx.HTTPError` -/
  | httpError
  | response (status : ℕ) (json : Except ReadError Json)

/-- `is_success`. -/
def IsSuccess (status : ℕ) : Prop := 200 ≤ status ∧ status < 300

instance (status : ℕ) : Decidable (IsSuccess status) := inferInstanceAs (Decidable (_ ∧ _))

/-- **The rows of an answer**: index and score of each that names one of `n` documents. -/
def readRows (n : ℕ) : List Json → Except ReadError (List (ℤ × Float64))
  | [] => .ok []
  | row :: rows =>
    ((get row "index" (.int (-1))).bind pyInt).bind fun named =>
      -- a row that names a document outside the list is dropped
      if 0 ≤ named ∧ named < n then
        ((getItem row "index").bind pyInt).bind fun index =>
          ((getItem row "relevance_score").bind pyFloat).bind fun score =>
            (readRows n rows).map ((index, score) :: ·)
      else readRows n rows

/-- What is read of a body. -/
def readBody (n : ℕ) (body : Json) : Except ReadError (List (ℤ × Float64)) :=
  ((get body "results" (.arr [])).bind iter).bind (readRows n)

/-- **What is scored**; nothing where the failure is caught. -/
def scored (n : ℕ) : Exchange → Except ReadError (List (ℤ × Float64))
  | .timeoutException | .httpError => .ok []
  | .response status json => if IsSuccess status then json.bind (readBody n) else .ok []

/-- **`list.sort(key=…, reverse=True)`** of scored rows: stable and best first where the scores are
numbers, and some order of the rows where they are not. -/
structure ListSort where
  sort : List (ℤ × Float64) → List (ℤ × Float64)
  perm : ∀ rows, (sort rows).Perm rows
  sorted : ∀ rows : List (ℤ × Float64), (∀ f ∈ rows, f.2 ≠ .nan) →
    sort rows = rows.insertionSort fun f g => f.2.lt g.2 = false

/-- What reranking raises. -/
inductive CohereError
  /-- no credential -/
  | runtimeError
  | reading (e : ReadError)
  deriving DecidableEq, Repr

/-- **The rows to answer with**, best first; none where it falls back. -/
def ranked (S : ListSort) (n top_k : ℕ) (exchange : Exchange) :
    Except ReadError (Option (List (ℤ × Float64))) :=
  (scored n exchange).map fun rows => if rows = [] then none else some ((S.sort rows).take top_k)

/-- The candidate that a row names, with the row's score. -/
def named (candidates : List (Candidate Float64)) (f : ℤ × Float64) :
    Option (Candidate Float64) :=
  (candidates[f.1.toNat]?).map fun c => { c with score := f.2 }

/-- **`cohere_rerank`**: what it returns, the flag included, or raises. -/
def cohere_rerank (S : ListSort) (post : String → List String → ℕ → Exchange)
    (api_key : Option String) (query_text : String) (candidates : List (Candidate Float64))
    (top_k : ℕ) : Except CohereError (List (Candidate Float64) × Bool) :=
  if candidates = [] then .ok ([], false)
  else if api_key.getD "" = "" then .error .runtimeError
  else
    match ranked S candidates.length top_k
        (post query_text (candidates.map Candidate.capped) top_k) with
    | .error e => .error (.reading e)
    | .ok none => .ok (candidates.take top_k, true)
    | .ok (some rows) => .ok (rows.filterMap (named candidates), false)

/-! ## Softness -/

/-- **The exchange has failed**: no answer in time or at all, no success, or no JSON. -/
def Exchange.Failed : Exchange → Prop
  | .timeoutException | .httpError => True
  | .response status json => ¬ IsSuccess status ∨ ∃ e, json = .error e

/-- **A soft outcome**: nothing is raised; at most `top_k` entries are returned; with the flag they
are the first candidates, unaltered, as they are after a failure; without it they are the candidates
at places of their own, with the scores there. -/
structure Soft (S : ListSort) (candidates : List (Candidate Float64)) (top_k : ℕ)
    (exchange : Exchange) (outcome : Except CohereError (List (Candidate Float64) × Bool)) :
    Prop where
  returns : ∃ result, outcome = .ok result
  size : ∀ results flag, outcome = .ok (results, flag) → results.length ≤ top_k
  fallback : ∀ results, outcome = .ok (results, true) → results = candidates.take top_k
  failed : candidates ≠ [] → exchange.Failed → ∃ results, outcome = .ok (results, true)
  places : ∀ results, outcome = .ok (results, false) → candidates ≠ [] →
    ∃ rows, ranked S candidates.length top_k exchange = .ok (some rows)
      ∧ (rows.map Prod.fst).Nodup ∧ results.map some = rows.map (named candidates)

/-- **A row that can be read**: an object whose index is an integer, and whose score is a float if
the index is in range. -/
def RowFits (n : ℕ) (row : Json) : Prop :=
  ∃ fields, row = .obj fields
    ∧ ∃ index, pyInt ((Dict.get? fields "index").getD (.int (-1))) = .ok index
      ∧ (0 ≤ index ∧ index < n →
        ∃ value score, Dict.get? fields "relevance_score" = some value
          ∧ pyFloat value = .ok score)

/-- What a row that can be read says. -/
def rowEntry (n : ℕ) : Json → Option (ℤ × Float64)
  | .obj fields =>
    (pyInt ((Dict.get? fields "index").getD (.int (-1)))).toOption.bind fun index =>
      if 0 ≤ index ∧ index < n then
        ((Dict.get? fields "relevance_score").bind fun value => (pyFloat value).toOption).map
          fun score => (index, score)
      else none
  | _ => none

/-- **A body that can be borne**: an object whose results are rows that can be read, and of the rows
to answer with no two name one candidate. -/
def BodyFits (S : ListSort) (n top_k : ℕ) (body : Json) : Prop :=
  ∃ fields rows, body = .obj fields
    ∧ iter ((Dict.get? fields "results").getD (.arr [])) = .ok rows
    ∧ (∀ row ∈ rows, RowFits n row)
    ∧ (((S.sort (rows.filterMap (rowEntry n))).take top_k).map Prod.fst).Nodup

/-- **An exchange that is borne**: a failure that is caught, or a body that can be. -/
def Exchange.Fits (S : ListSort) (n top_k : ℕ) : Exchange → Prop
  | .timeoutException | .httpError => True
  | .response status json => IsSuccess status → ∃ body, json = .ok body ∧ BodyFits S n top_k body

/-! ## Reading -/

section Reading

variable {n : ℕ} {row : Json} {rows : List Json} {body : Json}

theorem getItem_eq_ok {fields : Json.Fields} {key : String} {v : Json} :
    getItem (.obj fields) key = .ok v ↔ Dict.get? fields key = some v := by
  rw [getItem]
  cases Dict.get? fields key <;> simp

/-- An index in range is one that is there, so it is read again as it was. -/
theorem getItem_index {fields : Json.Fields} {index : ℤ}
    (hindex : pyInt ((Dict.get? fields "index").getD (.int (-1))) = .ok index)
    (hrange : 0 ≤ index) : (getItem (.obj fields) "index").bind pyInt = .ok index := by
  cases hget : Dict.get? fields "index" with
  | some value =>
    rw [hget] at hindex
    exact Machine.bind_eq_ok.mpr ⟨value, getItem_eq_ok.mpr hget, hindex⟩
  | none =>
    rw [hget] at hindex
    cases hindex
    exact absurd hrange (by decide)

/-- What is read of an object in front, by its index. -/
theorem readRows_obj_cons {fields : Json.Fields} {index : ℤ}
    (hindex : pyInt ((Dict.get? fields "index").getD (.int (-1))) = .ok index) :
    readRows n (.obj fields :: rows) = if 0 ≤ index ∧ index < n then
        ((getItem (.obj fields) "relevance_score").bind pyFloat).bind fun score =>
          (readRows n rows).map ((index, score) :: ·)
      else readRows n rows := by
  have hnamed : (get (.obj fields) "index" (.int (-1))).bind pyInt = .ok index := hindex
  rw [readRows, hnamed, Except.bind]
  split_ifs with hrange
  · rw [getItem_index hindex hrange.1, Except.bind]
  · rfl

/-- A row that is read. -/
theorem readRows_cons_eq_ok {l : List (ℤ × Float64)} : readRows n (row :: rows) = .ok l
    ↔ RowFits n row ∧ ∃ rest, readRows n rows = .ok rest
      ∧ l = (rowEntry n row).toList ++ rest := by
  cases row with
  | obj fields =>
    cases hindex : pyInt ((Dict.get? fields "index").getD (.int (-1))) with
    | error e => simp [readRows, get, Except.bind, RowFits, hindex]
    | ok index =>
      rw [readRows_obj_cons hindex]
      simp only [RowFits, rowEntry, hindex, Json.obj.injEq, Except.ok.injEq, exists_eq_left',
        Except.toOption, Option.bind_some]
      split_ifs with hrange
      · simp only [Machine.bind_eq_ok, Machine.map_eq_ok, getItem_eq_ok]
        constructor
        · rintro ⟨score, ⟨value, hvalue, hscore⟩, rest, hrest, rfl⟩
          exact ⟨fun _ => ⟨value, score, hvalue, hscore⟩, rest, hrest, by simp [hvalue, hscore]⟩
        · rintro ⟨hscore, rest, hrest, rfl⟩
          obtain ⟨value, score, hvalue, hscore⟩ := hscore hrange
          exact ⟨score, ⟨value, hvalue, hscore⟩, rest, hrest, by simp [hvalue, hscore]⟩
      · simp [hrange, eq_comm]
  | _ => simp [readRows, get, Except.bind, RowFits]

/-- **Rows are read** exactly if each can be. -/
theorem readRows_eq_ok {l : List (ℤ × Float64)} : readRows n rows = .ok l
    ↔ (∀ row ∈ rows, RowFits n row) ∧ l = rows.filterMap (rowEntry n) := by
  induction rows generalizing l with
  | nil => simp [readRows, eq_comm]
  | cons row rows ih =>
    rw [readRows_cons_eq_ok, List.forall_mem_cons]
    have hcons : (row :: rows).filterMap (rowEntry n)
        = (rowEntry n row).toList ++ rows.filterMap (rowEntry n) := by
      rw [List.filterMap_cons]
      cases rowEntry n row <;> rfl
    rw [hcons]
    constructor
    · rintro ⟨hrow, rest, hrest, rfl⟩
      obtain ⟨hrows, rfl⟩ := ih.mp hrest
      exact ⟨⟨hrow, hrows⟩, rfl⟩
    · rintro ⟨⟨hrow, hrows⟩, rfl⟩
      exact ⟨hrow, _, ih.mpr ⟨hrows, rfl⟩, rfl⟩

/-- An entry names one of the documents. -/
theorem rowEntry_range {f : ℤ × Float64} (h : rowEntry n row = some f) :
    0 ≤ f.1 ∧ f.1 < n := by
  cases row with
  | obj fields =>
    obtain ⟨index, -, hentry⟩ := Option.bind_eq_some_iff.mp h
    split_ifs at hentry with hrange
    obtain ⟨score, -, rfl⟩ := Option.map_eq_some_iff.mp hentry
    exact hrange
  | _ => cases h

/-- **A body is read** exactly if it is an object with rows that can be. -/
theorem readBody_eq_ok {l : List (ℤ × Float64)} : readBody n body = .ok l
    ↔ ∃ fields rows, body = .obj fields
      ∧ iter ((Dict.get? fields "results").getD (.arr [])) = .ok rows
      ∧ (∀ row ∈ rows, RowFits n row) ∧ l = rows.filterMap (rowEntry n) := by
  cases body with
  | obj fields =>
    simp only [readBody, get, Except.bind, Json.obj.injEq]
    cases hiter : iter ((Dict.get? fields "results").getD (.arr [])) with
    | error e => simp [hiter]
    | ok rows =>
      rw [readRows_eq_ok]
      constructor
      · rintro ⟨hrows, rfl⟩
        exact ⟨fields, rows, rfl, hiter, hrows, rfl⟩
      · rintro ⟨_, rows', rfl, hiter', hrows, rfl⟩
        cases hiter.symm.trans hiter'
        exact ⟨hrows, rfl⟩
  | _ => simp [readBody, get, Except.bind]

end Reading

/-! ## What is ranked -/

section Ranked

variable {S : ListSort} {n top_k : ℕ} {exchange : Exchange} {body : Json}

theorem scored_response {status : ℕ} {json : Except ReadError Json} (h : IsSuccess status) :
    scored n (.response status json) = json.bind (readBody n) := if_pos h

theorem scored_response_of_not {status : ℕ} {json : Except ReadError Json}
    (h : ¬ IsSuccess status) : scored n (.response status json) = .ok [] := if_neg h

theorem ranked_of_scored_nil (h : scored n exchange = .ok []) :
    ranked S n top_k exchange = .ok none := by
  rw [ranked, h]
  rfl

/-- **What is ranked has been scored**, sorted and cut. -/
theorem ranked_eq_ok {o : Option (List (ℤ × Float64))} : ranked S n top_k exchange = .ok o ↔
    ∃ rows, scored n exchange = .ok rows
      ∧ (if rows = [] then none else some ((S.sort rows).take top_k)) = o :=
  Machine.map_eq_ok

/-- What is scored is in range. -/
theorem mem_scored {rows : List (ℤ × Float64)} (h : scored n exchange = .ok rows) :
    ∀ f ∈ rows, 0 ≤ f.1 ∧ f.1 < n := by
  intro f hf
  cases exchange with
  | timeoutException => cases h; cases hf
  | httpError => cases h; cases hf
  | response status json =>
    by_cases hstatus : IsSuccess status
    · rw [scored_response hstatus] at h
      obtain ⟨body, rfl, hread⟩ := Machine.bind_eq_ok.mp h
      obtain ⟨fields, values, -, -, -, rfl⟩ := readBody_eq_ok.mp hread
      obtain ⟨row, -, hentry⟩ := List.mem_filterMap.mp hf
      exact rowEntry_range hentry
    · rw [scored_response_of_not hstatus] at h
      cases h
      cases hf

/-- What is ranked names candidates, and no more than asked for. -/
theorem mem_ranked {l : List (ℤ × Float64)} (h : ranked S n top_k exchange = .ok (some l)) :
    l.length ≤ top_k ∧ ∀ f ∈ l, 0 ≤ f.1 ∧ f.1 < n := by
  obtain ⟨rows, hscored, hl⟩ := ranked_eq_ok.mp h
  split_ifs at hl
  cases hl
  exact ⟨List.length_take_le _ _, fun f hf =>
    mem_scored hscored f ((S.perm rows).mem_iff.mp (List.mem_of_mem_take hf))⟩

/-- An exchange that is borne is ranked, by places of their own… -/
theorem ranked_of_fits (h : exchange.Fits S n top_k) :
    ∃ rows, ranked S n top_k exchange = .ok rows
      ∧ ∀ l, rows = some l → (l.map Prod.fst).Nodup := by
  have hnone : ∀ l : List (ℤ × Float64), none = some l → (l.map Prod.fst).Nodup := by
    rintro l ⟨⟩
  cases exchange with
  | timeoutException => exact ⟨none, ranked_of_scored_nil rfl, hnone⟩
  | httpError => exact ⟨none, ranked_of_scored_nil rfl, hnone⟩
  | response status json =>
    by_cases hstatus : IsSuccess status
    · obtain ⟨body, rfl, fields, rows, hbody, hiter, hrows, hnodup⟩ := h hstatus
      have hread : readBody n body = .ok (rows.filterMap (rowEntry n)) :=
        readBody_eq_ok.mpr ⟨fields, rows, hbody, hiter, hrows, rfl⟩
      refine ⟨_, ranked_eq_ok.mpr ⟨_, (scored_response hstatus).trans hread, rfl⟩, fun l hl => ?_⟩
      split_ifs at hl
      cases hl
      exact hnodup
    · exact ⟨none, ranked_of_scored_nil (scored_response_of_not hstatus), hnone⟩

/-- …and one that is ranked by places of their own is borne. -/
theorem fits_of_ranked {rows : Option (List (ℤ × Float64))}
    (h : ranked S n top_k exchange = .ok rows)
    (hnodup : ∀ l, rows = some l → (l.map Prod.fst).Nodup) : exchange.Fits S n top_k := by
  cases exchange with
  | timeoutException => trivial
  | httpError => trivial
  | response status json =>
    intro hstatus
    obtain ⟨l, hscored, hranked⟩ := ranked_eq_ok.mp h
    rw [scored_response hstatus] at hscored
    obtain ⟨body, rfl, hread⟩ := Machine.bind_eq_ok.mp hscored
    obtain ⟨fields, rows', hbody, hiter, hrows, rfl⟩ := readBody_eq_ok.mp hread
    refine ⟨body, rfl, fields, rows', hbody, hiter, hrows, ?_⟩
    by_cases hempty : rows'.filterMap (rowEntry n) = []
    · have hsort := (S.perm (rows'.filterMap (rowEntry n))).length_eq
      rw [hempty, List.length_nil, List.length_eq_zero_iff] at hsort
      rw [hempty, hsort, List.take_nil]
      exact List.nodup_nil
    · rw [if_neg hempty] at hranked
      exact hnodup _ hranked.symm

/-- A failure is not ranked. -/
theorem ranked_of_failed (h : exchange.Failed) {rows : Option (List (ℤ × Float64))}
    (hranked : ranked S n top_k exchange = .ok rows) : rows = none := by
  cases exchange with
  | timeoutException => cases hranked; rfl
  | httpError => cases hranked; rfl
  | response status json =>
    by_cases hstatus : IsSuccess status
    · obtain ⟨e, rfl⟩ := h.resolve_left (not_not.mpr hstatus)
      obtain ⟨l, hscored, -⟩ := ranked_eq_ok.mp hranked
      rw [scored_response hstatus] at hscored
      cases hscored
    · rw [ranked_of_scored_nil (scored_response_of_not hstatus)] at hranked
      exact (Except.ok.inj hranked).symm

end Ranked

/-! ## What is returned -/

section Returned

variable {S : ListSort} {post : String → List String → ℕ → Exchange} {api_key query_text : String}
  {candidates : List (Candidate Float64)} {top_k : ℕ}

/-- Rows in range name candidates, one each. -/
theorem map_named {rows : List (ℤ × Float64)}
    (h : ∀ f ∈ rows, 0 ≤ f.1 ∧ f.1 < (candidates.length : ℤ)) :
    (rows.filterMap (named candidates)).map some = rows.map (named candidates) := by
  induction rows with
  | nil => rfl
  | cons f rows ih =>
    obtain ⟨hlow, hhigh⟩ := h f List.mem_cons_self
    have hlt : f.1.toNat < candidates.length := by omega
    have hnamed : named candidates f = some { candidates[f.1.toNat] with score := f.2 } := by
      rw [named, List.getElem?_eq_getElem hlt]
      rfl
    rw [List.filterMap_cons_some hnamed, List.map_cons, List.map_cons, hnamed,
      ih fun g hg => h g (List.mem_cons_of_mem f hg)]

/-- What a request with candidates and a credential comes to. -/
theorem cohere_rerank_eq (hne : candidates ≠ []) (hkey : api_key ≠ "") :
    cohere_rerank S post (some api_key) query_text candidates top_k
      = match ranked S candidates.length top_k
          (post query_text (candidates.map Candidate.capped) top_k) with
        | .error e => .error (.reading e)
        | .ok none => .ok (candidates.take top_k, true)
        | .ok (some rows) => .ok (rows.filterMap (named candidates), false) := by
  rw [cohere_rerank, if_neg hne, if_neg (by simpa using hkey)]

/-- Without candidates nothing is asked and nothing is returned. -/
theorem soft_nil {exchange : Exchange} : Soft S ([] : List (Candidate Float64)) top_k exchange
    (.ok ([], false)) where
  returns := ⟨_, rfl⟩
  size := by
    rintro results flag ⟨⟩
    exact Nat.zero_le _
  fallback := by rintro results ⟨⟩
  failed h := absurd rfl h
  places _ _ h := absurd rfl h

/-- A soft outcome is of an exchange that is borne… -/
theorem fits_of_soft (hne : candidates ≠ []) (hkey : api_key ≠ "")
    (hsoft : Soft S candidates top_k (post query_text (candidates.map Candidate.capped) top_k)
      (cohere_rerank S post (some api_key) query_text candidates top_k)) :
    (post query_text (candidates.map Candidate.capped) top_k).Fits S candidates.length top_k := by
  rw [cohere_rerank_eq hne hkey] at hsoft
  generalize post query_text (candidates.map Candidate.capped) top_k = exchange at hsoft ⊢
  cases hranked : ranked S candidates.length top_k exchange with
  | error e =>
    obtain ⟨result, hresult⟩ := hsoft.returns
    rw [hranked] at hresult
    cases hresult
  | ok rows =>
    refine fits_of_ranked hranked ?_
    rintro l rfl
    obtain ⟨rows, hrows, hnodup, -⟩ := hsoft.places _ (by rw [hranked]) hne
    cases hranked.symm.trans hrows
    exact hnodup

/-- …and what comes of one that is borne is soft. -/
theorem soft_of_fits (hne : candidates ≠ []) (hkey : api_key ≠ "")
    (hfits : (post query_text (candidates.map Candidate.capped) top_k).Fits S candidates.length
      top_k) :
    Soft S candidates top_k (post query_text (candidates.map Candidate.capped) top_k)
      (cohere_rerank S post (some api_key) query_text candidates top_k) := by
  rw [cohere_rerank_eq hne hkey]
  generalize post query_text (candidates.map Candidate.capped) top_k = exchange at hfits ⊢
  obtain ⟨rows, hranked, hnodup⟩ := ranked_of_fits hfits
  have hfailed : exchange.Failed → rows = none := fun h => ranked_of_failed h hranked
  rw [hranked]
  cases rows with
  | none =>
    refine ⟨⟨_, rfl⟩, ?_, ?_, fun _ _ => ⟨_, rfl⟩, ?_⟩
    · rintro results flag ⟨⟩
      exact List.length_take_le _ _
    · rintro results ⟨⟩
      rfl
    · rintro results ⟨⟩
  | some l =>
    obtain ⟨hlength, hrange⟩ := mem_ranked hranked
    have hnamed := map_named hrange
    refine ⟨⟨_, rfl⟩, ?_, ?_, fun _ h => absurd (hfailed h) (by simp), ?_⟩
    · rintro results flag ⟨⟩
      have hlen := congrArg List.length hnamed
      rw [List.length_map, List.length_map] at hlen
      exact hlen.trans_le hlength
    · rintro results ⟨⟩
    · rintro results ⟨⟩ -
      exact ⟨l, hranked, hnodup l rfl, hnamed⟩

end Returned

/-- **The vendor reranker degrades softly** exactly if there is nothing to rank, the failure is one
that is caught, or the body is an object whose rows can be read and, as far as they are returned,
name candidates of their own. -/
theorem soft_iff (S : ListSort) (post : String → List String → ℕ → Exchange) {api_key : String}
    (hkey : api_key ≠ "") (query_text : String) (candidates : List (Candidate Float64))
    (top_k : ℕ) :
    Soft S candidates top_k (post query_text (candidates.map Candidate.capped) top_k)
        (cohere_rerank S post (some api_key) query_text candidates top_k)
      ↔ candidates = []
        ∨ (post query_text (candidates.map Candidate.capped) top_k).Fits S candidates.length
          top_k := by
  by_cases hne : candidates = []
  · subst hne
    exact iff_of_true soft_nil (.inl rfl)
  · rw [or_iff_right hne]
    exact ⟨fits_of_soft hne hkey, soft_of_fits hne hkey⟩

/-! ## The pipeline's reranker -/

/-- A candidate whose score is a number, with the float that is. -/
def asFloat (c : Candidate ℚ) : Candidate Float64 := ⟨c.chunk_id, c.chunk_text, .finite c.score⟩

/-- What is raised, as the pipeline tells it apart. -/
def CohereError.raised : CohereError → RerankError
  | .runtimeError => .runtimeError
  | .reading _ => .reading

/-- **The pipeline is given what is read here** of the vendor's answers: the rows in range, with
scores that are numbers, or an error where one is raised. -/
def Reads (post : String → List String → ℕ → Exchange) (B : Rerankers ℚ) : Prop :=
  ∀ query documents top_n,
    (scored documents.length (post query documents top_n)).mapError (fun _ => .reading)
      = (B.exchange query documents top_n).map fun rows =>
        ((rows.getD []).filter fun f => 0 ≤ f.1 ∧ f.1 < (documents.length : ℤ)).map fun f =>
          (f.1, Float64.finite f.2)

theorem sort_finite (S : ListSort) (rows : List (ℤ × ℚ)) :
    S.sort (rows.map fun f => (f.1, Float64.finite f.2))
      = (rows.insertionSort fun f g => g.2 ≤ f.2).map fun f => (f.1, .finite f.2) := by
  have hnumbers : ∀ f ∈ rows.map (fun f => (f.1, Float64.finite f.2)), f.2 ≠ .nan :=
    List.forall_mem_map.mpr fun f _ => nofun
  rw [S.sorted _ hnumbers]
  exact (List.map_insertionSort _ _ _ _ fun f _ g _ => by simp [Float64.lt]).symm

/-- A candidate named among floats is the one named among numbers. -/
theorem named_asFloat (candidates : List (Candidate ℚ)) (f : ℤ × ℚ) :
    named (candidates.map asFloat) (f.1, .finite f.2)
      = ((candidates[f.1.toNat]?).map fun c => c.rescored f.2).map asFloat := by
  rw [named, List.getElem?_map, Option.map_map, Option.map_map]
  rfl

/-- **The pipeline's reranker is this one**, whatever the answer: what it returns, the flag, and
what it raises. -/
theorem cohere_rerank_asFloat (S : ListSort) {post : String → List String → ℕ → Exchange}
    {B : Rerankers ℚ} (hB : Reads post B) (query_text : String) (candidates : List (Candidate ℚ))
    (top_k : ℕ) :
    (cohere_rerank S post B.COHERE_API_KEY query_text (candidates.map asFloat) top_k).mapError
        CohereError.raised
      = (Rag.cohere_rerank B query_text candidates top_k).map fun r => (r.1.map asFloat, r.2) := by
  have hcapped : (candidates.map asFloat).map Candidate.capped
      = candidates.map Candidate.capped := by
    rw [List.map_map]
    rfl
  have hread := hB query_text (candidates.map Candidate.capped) top_k
  rw [List.length_map] at hread
  unfold cohere_rerank Rag.cohere_rerank ranked
  rw [hcapped, List.length_map]
  by_cases hne : candidates = []
  · subst hne
    rfl
  · rw [if_neg hne, if_neg (by simpa using hne)]
    split_ifs with hkey
    · rfl
    · generalize post query_text (candidates.map Candidate.capped) top_k = exchange at hread ⊢
      cases hscored : scored candidates.length exchange with
      | error e =>
        rw [hscored] at hread
        have hexchange := Machine.map_eq_error.mp hread.symm
        rw [hexchange]
        rfl
      | ok l =>
        rw [hscored] at hread
        obtain ⟨rows, hexchange, rfl⟩ := Machine.map_eq_ok.mp hread.symm
        rw [hexchange]
        dsimp only [Except.map]
        generalize (rows.getD []).filter _ = rows
        by_cases hempty : rows = []
        · subst hempty
          simp [Except.mapError, List.map_take]
        · rw [if_neg (by simpa using hempty), if_neg hempty, sort_finite, ← List.map_take]
          have hnamed : (named (candidates.map asFloat)) ∘ (fun f : ℤ × ℚ => (f.1, .finite f.2))
              = fun f => ((candidates[f.1.toNat]?).map fun c => c.rescored f.2).map asFloat :=
            funext (named_asFloat candidates)
          simp only [Except.mapError, List.filterMap_map, List.map_filterMap, hnamed]

/-! ## Some answers -/

/-- A sort that is stable whatever the scores are. -/
def stableSort : ListSort where
  sort rows := rows.insertionSort fun f g => f.2.lt g.2 = false
  perm := List.perm_insertionSort _
  sorted _ _ := rfl

/-- Two candidates. -/
def docsCandidates : List (Candidate Float64) :=
  [⟨"chunk-pub-17-p0", "Standard deduction.", .finite 0⟩,
    ⟨"chunk-pub-17-p1", "Itemized deductions.", .finite 0⟩]

/-- A row that gives a document the score 1. -/
def docsRow (index : ℤ) : Json := .obj [("index", .int index), ("relevance_score", .int 1)]

/-- An answer with such rows. -/
def docsAnswer (indices : List ℤ) : Exchange :=
  .response 200 (.ok (.obj [("results", .arr (indices.map docsRow))]))

theorem docsRow_fits (n : ℕ) (index : ℤ) : RowFits n (docsRow index) :=
  ⟨_, rfl, index, rfl, fun _ => ⟨.int 1, .finite 1, rfl, by decide +kernel⟩⟩

/-- A vendor out of reach is borne, and so is one that answers: the order is then its own. -/
theorem soft_docsAnswer :
    Soft stableSort docsCandidates 2 .timeoutException
        (cohere_rerank stableSort (fun _ _ _ => .timeoutException) (some "key") "Deductions?"
          docsCandidates 2)
      ∧ Soft stableSort docsCandidates 2 (docsAnswer [1, 0])
        (cohere_rerank stableSort (fun _ _ _ => docsAnswer [1, 0]) (some "key") "Deductions?"
          docsCandidates 2)
      ∧ (cohere_rerank stableSort (fun _ _ _ => docsAnswer [1, 0]) (some "key") "Deductions?"
          docsCandidates 2).map (fun r => (r.1.map Candidate.chunk_id, r.2))
        = .ok (["chunk-pub-17-p1", "chunk-pub-17-p0"], false) := by
  have hfits : (docsAnswer [1, 0]).Fits stableSort docsCandidates.length 2 := fun _ =>
    ⟨_, rfl, _, [docsRow 1, docsRow 0], rfl, rfl,
      List.forall_mem_cons.mpr ⟨docsRow_fits 2 1, List.forall_mem_singleton.mpr (docsRow_fits 2 0)⟩,
      by decide +kernel⟩
  exact ⟨(soft_iff stableSort (fun _ _ _ => .timeoutException) (by decide) "Deductions?"
      docsCandidates 2).mpr (.inr trivial),
    (soft_iff stableSort (fun _ _ _ => docsAnswer [1, 0]) (by decide) "Deductions?"
      docsCandidates 2).mpr (.inr hfits), by decide +kernel⟩

/-- **A success without JSON raises**, so does JSON that is no object, and a document named twice is
returned twice. -/
theorem answers_not_soft :
    cohere_rerank stableSort (fun _ _ _ => .response 200 (.error .valueError)) (some "key")
        "Deductions?" docsCandidates 2 = .error (.reading .valueError)
      ∧ cohere_rerank stableSort (fun _ _ _ => .response 200 (.ok (.arr []))) (some "key")
        "Deductions?" docsCandidates 2 = .error (.reading .attributeError)
      ∧ (cohere_rerank stableSort (fun _ _ _ => docsAnswer [0, 0]) (some "key") "Deductions?"
          docsCandidates 2).map (fun r => (r.1.map Candidate.chunk_id, r.2))
        = .ok (["chunk-pub-17-p0", "chunk-pub-17-p0"], false)
      ∧ ¬ ∀ (post : String → List String → ℕ → Exchange),
        Soft stableSort docsCandidates 2
          (post "Deductions?" (docsCandidates.map Candidate.capped) 2)
          (cohere_rerank stableSort post (some "key") "Deductions?" docsCandidates 2) := by
  refine ⟨by decide, by decide, by decide +kernel, fun hall => ?_⟩
  obtain ⟨result, hresult⟩ := (hall fun _ _ _ => .response 200 (.error .valueError)).returns
  cases hresult

end Rag.Cohere
