import TaxLiability.Machinery.Binary64
import TaxLiability.Mcp.Tools

/-!
# Mcp/Numeric — scores, counts and costs from untyped JSON

    value ──isinstance──▸ float, Decimal ──▸ int
              │               └─ ArithmeticError, ValueError ─▸ 0
              └─ none of them ─▸ 0, or the default

A conversion is caught where it is tried, and two are not: `float` of an integer beyond its range,
and `Decimal` of an object.  What is caught is not what is wrong, either: a negative count and a
float that is no number pass (`Chat.tolerant_iff`).  The tools' own coercions are these, given the
language's conversions (`toScore_eq`, `asTokenCount_eq`).
-/

open Rounding

namespace Mcp.Numeric

/-! ## Exceptions -/

/-- What a conversion raises. -/
inductive NumericError
  | overflowError
  | valueError
  | typeError
  /-- `decimal.InvalidOperation` -/
  | invalidOperation
  /-- `decimal.Overflow` -/
  | decimalOverflow
  deriving DecidableEq, Repr

/-- `except (ArithmeticError, ValueError)`. -/
def NumericError.caught : NumericError → Bool
  | .typeError => false
  | _ => true

/-- **Zero on what is caught.** -/
def orZero : Except NumericError ℤ → Except NumericError ℤ
  | .error e => if e.caught then .ok 0 else .error e
  | .ok n => .ok n

/-! ## Floats -/

/-- The float a JSON number is. -/
def floatValue (x : Json.Float) : Float64 :=
  if x.text = "NaN".toList then .nan
  else if x.text = "Infinity".toList then .infinite false
  else if x.text = "-Infinity".toList then .infinite true
  else ((Decimal.read x.text).map fun d => Float64.nearest d.value).getD .nan

/-- **`float(int)`.** -/
def floatOfInt (n : ℤ) : Except NumericError Float64 :=
  if |binary64.round n| < 2 ^ 1024 then .ok (.finite (binary64.round n))
  else .error .overflowError

/-- The spaces `float` strips: those of C, and the ones beyond ASCII. -/
def isFloatSpace (c : Char) : Bool := Python.isSpace c && !(28 ≤ c.toNat && c.toNat ≤ 31)

/-- Underscores stand between digits only: `prev` is what stands before the text. -/
def underscoresBetween (prev : Char) : List Char → Bool
  | [] => prev != '_'
  | c :: s => (if c = '_' then prev.isDigit else prev != '_' || c.isDigit) && underscoresBetween c s

/-- **What `float` reads a text as**, before it is a float. -/
inductive FloatText
  | nan
  | infinite (negative : Bool)
  | number (q : ℚ)

/-- **The texts `float` takes.** -/
def readFloat (s : List Char) : Option FloatText :=
  let s := ((s.dropWhile isFloatSpace).reverse.dropWhile isFloatSpace).reverse.map
    Decimal.asciiDigit
  if underscoresBetween ' ' s then
    let s := s.filter (· ≠ '_')
    let (negative, body) := Decimal.takeSign s
    let body := body.map Char.toLower
    if body = "inf".toList ∨ body = "infinity".toList then some (.infinite negative)
    else if body = "nan".toList then some .nan
    else (Decimal.read s).map fun d => .number d.value
  else none

/-- **`float(str)`**: a number beyond the range is an infinity. -/
def floatOfStr (s : String) : Except NumericError Float64 :=
  match readFloat s.toList with
  | some .nan => .ok .nan
  | some (.infinite negative) => .ok (.infinite negative)
  | some (.number q) => .ok (Float64.nearest q)
  | none => .error .valueError

/-! ## Decimals -/

/-- **A `Decimal`, by the number it is.** -/
inductive Dec
  | nan (signaling : Bool)
  | infinite (negative : Bool)
  | finite (value : ℚ)

/-- The texts of the decimals that are no numbers. -/
def readSpecial (s : List Char) : Option Dec :=
  let (negative, body) := Decimal.takeSign
    (((Python.strip s).filter (· ≠ '_')).map Decimal.asciiDigit)
  let body := body.map Char.toLower
  if body = "inf".toList ∨ body = "infinity".toList then some (.infinite negative)
  else if "nan".toList.isPrefixOf body ∧ (body.drop 3).all Char.isDigit then some (.nan false)
  else if "snan".toList.isPrefixOf body ∧ (body.drop 4).all Char.isDigit then some (.nan true)
  else none

/-- **`Decimal(str)`.** -/
def decimalOfStr (s : String) : Except NumericError Dec :=
  match Decimal.parse s.toList with
  | some d => .ok (.finite d.value)
  | none => (readSpecial s.toList).elim (.error .invalidOperation) .ok

/-- An integer of a decimal's tuple, a boolean among them, as far as a C `long` goes. -/
def tupleInt : Json → Except NumericError ℤ
  | .bool b => .ok b.toNat
  | .int n => if -2 ^ 63 ≤ n ∧ n < 2 ^ 63 then .ok n else .error .overflowError
  | _ => .error .valueError

/-- A digit of the coefficient. -/
def tupleDigit (v : Json) : Except NumericError ℕ :=
  (tupleInt v).bind fun n => if 0 ≤ n ∧ n ≤ 9 then .ok n.toNat else .error .valueError

/-- **`Decimal([sign, digits, exponent])`.** -/
def decimalOfSequence : List Json → Except NumericError Dec
  | [sign, .arr digits, exponent] =>
    (tupleInt sign).bind fun sign =>
      if sign ≠ 0 ∧ sign ≠ 1 then .error .valueError
      else match exponent with
        | .str "F" => (digits.mapM tupleDigit).map fun _ => .infinite (sign = 1)
        | .str "n" => (digits.mapM tupleDigit).map fun _ => .nan false
        | .str "N" => (digits.mapM tupleDigit).map fun _ => .nan true
        | exponent => (tupleInt exponent).bind fun exponent =>
          (digits.mapM tupleDigit).bind fun digits =>
            let d : Decimal := ⟨sign = 1, Nat.ofDigits 10 digits.reverse, exponent⟩
            if d.exponent + (Nat.toDigits 10 d.coefficient).length - 1 ≤ Decimal.MAX_EMAX
                ∧ Decimal.MIN_ETINY ≤ d.exponent then
              .ok (.finite d.value)
            else .error .invalidOperation
  | _ => .error .valueError

/-- **`Decimal(value)`.** -/
def decimalOf : Json → Except NumericError Dec
  | .bool b => .ok (.finite b.toNat)
  | .int n => .ok (.finite n)
  | .float x =>
    match floatValue x with
    | .nan => .ok (.nan false)
    | .infinite negative => .ok (.infinite negative)
    | .finite q => .ok (.finite q)
  | .str s => decimalOfStr s
  | .arr xs => decimalOfSequence xs
  | .null => .error .typeError
  | .obj _ => .error .typeError

/-- **`int(Decimal)`.** -/
def Dec.toInt : Dec → Except NumericError ℤ
  | .nan _ => .error .valueError
  | .infinite _ => .error .overflowError
  | .finite q => .ok (trunc q)

/-- The default context: so many digits… -/
def context : Format := ⟨10, 28, -1000026, by decide, by decide⟩

/-- …and the number its results stay below. -/
def overflow : ℚ := 10 ^ (1000000 : ℤ)

def MINOR_UNITS_PER_MAJOR : ℕ := 100

/-- **`d * MINOR_UNITS_PER_MAJOR`** in the default context. -/
def Dec.minorUnits : Dec → Except NumericError Dec
  | .nan true => .error .invalidOperation
  | .nan false => .ok (.nan false)
  | .infinite negative => .ok (.infinite negative)
  | .finite q =>
    let r := context.round (q * MINOR_UNITS_PER_MAJOR)
    if |r| < overflow then .ok (.finite r) else .error .decimalOverflow

/-! ## The coercions -/

/-- **`to_score`**, with `default=0.0`. -/
def toScore : Json → Except NumericError Float64
  | .float x => .ok (floatValue x)
  | .int n => floatOfInt n
  | .str s =>
    match floatOfStr s with
    | .error .valueError => .ok (.finite 0)
    | r => r
  | _ => .ok (.finite 0)

/-- **`as_token_count`.** -/
def asTokenCount : Json → Except NumericError ℤ
  | .bool _ => .ok 0
  | .int n => .ok n
  | .float x => orZero ((decimalOf (.float x)).bind Dec.toInt)
  | .str s => orZero ((decimalOf (.str s)).bind Dec.toInt)
  | _ => .ok 0

/-- **`as_minor_units`.** -/
def asMinorUnits (major : Json) : Except NumericError ℤ :=
  if truthy major then orZero ((decimalOf major).bind fun d => d.minorUnits.bind Dec.toInt)
  else .ok 0

/-! ## What comes back -/

/-- The result is there, and not negative. -/
def Counts (r : Except NumericError ℤ) : Prop := ∃ n, r = .ok n ∧ 0 ≤ n

theorem counts_ok {n : ℤ} : Counts (.ok n) ↔ 0 ≤ n := by simp [Counts]

/-- **What a caught conversion counts**: zero, unless it returns or raises a `TypeError`. -/
theorem counts_orZero {r : Except NumericError ℤ} :
    Counts (orZero r) ↔ r ≠ .error .typeError ∧ ∀ n, r = .ok n → 0 ≤ n := by
  rcases r with e | n
  · cases e <;> simp [Counts, orZero, NumericError.caught]
  · simp [Counts, orZero]

theorem toInt_eq_ok {d : Dec} {n : ℤ} : d.toInt = .ok n ↔ ∃ q, d = .finite q ∧ trunc q = n := by
  cases d <;> simp [Dec.toInt]

theorem toInt_ne_typeError (d : Dec) : d.toInt ≠ .error .typeError := by
  cases d <;> simp [Dec.toInt]

theorem minorUnits_ne_typeError (d : Dec) : d.minorUnits ≠ .error .typeError := by
  rcases d with (_ | _) | _ | q
  all_goals simp [Dec.minorUnits]
  split <;> simp

/-- A conversion raises a `TypeError` only where its first step does. -/
theorem bind_ne_typeError {α β : Type} {r : Except NumericError α}
    {f : α → Except NumericError β} (hf : ∀ a, f a ≠ .error .typeError) :
    r.bind f ≠ .error .typeError ↔ r ≠ .error .typeError := by
  cases r with
  | error e => simp [Except.bind]
  | ok a => exact iff_of_true (hf a) (by simp)

/-! ## Scores -/

/-- **A score that can be had**: an integer a float can hold, a float that is a number, a text that
is no float or a number in range. -/
def Scorable : Json → Prop
  | .int n => |(n : ℚ)| < Float64.limit
  | .float x => ∃ q, floatValue x = .finite q
  | .str s => ∀ t, readFloat s.toList = some t → ∃ q, t = .number q ∧ |q| < Float64.limit
  | _ => True

theorem floatOfInt_eq_ok_finite (n : ℤ) :
    (∃ q, floatOfInt n = .ok (.finite q)) ↔ |(n : ℚ)| < Float64.limit := by
  rw [← Float64.abs_round_lt_iff, floatOfInt]
  split_ifs with h <;> simp [h]

/-- **A finite score comes back** exactly if the score can be had. -/
theorem toScore_finite_iff (v : Json) :
    (∃ q, toScore v = .ok (.finite q)) ↔ Scorable v := by
  cases v with
  | int n => exact floatOfInt_eq_ok_finite n
  | float x => simp [toScore, Scorable]
  | str s =>
    cases h : readFloat s.toList with
    | none => simp [toScore, floatOfStr, Scorable, h]
    | some t =>
      cases t with
      | nan => simp [toScore, floatOfStr, Scorable, h]
      | infinite negative => simp [toScore, floatOfStr, Scorable, h]
      | number q => simp [toScore, floatOfStr, Scorable, h, Float64.exists_nearest_eq_finite_iff]
  | null => exact iff_of_true ⟨0, rfl⟩ trivial
  | bool b => exact iff_of_true ⟨0, rfl⟩ trivial
  | arr xs => exact iff_of_true ⟨0, rfl⟩ trivial
  | obj fields => exact iff_of_true ⟨0, rfl⟩ trivial

/-! ## Counts -/

/-- **A count that can be had**: an integer that is not negative, and of a float or a text whose
`Decimal` is a number none down to minus one. -/
def Countable : Json → Prop
  | .int n => 0 ≤ n
  | .float x => ∀ q, decimalOf (.float x) = .ok (.finite q) → -1 < q
  | .str s => ∀ q, decimalOf (.str s) = .ok (.finite q) → -1 < q
  | _ => True

theorem tupleInt_ne_typeError (v : Json) : tupleInt v ≠ .error .typeError := by
  cases v with
  | int n =>
    rw [tupleInt]
    split_ifs <;> simp
  | _ => simp [tupleInt]

theorem tupleDigit_ne_typeError (v : Json) : tupleDigit v ≠ .error .typeError := by
  refine (bind_ne_typeError fun n => ?_).mpr (tupleInt_ne_typeError v)
  split_ifs <;> simp

theorem mapM_tupleDigit_ne_typeError (digits : List Json) :
    digits.mapM tupleDigit ≠ .error .typeError := by
  induction digits with
  | nil => simp [pure, Except.pure]
  | cons v digits ih =>
    rw [List.mapM_cons]
    refine (bind_ne_typeError fun n => ?_).mpr (tupleDigit_ne_typeError v)
    exact (bind_ne_typeError fun ns => by simp [pure, Except.pure]).mpr ih

/-- **A list is no `TypeError`**: `Decimal` says what is wrong with it by a `ValueError`. -/
theorem decimalOfSequence_ne_typeError (xs : List Json) :
    decimalOfSequence xs ≠ .error .typeError := by
  have hmap : ∀ (digits : List Json) (d : Dec),
      (digits.mapM tupleDigit).map (fun _ => d) ≠ .error .typeError := fun digits _ h =>
    mapM_tupleDigit_ne_typeError digits (Machine.map_eq_error.mp h)
  unfold decimalOfSequence
  split
  · refine (bind_ne_typeError fun sign => ?_).mpr (tupleInt_ne_typeError _)
    split_ifs
    · simp
    · split
      · exact hmap _ _
      · exact hmap _ _
      · exact hmap _ _
      · refine (bind_ne_typeError fun exponent => ?_).mpr (tupleInt_ne_typeError _)
        refine (bind_ne_typeError fun ns => ?_).mpr (mapM_tupleDigit_ne_typeError _)
        dsimp only
        split_ifs <;> simp
  · simp

/-- **What is no `Decimal` at all.** -/
theorem decimalOf_eq_typeError_iff {v : Json} :
    decimalOf v = .error .typeError ↔ v = .null ∨ ∃ fields, v = .obj fields := by
  cases v with
  | null => simp [decimalOf]
  | bool b => simp [decimalOf]
  | int n => simp [decimalOf]
  | float x => cases h : floatValue x <;> simp [decimalOf, h]
  | str s =>
    have hne : decimalOfStr s ≠ .error .typeError := by
      unfold decimalOfStr
      cases Decimal.parse s.toList with
      | some d => simp
      | none => cases readSpecial s.toList <;> simp
    simpa [decimalOf] using hne
  | arr xs => simpa [decimalOf] using decimalOfSequence_ne_typeError xs
  | obj fields => simp [decimalOf]

/-- The count of a value that is converted. -/
theorem counts_toInt {v : Json} (h : decimalOf v ≠ .error .typeError) :
    Counts (orZero ((decimalOf v).bind Dec.toInt))
      ↔ ∀ q, decimalOf v = .ok (.finite q) → -1 < q := by
  rw [counts_orZero, and_iff_right ((bind_ne_typeError toInt_ne_typeError).mpr h)]
  constructor
  · intro hn q hq
    have htrunc : (decimalOf v).bind Dec.toInt = .ok (trunc q) := by
      rw [hq]
      rfl
    exact trunc_nonneg_iff.mp (hn _ htrunc)
  · intro hq n hn
    obtain ⟨d, hd, hint⟩ := Machine.bind_eq_ok.mp hn
    obtain ⟨q, rfl, rfl⟩ := toInt_eq_ok.mp hint
    exact trunc_nonneg_iff.mpr (hq q hd)

/-- **A count is not negative** exactly if it can be had. -/
theorem asTokenCount_counts_iff (v : Json) : Counts (asTokenCount v) ↔ Countable v := by
  cases v with
  | int n => exact counts_ok
  | float x => exact counts_toInt (by simp [decimalOf_eq_typeError_iff])
  | str s => exact counts_toInt (by simp [decimalOf_eq_typeError_iff])
  | null => exact iff_of_true ⟨0, rfl, le_rfl⟩ trivial
  | bool b => exact iff_of_true ⟨0, rfl, le_rfl⟩ trivial
  | arr xs => exact iff_of_true ⟨0, rfl, le_rfl⟩ trivial
  | obj fields => exact iff_of_true ⟨0, rfl, le_rfl⟩ trivial

/-- What is converted and caught, by what it is converted to. -/
theorem orZero_toInt {v : Json} (h : decimalOf v ≠ .error .typeError) :
    orZero ((decimalOf v).bind Dec.toInt)
      = .ok (((decimalOf v).bind Dec.toInt).toOption.getD 0) := by
  have hne := (bind_ne_typeError toInt_ne_typeError).mpr h
  cases hr : (decimalOf v).bind Dec.toInt with
  | ok n => rfl
  | error e =>
    cases e with
    | typeError => exact absurd hr hne
    | _ => rfl

/-- A count always comes back. -/
theorem exists_asTokenCount (v : Json) : ∃ n, asTokenCount v = .ok n := by
  cases v with
  | int n => exact ⟨n, rfl⟩
  | float x => exact ⟨_, orZero_toInt (by simp [decimalOf_eq_typeError_iff])⟩
  | str s => exact ⟨_, orZero_toInt (by simp [decimalOf_eq_typeError_iff])⟩
  | _ => exact ⟨0, rfl⟩

/-! ## Costs -/

/-- Where the results of the context end. -/
def overflowFrom : ℚ := 10 ^ (1000000 : ℤ) - 10 ^ (999972 : ℤ) / 2

/-- **An amount that can be charged**: above minus one minor unit, by more than the context rounds
away, or too large for the context. -/
def Chargeable (q : ℚ) : Prop :=
  -(1 - 10 ^ (-28 : ℤ) / 2) < q * MINOR_UNITS_PER_MAJOR
    ∨ overflowFrom ≤ |q * MINOR_UNITS_PER_MAJOR|

theorem abs_round_lt_overflow_iff (q : ℚ) : |context.round q| < overflow ↔ |q| < overflowFrom :=
  Format.abs_round_lt_pow_iff (F := context) (e := 1000000) rfl (by decide)

/-- What is rounded to minus one, and what stays above it. -/
theorem neg_one_lt_round_iff (q : ℚ) :
    -1 < context.round q ↔ -(1 - 10 ^ (-28 : ℤ) / 2) < q := by
  rcases le_or_gt 0 q with h | h
  · have hround := Format.round_nonneg (F := context) h
    have hsmall : (10 : ℚ) ^ (-28 : ℤ) ≤ 1 := zpow_le_one_of_nonpos₀ (by norm_num) (by norm_num)
    exact iff_of_true (by linarith) (by linarith)
  · have hiff : (10 : ℚ) ^ (0 : ℤ) ≤ context.round (-q)
        ↔ (10 : ℚ) ^ (0 : ℤ) - 10 ^ (-28 : ℤ) / 2 ≤ -q :=
      Format.pow_le_round_iff (F := context) (e := 0) rfl (neg_pos.mpr h) (by decide)
    rw [zpow_zero, Format.round_neg] at hiff
    rw [← not_le, ← not_le]
    exact not_congr (le_neg.trans (hiff.trans le_neg))

theorem minorUnits_eq_ok {d d' : Dec} {n : ℤ} (h : d.minorUnits = .ok d') (hn : d'.toInt = .ok n) :
    ∃ q, d = .finite q ∧ |context.round (q * MINOR_UNITS_PER_MAJOR)| < overflow
      ∧ n = trunc (context.round (q * MINOR_UNITS_PER_MAJOR)) := by
  rcases d with (_ | _) | _ | q
  · cases h
    cases hn
  · cases h
  · cases h
    cases hn
  · dsimp only [Dec.minorUnits] at h
    split_ifs at h with hlt
    cases h
    cases hn
    exact ⟨q, rfl, hlt, rfl⟩

theorem bind_minorUnits_ne_typeError (d : Dec) :
    d.minorUnits.bind Dec.toInt ≠ .error .typeError :=
  (bind_ne_typeError toInt_ne_typeError).mpr (minorUnits_ne_typeError d)

/-- The units of a value that is converted. -/
theorem counts_minorUnits {v : Json} (h : decimalOf v ≠ .error .typeError) :
    Counts (orZero ((decimalOf v).bind fun d => d.minorUnits.bind Dec.toInt))
      ↔ ∀ q, decimalOf v = .ok (.finite q) → Chargeable q := by
  rw [counts_orZero, and_iff_right ((bind_ne_typeError bind_minorUnits_ne_typeError).mpr h)]
  constructor
  · intro hn q hq
    by_cases hlt : |context.round (q * MINOR_UNITS_PER_MAJOR)| < overflow
    · have hunits : (decimalOf v).bind (fun d => d.minorUnits.bind Dec.toInt)
          = .ok (trunc (context.round (q * MINOR_UNITS_PER_MAJOR))) := by
        simp only [hq, Except.bind, Dec.minorUnits, if_pos hlt, Dec.toInt]
      exact .inl ((neg_one_lt_round_iff _).mp (trunc_nonneg_iff.mp (hn _ hunits)))
    · exact .inr (not_lt.mp ((abs_round_lt_overflow_iff _).not.mp hlt))
  · intro hq n hn
    obtain ⟨d, hd, hrest⟩ := Machine.bind_eq_ok.mp hn
    obtain ⟨d', hd', hint⟩ := Machine.bind_eq_ok.mp hrest
    obtain ⟨q, rfl, hlt, rfl⟩ := minorUnits_eq_ok hd' hint
    rw [trunc_nonneg_iff, neg_one_lt_round_iff]
    exact (hq q hd).resolve_right (not_le.mpr ((abs_round_lt_overflow_iff _).mp hlt))

/-- **A cost that can be had**: any value whose `Decimal`, if it is a number, can be charged; of the
objects only the empty one, which is not converted. -/
def Billable : Json → Prop
  | .obj fields => fields = []
  | v => ∀ q, decimalOf v = .ok (.finite q) → Chargeable q

theorem chargeable_of_nonneg {q : ℚ} (h : 0 ≤ q) : Chargeable q := by
  have hsmall : (10 : ℚ) ^ (-28 : ℤ) ≤ 1 := zpow_le_one_of_nonpos₀ (by norm_num) (by norm_num)
  have hunits : 0 ≤ q * MINOR_UNITS_PER_MAJOR := mul_nonneg h (Nat.cast_nonneg _)
  exact .inl (by linarith)

theorem decimalOf_empty : decimalOf (.str "") = .error .invalidOperation := by
  have hparse : Decimal.parse "".toList = none := by decide +kernel
  have hspecial : readSpecial "".toList = none := by
    simp [readSpecial, Python.strip, Decimal.takeSign]
  simp only [decimalOf, decimalOfStr, hparse, hspecial, Option.elim]

/-- What is false is no negative number. -/
theorem billable_of_not_truthy {v : Json} (h : truthy v = false) : Billable v := by
  cases v with
  | null => intro q hq; cases hq
  | bool b => intro q hq; cases hq; exact chargeable_of_nonneg (Nat.cast_nonneg _)
  | int n =>
    intro q hq
    cases hq
    have hzero : n = 0 := by simpa [truthy] using h
    exact chargeable_of_nonneg (by rw [hzero]; exact le_rfl)
  | float x =>
    have htext : x.text = "0.0".toList ∨ x.text = "-0.0".toList := by
      simpa [truthy, or_iff_not_imp_left] using h
    have hzero : floatValue x = .finite 0 := by
      unfold floatValue
      rcases htext with ht | ht <;> rw [ht] <;> decide +kernel
    intro q hq
    obtain rfl : 0 = q := by simpa [decimalOf, hzero] using hq
    exact chargeable_of_nonneg le_rfl
  | str s =>
    obtain rfl : s = "" := by simpa [truthy] using h
    intro q hq
    cases decimalOf_empty.symm.trans hq
  | arr xs =>
    obtain rfl : xs = [] := by simpa [truthy] using h
    intro q hq
    cases hq
  | obj fields => simpa [truthy, Billable] using h

/-- **A cost is not negative** exactly if it can be had. -/
theorem asMinorUnits_counts_iff (v : Json) : Counts (asMinorUnits v) ↔ Billable v := by
  by_cases ht : truthy v = true
  · rw [asMinorUnits, if_pos ht]
    cases v with
    | null => cases ht
    | obj fields =>
      have hne : fields ≠ [] := by simpa [truthy] using ht
      refine iff_of_false (fun h => ?_) hne
      exact (counts_orZero.mp h).1 rfl
    | _ => exact counts_minorUnits (by simp [decimalOf_eq_typeError_iff])
  · rw [asMinorUnits, if_neg ht]
    exact iff_of_true ⟨0, rfl, le_rfl⟩ (billable_of_not_truthy (by simpa using ht))

/-! ## The tools' conversions -/

theorem trunc_value (d : Decimal) : trunc d.value = d.trunc := by
  have hcoefficient : (d.coefficient : ℚ) * 10 ^ d.exponent
      = ((d.coefficient * 10 ^ d.exponent.toNat : ℕ) : ℚ)
        / ((10 ^ (-d.exponent).toNat : ℕ) : ℚ) := by
    have hexponent : d.exponent = (d.exponent.toNat : ℤ) - ((-d.exponent).toNat : ℤ) := by omega
    conv_lhs => rw [hexponent, zpow_sub₀ (by norm_num), zpow_natCast, zpow_natCast]
    push_cast
    rw [mul_div_assoc]
  have hfloor := Rat.floor_natCast_div_natCast (d.coefficient * 10 ^ d.exponent.toNat)
    (10 ^ (-d.exponent).toNat)
  rw [← hcoefficient] at hfloor
  have hnonneg : (0 : ℚ) ≤ d.coefficient * 10 ^ d.exponent :=
    mul_nonneg (Nat.cast_nonneg _) (zpow_nonneg (by norm_num) _)
  rw [Decimal.trunc, Decimal.value]
  split_ifs
  · rw [neg_one_mul, neg_one_mul, neg_mul, trunc]
    split_ifs with hsign
    · have hzero : (d.coefficient : ℚ) * 10 ^ d.exponent = 0 := by linarith
      rw [hzero] at hfloor ⊢
      rw [neg_zero, Int.natCast_div, ← hfloor]
      simp
    · rw [Int.ceil_neg, hfloor, Int.natCast_div]
  · rw [one_mul, one_mul, trunc, if_pos hnonneg, hfloor, Int.natCast_div]

/-- **What the tools are given for the language's conversions** is what these are: the integers and
the texts that are floats, and the whole parts of floats. -/
structure Conversions (B : Builtins) : Prop where
  floatOfInt : ∀ n, (B.floatOfInt n).map floatValue = (floatOfInt n).toOption
  floatOfStr : ∀ s, (B.floatOfStr s).map floatValue = (floatOfStr s).toOption
  intOfFloat : ∀ x, B.intOfFloat x = ((decimalOf (.float x)).bind Dec.toInt).toOption

section Conversions

variable {B : Builtins}

theorem floatValue_zeroScore : floatValue zeroScore = .finite 0 := by decide +kernel

/-- What `float` raises of a text is caught. -/
theorem floatOfStr_eq (s : String) :
    floatOfStr s = .error .valueError ∨ ∃ x, floatOfStr s = .ok x := by
  unfold floatOfStr
  cases readFloat s.toList with
  | none => exact .inl rfl
  | some t => cases t <;> exact .inr ⟨_, rfl⟩

/-- **The score of a tool** is the one that is read here, and raises where this does. -/
theorem toScore_eq (hB : Conversions B) (v : Json) :
    (Mcp.toScore B (some v)).map floatValue = (toScore v).toOption := by
  have hzero : (some zeroScore).map floatValue = some (.finite 0) :=
    congrArg some floatValue_zeroScore
  cases v with
  | float x => rfl
  | int n => exact hB.floatOfInt n
  | str s =>
    have hs := hB.floatOfStr s
    rw [Mcp.toScore, toScore]
    rcases floatOfStr_eq s with h | ⟨x, h⟩
    · rw [h] at hs ⊢
      rw [Option.map_eq_none_iff.mp hs]
      exact hzero
    · rw [h] at hs ⊢
      obtain ⟨y, hy, rfl⟩ := Option.map_eq_some_iff.mp hs
      rw [hy]
      rfl
  | _ => exact hzero

/-- The whole part of a text is its decimal's, if it is one. -/
theorem toInt_decimalOfStr (s : String) : ((decimalOf (.str s)).bind Dec.toInt).toOption
    = (Decimal.parse s.toList).map Decimal.trunc := by
  rw [decimalOf, decimalOfStr]
  cases Decimal.parse s.toList with
  | some d => exact congrArg some (trunc_value d)
  | none =>
    -- what is special is no number, and has no whole part
    cases hspecial : readSpecial s.toList with
    | none => rfl
    | some d =>
      cases d with
      | finite q =>
        unfold readSpecial at hspecial
        dsimp only at hspecial
        split_ifs at hspecial <;> cases hspecial
      | _ => rfl

/-- **The count of a tool** is the one that is read here. -/
theorem asTokenCount_eq (hB : Conversions B) (v : Json) :
    asTokenCount v = .ok (Mcp.asTokenCount B v) := by
  cases v with
  | float x =>
    rw [asTokenCount, Mcp.asTokenCount, orZero_toInt (by simp [decimalOf_eq_typeError_iff]),
      hB.intOfFloat]
  | str s =>
    rw [asTokenCount, Mcp.asTokenCount, orZero_toInt (by simp [decimalOf_eq_typeError_iff]),
      toInt_decimalOfStr]
  | _ => rfl

end Conversions

end Mcp.Numeric
