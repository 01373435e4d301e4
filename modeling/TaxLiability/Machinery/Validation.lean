import TaxLiability.Machinery.Dict

/-!
# Machinery/Validation — models that report every flaw they find

    given ──field──▸ checked values, or the flaws of all the fields together

A field's check passes a value, finds a flaw in it or raises an exception of its own; the flaws of a
model are collected, an exception ends the validation where it is raised.
-/

/-- What is wrong with a value. -/
inductive Flaw
  | missing
  | extra_forbidden
  /-- a type or a bound of the field -/
  | constraint
  /-- what a validator of the model says -/
  | value_error (message : String)
  deriving DecidableEq, Repr

/-- **Why a validation fails**: flaws, each with the field it is in, or an exception. -/
inductive Failure (ε : Type)
  | flaws (errors : List (String × Flaw))
  | raised (e : ε)
  deriving DecidableEq, Repr

/-- Why the check of a field fails. -/
inductive CheckFailure (ε : Type)
  | flaw (f : Flaw)
  | raised (e : ε)
  deriving DecidableEq, Repr

namespace Validation

variable {ε α β ν : Type}

/-- A field's failure, as the model's. -/
def atField (name : String) : CheckFailure ε → Failure ε
  | .flaw f => .flaws [(name, f)]
  | .raised e => .raised e

/-- **Both**, or the flaws of both; an exception ends the validation. -/
def both : Except (Failure ε) α → Except (Failure ε) β → Except (Failure ε) (α × β)
  | .ok a, .ok b => .ok (a, b)
  | .ok _, .error f => .error f
  | .error (.flaws e), .ok _ => .error (.flaws e)
  | .error (.flaws e), .error (.flaws f) => .error (.flaws (e ++ f))
  | .error (.flaws _), .error (.raised f) => .error (.raised f)
  | .error (.raised e), _ => .error (.raised e)

/-- A field that must be there. -/
def field (given : Dict String ν) (name : String) (check : ν → Except (CheckFailure ε) α) :
    Except (Failure ε) α :=
  match Dict.get? given name with
  | none => .error (.flaws [(name, .missing)])
  | some v => (check v).mapError (atField name)

/-- A field with a default. -/
def fieldD (given : Dict String ν) (name : String) (check : ν → Except (CheckFailure ε) α)
    (default : α) : Except (Failure ε) α :=
  match Dict.get? given name with
  | none => .ok default
  | some v => (check v).mapError (atField name)

/-- **No key but these.** -/
def forbidExtra (names : List String) (given : Dict String ν) : Except (Failure ε) Unit :=
  let extra := (given.map Prod.fst).filter (· ∉ names)
  if extra = [] then .ok () else .error (.flaws (extra.map fun name => (name, .extra_forbidden)))

/-! ## What passes -/

theorem mapError_eq_ok {ε' : Type} {x : Except ε α} {f : ε → ε'} {a : α} :
    x.mapError f = .ok a ↔ x = .ok a := by
  cases x <;> simp [Except.mapError]

theorem both_eq_ok {a : Except (Failure ε) α} {b : Except (Failure ε) β} {p : α × β} :
    both a b = .ok p ↔ a = .ok p.1 ∧ b = .ok p.2 := by
  unfold both
  split <;> simp [Prod.ext_iff]

theorem field_eq_ok {given : Dict String ν} {name : String}
    {check : ν → Except (CheckFailure ε) α} {a : α} :
    field given name check = .ok a ↔ ∃ v, Dict.get? given name = some v ∧ check v = .ok a := by
  unfold field
  cases Dict.get? given name with
  | none => simp
  | some v => simp [mapError_eq_ok]

theorem forbidExtra_eq_ok {names : List String} {given : Dict String ν} {u : Unit} :
    (forbidExtra names given : Except (Failure ε) Unit) = .ok u ↔ ∀ f ∈ given, f.1 ∈ names := by
  simp only [forbidExtra]
  split
  case isTrue h =>
    refine iff_of_true rfl fun f hf => ?_
    have := List.filter_eq_nil_iff.mp h f.1 (List.mem_map_of_mem hf)
    simpa using this
  case isFalse h =>
    refine iff_of_false nofun fun hall => h (List.filter_eq_nil_iff.mpr fun name hname => ?_)
    obtain ⟨f, hf, rfl⟩ := List.mem_map.mp hname
    simpa using hall f hf

/-! ## What is raised -/

/-- **An acceptance or flaws**: no exception. -/
def Answers (x : Except (Failure ε) α) : Prop := ∀ e, x ≠ .error (.raised e)

/-- …of a field's check. -/
def CheckAnswers (x : Except (CheckFailure ε) α) : Prop := ∀ e, x ≠ .error (.raised e)

theorem map_eq_raised {x : Except (Failure ε) α} {f : α → β} {e : ε} :
    x.map f = .error (.raised e) ↔ x = .error (.raised e) := by
  cases x <;> simp [Except.map]

/-- An exception comes through from the first… -/
theorem both_eq_raised_left {a : Except (Failure ε) α} {b : Except (Failure ε) β} (h : Answers b)
    {e : ε} : both a b = .error (.raised e) ↔ a = .error (.raised e) := by
  rcases a with (e' | e') | a <;> rcases b with (f | f) | b <;>
    first | exact absurd rfl (h f) | simp [both]

/-- …and from the second. -/
theorem both_eq_raised_right {a : Except (Failure ε) α} {b : Except (Failure ε) β} (h : Answers a)
    {e : ε} : both a b = .error (.raised e) ↔ b = .error (.raised e) := by
  rcases a with (e' | e') | a <;> rcases b with (f | f) | b <;>
    first | exact absurd rfl (h e') | simp [both]

theorem mapError_eq_raised {name : String} {x : Except (CheckFailure ε) α} {e : ε} :
    x.mapError (atField name) = .error (.raised e) ↔ x = .error (.raised e) := by
  rcases x with (f | f) | a <;> simp [Except.mapError, atField]

/-- **A field raises** what its check raises. -/
theorem field_eq_raised {given : Dict String ν} {name : String}
    {check : ν → Except (CheckFailure ε) α} {e : ε} : field given name check = .error (.raised e)
      ↔ ∃ v, Dict.get? given name = some v ∧ check v = .error (.raised e) := by
  unfold field
  cases Dict.get? given name with
  | none => simp
  | some v => simp [mapError_eq_raised]

theorem fieldD_eq_raised {given : Dict String ν} {name : String}
    {check : ν → Except (CheckFailure ε) α} {default : α} {e : ε} :
    fieldD given name check default = .error (.raised e)
      ↔ ∃ v, Dict.get? given name = some v ∧ check v = .error (.raised e) := by
  unfold fieldD
  cases Dict.get? given name with
  | none => simp
  | some v => simp [mapError_eq_raised]

theorem answers_map {x : Except (Failure ε) α} {f : α → β} (h : Answers x) : Answers (x.map f) :=
  fun e he => h e (map_eq_raised.mp he)

theorem answers_both {a : Except (Failure ε) α} {b : Except (Failure ε) β} (ha : Answers a)
    (hb : Answers b) : Answers (both a b) :=
  fun e he => ha e ((both_eq_raised_left hb).mp he)

theorem answers_field {given : Dict String ν} {name : String}
    {check : ν → Except (CheckFailure ε) α} (h : ∀ v, CheckAnswers (check v)) :
    Answers (field given name check) := fun e he => by
  obtain ⟨v, -, hv⟩ := field_eq_raised.mp he
  exact h v e hv

theorem answers_fieldD {given : Dict String ν} {name : String}
    {check : ν → Except (CheckFailure ε) α} {default : α} (h : ∀ v, CheckAnswers (check v)) :
    Answers (fieldD given name check default) := fun e he => by
  obtain ⟨v, -, hv⟩ := fieldD_eq_raised.mp he
  exact h v e hv

theorem answers_forbidExtra (names : List String) (given : Dict String ν) :
    Answers (forbidExtra names given : Except (Failure ε) Unit) := by
  simp only [forbidExtra]
  split <;> exact nofun

/-- **Where no exception is raised**, flaws are what is not accepted. -/
theorem eq_flaws_iff_of_answers {x : Except (Failure ε) α} (h : Answers x) :
    (∃ errors, x = .error (.flaws errors)) ↔ ¬ ∃ a, x = .ok a := by
  rcases x with (e | e) | a
  · simp
  · exact absurd rfl (h e)
  · simp

end Validation
