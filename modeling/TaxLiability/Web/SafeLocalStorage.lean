import Mathlib.Data.List.Induction
import Mathlib.Logic.Function.Basic
import Mathlib.Tactic.Common

/-!
# Web/SafeLocalStorage — two stores behind one interface, chosen by each call on its own

    setItem, removeItem ──▸ window.localStorage ──▸ getItem
            │ throws                                  ▴ throws
            └─────────▸ memoryFallback ───────────────┘

A call that throws falls back to the Map, and nothing is carried from one store to the other.  A
read returns the last write exactly if it goes where that write went, or the stores agree
(`readsYourWrites_iff`).
-/

namespace Web

/-- **What `safeLocalStorage` keeps**: what the browser holds, and what the Map holds. -/
structure SafeLocalStorage (Name Value : Type) where
  localStorage : Name → Option Value
  memoryFallback : Name → Option Value

namespace SafeLocalStorage

variable {Name Value : Type} [DecidableEq Name]

/-! ## The three operations

Each is given whether the browser's own operation throws, which leaves the browser's store as it
was. -/

/-- Nothing stored. -/
def empty : SafeLocalStorage Name Value := ⟨fun _ => none, fun _ => none⟩

/-- `none` is the `null` of the interface. -/
def getItem (s : SafeLocalStorage Name Value) (throws : Bool) (name : Name) : Option Value :=
  if throws then s.memoryFallback name else s.localStorage name

def setItem (s : SafeLocalStorage Name Value) (throws : Bool) (name : Name) (value : Value) :
    SafeLocalStorage Name Value :=
  if throws then
    { s with memoryFallback := Function.update s.memoryFallback name (some value) }
  else
    { s with localStorage := Function.update s.localStorage name (some value) }

def removeItem (s : SafeLocalStorage Name Value) (throws : Bool) (name : Name) :
    SafeLocalStorage Name Value :=
  if throws then { s with memoryFallback := Function.update s.memoryFallback name none }
  else { s with localStorage := Function.update s.localStorage name none }

/-! ## A session -/

/-- What the app asks for. -/
inductive Call (Name Value : Type)
  | getItem (name : Name)
  | setItem (name : Name) (value : Value)
  | removeItem (name : Name)

/-- **One access**: the call, and whether the browser's operation throws in it. -/
structure Access (Name Value : Type) where
  call : Call Name Value
  throws : Bool

/-- The stores after an access. -/
def after (s : SafeLocalStorage Name Value) : Access Name Value → SafeLocalStorage Name Value
  | ⟨.getItem _, _⟩ => s
  | ⟨.setItem name value, throws⟩ => s.setItem throws name value
  | ⟨.removeItem name, throws⟩ => s.removeItem throws name

/-- **The stores after a session**, from empty ones. -/
def session (calls : List (Access Name Value)) : SafeLocalStorage Name Value :=
  calls.foldl after empty

@[simp] theorem session_concat (calls : List (Access Name Value)) (a : Access Name Value) :
    session (calls ++ [a]) = (session calls).after a := by
  simp [session]

/-! ## The last write of a name -/

/-- What is written under a name, `none` for a removal, and whether the browser threw. -/
structure Write (Value : Type) where
  value : Option Value
  throws : Bool

/-- The write an access makes under `name`, if it makes one. -/
def Access.write? (name : Name) : Access Name Value → Option (Write Value)
  | ⟨.getItem _, _⟩ => none
  | ⟨.setItem n value, throws⟩ => if n = name then some ⟨some value, throws⟩ else none
  | ⟨.removeItem n, throws⟩ => if n = name then some ⟨none, throws⟩ else none

/-- **The last write of a name in a session.** -/
def lastWrite (name : Name) (calls : List (Access Name Value)) : Option (Write Value) :=
  calls.reverse.findSome? (Access.write? name)

@[simp] theorem lastWrite_nil (name : Name) :
    lastWrite name ([] : List (Access Name Value)) = none := rfl

@[simp] theorem lastWrite_concat (name : Name) (calls : List (Access Name Value))
    (a : Access Name Value) :
    lastWrite name (calls ++ [a]) = (a.write? name).or (lastWrite name calls) := by
  cases h : a.write? name <;> simp [lastWrite, h]

theorem exists_mem_of_lastWrite {name : Name} {calls : List (Access Name Value)} {w : Write Value}
    (h : lastWrite name calls = some w) : ∃ a ∈ calls, a.write? name = some w := by
  obtain ⟨a, ha, hw⟩ := List.exists_of_findSome?_eq_some h
  exact ⟨a, List.mem_reverse.mp ha, hw⟩

/-- A write goes to the store its access went to. -/
theorem throws_of_write? {name : Name} {a : Access Name Value} {w : Write Value}
    (h : a.write? name = some w) : w.throws = a.throws := by
  obtain ⟨call, throws⟩ := a
  cases call with
  | getItem n => cases h
  | setItem n value =>
    obtain ⟨-, ⟨⟩⟩ := Option.ite_none_right_eq_some.mp h
    rfl
  | removeItem n =>
    obtain ⟨-, ⟨⟩⟩ := Option.ite_none_right_eq_some.mp h
    rfl

/-! ## What a read finds -/

/-- A write is found where it went. -/
theorem getItem_after_of_write {s : SafeLocalStorage Name Value} {name : Name}
    {a : Access Name Value} {w : Write Value} (h : a.write? name = some w) :
    (s.after a).getItem w.throws name = w.value := by
  obtain ⟨call, throws⟩ := a
  cases call with
  | getItem n => cases h
  | setItem n value =>
    obtain ⟨rfl, ⟨⟩⟩ := Option.ite_none_right_eq_some.mp h
    cases throws <;> simp [after, setItem, getItem]
  | removeItem n =>
    obtain ⟨rfl, ⟨⟩⟩ := Option.ite_none_right_eq_some.mp h
    cases throws <;> simp [after, removeItem, getItem]

/-- What is not written stays as it was, in both stores. -/
theorem getItem_after_of_not_write {s : SafeLocalStorage Name Value} {name : Name}
    {a : Access Name Value} (h : a.write? name = none) (throws : Bool) :
    (s.after a).getItem throws name = s.getItem throws name := by
  obtain ⟨call, t⟩ := a
  cases call with
  | getItem n => rfl
  | setItem n value =>
    have hn : name ≠ n := fun hn => by simp [Access.write?, hn] at h
    cases t <;> simp [after, setItem, getItem, Function.update_of_ne hn]
  | removeItem n =>
    have hn : name ≠ n := fun hn => by simp [Access.write?, hn] at h
    cases t <;> simp [after, removeItem, getItem, Function.update_of_ne hn]

/-- A name never written is in neither store. -/
theorem getItem_of_lastWrite_eq_none {name : Name} {calls : List (Access Name Value)}
    (h : lastWrite name calls = none) (throws : Bool) :
    (session calls).getItem throws name = none := by
  induction calls using List.reverseRecOn with
  | nil => cases throws <;> rfl
  | append_singleton calls a ih =>
    obtain ⟨ha, hl⟩ := Option.or_eq_none_iff.mp ((lastWrite_concat name calls a).symm.trans h)
    rw [session_concat, getItem_after_of_not_write ha, ih hl]

/-- **The last write of a name is in the store it went to.** -/
theorem getItem_of_lastWrite_eq_some {name : Name} {calls : List (Access Name Value)}
    {w : Write Value} (h : lastWrite name calls = some w) :
    (session calls).getItem w.throws name = w.value := by
  induction calls using List.reverseRecOn with
  | nil => cases h
  | append_singleton calls a ih =>
    rw [lastWrite_concat] at h
    rw [session_concat]
    cases ha : a.write? name with
    | none => rw [getItem_after_of_not_write ha, ih (by simpa [ha] using h)]
    | some w' =>
      obtain rfl : w' = w := by simpa [ha] using h
      exact getItem_after_of_write ha

/-! ## Reading one's own writes -/

/-- **Every read of the session returns the last write**: the value last set, and null after a
removal or with no write before it. -/
def ReadsYourWrites (calls : List (Access Name Value)) : Prop :=
  ∀ before name throws rest, calls = before ++ ⟨.getItem name, throws⟩ :: rest →
    (session before).getItem throws name = (lastWrite name before).bind Write.value

/-- **The read goes where the last write of its name went**, or the stores hold the same under
that name. -/
def FindsLastWrite (before : List (Access Name Value)) (name : Name) (throws : Bool) : Prop :=
  (∀ w, lastWrite name before = some w → throws = w.throws)
    ∨ (session before).localStorage name = (session before).memoryFallback name

omit [DecidableEq Name] in
/-- The stores agree on a name if reading it from either gives the same. -/
theorem localStorage_eq_memoryFallback_iff {s : SafeLocalStorage Name Value} {name : Name}
    {t t' : Bool} (h : t ≠ t') :
    s.localStorage name = s.memoryFallback name ↔ s.getItem t name = s.getItem t' name := by
  cases t <;> cases t' <;> simp_all [getItem, eq_comm]

/-- One read, against the last write before it. -/
theorem getItem_eq_lastWrite_iff (before : List (Access Name Value)) (name : Name)
    (throws : Bool) :
    (session before).getItem throws name = (lastWrite name before).bind Write.value
      ↔ FindsLastWrite before name throws := by
  cases hl : lastWrite name before with
  | none =>
    refine iff_of_true (getItem_of_lastWrite_eq_none hl throws) (.inl fun w hw => ?_)
    cases hl.symm.trans hw
  | some w =>
    have hw : (session before).getItem w.throws name = w.value := getItem_of_lastWrite_eq_some hl
    unfold FindsLastWrite
    rw [hl, Option.bind_some, ← hw]
    by_cases ht : throws = w.throws
    · exact iff_of_true (by rw [ht]) (.inl fun w' hw' => Option.some.inj hw' ▸ ht)
    · rw [localStorage_eq_memoryFallback_iff ht]
      exact ⟨.inr, fun h => h.resolve_left fun h' => ht (h' w rfl)⟩

/-- **Read your writes, exactly**: along the sessions whose every read finds the last write of its
name. -/
theorem readsYourWrites_iff (calls : List (Access Name Value)) :
    ReadsYourWrites calls ↔ ∀ before name throws rest,
      calls = before ++ ⟨.getItem name, throws⟩ :: rest → FindsLastWrite before name throws := by
  unfold ReadsYourWrites
  simp only [getItem_eq_lastWrite_iff]

/-- **A write that throws and a read that works** — private browsing: the value is in the Map, and
the read looks in the browser's store. -/
theorem not_readsYourWrites_private :
    ¬ ReadsYourWrites [⟨.setItem "uc:taxpayer-chat" "[]", true⟩,
      ⟨.getItem "uc:taxpayer-chat", false⟩] := by
  intro h
  have hread := h [⟨.setItem "uc:taxpayer-chat" "[]", true⟩] "uc:taxpayer-chat" false [] rfl
  exact absurd hread (by decide)

/-- **A browser that always works, and one that never does**, are read back faithfully. -/
theorem readsYourWrites_of_steady {calls : List (Access Name Value)} (throws : Bool)
    (h : ∀ a ∈ calls, a.throws = throws) : ReadsYourWrites calls := by
  rintro before name t rest rfl
  refine (getItem_eq_lastWrite_iff before name t).mpr (.inl fun w hw => ?_)
  obtain ⟨a, ha, hwa⟩ := exists_mem_of_lastWrite hw
  have ht : t = throws := h ⟨.getItem name, t⟩ (by simp)
  rw [throws_of_write? hwa, h a (List.mem_append_left _ ha), ht]

end SafeLocalStorage

end Web
