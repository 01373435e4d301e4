import Mathlib.Data.List.Sort
import Mathlib.Data.String.Basic
import TaxLiability.Machinery.Dict

/-!
# Machinery/Json — JSON values, and equality up to the order of keys

An object is the dictionary of its fields, in insertion order.  `canon`
sorts the fields of every object by key, and two values are the `Same` when they sort to one value.
`same_obj_iff` says what that means of objects: the same value, up to the same order, at every key.
-/

/-! ## Values -/

/-- A character a number is written with. -/
def Json.isNumberChar (c : Char) : Bool :=
  c.isDigit || c ∈ ['-', '+', '.', 'e', 'N', 'a', 'I', 'n', 'f', 'i', 't', 'y']

/-- **A float, as the shortest text that reads back as it.**  The text starts as a number does and
has a mark no integer's text has. -/
structure Json.Float where
  text : List Char
  starts : text.head?.any fun c => c.isDigit || c ∈ ['-', 'N', 'I']
  number : text.all Json.isNumberChar
  marked : text.any fun c => c ∈ ['.', 'e', 'N', 'I']
  deriving DecidableEq

/-- **A JSON value.**  Integers and floats are told apart. -/
inductive Json where
  | null
  | bool (b : Bool)
  | int (n : ℤ)
  | float (x : Json.Float)
  | str (s : String)
  | arr (xs : List Json)
  | obj (fields : List (String × Json))

namespace Json

/-- The fields of an object, in insertion order. -/
abbrev Fields := Dict String Json

/-- Whether the first key comes no later than the second. -/
def keyLE (a b : String × Json) : Prop := a.1 ≤ b.1

instance : DecidableRel keyLE := fun a b => inferInstanceAs (Decidable (a.1 ≤ b.1))

mutual

/-- **The value with the fields of every object in key order.** -/
def canon : Json → Json
  | .null => .null
  | .bool b => .bool b
  | .int n => .int n
  | .float x => .float x
  | .str s => .str s
  | .arr xs => .arr (canonList xs)
  | .obj fields => .obj ((canonFields fields).insertionSort keyLE)

/-- …and of the elements of an array. -/
def canonList : List Json → List Json
  | [] => []
  | x :: xs => x.canon :: canonList xs

/-- …and of the values of an object, left where they are. -/
def canonFields : Fields → Fields
  | [] => []
  | (k, v) :: fields => (k, v.canon) :: canonFields fields

end

/-- **Equal up to the order of keys**, at every depth. -/
def Same (v w : Json) : Prop := v.canon = w.canon

@[refl] theorem Same.refl (v : Json) : v.Same v := rfl

@[symm] theorem Same.symm {v w : Json} (h : v.Same w) : w.Same v := Eq.symm h

@[trans] theorem Same.trans {u v w : Json} (h : u.Same v) (h' : v.Same w) : u.Same w :=
  Eq.trans h h'

theorem canonFields_eq (fields : Fields) :
    canonFields fields = fields.map fun f => (f.1, f.2.canon) := by
  induction fields with
  | nil => rfl
  | cons f fields ih => rw [canonFields, ih, List.map_cons]

/-- Strings are the same only if equal. -/
@[simp] theorem same_str_iff {s t : String} : (str s).Same (str t) ↔ s = t := by
  simp [Same, canon]

/-! ## Objects -/

theorem get?_canonFields (fields : Fields) (k : String) :
    Dict.get? (canonFields fields) k = (Dict.get? fields k).map canon := by
  induction fields with
  | nil => rfl
  | cons f fields ih =>
    obtain ⟨k', v⟩ := f
    rw [canonFields, Dict.get?_cons, Dict.get?_cons, ih]
    by_cases hk : k' = k <;> simp [hk]

theorem nodup_canonFields {fields : Fields} (h : Dict.Nodup fields) :
    Dict.Nodup (canonFields fields) := by
  rw [Dict.Nodup, canonFields_eq, List.map_map]
  exact h

/-- Sorting by distinct keys, strictly. -/
theorem pairwise_insertionSort_lt {fields : Fields} (h : Dict.Nodup fields) :
    (fields.insertionSort keyLE).Pairwise fun a b => a.1 < b.1 := by
  have : Std.Total keyLE := ⟨fun a b => le_total a.1 b.1⟩
  have : IsTrans (String × Json) keyLE := ⟨fun _ _ _ => le_trans⟩
  have hle : (fields.insertionSort keyLE).Pairwise keyLE := List.pairwise_insertionSort _ _
  have hne : (fields.insertionSort keyLE).Pairwise fun a b => a.1 ≠ b.1 :=
    List.pairwise_map.mp (((List.perm_insertionSort keyLE fields).map Prod.fst).nodup_iff.mpr h)
  exact hle.imp₂ (fun _ _ => lt_of_le_of_ne) hne

/-- **Objects are the same exactly when they are at every key.** -/
theorem same_obj_iff {a b : Fields} (ha : Dict.Nodup a) (hb : Dict.Nodup b) :
    (obj a).Same (obj b) ↔ ∀ k, (Dict.get? a k).map canon = (Dict.get? b k).map canon := by
  rw [Same, canon, canon, obj.injEq]
  constructor
  · intro h k
    have hperm : (canonFields a).Perm (canonFields b) :=
      (List.perm_insertionSort keyLE _).symm.trans (h ▸ List.perm_insertionSort keyLE _)
    rw [← get?_canonFields, ← get?_canonFields]
    refine Option.ext fun v => ?_
    rw [← Dict.mem_iff (nodup_canonFields ha), ← Dict.mem_iff (nodup_canonFields hb), hperm.mem_iff]
  · intro h
    have hirr : Std.Irrefl fun a b : String × Json => a.1 < b.1 := ⟨fun _ => lt_irrefl _⟩
    have hanti : Std.Antisymm fun a b : String × Json => a.1 < b.1 :=
      ⟨fun _ _ h h' => absurd h' (lt_asymm h)⟩
    refine (pairwise_insertionSort_lt (nodup_canonFields ha)).eq_of_mem_iff
      (pairwise_insertionSort_lt (nodup_canonFields hb)) fun f => ?_
    obtain ⟨k, v⟩ := f
    rw [List.mem_insertionSort, List.mem_insertionSort, Dict.mem_iff (nodup_canonFields ha),
      Dict.mem_iff (nodup_canonFields hb), get?_canonFields, get?_canonFields, h k]

/-! ## Depth -/

/-- The values directly in a value: the elements of an array, the values of an object. -/
def children : Json → List Json
  | .arr xs => xs
  | .obj fields => fields.map Prod.snd
  | .null | .bool _ | .int _ | .float _ | .str _ => []

/-- **One value lies in another**, so many levels down. -/
inductive Within : ℕ → Json → Json → Prop
  | self (v : Json) : Within 0 v v
  | child {d : ℕ} {v x w : Json} : x ∈ v.children → Within d x w → Within (d + 1) v w

theorem sizeOf_lt_of_mem_children {v x : Json} (h : x ∈ v.children) : sizeOf x < sizeOf v := by
  cases v with
  | arr xs =>
    have hlt : sizeOf x < sizeOf xs := List.sizeOf_lt_of_mem h
    rw [arr.sizeOf_spec]
    omega
  | obj fields =>
    obtain ⟨⟨k, v⟩, hmem, rfl⟩ := List.mem_map.mp h
    have hlt := List.sizeOf_lt_of_mem hmem
    rw [Prod.mk.sizeOf_spec] at hlt
    rw [obj.sizeOf_spec]
    dsimp only
    omega
  | _ => cases h

/-- What lies in a value is the value, or lies in one that is directly in it. -/
theorem forall_within_iff {P : ℕ → Json → Prop} {v : Json} : (∀ d w, Within d v w → P d w) ↔
    P 0 v ∧ ∀ x ∈ v.children, ∀ d w, Within d x w → P (d + 1) w := by
  constructor
  · intro h
    exact ⟨h 0 v (.self v), fun x hx d w hw => h (d + 1) w (.child hx hw)⟩
  · rintro ⟨hself, hchild⟩ d w hw
    cases hw with
    | self => exact hself
    | child hx hw => exact hchild _ hx _ _ hw

end Json
