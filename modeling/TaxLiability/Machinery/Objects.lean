import Mathlib.Data.Nat.Notation
import Mathlib.Logic.Function.Basic
import Mathlib.Logic.Relation

/-!
# Machinery/Objects — mutable objects, and what can be reached from one

    a ──refs──▸ b ──refs──▸ c          alloc ──▸ a fresh address

Objects have addresses and hold the addresses of others; what they are otherwise is left open.  Two
objects share state when some object can be reached from both, at whatever depth.
-/

namespace Objects

variable {Obj : Type*}

/-- **The mutable objects there are**: those below `next`. -/
structure Heap (Obj : Type*) where
  next : ℕ
  objects : ℕ → Obj

/-- A fresh object. -/
def Heap.alloc (h : Heap Obj) (o : Obj) : ℕ × Heap Obj :=
  (h.next, ⟨h.next + 1, Function.update h.objects h.next o⟩)

/-- What a program does to the objects while another waits: anything, but no address is given out
twice. -/
structure Effects (Obj : Type*) where
  apply : Heap Obj → Heap Obj
  grows : ∀ h, h.next ≤ (apply h).next

/-- Nothing is done. -/
def Effects.none : Effects Obj := ⟨id, fun _ => Nat.le_refl _⟩

variable (refs : Obj → List ℕ)

/-- **Reachable at some depth.** -/
def Reach (h : Heap Obj) : ℕ → ℕ → Prop :=
  Relation.ReflTransGen fun a b => b ∈ refs (h.objects a)

variable {refs} {h : Heap Obj} {o : Obj}

@[simp] theorem alloc_fst : (h.alloc o).1 = h.next := rfl

@[simp] theorem alloc_next : (h.alloc o).2.next = h.next + 1 := rfl

@[simp] theorem alloc_objects_self : (h.alloc o).2.objects h.next = o := Function.update_self ..

/-- Only an object that holds no other is all that can be reached from it. -/
theorem eq_of_reach {a b : ℕ} (hrefs : refs (h.objects a) = []) (hreach : Reach refs h a b) :
    b = a := by
  rcases hreach.cases_head with heq | ⟨c, hc, -⟩
  · exact heq.symm
  · rw [hrefs] at hc
    exact absurd hc List.not_mem_nil

/-- What an object holds can be reached from it. -/
theorem reach_of_mem {a b : ℕ} (hmem : b ∈ refs (h.objects a)) : Reach refs h a b :=
  Relation.ReflTransGen.single hmem

end Objects
