import Mathlib.Data.List.Chain
import Mathlib.Data.List.Nodup

/-!
# Machinery/Transcript — conversations with tool calls, and how they may grow

    user ──▸ assistant, calling ids ──▸ user, answering ids ──▸ assistant ──▸ …

A turn is what the protocol checks of a message: whose it is, whether it says anything, which calls
it makes and which it answers.  A conversation that ends with the user grows by a reply and the turn
that answers it; `wellFormed_append_iff` is when it stays well-formed.
-/

namespace Transcript

inductive Role
  | user
  | assistant
  deriving DecidableEq, Repr

/-- **A turn**: `calls` are the ids of the calls it makes, `answers` the ids its results name. -/
structure Turn (ι : Type*) where
  role : Role
  isEmpty : Bool
  calls : List ι
  answers : List ι

variable {ι : Type*} [DecidableEq ι]

/-- **`u` answers `t`**: every call of `t` by one result, and nothing else. -/
def Answers (t u : Turn ι) : Prop :=
  (∀ id ∈ t.calls, u.answers.count id = 1) ∧ ∀ id ∈ u.answers, id ∈ t.calls

/-- `u` may stand after `t`. -/
def Follows (t u : Turn ι) : Prop := t.role ≠ u.role ∧ Answers t u

/-- **A well-formed conversation.** -/
structure WellFormed (ts : List (Turn ι)) : Prop where
  /-- it starts with a user turn, which has nothing to answer -/
  opens : ∃ t ∈ ts.head?, t.role = .user ∧ t.answers = []
  /-- roles alternate, and each turn answers the one before -/
  follows : ts.IsChain Follows
  /-- the last turn leaves no call unanswered -/
  closes : ∀ t ∈ ts.getLast?, t.calls = []
  /-- no turn is empty -/
  full : ∀ t ∈ ts, t.isEmpty = false

/-- One user turn is a conversation. -/
theorem wellFormed_singleton {t : Turn ι} (hrole : t.role = .user) (hcalls : t.calls = [])
    (hanswers : t.answers = []) (hfull : t.isEmpty = false) : WellFormed [t] where
  opens := ⟨t, rfl, hrole, hanswers⟩
  follows := List.isChain_singleton t
  closes := by
    rintro u hu
    cases hu
    exact hcalls
  full := List.forall_mem_singleton.mpr hfull

/-- **A conversation grows by a reply and its answer**: it stays well-formed exactly if both say
something and the one answers the other. -/
theorem wellFormed_append_iff {ts : List (Turn ι)} {a u : Turn ι} (hts : WellFormed ts)
    (hlast : ∀ t ∈ ts.getLast?, t.role = .user) (ha : a.role = .assistant) (haa : a.answers = [])
    (hu : u.role = .user) (huc : u.calls = []) :
    WellFormed (ts ++ [a, u]) ↔ a.isEmpty = false ∧ u.isEmpty = false ∧ Answers a u := by
  constructor
  · intro h
    have hchain : [a, u].IsChain Follows := (List.isChain_append.mp h.follows).2.1
    have hfollows : Follows a u := (List.isChain_cons_cons.mp hchain).1
    exact ⟨h.full a (by simp), h.full u (by simp), hfollows.2⟩
  · rintro ⟨hae, hue, hanswers⟩
    obtain ⟨t, ht, hopens⟩ := hts.opens
    have hau : Follows a u := ⟨by rw [ha, hu]; decide, hanswers⟩
    refine ⟨⟨t, ?_, hopens⟩, hts.follows.append ?_ ?_, ?_, ?_⟩
    · rw [List.head?_append, ht]
      rfl
    · exact List.isChain_cons_cons.mpr ⟨hau, List.isChain_singleton u⟩
    · rintro t ht b hb
      cases hb
      refine ⟨by rw [hlast t ht, ha]; decide, ?_, ?_⟩
      · rw [hts.closes t ht]
        rintro id ⟨⟩
      · rw [haa]
        rintro id ⟨⟩
    · rintro t ht
      rw [List.getLast?_append] at ht
      cases ht
      exact huc
    · intro t ht
      rcases List.mem_append.mp ht with hold | hnew
      · exact hts.full t hold
      · rcases List.mem_pair.mp hnew with rfl | rfl
        · exact hae
        · exact hue

/-- **One answer for each call**, in their order, is right exactly if no two calls share an id. -/
theorem answers_calls_iff {t u : Turn ι} (h : u.answers = t.calls) :
    Answers t u ↔ t.calls.Nodup := by
  rw [Answers, h, List.nodup_iff_count_eq_one]
  exact and_iff_left fun _ => id

/-- **A single answer** is right exactly if there are calls, and they all have its id. -/
theorem answers_singleton_iff {t u : Turn ι} {id : ι} (h : u.answers = [id]) :
    Answers t u ↔ t.calls ≠ [] ∧ ∀ i ∈ t.calls, i = id := by
  rw [Answers, h, List.forall_mem_singleton]
  constructor
  · rintro ⟨hcount, hid⟩
    refine ⟨List.ne_nil_of_mem hid, fun i hi => ?_⟩
    have hmem : i ∈ [id] := List.count_pos_iff.mp (by rw [hcount i hi]; exact Nat.one_pos)
    exact List.mem_singleton.mp hmem
  · rintro ⟨hne, hall⟩
    obtain ⟨i, hi⟩ := List.exists_mem_of_ne_nil _ hne
    refine ⟨fun j hj => by rw [hall j hj, List.count_singleton_self], ?_⟩
    rw [← hall i hi]
    exact hi

end Transcript
