import Mathlib.Data.List.MinMax
import Mathlib.Data.List.Sort

/-!
# Machinery/StableSort — best first, and of equals the earlier first

    l ──sort──▸ c :: t        l ──argmax──▸ c        l.erase c ──sort──▸ t

A list sorted by a key keeps the order in which equals came (`pairwise_sort`), and taking the first
of the best, again and again, sorts it (`argmax_eq_head?`, `sort_erase`).
-/

namespace StableSort

variable {α K : Type*} [LinearOrder K] {key : α → K} {earlier : α → α → Prop} {l : List α}

/-- **Best first**: the list in descending order of a key. -/
abbrev sort (key : α → K) (l : List α) : List α := l.insertionSort fun a b => key b ≤ key a

/-- **One goes ahead of another**: its key is larger, or it is the earlier of equals. -/
def Ahead (key : α → K) (earlier : α → α → Prop) (a b : α) : Prop :=
  key b < key a ∨ key a = key b ∧ earlier a b

theorem sort_cons (key : α → K) (a : α) (l : List α) :
    sort key (a :: l) = (sort key l).orderedInsert (fun a b => key b ≤ key a) a := rfl

theorem Ahead.le {a b : α} (h : Ahead key earlier a b) : key b ≤ key a :=
  h.elim le_of_lt fun h => h.1.ge

/-! ## Order -/

theorem pairwise_orderedInsert {a : α} (ha : ∀ b ∈ l, earlier a b)
    (h : l.Pairwise (Ahead key earlier)) :
    (l.orderedInsert (fun a b => key b ≤ key a) a).Pairwise (Ahead key earlier) := by
  induction l with
  | nil => exact List.pairwise_singleton _ a
  | cons b l ih =>
    obtain ⟨hb, hl⟩ := List.pairwise_cons.mp h
    have hinsert : ∀ c ∈ b :: l, key c ≤ key a → Ahead key earlier a c := fun c hc hle =>
      hle.lt_or_eq.imp_right fun heq => ⟨heq.symm, ha c hc⟩
    rw [List.orderedInsert_cons]
    split_ifs with hle
    · refine List.pairwise_cons.mpr ⟨fun c hc => hinsert c hc ?_, h⟩
      rcases List.mem_cons.mp hc with rfl | hc
      · exact hle
      · exact (hb c hc).le.trans hle
    · refine List.pairwise_cons.mpr ⟨fun c hc => ?_,
        ih (fun c hc => ha c (List.mem_cons_of_mem b hc)) hl⟩
      rcases (List.mem_orderedInsert _).mp hc with rfl | hc
      · exact .inl (not_le.mp hle)
      · exact hb c hc

/-- **The sort is stable**: whatever order the list is in, equals keep it. -/
theorem pairwise_sort (h : l.Pairwise earlier) : (sort key l).Pairwise (Ahead key earlier) := by
  induction l with
  | nil => exact List.Pairwise.nil
  | cons a l ih =>
    obtain ⟨ha, hl⟩ := List.pairwise_cons.mp h
    rw [sort_cons]
    exact pairwise_orderedInsert (fun b hb => ha b ((List.mem_insertionSort _).mp hb)) (ih hl)

/-- **What is cut off** comes after what is kept. -/
theorem rel_of_notMem_take {r : α → α → Prop} (h : l.Pairwise r) {k : ℕ} {a b : α}
    (ha : a ∈ l.take k) (hb : b ∈ l) (hcut : b ∉ l.take k) : r a b := by
  rw [← List.take_append_drop k l] at h hb
  exact (List.pairwise_append.mp h).2.2 a ha b ((List.mem_append.mp hb).resolve_left hcut)

/-! ## The first that will do -/

/-- In a list in order, the first of a kind is the least of that kind. -/
theorem find?_of_pairwise {r : α → α → Prop} (hrefl : ∀ a, r a a) (h : l.Pairwise r)
    {p : α → Bool} {a : α} (ha : l.find? p = some a) : a ∈ l ∧ p a ∧ ∀ b ∈ l, p b → r a b := by
  obtain ⟨hp, before, after, rfl, hbefore⟩ := List.find?_eq_some_iff_append.mp ha
  refine ⟨by simp, hp, fun b hb hpb => ?_⟩
  rcases List.mem_append.mp hb with hb | hb
  · exact absurd hpb (by simpa using hbefore b hb)
  · rcases List.mem_cons.mp hb with rfl | hb
    · exact hrefl b
    · exact List.rel_of_pairwise_cons (List.pairwise_append.mp h).2.1 hb

/-- **Of equals the one inserted last comes first**: an element of a kind, after which all others of
that kind may come, is found before them. -/
theorem find?_orderedInsert {r : α → α → Prop} [DecidableRel r] {p : α → Bool} {a : α} (ha : p a)
    (h : ∀ b ∈ l, p b → r a b) : (l.orderedInsert r a).find? p = some a := by
  induction l with
  | nil => simp [ha]
  | cons b l ih =>
    rw [List.orderedInsert_cons]
    split_ifs with hr
    · exact List.find?_cons_of_pos ha
    · have hb : ¬ p b := fun hb => hr (h b List.mem_cons_self hb)
      rw [List.find?_cons_of_neg hb]
      exact ih fun c hc => h c (List.mem_cons_of_mem b hc)

/-! ## The first of a list -/

/-- **The nearest of a list**: as many as there are up to a number, in order of their distance, and
none nearer left out. -/
structure Nearest (distance : α → K) (k : ℕ) (l r : List α) : Prop where
  subperm : r.Subperm l
  length : r.length = min k l.length
  sorted : r.Pairwise fun a b => distance a ≤ distance b
  left_out : ∀ a ∈ r, ∀ b ∈ l, b ∉ r → distance a ≤ distance b

/-- **A sorted list begins with its nearest**, however ties are broken. -/
theorem nearest_take {distance : α → K} {s : List α} (hperm : s.Perm l)
    (hsorted : s.Pairwise fun a b => distance a ≤ distance b) (k : ℕ) :
    Nearest distance k l (s.take k) where
  subperm := (List.take_sublist k s).subperm.trans hperm.subperm
  length := by rw [List.length_take, hperm.length_eq]
  sorted := hsorted.sublist (List.take_sublist k s)
  left_out a ha b hb hcut := rel_of_notMem_take hsorted ha (hperm.mem_iff.mpr hb) hcut

/-- **One more is fetched than is kept**, for the one element that is dropped: whether or not it is
among those fetched, what is left begins as the whole list does without it. -/
theorem take_filter_take {p : α → Bool} (hone : (l.filter fun a => !p a).length ≤ 1) (k : ℕ) :
    ((l.take (k + 1)).filter p).take k = (l.filter p).take k := by
  rcases Nat.lt_or_ge k l.length with hk | hk
  · have hdropped : ((l.take (k + 1)).filter fun a => !p a).length ≤ 1 :=
      ((List.take_sublist _ _).filter _).length_le.trans hone
    have hfetched : (l.take (k + 1)).length = k + 1 := by
      rw [List.length_take, Nat.min_eq_left hk]
    have hkept : k ≤ ((l.take (k + 1)).filter p).length := by
      have hsplit := List.length_eq_length_filter_add (l := l.take (k + 1)) p
      omega
    conv_rhs => rw [← List.take_append_drop (k + 1) l, List.filter_append]
    rw [List.take_append_of_le_length hkept]
  · rw [List.take_of_length_le (l := l) (Nat.le_succ_of_le hk)]

/-! ## Selection -/

theorem head?_sort_cons (a : α) (l : List α) : (sort key (a :: l)).head?
    = (sort key l).head?.casesOn (some a) fun c => if key a < key c then some c else some a := by
  rw [sort_cons]
  cases sort key l with
  | nil => rfl
  | cons c t =>
    rw [List.orderedInsert_cons]
    by_cases hle : key c ≤ key a
    · rw [if_pos hle]
      exact (if_neg (not_lt.mpr hle)).symm
    · rw [if_neg hle]
      exact (if_pos (not_le.mp hle)).symm

/-- **The first of the best heads the sort.** -/
theorem argmax_eq_head? (key : α → K) (l : List α) : l.argmax key = (sort key l).head? := by
  induction l with
  | nil => rfl
  | cons a l ih => rw [List.argmax_cons, ih, head?_sort_cons]

/-- **Without its head the sort is that of the rest.** -/
theorem sort_erase [DecidableEq α] {c : α} {t : List α} (h : sort key l = c :: t) :
    sort key (l.erase c) = t := by
  induction l generalizing c t with
  | nil => cases h
  | cons a l ih =>
    rw [sort_cons] at h
    cases hl : sort key l with
    | nil =>
      rw [hl] at h
      cases h
      rw [List.erase_cons_head, hl]
    | cons c' t' =>
      rw [hl, List.orderedInsert_cons] at h
      split_ifs at h with hle
      · cases h
        rw [List.erase_cons_head, hl]
      · cases h
        have hne : a ≠ c := by
          rintro rfl
          exact hle le_rfl
        rw [List.erase_cons_tail (by simpa using hne), sort_cons, ih hl]

end StableSort
