import Mathlib.Data.List.Basic

/-!
# Machinery/Glob — patterns with wildcards

    any p ──▸ skip some of the text ──▸ p          one p ──▸ skip one ──▸ p

`Like` is what a pattern means, by how a text splits; `accepts` decides it, trying each place where
the rest of the pattern could start (`accepts_iff`).

`LikeWith` and `acceptsWith` are the same of a reading under which a character stands for what is
the `same`, and a wildcard only for what is `wild`.  If a wildcard stands for anything but `a`, what
is lost is the texts of more `a`s than the pattern has (`likeWith_ne_iff`).
-/

namespace Glob

/-- One place of a pattern: any text, any one character, or a character itself. -/
inductive Token (α : Type*)
  | any
  | one
  | lit (c : α)
  deriving DecidableEq

variable {α : Type*}

/-- **The texts a pattern stands for.** -/
def Like : List (Token α) → List α → Prop
  | [], s => s = []
  | .any :: p, s => ∃ t u, s = t ++ u ∧ Like p u
  | .one :: p, s => ∃ c u, s = c :: u ∧ Like p u
  | .lit c :: p, s => ∃ u, s = c :: u ∧ Like p u

/-- Whether some end of a text is accepted. -/
def someSuffix (k : List α → Bool) : List α → Bool
  | [] => k []
  | c :: s => k (c :: s) || someSuffix k s

/-- **Whether a text is one of a pattern's.** -/
def accepts [DecidableEq α] : List (Token α) → List α → Bool
  | [], s => s.isEmpty
  | .any :: p, s => someSuffix (accepts p) s
  | .one :: p, s => match s with
    | [] => false
    | _ :: s => accepts p s
  | .lit c :: p, s => match s with
    | [] => false
    | d :: s => c = d && accepts p s

theorem someSuffix_iff {k : List α → Bool} {s : List α} :
    someSuffix k s ↔ ∃ t u, s = t ++ u ∧ k u := by
  induction s with
  | nil => simp [someSuffix]
  | cons c s ih =>
    rw [someSuffix, Bool.or_eq_true, ih]
    constructor
    · rintro (h | ⟨t, u, rfl, h⟩)
      · exact ⟨[], c :: s, rfl, h⟩
      · exact ⟨c :: t, u, rfl, h⟩
    · rintro ⟨t, u, heq, h⟩
      rcases t with _ | ⟨d, t⟩
      · exact .inl (heq ▸ h)
      · exact .inr ⟨t, u, (List.cons.inj heq).2, h⟩

/-- **The matcher decides what the pattern means.** -/
theorem accepts_iff [DecidableEq α] {p : List (Token α)} {s : List α} :
    accepts p s ↔ Like p s := by
  induction p generalizing s with
  | nil => simp [accepts, Like]
  | cons token p ih =>
    cases token with
    | any => simp only [accepts, Like, someSuffix_iff, ih]
    | one => cases s <;> simp [accepts, Like, ih]
    | lit c =>
      cases s with
      | nil => simp [accepts, Like]
      | cons d s =>
        simp only [accepts, Like, Bool.and_eq_true, decide_eq_true_eq, ih, List.cons.injEq]
        constructor
        · rintro ⟨rfl, h⟩
          exact ⟨s, ⟨rfl, rfl⟩, h⟩
        · rintro ⟨u, ⟨rfl, rfl⟩, h⟩
          exact ⟨rfl, h⟩

/-! ## Other readings of a pattern -/

section

variable {same same' : α → α → Prop} {wild wild' : α → Prop} {p : List (Token α)} {s : List α}

/-- **The texts of a pattern whose characters stand for their likes**, and whose wildcards stand for
the wild characters. -/
def LikeWith (same : α → α → Prop) (wild : α → Prop) : List (Token α) → List α → Prop
  | [], s => s = []
  | .any :: p, s => ∃ t u, s = t ++ u ∧ (∀ c ∈ t, wild c) ∧ LikeWith same wild p u
  | .one :: p, s => ∃ c u, s = c :: u ∧ wild c ∧ LikeWith same wild p u
  | .lit c :: p, s => ∃ d u, s = d :: u ∧ same c d ∧ LikeWith same wild p u

theorem LikeWith.mono (hsame : ∀ c d, same c d → same' c d) (hwild : ∀ c, wild c → wild' c)
    (h : LikeWith same wild p s) : LikeWith same' wild' p s := by
  induction p generalizing s with
  | nil => exact h
  | cons token p ih =>
    cases token with
    | any =>
      obtain ⟨t, u, rfl, ht, h⟩ := h
      exact ⟨t, u, rfl, fun c hc => hwild c (ht c hc), ih h⟩
    | one =>
      obtain ⟨c, u, rfl, hc, h⟩ := h
      exact ⟨c, u, rfl, hwild c hc, ih h⟩
    | lit c =>
      obtain ⟨d, u, rfl, hd, h⟩ := h
      exact ⟨d, u, rfl, hsame c d hd, ih h⟩

/-- What a pattern means is the reading to the letter. -/
theorem likeWith_eq_iff : LikeWith (· = ·) (fun _ => True) p s ↔ Like p s := by
  induction p generalizing s with
  | nil => rfl
  | cons token p ih => cases token <;> simp [LikeWith, Like, ih]

/-- Whether the rest of a text is accepted, after some wild characters. -/
def someSuffixPast (wild : α → Bool) (k : List α → Bool) : List α → Bool
  | [] => k []
  | c :: s => k (c :: s) || wild c && someSuffixPast wild k s

/-- **Whether a text is one of a pattern's**, so read. -/
def acceptsWith (same : α → α → Bool) (wild : α → Bool) : List (Token α) → List α → Bool
  | [], s => s.isEmpty
  | .any :: p, s => someSuffixPast wild (acceptsWith same wild p) s
  | .one :: p, s => match s with
    | [] => false
    | c :: s => wild c && acceptsWith same wild p s
  | .lit c :: p, s => match s with
    | [] => false
    | d :: s => same c d && acceptsWith same wild p s

theorem someSuffixPast_iff {wild : α → Bool} {k : List α → Bool} :
    someSuffixPast wild k s ↔ ∃ t u, s = t ++ u ∧ (∀ c ∈ t, wild c) ∧ k u := by
  induction s with
  | nil => simp [someSuffixPast]
  | cons c s ih =>
    rw [someSuffixPast, Bool.or_eq_true, Bool.and_eq_true, ih]
    constructor
    · rintro (h | ⟨hc, t, u, rfl, ht, h⟩)
      · exact ⟨[], c :: s, rfl, by simp, h⟩
      · exact ⟨c :: t, u, rfl, List.forall_mem_cons.mpr ⟨hc, ht⟩, h⟩
    · rintro ⟨t, u, heq, ht, h⟩
      rcases t with _ | ⟨d, t⟩
      · exact .inl (heq ▸ h)
      · obtain ⟨rfl, rfl⟩ := List.cons.inj heq
        obtain ⟨hc, ht⟩ := List.forall_mem_cons.mp ht
        exact .inr ⟨hc, t, u, rfl, ht, h⟩

/-- **The matcher decides what the pattern means**, in any reading. -/
theorem acceptsWith_iff {same : α → α → Bool} {wild : α → Bool} :
    acceptsWith same wild p s ↔ LikeWith (same · ·) (wild ·) p s := by
  induction p generalizing s with
  | nil => simp [acceptsWith, LikeWith]
  | cons token p ih =>
    cases token with
    | any => simp only [acceptsWith, LikeWith, someSuffixPast_iff, ih]
    | one => cases s <;> simp [acceptsWith, LikeWith, ih]
    | lit c => cases s <;> simp [acceptsWith, LikeWith, ih]

variable [DecidableEq α] {a : α}

theorem count_any (p : List (Token α)) : (.any :: p).count (.lit a) = p.count (.lit a) :=
  List.count_cons_of_ne (by simp)

theorem count_one (p : List (Token α)) : (.one :: p).count (.lit a) = p.count (.lit a) :=
  List.count_cons_of_ne (by simp)

/-- A character that is taken for another counts as much in the text as in the pattern. -/
theorem exists_count_cons {c d : α} (h : c = a ↔ d = a) (p : List (Token α)) (u : List α) :
    ∃ n, (Token.lit c :: p).count (.lit a) = p.count (.lit a) + n
      ∧ (d :: u).count a = u.count a + n := by
  refine ⟨if d = a then 1 else 0, ?_, ?_⟩
  · simp only [List.count_cons, beq_iff_eq, Token.lit.injEq, h]
  · simp only [List.count_cons, beq_iff_eq]

/-- A text has each of the pattern's own `a`s. -/
theorem count_le_of_likeWith (hsame : ∀ c d, same c d → (c = a ↔ d = a))
    (h : LikeWith same wild p s) : p.count (.lit a) ≤ s.count a := by
  induction p generalizing s with
  | nil => simp
  | cons token p ih =>
    cases token with
    | any =>
      obtain ⟨t, u, rfl, -, h⟩ := h
      rw [count_any, List.count_append]
      exact Nat.le_trans (ih h) (Nat.le_add_left ..)
    | one =>
      obtain ⟨c, u, rfl, -, h⟩ := h
      rw [count_one]
      exact Nat.le_trans (ih h) List.count_le_count_cons
    | lit c =>
      obtain ⟨d, u, rfl, hd, h⟩ := h
      obtain ⟨n, hp, hu⟩ := exists_count_cons (hsame c d hd) p u
      rw [hp, hu]
      exact Nat.add_le_add_right (ih h) n

/-- …and no other, if no wildcard stands for one. -/
theorem count_of_likeWith_ne (hsame : ∀ c d, same c d → (c = a ↔ d = a))
    (h : LikeWith same (· ≠ a) p s) : s.count a = p.count (.lit a) := by
  induction p generalizing s with
  | nil =>
    obtain rfl : s = [] := h
    rfl
  | cons token p ih =>
    cases token with
    | any =>
      obtain ⟨t, u, rfl, ht, h⟩ := h
      have hnone : t.count a = 0 := List.count_eq_zero.mpr fun hmem => ht a hmem rfl
      rw [count_any, List.count_append, hnone, Nat.zero_add, ih h]
    | one =>
      obtain ⟨c, u, rfl, hc, h⟩ := h
      rw [count_one, List.count_cons_of_ne hc, ih h]
    | lit c =>
      obtain ⟨d, u, rfl, hd, h⟩ := h
      obtain ⟨n, hp, hu⟩ := exists_count_cons (hsame c d hd) p u
      rw [hp, hu, ih h]

/-- Where a text has no other, no wildcard stands for one. -/
theorem likeWith_ne_of_count (hsame : ∀ c d, same c d → (c = a ↔ d = a))
    (h : LikeWith same wild p s) (hcount : s.count a = p.count (.lit a)) :
    LikeWith same (· ≠ a) p s := by
  induction p generalizing s with
  | nil => exact h
  | cons token p ih =>
    cases token with
    | any =>
      obtain ⟨t, u, rfl, -, h⟩ := h
      have hle := count_le_of_likeWith hsame h
      rw [count_any, List.count_append] at hcount
      have hnone : t.count a = 0 := by omega
      exact ⟨t, u, rfl, fun c hc hca => List.count_eq_zero.mp hnone (hca ▸ hc), ih h (by omega)⟩
    | one =>
      obtain ⟨c, u, rfl, -, h⟩ := h
      have hle := count_le_of_likeWith hsame h
      rw [count_one] at hcount
      have hc : c ≠ a := by
        rintro rfl
        rw [List.count_cons_self] at hcount
        omega
      rw [List.count_cons_of_ne hc] at hcount
      exact ⟨c, u, rfl, hc, ih h hcount⟩
    | lit c =>
      obtain ⟨d, u, rfl, hd, h⟩ := h
      obtain ⟨n, hp, hu⟩ := exists_count_cons (hsame c d hd) p u
      rw [hp, hu] at hcount
      exact ⟨d, u, rfl, hd, ih h (Nat.add_right_cancel hcount)⟩

/-- **Wildcards that stand for anything but `a`** lose the texts that have an `a` besides the
pattern's own. -/
theorem likeWith_ne_iff (hsame : ∀ c d, same c d → (c = a ↔ d = a)) :
    LikeWith same (· ≠ a) p s ↔
      LikeWith same (fun _ => True) p s ∧ s.count a = p.count (.lit a) :=
  ⟨fun h => ⟨h.mono (fun _ _ => id) fun _ _ => trivial, count_of_likeWith_ne hsame h⟩,
    fun ⟨h, hcount⟩ => likeWith_ne_of_count hsame h hcount⟩

end

end Glob
