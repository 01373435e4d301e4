import TaxLiability.Machinery.Dict

/-!
# Machinery/Upsert — batches of guarded upserts, and the rows they count

    key free          ──▸ insert     1
    key of the writer ──▸ update     1
    key of another    ──▸ nothing    0

A write that meets a key of another owner is not an error: it affects no row.  A batch affects one
row a write exactly if no key is another owner's when its write comes, in the table or by an
earlier write (`count_runAll_eq_iff`); each key then holds what its last write put there, and the
rows that were there keep what an update keeps (`kept_runAll`).
-/

/-- **A guarded upsert**: a write stores a row under a free key, and refreshes the row of a key that
belongs to its owner. -/
structure Upsert (κ ω α β : Type*) where
  key : α → κ
  owner : α → ω
  ownerOf : β → ω
  insert : α → β
  update : α → β → β
  ownerOf_insert : ∀ a, ownerOf (insert a) = owner a
  ownerOf_update : ∀ a b, ownerOf (update a b) = ownerOf b

namespace Upsert

variable {κ ω α β : Type*} [DecidableEq κ] [DecidableEq ω] (U : Upsert κ ω α β)

/-- **One statement**: the table after it, and the rows it affected. -/
def run (t : Dict κ β) (a : α) : Dict κ β × ℕ :=
  match t.get? (U.key a) with
  | none => (t.set (U.key a) (U.insert a), 1)
  | some b => if U.ownerOf b = U.owner a then (t.set (U.key a) (U.update a b), 1) else (t, 0)

/-- **A batch**: the statements in order, and the sum of the rows they affected. -/
def runAll (t : Dict κ β) : List α → Dict κ β × ℕ
  | [] => (t, 0)
  | a :: as => ((runAll (U.run t a).1 as).1, (U.run t a).2 + (runAll (U.run t a).1 as).2)

omit [DecidableEq ω] in
/-- Who owns a key. -/
def ownerAt (t : Dict κ β) (k : κ) : Option ω := (t.get? k).map U.ownerOf

omit [DecidableEq ω] in
/-- The key of a write is another owner's. -/
def Foreign (t : Dict κ β) (a : α) : Prop := ∃ o, U.ownerAt t (U.key a) = some o ∧ o ≠ U.owner a

omit [DecidableEq ω] in
/-- **Some write's key is another owner's**, in the table or by an earlier write of the batch. -/
def Clash (t : Dict κ β) (as : List α) : Prop :=
  ∃ l a r, as = l ++ a :: r
    ∧ (U.Foreign t a ∨ ∃ e ∈ l, U.key e = U.key a ∧ U.owner e ≠ U.owner a)

/-! ## One statement -/

variable {U} {t : Dict κ β} {a : α} {as : List α}

/-- **What a statement does**, its two branches told apart once: the row it leaves at its key and
what it counts. -/
theorem run_cases (t : Dict κ β) (a : α) :
    (U.Foreign t a ∧ U.run t a = (t, 0))
      ∨ (¬ U.Foreign t a ∧ t.get? (U.key a) = none
        ∧ U.run t a = (t.set (U.key a) (U.insert a), 1))
      ∨ ∃ b, ¬ U.Foreign t a ∧ t.get? (U.key a) = some b
        ∧ U.run t a = (t.set (U.key a) (U.update a b), 1) := by
  cases hb : t.get? (U.key a) with
  | none => exact .inr (.inl ⟨by simp [Foreign, ownerAt, hb], rfl, by simp [run, hb]⟩)
  | some b =>
    by_cases ho : U.ownerOf b = U.owner a
    · exact .inr (.inr ⟨b, by simp [Foreign, ownerAt, hb, ho], rfl, by simp [run, hb, ho]⟩)
    · exact .inl ⟨⟨_, by simp [ownerAt, hb], ho⟩, by simp [run, hb, ho]⟩

theorem count_run_le (t : Dict κ β) (a : α) : (U.run t a).2 ≤ 1 := by
  obtain ⟨-, h⟩ | ⟨-, -, h⟩ | ⟨b, -, -, h⟩ := run_cases (U := U) t a <;> simp [h]

theorem count_run_eq_iff : (U.run t a).2 = 1 ↔ ¬ U.Foreign t a := by
  obtain ⟨hf, h⟩ | ⟨hf, -, h⟩ | ⟨b, hf, -, h⟩ := run_cases (U := U) t a <;> simp [h, hf]

/-- **A statement affects its own key alone.** -/
theorem get?_run_of_ne {k : κ} (hk : U.key a ≠ k) : (U.run t a).1.get? k = t.get? k := by
  obtain ⟨-, h⟩ | ⟨-, -, h⟩ | ⟨b, -, -, h⟩ := run_cases (U := U) t a <;>
    simp [h, Dict.get?_set, hk]

/-- **A key that is owned stays its owner's**, and a free one becomes the writer's. -/
theorem ownerAt_run (t : Dict κ β) (a : α) (k : κ) : U.ownerAt (U.run t a).1 k
    = (U.ownerAt t k).or (if U.key a = k then some (U.owner a) else none) := by
  by_cases hk : U.key a = k
  · subst hk
    obtain ⟨⟨o, ho, -⟩, h⟩ | ⟨-, hb, h⟩ | ⟨b, -, hb, h⟩ := run_cases (U := U) t a
    · simp [h, ho]
    · simp [h, ownerAt, Dict.get?_set, hb, U.ownerOf_insert]
    · simp [h, ownerAt, Dict.get?_set, hb, U.ownerOf_update]
  · simp [ownerAt, get?_run_of_ne hk, hk]

theorem nodup_run (h : t.Nodup) (a : α) : (U.run t a).1.Nodup := by
  obtain ⟨-, hrun⟩ | ⟨-, -, hrun⟩ | ⟨b, -, -, hrun⟩ := run_cases (U := U) t a <;> rw [hrun]
  · exact h
  · exact h.set _ _
  · exact h.set _ _

/-! ## Batches -/

theorem nodup_runAll (h : t.Nodup) (as : List α) : (U.runAll t as).1.Nodup := by
  induction as generalizing t with
  | nil => exact h
  | cons a as ih => exact ih (nodup_run h a)

theorem runAll_append (t : Dict κ β) (l r : List α) : U.runAll t (l ++ r)
    = ((U.runAll (U.runAll t l).1 r).1,
      (U.runAll t l).2 + (U.runAll (U.runAll t l).1 r).2) := by
  induction l generalizing t with
  | nil => simp [runAll]
  | cons a l ih => simp [runAll, ih, Nat.add_assoc]

theorem count_runAll_le (t : Dict κ β) (as : List α) : (U.runAll t as).2 ≤ as.length := by
  induction as generalizing t with
  | nil => exact Nat.le_refl 0
  | cons a as ih =>
    have hrun := count_run_le (U := U) t a
    have hrest := ih (U.run t a).1
    simp only [runAll, List.length_cons]
    omega

/-- A batch counts all of its writes exactly if its first statement counts and the others do. -/
theorem count_runAll_cons_iff : (U.runAll t (a :: as)).2 = (a :: as).length
    ↔ (U.run t a).2 = 1 ∧ (U.runAll (U.run t a).1 as).2 = as.length := by
  have hrun := count_run_le (U := U) t a
  have hrest := count_runAll_le (U := U) (U.run t a).1 as
  simp only [runAll, List.length_cons]
  omega

omit [DecidableEq ω] in
theorem clash_nil : ¬ U.Clash t [] := by
  rintro ⟨l, a, r, h, -⟩
  exact absurd h (by simp)

/-- **A clash is at the first write, or among the others** over the table the first one leaves. -/
theorem clash_cons_iff : U.Clash t (a :: as) ↔ U.Foreign t a ∨ U.Clash (U.run t a).1 as := by
  constructor
  · rintro ⟨_ | ⟨a, l⟩, b, r, has, h⟩
    · obtain ⟨rfl, -⟩ := List.cons.inj has
      rcases h with h | ⟨e, he, -⟩
      · exact .inl h
      · exact absurd he List.not_mem_nil
    · obtain ⟨rfl, rfl⟩ := List.cons.inj has
      by_cases hf : U.Foreign t a
      · exact .inl hf
      refine .inr ⟨l, b, r, rfl, ?_⟩
      rcases h with ⟨o, ho, hne⟩ | ⟨e, he, hkey, hne⟩
      · exact .inl ⟨o, by simp [ownerAt_run, ho], hne⟩
      · rcases List.mem_cons.mp he with rfl | he
        · -- the first write's key is its owner's now, whoever owned it before
          refine .inl ⟨U.owner e, ?_, hne⟩
          rw [ownerAt_run, if_pos hkey]
          cases ho : U.ownerAt t (U.key b) with
          | none => rfl
          | some o =>
            rw [← hkey] at ho
            exact congrArg some (not_not.mp fun hne => hf ⟨o, ho, hne⟩)
        · exact .inr ⟨e, he, hkey, hne⟩
  · rintro (h | ⟨l, b, r, rfl, h⟩)
    · exact ⟨[], a, as, rfl, .inl h⟩
    · refine ⟨a :: l, b, r, rfl, ?_⟩
      rcases h with ⟨o, ho, hne⟩ | ⟨e, he, h⟩
      · rw [ownerAt_run, Option.or_eq_some_iff] at ho
        rcases ho with ho | ⟨-, ho⟩
        · exact .inl ⟨o, ho, hne⟩
        · split at ho
          · next hkey =>
            cases ho
            exact .inr ⟨a, List.mem_cons_self, hkey, hne⟩
          · cases ho
      · exact .inr ⟨e, List.mem_cons_of_mem _ he, h⟩

/-- **A batch affects one row a write, exactly if no write meets a foreign key.** -/
theorem count_runAll_eq_iff : (U.runAll t as).2 = as.length ↔ ¬ U.Clash t as := by
  induction as generalizing t with
  | nil => exact iff_of_true rfl clash_nil
  | cons a as ih => rw [count_runAll_cons_iff, count_run_eq_iff, ih, clash_cons_iff, not_or]

/-! ## What a batch leaves -/

/-- A key no write goes to is untouched. -/
theorem get?_runAll_of_forall_ne {k : κ} (h : ∀ a ∈ as, U.key a ≠ k) :
    (U.runAll t as).1.get? k = t.get? k := by
  induction as generalizing t with
  | nil => rfl
  | cons a as ih =>
    rw [runAll, ih fun b hb => h b (List.mem_cons_of_mem _ hb),
      get?_run_of_ne (h a List.mem_cons_self)]

/-- **What an update keeps, a batch keeps**, of every row that was there. -/
theorem kept_runAll {δ : Type*} {f : β → δ} (hf : ∀ a b, f (U.update a b) = f b) {k : κ} {b : β}
    (hb : t.get? k = some b) : ∃ b', (U.runAll t as).1.get? k = some b' ∧ f b' = f b := by
  induction as generalizing t b with
  | nil => exact ⟨b, hb, rfl⟩
  | cons a as ih =>
    by_cases hk : U.key a = k
    · subst hk
      obtain ⟨-, h⟩ | ⟨-, hnone, -⟩ | ⟨b', -, hb', h⟩ := run_cases (U := U) t a
      · exact ih (by rwa [h])
      · cases hb.symm.trans hnone
      · cases hb.symm.trans hb'
        obtain ⟨c, hc, hfc⟩ := ih (t := (U.run t a).1) (b := U.update a b)
          (by simp [h, Dict.get?_set])
        exact ⟨c, hc, hfc.trans (hf a b)⟩
    · exact ih (by rwa [get?_run_of_ne hk])

/-- **The last write of a key is what it holds**: the row of a write that affects it and no later
write of the batch goes to is the one inserted, or an update by that write. -/
theorem last_write {l r : List α} (hclash : ¬ U.Clash t (l ++ a :: r))
    (hlast : ∀ e ∈ r, U.key e ≠ U.key a) :
    ∃ b, (U.runAll t (l ++ a :: r)).1.get? (U.key a) = some b ∧ U.ownerOf b = U.owner a
      ∧ (b = U.insert a ∨ ∃ c, b = U.update a c) := by
  have hcount := count_runAll_eq_iff.mpr hclash
  rw [runAll_append, List.length_append] at hcount
  have hl := count_runAll_le (U := U) t l
  have hr := count_runAll_le (U := U) (U.runAll t l).1 (a :: r)
  have hall : (U.runAll (U.runAll t l).1 (a :: r)).2 = (a :: r).length := by omega
  have ha : (U.run (U.runAll t l).1 a).2 = 1 := (count_runAll_cons_iff.mp hall).1
  rw [runAll_append, runAll, get?_runAll_of_forall_ne hlast]
  obtain ⟨-, h⟩ | ⟨-, -, h⟩ | ⟨b, hf, hb, h⟩ := run_cases (U := U) (U.runAll t l).1 a
  · simp [h] at ha
  · exact ⟨U.insert a, by simp [h, Dict.get?_set], U.ownerOf_insert a, .inl rfl⟩
  · refine ⟨U.update a b, by simp [h, Dict.get?_set], ?_, .inr ⟨b, rfl⟩⟩
    rw [U.ownerOf_update]
    exact not_not.mp fun hne => hf ⟨_, by simp [ownerAt, hb], hne⟩

end Upsert
