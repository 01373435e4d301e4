import Mathlib.Data.List.Nodup
import TaxLiability.Orders.RefundService

/-!
# Orders/RefundLedger — one refund per tenant and key, and whom a response describes

The unique index makes the first committed row of a key its only one; every call under that key then
answers with that row, its own or the one it reads back (`refunds_at_most_once`).  The row is looked
up by tenant and key alone, so a call that has not made it answers for the call that has, whatever
order and amount it asks for itself (`response_of_creator`).
-/

open Machine

namespace Orders

namespace Ledger

/-! ## What a call has seen -/

/-- The row a call has inserted and not committed. -/
def holds : Call → Option RefundRow
  | .returning _ created _ => created
  | _ => none

/-- The row a call has committed. -/
def made : Call → Option RefundRow
  | .answered _ created _ => created
  | _ => none

/-- Who has made a row has its view to answer with. -/
theorem eq_answered_of_made {call : Call} {row : RefundRow} (h : made call = some row) :
    ∃ c view, call = .answered c (some row) view := by
  cases call with
  | answered c created view => exact ⟨c, view, by rw [← h]; rfl⟩
  | _ => cases h

/-- The row a call has made of its own request. -/
structure OwnRow (c : Refund) (row : RefundRow) : Prop where
  orderId : row.orderId = c.orderId
  key : row.key = c.key
  amount : Money.normalise c.request.amount = .ok row.amount
  reason : row.reason = c.request.reason

/-- **A view of the committed row** under the key of a call. -/
def Describes (s : Ledger) (c : Refund) (view : RefundView) : Prop :=
  ∃ row ∈ s.refunds, row.key = c.key ∧ row.view = .ok view

/-- **What holds of a call** wherever it is: once its insert was refused there is a committed row of
its key, what it returns is a view of such a row or of its own uncommitted one, and it never fails
to read the row back. -/
def CallSound (s : Ledger) : Call → Prop
  | .checked c amount => Money.normalise c.request.amount = .ok amount
  | .refused c => ∃ row ∈ s.refunds, row.key = c.key
  | .returning c (some row) view => row ∈ s.uncommitted ∧ OwnRow c row ∧ row.view = .ok view
  | .answered c (some row) view => row ∈ s.refunds ∧ OwnRow c row ∧ row.view = .ok view
  | .returning c none view | .answered c none view => s.Describes c view
  | .failed e => ∀ message, e ≠ .illegalState message
  | .idle | .begun _ => True

/-- **The ledger, as an invariant**: keys are unique among the committed rows and among the
uncommitted ones, and apart; no two calls hold rows of one key or have made rows of one key; every
committed row was made by a call that has its view to answer with. -/
structure Sound (s : Ledger) : Prop where
  refunds_nodup : (s.refunds.map RefundRow.key).Nodup
  uncommitted_nodup : (s.uncommitted.map RefundRow.key).Nodup
  apart : ∀ row ∈ s.uncommitted, row.key ∉ s.refunds.map RefundRow.key
  calls : ∀ i, s.CallSound (s.calls i)
  distinct : ∀ i j row row', holds (s.calls i) = some row → holds (s.calls j) = some row' →
    row.key = row'.key → i = j
  makers : ∀ i j row row', made (s.calls i) = some row → made (s.calls j) = some row' →
    row.key = row'.key → i = j
  created : ∀ row ∈ s.refunds, ∃ i, made (s.calls i) = some row

theorem sound_start : start.Sound where
  refunds_nodup := List.nodup_nil
  uncommitted_nodup := List.nodup_nil
  apart := by simp [start]
  calls := fun _ => trivial
  distinct := by simp [start, holds]
  makers := by simp [start, made]
  created := by simp [start]

/-- What holds of a call outlives the steps that take no row away from it. -/
theorem CallSound.mono {s t : Ledger} {c : Call} (h : s.CallSound c)
    (hrefunds : ∀ row ∈ s.refunds, row ∈ t.refunds)
    (huncommitted : ∀ row ∈ holds c, row ∈ s.uncommitted → row ∈ t.uncommitted) :
    t.CallSound c := by
  have hdescribes : ∀ {c view}, s.Describes c view → t.Describes c view :=
    fun ⟨row, hrow, h⟩ => ⟨row, hrefunds row hrow, h⟩
  match c with
  | .checked c amount => exact h
  | .refused c => exact h.imp fun row h => ⟨hrefunds row h.1, h.2⟩
  | .returning c (some row) view => exact ⟨huncommitted row rfl h.1, h.2⟩
  | .answered c (some row) view => exact ⟨hrefunds row h.1, h.2⟩
  | .returning c none view => exact hdescribes h
  | .answered c none view => exact hdescribes h
  | .failed e => exact h
  | .idle => trivial
  | .begun c => trivial

/-- The row a call holds is uncommitted. -/
theorem Sound.holds_mem {s : Ledger} (hs : s.Sound) {i : ℕ} {row : RefundRow}
    (h : holds (s.calls i) = some row) : row ∈ s.uncommitted := by
  have hcall := hs.calls i
  cases hi : s.calls i with
  | returning c created view =>
    rw [hi] at hcall h
    obtain rfl : created = some row := h
    exact hcall.1
  | _ => rw [hi] at h; cases h

/-- The row a call has made is committed. -/
theorem Sound.made_mem {s : Ledger} (hs : s.Sound) {i : ℕ} {row : RefundRow}
    (h : made (s.calls i) = some row) : row ∈ s.refunds := by
  obtain ⟨c, view, hi⟩ := eq_answered_of_made h
  have hcall := hs.calls i
  rw [hi] at hcall
  exact hcall.1

/-! ## One step -/

/-- One call's row of a key stays the only one when a call moves to a row of another key. -/
theorem eq_of_moved {row? : Call → Option RefundRow} {s t : Ledger} {i : ℕ} {call : Call}
    (hself : t.calls i = call) (hne : ∀ j, j ≠ i → t.calls j = s.calls j)
    (hs : ∀ j k row row', row? (s.calls j) = some row → row? (s.calls k) = some row' →
      row.key = row'.key → j = k)
    (hnew : ∀ row ∈ row? call, ∀ j, ∀ row' ∈ row? (s.calls j), row'.key ≠ row.key)
    (j k : ℕ) (row row' : RefundRow) (hj : row? (t.calls j) = some row)
    (hk : row? (t.calls k) = some row') (heq : row.key = row'.key) : j = k := by
  by_cases hji : j = i <;> by_cases hki : k = i
  · rw [hji, hki]
  · rw [hji, hself] at hj
    rw [hne k hki] at hk
    exact absurd heq.symm (hnew row hj k row' hk)
  · rw [hne j hji] at hj
    rw [hki, hself] at hk
    exact absurd heq (hnew row' hk j row hj)
  · rw [hne j hji] at hj
    rw [hne k hki] at hk
    exact hs j k row row' hj hk heq

/-- **A call moves on**, and the others find their rows where they were. -/
theorem Sound.of_moved {s t : Ledger} (hs : s.Sound) {i : ℕ} {call : Call}
    (hself : t.calls i = call) (hne : ∀ j, j ≠ i → t.calls j = s.calls j)
    (hold : made (s.calls i) = none) (hrefunds_nodup : (t.refunds.map RefundRow.key).Nodup)
    (huncommitted_nodup : (t.uncommitted.map RefundRow.key).Nodup)
    (hapart : ∀ row ∈ t.uncommitted, row.key ∉ t.refunds.map RefundRow.key)
    (hcall : t.CallSound call) (hrefunds : ∀ row ∈ s.refunds, row ∈ t.refunds)
    (hkeep : ∀ j, j ≠ i → ∀ row ∈ holds (s.calls j), row ∈ s.uncommitted → row ∈ t.uncommitted)
    (hnew : ∀ row ∈ holds call, ∀ j, ∀ row' ∈ holds (s.calls j), row'.key ≠ row.key)
    (hmade : ∀ row ∈ made call, ∀ row' ∈ s.refunds, row'.key ≠ row.key)
    (hcreated : ∀ row ∈ t.refunds, row ∈ s.refunds ∨ made call = some row) :
    t.Sound where
  refunds_nodup := hrefunds_nodup
  uncommitted_nodup := huncommitted_nodup
  apart := hapart
  calls := by
    intro j
    by_cases hj : j = i
    · rw [hj, hself]
      exact hcall
    · rw [hne j hj]
      exact (hs.calls j).mono hrefunds (hkeep j hj)
  distinct := eq_of_moved hself hne hs.distinct hnew
  makers := eq_of_moved hself hne hs.makers fun row hrow _ row' hrow' =>
    hmade row hrow row' (hs.made_mem hrow')
  created := by
    intro row hrow
    obtain hrow | hmade := hcreated row hrow
    · obtain ⟨j, hj⟩ := hs.created row hrow
      have hji : j ≠ i := by
        rintro rfl
        exact absurd (hold.symm.trans hj) nofun
      exact ⟨j, by rw [hne j hji]; exact hj⟩
    · exact ⟨i, by rw [hself]; exact hmade⟩

/-- The tables stay as they are. -/
theorem Sound.goto {s : Ledger} (hs : s.Sound) {i : ℕ} {c : Call} (hc : s.CallSound c)
    (hopen : holds c = none) (hmade : made c = none) (hold : made (s.calls i) = none) :
    (s.goto i c).Sound :=
  hs.of_moved (goto_self s i c) (fun _ => goto_ne s c) hold hs.refunds_nodup hs.uncommitted_nodup
    hs.apart (hc.mono (fun _ => id) fun _ _ => id) (fun _ => id) (fun _ _ _ _ => id)
    (fun _ h => absurd (hopen.symm.trans h) nofun) (fun _ h => absurd (hmade.symm.trans h) nofun)
    fun _ => .inl

/-- A call that throws anything but the read-back's error leaves the ledger sound, and so does one
that goes on soundly. -/
theorem Sound.orFail {α : Type} {s : Ledger} (hs : s.Sound) {i : ℕ} {r : Except OrdersException α}
    {k : α → Ledger} (hold : made (s.calls i) = none)
    (herror : ∀ e, r = .error e → ∀ message, e ≠ .illegalState message)
    (hk : ∀ a, r = .ok a → (k a).Sound) : (s.orFail i r k).Sound := by
  cases r with
  | ok a => exact hk a rfl
  | error e => exact hs.goto (herror e rfl) rfl rfl hold

/-- A view that cannot be built is an illegal argument. -/
theorem view_ne_illegalState {row : RefundRow} {e : OrdersException} (h : row.view = .error e) :
    ∀ message, e ≠ .illegalState message := by
  unfold RefundRow.view RefundView.of at h
  split_ifs at h <;> cases h <;> exact nofun

/-- So is a request that is refused, or an amount that is not positive. -/
theorem create_ne_illegalState {orderId : String} {headerKey : Option String}
    {body : CreateRefundRequest} {e : OrdersException}
    (h : CreateRefundRequest.effective orderId headerKey body = .error e) :
    ∀ message, e ≠ .illegalState message := by
  unfold CreateRefundRequest.effective CreateRefundRequest.create at h
  dsimp only at h
  split_ifs at h <;> cases h <;> rintro message ⟨⟩

theorem normalise_ne_illegalState {amount : BigDecimal} {e : OrdersException}
    (h : Money.normalise amount = .error e) : ∀ message, e ≠ .illegalState message := by
  unfold Money.normalise at h
  split_ifs at h
  cases h
  exact nofun

/-- **A row inserted** is the only uncommitted one of its key, and its call's own. -/
theorem Sound.insertRow {s : Ledger} (hs : s.Sound) {i : ℕ} {c : Refund} {row : RefundRow}
    (hold : made (s.calls i) = none) (hown : OwnRow c row)
    (hrefunds : row.key ∉ s.refunds.map RefundRow.key)
    (huncommitted : row.key ∉ s.uncommitted.map RefundRow.key) : (s.insertRow i c row).Sound := by
  unfold Ledger.insertRow
  split
  · exact hs.goto (fun _ => nofun) rfl rfl hold
  · refine hs.orFail hold (fun e h => view_ne_illegalState h) fun view hview => ?_
    refine hs.of_moved (goto_self s i _) (fun _ => goto_ne s _) hold hs.refunds_nodup
      (List.nodup_cons.mpr ⟨huncommitted, hs.uncommitted_nodup⟩)
      (List.forall_mem_cons.mpr ⟨hrefunds, hs.apart⟩) ⟨List.mem_cons_self, hown, hview⟩
      (fun _ => id) (fun _ _ _ _ => List.mem_cons_of_mem row) ?_ nofun fun _ => .inl
    rintro row' hrow' j other hother heq
    obtain rfl := Option.some.inj hrow'
    exact huncommitted (heq ▸ List.mem_map_of_mem (hs.holds_mem hother))

/-- **The insert** goes in, finds the key taken, or fails. -/
theorem Sound.insertIfAbsent {s t : Ledger} (hs : s.Sound) {i : ℕ} {c : Refund} {row : RefundRow}
    (hold : made (s.calls i) = none) (hown : OwnRow c row)
    (h : s.insertIfAbsent i c row = some t) : t.Sound := by
  unfold Ledger.insertIfAbsent at h
  split_ifs at h with hstorable hkey hwait
  · cases h
    refine hs.goto ?_ rfl rfl hold
    obtain ⟨row', hrow', heq⟩ := List.mem_map.mp hkey
    exact ⟨row', hrow', heq.trans hown.key⟩
  · cases h
    exact hs.insertRow hold hown hkey fun hmem => hwait (.inl hmem)
  · cases h
    exact hs.goto (fun _ => nofun) rfl rfl hold

/-- **The read-back finds one row**: the key's unique committed one. -/
theorem Sound.findKey {s : Ledger} (hs : s.Sound) {row : RefundRow} (hrow : row ∈ s.refunds) :
    s.findKey row.key = [row] := by
  have hmem : ∀ x ∈ s.findKey row.key, x = row := by
    intro x hx
    obtain ⟨hx, heq⟩ := List.mem_filter.mp hx
    exact List.inj_on_of_nodup_map hs.refunds_nodup hx hrow (of_decide_eq_true heq)
  have hin : row ∈ s.findKey row.key := List.mem_filter.mpr ⟨hrow, decide_eq_true rfl⟩
  have hnodup : (s.findKey row.key).Nodup := (hs.refunds_nodup.of_map _).filter _
  match hfound : s.findKey row.key with
  | [] => exact absurd (hfound ▸ hin) List.not_mem_nil
  | [x] => rw [hmem x (hfound ▸ List.mem_singleton_self x)]
  | x :: y :: _ =>
    rw [hfound] at hnodup hmem
    have hxy : x = y := (hmem x (by simp)).trans (hmem y (by simp)).symm
    exact absurd (hxy ▸ List.mem_cons_self) (List.nodup_cons.mp hnodup).1

/-- So a refused call answers with that row. -/
theorem Sound.readBack {s : Ledger} (hs : s.Sound) {i : ℕ} {c : Refund}
    (hi : s.calls i = .refused c) : (s.readBack i c).Sound := by
  have hold : made (s.calls i) = none := by rw [hi]; rfl
  have hcall := hs.calls i
  rw [hi] at hcall
  obtain ⟨row, hrow, hkey⟩ := hcall
  rw [Ledger.readBack, ← hkey, hs.findKey hrow]
  exact hs.orFail hold (fun e h => view_ne_illegalState h) fun view hview =>
    hs.goto ⟨row, hrow, hkey, hview⟩ rfl rfl hold

/-- The rows of the other open calls survive the end of one. -/
theorem Sound.mem_drop {s : Ledger} (hs : s.Sound) {i j : ℕ} (hij : j ≠ i) {row : RefundRow}
    (hj : holds (s.calls j) = some row) (hrow : row ∈ s.uncommitted) :
    row ∈ (s.drop (holds (s.calls i))).uncommitted := by
  refine List.mem_filter.mpr ⟨hrow, decide_eq_true fun hmem => hij ?_⟩
  exact hs.distinct j i row row hj (Option.mem_toList.mp hmem) rfl

/-- **A call that has returned ends**: its row, if it has inserted one, is committed or gone. -/
theorem Sound.finish {s : Ledger} (hs : s.Sound) {i : ℕ} (hold : made (s.calls i) = none)
    {call : Call} (hmade : ∀ row ∈ made call, row ∈ holds (s.calls i)) (hopen : holds call = none)
    (hcall : ∀ t : Ledger, (∀ row ∈ s.refunds, row ∈ t.refunds) →
      (∀ row ∈ made call, row ∈ t.refunds) → t.CallSound call) :
    ({ (s.drop (holds (s.calls i))).goto i call with
        refunds := s.refunds ++ (made call).toList } : Ledger).Sound := by
  refine hs.of_moved (goto_self (s.drop _) i call) (fun _ => goto_ne (s.drop _) call) hold ?_
    (hs.uncommitted_nodup.sublist (List.filter_sublist.map _)) ?_
    (hcall _ (fun row => List.mem_append_left _)
      fun row hmem => List.mem_append_right _ (Option.mem_toList.mpr hmem))
    (fun row => List.mem_append_left _) (fun j hj row => hs.mem_drop hj)
    (fun row h => absurd (hopen.symm.trans h) nofun) ?_ ?_
  · rw [List.map_append, List.nodup_append]
    refine ⟨hs.refunds_nodup, by cases made call <;> simp, ?_⟩
    rintro key hkey _ hmem rfl
    obtain ⟨row, hrow, rfl⟩ := List.mem_map.mp hmem
    exact hs.apart row (hs.holds_mem (hmade row (Option.mem_toList.mp hrow))) hkey
  · intro row hmem
    obtain ⟨hmem, hnot⟩ := List.mem_filter.mp hmem
    rw [List.map_append, List.mem_append, not_or]
    refine ⟨hs.apart row hmem, fun h => ?_⟩
    obtain ⟨row', hrow', heq⟩ := List.mem_map.mp h
    have hheld := hmade row' (Option.mem_toList.mp hrow')
    obtain rfl := List.inj_on_of_nodup_map hs.uncommitted_nodup (hs.holds_mem hheld) hmem heq
    exact of_decide_eq_true hnot (Option.mem_toList.mpr hheld)
  · intro row hmem row' hrow' heq
    exact hs.apart row (hs.holds_mem (hmade row hmem)) (heq ▸ List.mem_map_of_mem hrow')
  · exact fun row hmem => (List.mem_append.mp hmem).imp id Option.mem_toList.mp

/-- **The commit** makes the row of its call the committed one of its key. -/
theorem Sound.commit {s : Ledger} (hs : s.Sound) {i : ℕ} {c : Refund} {created : Option RefundRow}
    {view : RefundView} (hi : s.calls i = .returning c created view) :
    ({ (s.drop created).goto i (.answered c created view) with
        refunds := s.refunds ++ created.toList } : Ledger).Sound := by
  have hcall := hs.calls i
  have hheld : holds (s.calls i) = created := by rw [hi]; rfl
  rw [hi] at hcall
  have h := hs.finish (by rw [hi]; rfl) (fun row => (hheld ▸ ·)) rfl
    (fun t hrefunds hkept => (?_ : t.CallSound (.answered c created view)))
  · rwa [hheld] at h
  · cases created with
    | none => exact hcall.imp fun row h => ⟨hrefunds row h.1, h.2⟩
    | some row => exact ⟨hkept row rfl, hcall.2⟩

/-- **The abort** of a call that was about to return takes its row away. -/
theorem Sound.abort {s : Ledger} (hs : s.Sound) {i : ℕ} {c : Refund} {created : Option RefundRow}
    {view : RefundView} (hi : s.calls i = .returning c created view) :
    ((s.drop created).goto i (.failed .aborted)).Sound := by
  have hheld : holds (s.calls i) = created := by rw [hi]; rfl
  have h : ({ (s.drop (holds (s.calls i))).goto i (.failed .aborted) with
      refunds := s.refunds ++ [] } : Ledger).Sound :=
    hs.finish (by rw [hi]; rfl) nofun rfl fun _ _ _ _ => nofun
  rw [List.append_nil, hheld] at h
  exact h

/-- **Every step keeps the ledger sound.** -/
theorem Sound.step {s t : Ledger} {e : Event} (hs : s.Sound) (h : s.step e = some t) :
    t.Sound := by
  cases e with
  | order orderId tenantId =>
    cases h
    exact ⟨hs.refunds_nodup, hs.uncommitted_nodup, hs.apart,
      fun j => (hs.calls j).mono (fun _ => id) fun _ _ => id, hs.distinct, hs.makers, hs.created⟩
  | request i orderId tenantId headerKey body =>
    simp only [Ledger.step] at h
    split at h
    · next hi =>
      cases h
      have hold : made (s.calls i) = none := by rw [hi]; rfl
      exact hs.orFail hold (fun e he => create_ne_illegalState he) fun _ _ =>
        hs.goto trivial rfl rfl hold
    · cases h
  | existsForTenant i =>
    simp only [Ledger.step] at h
    split at h
    · next c hi =>
      have hold : made (s.calls i) = none := by rw [hi]; rfl
      split at h
      · cases h
        exact hs.orFail hold (fun e he => normalise_ne_illegalState he) fun amount hamount =>
          hs.goto hamount rfl rfl hold
      · cases h
        exact hs.goto (fun _ => nofun) rfl rfl hold
    · cases h
  | insertIfAbsent i uuid =>
    simp only [Ledger.step] at h
    split at h
    · next c amount hi =>
      have hcall := hs.calls i
      rw [hi] at hcall
      have hown : OwnRow c (c.row amount uuid) := ⟨rfl, rfl, hcall, rfl⟩
      exact hs.insertIfAbsent (by rw [hi]; rfl) hown h
    · cases h
  | findByIdempotencyKey i =>
    simp only [Ledger.step] at h
    split at h
    · next c hi =>
      cases h
      exact hs.readBack hi
    · cases h
  | commit i =>
    simp only [Ledger.step] at h
    split at h
    · next c created view hi =>
      cases h
      exact hs.commit hi
    · cases h
  | abort i =>
    have hfails (call : Call) (hi : s.calls i = call) (hnone : made call = none) :
        (s.goto i (.failed .aborted)).Sound :=
      hs.goto (fun _ => nofun) rfl rfl (by rw [hi]; exact hnone)
    simp only [Ledger.step] at h
    split at h
    · next hi =>
      cases h
      exact hfails _ hi rfl
    · next hi =>
      cases h
      exact hfails _ hi rfl
    · next hi =>
      cases h
      exact hfails _ hi rfl
    · next c created view hi =>
      cases h
      exact hs.abort hi
    · cases h

theorem sound_of_exec {es : List Event} {s : Ledger} (h : exec step start es = some s) : s.Sound :=
  exec_invariant Sound.step sound_start h

/-! ## What the responses say -/

/-- **Every response is that of the call that made the refund** of its tenant and key: it describes
that call's order and normalised amount, and the call is the one that answers if and only if it has
inserted the row. -/
def AnswersForCreator (s : Ledger) : Prop :=
  ∀ i c created view, s.calls i = .answered c created view →
    ∃ j c' row, s.calls j = .answered c' (some row) view ∧ row ∈ s.refunds ∧ c'.key = c.key
      ∧ view.orderId = c'.orderId ∧ Money.normalise c'.request.amount = .ok row.amount
      ∧ view.amount = Money.render row.amount ∧ (created.isSome ↔ j = i)

/-- A view has the row's order, and its amount rendered. -/
theorem view_eq_ok {row : RefundRow} {view : RefundView} (h : row.view = .ok view) :
    view.orderId = row.orderId ∧ view.refundId = row.refundId
      ∧ view.amount = Money.render row.amount := by
  unfold RefundRow.view RefundView.of at h
  split_ifs at h
  cases h
  exact ⟨rfl, rfl, rfl⟩

/-- **An answered call describes the committed row of its key.** -/
theorem Sound.describes {s : Ledger} (hs : s.Sound) {i : ℕ} {c : Refund}
    {created : Option RefundRow} {view : RefundView}
    (hi : s.calls i = .answered c created view) : s.Describes c view := by
  have hcall := hs.calls i
  rw [hi] at hcall
  cases created with
  | none => exact hcall
  | some row => exact ⟨row, hcall.1, hcall.2.1.key, hcall.2.2⟩

/-- Two rows of one key are one. -/
theorem Sound.row_unique {s : Ledger} (hs : s.Sound) {row row' : RefundRow}
    (hrow : row ∈ s.refunds) (hrow' : row' ∈ s.refunds) (hkey : row.key = row'.key) : row = row' :=
  List.inj_on_of_nodup_map hs.refunds_nodup hrow hrow' hkey

/-- **The refund ledger is at most once.**  After every run there is at most one row per tenant and
key; responses to one tenant and key agree in refund, order and amount; every response is a view of
a row of its tenant; and no call finds its key taken and nothing under it. -/
theorem refunds_at_most_once {es : List Event} {s : Ledger} (h : exec step start es = some s) :
    (∀ tenantId idempotencyKey, (s.findKey (tenantId, idempotencyKey)).length ≤ 1)
      ∧ (∀ i j c c' created created' view view', s.calls i = .answered c created view →
          s.calls j = .answered c' created' view' → c.key = c'.key →
          view.refundId = view'.refundId ∧ view.orderId = view'.orderId
            ∧ view.amount = view'.amount)
      ∧ (∀ i c created view, s.calls i = .answered c created view →
          ∃ row ∈ s.refunds, row.tenantId = c.tenantId ∧ row.view = .ok view)
      ∧ ∀ i message, s.calls i ≠ .failed (.illegalState message) := by
  have hs := sound_of_exec h
  refine ⟨fun tenantId key => ?_, fun i j c c' created created' view view' hi hj hkey => ?_,
    fun i c created view hi => ?_, fun i message hi => ?_⟩
  · match hfound : s.findKey (tenantId, key) with
    | [] => exact Nat.zero_le 1
    | row :: rows =>
      obtain ⟨hrow, hkey⟩ := List.mem_filter.mp (hfound ▸ List.mem_cons_self)
      have hone := hs.findKey hrow
      rw [of_decide_eq_true hkey, hfound] at hone
      rw [hone]
      exact Nat.le_refl 1
  · obtain ⟨row, hrow, hrowkey, hview⟩ := hs.describes hi
    obtain ⟨row', hrow', hrowkey', hview'⟩ := hs.describes hj
    obtain rfl := hs.row_unique hrow hrow' (hrowkey.trans (hkey.trans hrowkey'.symm))
    obtain rfl := Except.ok.inj (hview.symm.trans hview')
    exact ⟨rfl, rfl, rfl⟩
  · obtain ⟨row, hrow, hkey, hview⟩ := hs.describes hi
    exact ⟨row, hrow, congrArg Prod.fst hkey, hview⟩
  · have hcall := hs.calls i
    rw [hi] at hcall
    exact hcall message rfl

/-- Ten dollars of an order, under one key. -/
def docsRequest : CreateRefundRequest :=
  ⟨"ord-1", ⟨1000, 2⟩, "duplicate", "k-1", by decide, by decide, by decide, by decide⟩

/-- Two calls race under one key and the first is aborted with its row; another tenant uses the key
too; the first is retried. -/
def docsRun : List Event :=
  [.order "ord-1" "tenant-a", .order "ord-1" "tenant-b",
    .request 0 "ord-1" "tenant-a" (some "k-1") docsRequest,
    .request 1 "ord-1" "tenant-a" none docsRequest,
    .request 2 "ord-1" "tenant-b" none docsRequest,
    .existsForTenant 0, .existsForTenant 1, .existsForTenant 2, .insertIfAbsent 0 "u0", .abort 0,
    .insertIfAbsent 1 "u1", .insertIfAbsent 2 "u2", .commit 1,
    .request 3 "ord-1" "tenant-a" (some "k-1") docsRequest, .existsForTenant 3,
    .insertIfAbsent 3 "u3", .findByIdempotencyKey 3, .commit 3, .commit 2]

theorem refunds_at_most_once_docsRun :
    ∃ s c c' row view view', exec step start docsRun = some s
      ∧ s.calls 1 = .answered c (some row) view ∧ s.calls 3 = .answered c' none view'
      ∧ view.refundId = view'.refundId ∧ (s.findKey ("tenant-a", "k-1")).length ≤ 1 := by
  have hrun : ((exec step start docsRun).map fun s => (s.calls 1, s.calls 3)) = some
      (.answered ⟨"ord-1", "tenant-a", docsRequest⟩
          (some ⟨"rfnd-u1", "ord-1", "tenant-a", ⟨1000, 2⟩, "duplicate", "refunded", "k-1"⟩)
          ⟨"ord-1", "rfnd-u1", "10.00", "duplicate", "refunded", by decide, by decide⟩,
        .answered ⟨"ord-1", "tenant-a", docsRequest⟩ none
          ⟨"ord-1", "rfnd-u1", "10.00", "duplicate", "refunded", by decide, by decide⟩) := by
    decide
  obtain ⟨s, hs, hcalls⟩ := Option.map_eq_some_iff.mp hrun
  obtain ⟨h₁, h₃⟩ := Prod.mk.inj hcalls
  obtain ⟨hrows, hagree, -, -⟩ := refunds_at_most_once hs
  exact ⟨s, _, _, _, _, _, hs, h₁, h₃, (hagree 1 3 _ _ _ _ _ _ h₁ h₃ rfl).1, hrows _ _⟩

/-- **A response describes the refund of the call that created it** — its own if it has, whatever
order and amount it asked for if it has not. -/
theorem response_of_creator {es : List Event} {s : Ledger} (h : exec step start es = some s) :
    s.AnswersForCreator := by
  have hs := sound_of_exec h
  intro i c created view hi
  obtain ⟨row, hrow, hkey, hview⟩ := hs.describes hi
  obtain ⟨j, hj⟩ := hs.created row hrow
  obtain ⟨c', view', hj'⟩ := eq_answered_of_made hj
  have hcall := hs.calls j
  rw [hj'] at hcall
  obtain ⟨-, hown, hview'⟩ := hcall
  obtain rfl := Except.ok.inj (hview.symm.trans hview')
  obtain ⟨horder, -, hamount⟩ := view_eq_ok hview
  refine ⟨j, c', row, hj', hrow, hown.key.symm.trans hkey, horder.trans hown.orderId,
    hown.amount, hamount, fun hcreated => ?_, ?_⟩
  · obtain ⟨row', rfl⟩ := Option.isSome_iff_exists.mp hcreated
    have hown' := hs.calls i
    rw [hi] at hown'
    exact hs.makers j i row row' hj (by rw [hi]; rfl) (hkey.trans hown'.2.1.key.symm)
  · rintro rfl
    cases hi.symm.trans hj'
    rfl

/-- Five dollars of another order, under the same key. -/
def otherRequest : CreateRefundRequest :=
  ⟨"ord-2", ⟨5, 0⟩, "duplicate", "k-1", by decide, by decide, by decide, by decide⟩

/-- A refund of ten dollars of `ord-1`, and then one of five dollars of `ord-2` under its key. -/
def reusedKeyRun : List Event :=
  [.order "ord-1" "tenant-a", .order "ord-2" "tenant-a",
    .request 0 "ord-1" "tenant-a" none docsRequest, .existsForTenant 0, .insertIfAbsent 0 "u0",
    .commit 0, .request 1 "ord-2" "tenant-a" none otherRequest, .existsForTenant 1,
    .insertIfAbsent 1 "u1", .findByIdempotencyKey 1, .commit 1]

/-- What the second call of that run is answered. -/
theorem reusedKeyRun_answered :
    ∃ s, exec step start reusedKeyRun = some s
      ∧ s.calls 1 = .answered ⟨"ord-2", "tenant-a", otherRequest⟩ none
        ⟨"ord-1", "rfnd-u0", "10.00", "duplicate", "refunded", by decide, by decide⟩ :=
  Option.map_eq_some_iff.mp (by decide)

theorem response_of_creator_reusedKeyRun :
    ∃ s j c' row view, exec step start reusedKeyRun = some s
      ∧ s.calls j = .answered c' (some row) view ∧ j ≠ 1 ∧ c'.orderId = "ord-1" := by
  obtain ⟨s, hs, h₁⟩ := reusedKeyRun_answered
  obtain ⟨j, c', row, hj, -, -, horder, -, -, hown⟩ := response_of_creator hs 1 _ _ _ h₁
  exact ⟨s, j, c', row, _, hs, hj, fun h => absurd (hown.mpr h) nofun, horder.symm⟩

/-- Every response has its own order and normalised amount. -/
def AnswersOwn (s : Ledger) : Prop :=
  ∀ i c created view, s.calls i = .answered c created view →
    view.orderId = c.orderId ∧ ∃ amount, Money.normalise c.request.amount = .ok amount
      ∧ view.amount = Money.render amount

/-- **A key used again answers for the order it was used for first.** -/
theorem response_of_other_order : ∃ es s, exec step start es = some s ∧ ¬ s.AnswersOwn := by
  obtain ⟨s, hs, h₁⟩ := reusedKeyRun_answered
  exact ⟨_, s, hs, fun hown => absurd (hown 1 _ _ _ h₁).1 (by decide)⟩

end Ledger

end Orders
