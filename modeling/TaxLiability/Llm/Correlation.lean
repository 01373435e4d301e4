import TaxLiability.Machinery.Uuid
import TaxLiability.Machinery.Validation

/-!
# Llm/Correlation — the id of a call, there and back

    request ──X-Correlation-Id──▸ filter ──resolve──▸ X-Correlation-Id ──▸ the one that was sent?
     corr-…                        trim, ≤ 128, printable ┐                   └─ no ─▸ ValueError
                                                          └─ no ─▸ a new UUID

The request takes any text with the scheme's start for an id, the filter echoes printable ASCII
without the space around it.  An answer to the request itself is taken for another's exactly if its
id is outside that (`neverCrossed_iff`).
-/

open Java

namespace Llm.Correlation

/-! ## The request -/

/-- **`correlation_id` of a `LiabilityEstimateRequest`.** -/
def checkCorrelationId (v : String) : Except Flaw String :=
  if v.toList.length < 1 then .error .constraint
  else if 128 < v.toList.length then .error .constraint
  else if ¬ "corr-".toList.isPrefixOf v.toList then
    .error (.value_error "correlation_id must start with 'corr-'")
  else .ok v

/-- An id a request holds. -/
def CorrelationId : Type := { v : String // checkCorrelationId v = .ok v }

/-- What a request takes. -/
theorem checkCorrelationId_eq_ok {v w : String} : checkCorrelationId v = .ok w
    ↔ v.toList.length ≤ 128 ∧ "corr-".toList <+: v.toList ∧ v = w := by
  unfold checkCorrelationId
  split_ifs with h₀ h₁ h₂
  · have hnil : v.toList = [] := List.length_eq_zero_iff.mp (by omega)
    simp [hnil]
  · exact iff_of_false (by simp) fun h => h.1.not_gt h₁
  · rw [and_iff_right (not_lt.mp h₁), and_iff_right (List.isPrefixOf_iff_prefix.mp h₂),
      Except.ok.injEq]
  · rw [List.isPrefixOf_iff_prefix] at h₂
    exact iff_of_false (by simp) fun h => h₂ h.2.1

/-! ## The filter -/

/-- The characters it lets through. -/
def isPrintable (c : Char) : Bool := 0x20 ≤ c.toNat && c.toNat < 0x7f

/-- **`CorrelationIdFilter.resolve`**, with the UUID it may need. -/
def resolve (randomUUID : ℕ) (header : Option String) : String :=
  match header with
  | none => String.ofList (Uuid.format randomUUID)
  | some header =>
    if IsBlank header then String.ofList (Uuid.format randomUUID)
    else
      let trimmed := trim header
      -- in UTF-16 units, of which one past the ASCII range is not printable whatever it is
      if length trimmed > 128 ∨ ¬ trimmed.toList.all isPrintable then
        String.ofList (Uuid.format randomUUID)
      else trimmed

/-! ## The client -/

/-- Why a response is refused. -/
inductive Refused
  | valueError (message : String)
  | validationError
  deriving DecidableEq, Repr

/-- **`_read_completion`**, from how a text is quoted and what the body validates to. -/
def readCompletion {α : Type} (quote : String → String) (echoed : Option String)
    (correlation_id : String) (body : Except Refused α) : Except Refused α :=
  match echoed with
  | none => body
  | some echoed =>
    if echoed ≠ correlation_id then
      .error (.valueError ("proxy echoed correlation id " ++ quote echoed ++ ", expected "
        ++ quote correlation_id))
    else body

/-! ## There and back -/

/-- **What arrives of a header's value**: all but some optional whitespace around it. -/
def Delivered (sent received : String) : Prop :=
  ∃ front back, sent.toList = front ++ received.toList ++ back
    ∧ ∀ c ∈ front ++ back, c = ' ' ∨ c = '\t'

theorem Delivered.refl (s : String) : Delivered s s := ⟨[], [], by simp, by simp⟩

/-- **An answer to the call is never refused as another's**: what the filter echoes of its id, as it
comes back, passes the check. -/
def NeverCrossed (correlation_id : String) : Prop :=
  ∀ received, Delivered correlation_id received → ∀ randomUUID echoed,
    Delivered (resolve randomUUID (some received)) echoed →
      ∀ (quote : String → String) (body : Except Refused Unit),
        readCompletion quote (some echoed) correlation_id body = body

/-- The id is printable, and ends in no space. -/
def Echoable (correlation_id : String) : Prop :=
  (∀ c ∈ correlation_id.toList, isPrintable c = true) ∧ correlation_id.toList.getLast? ≠ some ' '

/-- **A body comes through** exactly past the echo of the id itself. -/
theorem readCompletion_eq_iff {quote : String → String} {echoed correlation_id : String} :
    (∀ body : Except Refused Unit, readCompletion quote (some echoed) correlation_id body = body)
      ↔ echoed = correlation_id := by
  simp only [readCompletion]
  constructor
  · intro h
    by_contra hne
    have hok := h (.ok ())
    rw [if_pos hne] at hok
    cases hok
  · rintro rfl body
    exact if_neg (not_not.mpr rfl)

/-- What an id begins with. -/
theorem CorrelationId.head (id : CorrelationId) : id.1.toList.head? = some 'c' := by
  obtain ⟨rest, hrest⟩ := (checkCorrelationId_eq_ok.mp id.2).2.1
  rw [← hrest]
  rfl

theorem CorrelationId.not_isBlank (id : CorrelationId) : ¬ IsBlank id.1 := by
  intro hblank
  have hc := List.all_eq_true.mp hblank 'c' (List.mem_of_mem_head? id.head)
  revert hc
  decide

/-- A UUID is no id. -/
theorem CorrelationId.ne_format (id : CorrelationId) (v : ℕ) :
    String.ofList (Uuid.format v) ≠ id.1 := by
  intro heq
  obtain ⟨rest, hrest⟩ := (checkCorrelationId_eq_ok.mp id.2).2.1
  have hmem : 'o' ∈ id.1.toList := by
    rw [← hrest]
    exact List.mem_append_left _ (by decide)
  rw [← heq, String.toList_ofList] at hmem
  exact Uuid.notMem_format (by decide) (by decide) v hmem

/-- A printable character that is trimmed is a space. -/
theorem eq_space_of_isTrimmed {c : Char} (hp : isPrintable c = true) (ht : isTrimmed c = true) :
    c = ' ' := by
  have hn : c.toNat = 32 := by
    simp only [isPrintable, isTrimmed, Bool.and_eq_true, decide_eq_true_eq] at hp ht
    omega
  rw [← Char.ofNat_toNat c, hn]

/-- What the end of an id is, if it is trimmed away. -/
theorem trim_eq_self_iff (id : CorrelationId) :
    trim id.1 = id.1 ↔ ∀ c, id.1.toList.getLast? = some c → isTrimmed c = false := by
  rw [← String.toList_inj, toList_trim id.head (by decide), List.rdropWhile_eq_self_iff]
  constructor
  · intro h c hc
    obtain ⟨cs, hcs⟩ := List.getLast?_eq_some_iff.mp hc
    have hne : id.1.toList ≠ [] := by simp [hcs]
    have hlast := h hne
    rw [List.getLast_of_getLast?_eq_some hc] at hlast
    exact Bool.eq_false_iff.mpr hlast
  · intro h hne
    rw [h _ (List.getLast?_eq_some_getLast hne)]
    decide

/-- **The filter keeps an id** exactly if it is printable and ends in no space. -/
theorem resolve_eq_self_iff (id : CorrelationId) (randomUUID : ℕ) :
    resolve randomUUID (some id.1) = id.1 ↔ Echoable id.1 := by
  simp only [resolve, if_neg id.not_isBlank]
  constructor
  · intro h
    split_ifs at h with hbad
    · exact absurd h (id.ne_format randomUUID)
    · rw [not_or, not_not, h] at hbad
      have hprint := List.all_eq_true.mp hbad.2
      refine ⟨hprint, fun hspace => ?_⟩
      have htrim := (trim_eq_self_iff id).mp h ' ' hspace
      revert htrim
      decide
  · rintro ⟨hprint, hspace⟩
    have htrim : trim id.1 = id.1 := by
      refine (trim_eq_self_iff id).mpr fun c hc => Bool.eq_false_iff.mpr fun ht => hspace ?_
      rw [hc, eq_space_of_isTrimmed (hprint c (List.mem_of_getLast? hc)) ht]
    have hlength : length id.1 = id.1.toList.length := by
      refine length_eq_of_ascii fun c hc => ?_
      have hp := hprint c hc
      simp only [isPrintable, Bool.and_eq_true, decide_eq_true_eq] at hp
      omega
    have hshort := (checkCorrelationId_eq_ok.mp id.2).1
    rw [htrim, if_neg]
    rw [not_or, not_not, hlength]
    exact ⟨hshort.not_gt, List.all_eq_true.mpr hprint⟩

/-- **A value with no space around it** arrives as it was sent. -/
theorem Delivered.eq {sent received : String} (h : Delivered sent received)
    (hhead : ∀ c, sent.toList.head? = some c → c ≠ ' ' ∧ c ≠ '\t')
    (hlast : ∀ c, sent.toList.getLast? = some c → c ≠ ' ' ∧ c ≠ '\t') : received = sent := by
  obtain ⟨front, back, hsent, hspace⟩ := h
  have hfront : front = [] := by
    cases front with
    | nil => rfl
    | cons c front =>
      have hc := hhead c (by simp [hsent])
      rcases hspace c (by simp) with rfl | rfl
      · exact absurd rfl hc.1
      · exact absurd rfl hc.2
  have hback : back = [] := by
    rcases List.eq_nil_or_concat back with rfl | ⟨back, c, rfl⟩
    · rfl
    · have hc := hlast c (by simp [hsent])
      rcases hspace c (by simp) with rfl | rfl
      · exact absurd rfl hc.1
      · exact absurd rfl hc.2
  rw [← String.toList_inj, hsent, hfront, hback, List.nil_append, List.append_nil]

/-- An id that can be echoed arrives as it was sent. -/
theorem Echoable.delivered {id : CorrelationId} (h : Echoable id.1) {received : String}
    (hr : Delivered id.1 received) : received = id.1 := by
  refine hr.eq (fun c hc => ?_) fun c hc => ?_
  · obtain rfl : 'c' = c := Option.some.inj (id.head.symm.trans hc)
    decide
  · refine ⟨fun hspace => h.2 (hspace ▸ hc), fun htab => ?_⟩
    have hprint := h.1 c (List.mem_of_getLast? hc)
    rw [htab] at hprint
    revert hprint
    decide

/-- **The answer to a call is never refused as another's**, exactly if its id is printable and ends
in no space. -/
theorem neverCrossed_iff (id : CorrelationId) : NeverCrossed id.1 ↔ Echoable id.1 := by
  constructor
  · intro h
    have hback := h id.1 (.refl _) 0 _ (.refl _) fun s => s
    exact (resolve_eq_self_iff id 0).mp (readCompletion_eq_iff.mp hback)
  · intro h received hr randomUUID echoed he quote
    obtain rfl := h.delivered hr
    rw [(resolve_eq_self_iff id randomUUID).mpr h] at he
    exact readCompletion_eq_iff.mpr (h.delivered he)

/-- **A tab in an id**: the filter makes a new one of it. -/
theorem tab_crossed : ∃ id : CorrelationId, id.1 = "corr-a\tb" ∧ ¬ NeverCrossed id.1 := by
  refine ⟨⟨"corr-a\tb", by decide⟩, rfl, fun h => ?_⟩
  have hback := h _ (.refl _) 0 _ (.refl _) fun s => s
  have hecho := (resolve_eq_self_iff ⟨"corr-a\tb", by decide⟩ 0).mp (readCompletion_eq_iff.mp hback)
  have htab := hecho.1 '\t' (by decide)
  revert htab
  decide

end Llm.Correlation
