import TaxLiability.Llm.Correlation

/-!
# Observability/CorrelationIdFilter — which ids the filter lets in

    header ──isBlank──▸ new UUID
      └────trim──▸ front · id · back ──≤ 128, printable──▸ id, or a new UUID

`trim` takes control characters for space, so those at the ends are gone before anything looks at
them: they are stripped, not rejected, and where nothing is left the id is empty (`safe_iff`).
-/

open Java Llm.Correlation

namespace Observability

/-! ## The property and the condition -/

/-- A control character, of ASCII or of the block after it. -/
def isControl (c : Char) : Bool := c.toNat < 0x20 || (0x7f ≤ c.toNat && c.toNat ≤ 0x9f)

/-- The text of a new UUID. -/
def newId (randomUUID : ℕ) : String := String.ofList (Uuid.format randomUUID)

/-- **A text is another without the spaces around it**, or some of them. -/
def UpToSpaces (header id : String) : Prop :=
  ∃ front back, header.toList = front ++ id.toList ++ back ∧ ∀ c ∈ front ++ back, c = ' '

/-- **An id is safe**, whichever UUID would be new: printable and not blank, new where the header
has a control character, and the header's own where that is printable, short and not only spaces. -/
structure Safe (header : Option String) (randomUUID : ℕ) : Prop where
  notBlank : ¬ IsBlank (resolve randomUUID header)
  printable : ∀ c ∈ (resolve randomUUID header).toList, isPrintable c
  short : length (resolve randomUUID header) ≤ 128
  replaced : ∀ value, header = some value → (∃ c ∈ value.toList, isControl c) →
    resolve randomUUID header = newId randomUUID
  kept : ∀ value, header = some value → (∀ c ∈ value.toList, isPrintable c) →
    value.toList.length ≤ 128 → (∃ c ∈ value.toList, c ≠ ' ') →
    UpToSpaces value (resolve randomUUID header)

/-- What `trim` takes off the front of a text, and off its back. -/
def trimmedOff (value : String) : List Char :=
  value.toList.takeWhile isTrimmed
    ++ (value.toList.dropWhile isTrimmed).rtakeWhile isTrimmed

/-- A value the filter has a new id for: it is blank, or what is left of it is too long or not
printable. -/
def Replaced (value : String) : Prop :=
  IsBlank value ∨ 128 < length (trim value) ∨ ∃ c ∈ (trim value).toList, ¬ isPrintable c

/-- **Nothing but spaces is taken off** a value that is not replaced. -/
def OnlySpacesOff (value : String) : Prop := Replaced value ∨ ∀ c ∈ trimmedOff value, c = ' '

/-! ## UUIDs -/

theorem toNat_of_mem_newId {randomUUID : ℕ} {c : Char} (h : c ∈ (newId randomUUID).toList) :
    0x20 < c.toNat ∧ c.toNat < 0x7f := by
  have hdigit : ∀ d < 16, 0x20 < (Nat.digitChar d).toNat ∧ (Nat.digitChar d).toNat < 0x7f := by
    decide
  rw [newId, String.toList_ofList] at h
  rcases Uuid.of_mem_format h with rfl | ⟨d, hd, rfl⟩
  · decide
  · exact hdigit d hd

/-- A printable text without a space is not blank. -/
theorem not_isBlank_of_mem {s : String} {c : Char} (hc : c ∈ s.toList)
    (hc' : 0x20 < c.toNat ∧ c.toNat < 0x7f) : ¬ IsBlank s := by
  intro hblank
  have hspace := List.all_eq_true.mp hblank c hc
  simp only [isWhitespace, Bool.or_eq_true, Bool.and_eq_true, decide_eq_true_eq] at hspace
  omega

/-- **A new id** is printable, short and not blank. -/
theorem newId_spec (randomUUID : ℕ) : ¬ IsBlank (newId randomUUID)
    ∧ (∀ c ∈ (newId randomUUID).toList, isPrintable c) ∧ length (newId randomUUID) ≤ 128 := by
  have hlength : (newId randomUUID).toList.length = 36 := by
    rw [newId, String.toList_ofList, Uuid.length_format]
  refine ⟨?_, fun c hc => ?_, ?_⟩
  · have hpos : 0 < (newId randomUUID).toList.length := by omega
    obtain ⟨c, hc⟩ := List.exists_mem_of_length_pos hpos
    exact not_isBlank_of_mem hc (toNat_of_mem_newId hc)
  · have := toNat_of_mem_newId hc
    simp only [isPrintable, Bool.and_eq_true, decide_eq_true_eq]
    omega
  · rw [length_eq_of_ascii fun c hc => by have := toNat_of_mem_newId hc; omega, hlength]
    decide

/-- No text is new whichever UUID is. -/
theorem exists_newId_ne (s : String) : ∃ randomUUID, s ≠ newId randomUUID := by
  by_contra hall
  simp only [not_exists, not_not] at hall
  have hsame : Uuid.format 0 = Uuid.format 1 :=
    String.ofList_injective ((hall 0).symm.trans (hall 1))
  exact absurd hsame (by decide)

/-! ## What is taken off -/

variable {value : String}

/-- **A text is what is left of it**, between what is taken off. -/
theorem toList_eq_trim (value : String) : value.toList = value.toList.takeWhile isTrimmed
    ++ (trim value).toList ++ (value.toList.dropWhile isTrimmed).rtakeWhile isTrimmed := by
  rw [trim, String.toList_ofList, List.append_assoc, List.rdropWhile_append_rtakeWhile,
    List.takeWhile_append_dropWhile]

theorem mem_iff_trim {c : Char} :
    c ∈ value.toList ↔ c ∈ trimmedOff value ∨ c ∈ (trim value).toList := by
  have h : c ∈ value.toList ↔ c ∈ value.toList.takeWhile isTrimmed ++ (trim value).toList
      ++ (value.toList.dropWhile isTrimmed).rtakeWhile isTrimmed := by rw [← toList_eq_trim]
  rw [h, List.mem_append, List.mem_append, trimmedOff, List.mem_append, or_right_comm]

theorem isTrimmed_of_mem_trimmedOff {c : Char} (h : c ∈ trimmedOff value) : isTrimmed c :=
  (List.mem_append.mp h).elim List.mem_takeWhile_imp List.mem_rtakeWhile_imp

/-- What is left ends in no character that would be taken off. -/
theorem exists_mem_trim (h : (trim value).toList ≠ []) :
    ∃ c ∈ (trim value).toList, 0x20 < c.toNat := by
  rw [trim, String.toList_ofList] at h ⊢
  have hlast := List.rdropWhile_last_not isTrimmed _ h
  refine ⟨_, List.getLast_mem h, ?_⟩
  simpa [isTrimmed] using hlast

theorem isControl_of_isTrimmed {c : Char} (h : isTrimmed c) (hc : c ≠ ' ') : isControl c := by
  by_contra hnot
  have hn : 0x20 ≤ c.toNat ∧ c.toNat ≤ 0x20 := by
    simp only [isControl, isTrimmed, Bool.or_eq_true, Bool.and_eq_true, decide_eq_true_eq] at h hnot
    omega
  refine hc (eq_space_of_isTrimmed ?_ h)
  simp only [isPrintable, Bool.and_eq_true, decide_eq_true_eq]
  omega

theorem not_isControl_of_isPrintable {c : Char} (h : isPrintable c) : ¬ isControl c := by
  simp only [isControl, isPrintable, Bool.or_eq_true, Bool.and_eq_true, decide_eq_true_eq] at h ⊢
  omega

/-! ## What is resolved -/

theorem resolve_of_replaced (randomUUID : ℕ) (h : Replaced value) :
    resolve randomUUID (some value) = newId randomUUID := by
  simp only [resolve]
  split_ifs with hblank hbad
  · rfl
  · rfl
  · rw [not_or, not_lt, not_not] at hbad
    rcases h with h | h | ⟨c, hc, h⟩
    · exact absurd h hblank
    · exact absurd h (not_lt.mpr hbad.1)
    · exact absurd (List.all_eq_true.mp hbad.2 c hc) h

theorem resolve_of_not_replaced (randomUUID : ℕ) (h : ¬ Replaced value) :
    resolve randomUUID (some value) = trim value := by
  rw [Replaced, not_or, not_or, not_lt] at h
  simp only [resolve, if_neg h.1]
  refine if_neg ?_
  rw [not_or, not_lt, not_not, List.all_eq_true]
  exact ⟨h.2.1, fun c hc => by_contra fun hnot => h.2.2 ⟨c, hc, hnot⟩⟩

/-- **A short printable value is not replaced**, if it is not only spaces. -/
theorem not_replaced (hprint : ∀ c ∈ value.toList, isPrintable c)
    (hlength : value.toList.length ≤ 128) (hspace : ∃ c ∈ value.toList, c ≠ ' ') :
    ¬ Replaced value := by
  have hascii : ∀ c ∈ (trim value).toList, c.toNat < 0x10000 := fun c hc => by
    have hp := hprint c (mem_iff_trim.mpr (.inr hc))
    simp only [isPrintable, Bool.and_eq_true, decide_eq_true_eq] at hp
    omega
  rintro (hblank | hlong | ⟨c, hc, hnot⟩)
  · obtain ⟨c, hc, hne⟩ := hspace
    have hp := hprint c hc
    refine not_isBlank_of_mem hc ?_ hblank
    have hne' : ¬ isTrimmed c := fun ht => hne (eq_space_of_isTrimmed hp ht)
    simp only [isPrintable, isTrimmed, Bool.and_eq_true, decide_eq_true_eq] at hp hne'
    omega
  · have hle := congrArg List.length (toList_eq_trim value)
    rw [length_eq_of_ascii hascii] at hlong
    simp only [List.length_append] at hle
    omega
  · exact hnot (hprint c (mem_iff_trim.mpr (.inr hc)))

/-- **A value that is replaced is safe.** -/
theorem safe_of_replaced (randomUUID : ℕ) (h : Replaced value) : Safe (some value) randomUUID := by
  have hnew := resolve_of_replaced randomUUID h
  obtain ⟨hblank, hprint, hlength⟩ := newId_spec randomUUID
  constructor
  · rwa [hnew]
  · rwa [hnew]
  · rwa [hnew]
  · rintro _ ⟨⟩ -
    exact hnew
  · rintro _ ⟨⟩ hprint hlength hspace
    exact absurd h (not_replaced hprint hlength hspace)

/-- **A value is safe that loses nothing but spaces.** -/
theorem safe_of_spaces (randomUUID : ℕ) (h : ¬ Replaced value)
    (hspaces : ∀ c ∈ trimmedOff value, c = ' ') : Safe (some value) randomUUID := by
  have htrim := resolve_of_not_replaced randomUUID h
  have hkept := h
  rw [Replaced, not_or, not_or, not_lt] at hkept
  obtain ⟨hblank, hlength, hprint⟩ := hkept
  have hprint : ∀ c ∈ (trim value).toList, isPrintable c := fun c hc =>
    by_contra fun hnot => hprint ⟨c, hc, hnot⟩
  constructor
  · rw [htrim]
    have hne : (trim value).toList ≠ [] := by
      refine fun hnil => hblank (List.all_eq_true.mpr fun c hc => ?_)
      rw [hspaces c ((mem_iff_trim.mp hc).resolve_right (by simp [hnil]))]
      rfl
    obtain ⟨c, hc, hlow⟩ := exists_mem_trim hne
    have hp := hprint c hc
    simp only [isPrintable, Bool.and_eq_true, decide_eq_true_eq] at hp
    exact not_isBlank_of_mem hc ⟨hlow, hp.2⟩
  · rwa [htrim]
  · rwa [htrim]
  · rintro _ ⟨⟩ ⟨c, hc, hcontrol⟩
    rcases mem_iff_trim.mp hc with hc | hc
    · rw [hspaces c hc] at hcontrol
      exact absurd hcontrol (by decide)
    · exact absurd hcontrol (not_isControl_of_isPrintable (hprint c hc))
  · rintro _ ⟨⟩ - - -
    rw [htrim]
    exact ⟨_, _, toList_eq_trim value, hspaces⟩

/-- **The id is safe** exactly if nothing but spaces is taken off a value that is not replaced. -/
theorem safe_iff (header : Option String) :
    (∀ randomUUID, Safe header randomUUID)
      ↔ ∀ value, header = some value → OnlySpacesOff value := by
  constructor
  · rintro hsafe value rfl
    refine or_iff_not_imp_left.mpr fun hkept c hc => by_contra fun hne => ?_
    obtain ⟨randomUUID, hnew⟩ := exists_newId_ne (trim value)
    refine hnew ?_
    rw [← resolve_of_not_replaced randomUUID hkept]
    exact (hsafe randomUUID).replaced value rfl
      ⟨c, mem_iff_trim.mpr (.inl hc), isControl_of_isTrimmed (isTrimmed_of_mem_trimmedOff hc) hne⟩
  · intro h randomUUID
    cases header with
    | none =>
      obtain ⟨hblank, hprint, hlength⟩ := newId_spec randomUUID
      exact ⟨hblank, hprint, hlength, nofun, nofun⟩
    | some value =>
      by_cases hreplaced : Replaced value
      · exact safe_of_replaced randomUUID hreplaced
      · exact safe_of_spaces randomUUID hreplaced ((h value rfl).resolve_left hreplaced)

/-- **A line break at the end is stripped**, and of a lone null nothing is left. -/
theorem stripped : (∀ randomUUID, resolve randomUUID (some "abc\n") = "abc")
    ∧ (∀ randomUUID, resolve randomUUID (some "\x00") = "")
    ∧ ¬ ∀ randomUUID, Safe (some "abc\n") randomUUID := by
  refine ⟨fun _ => rfl, fun _ => rfl, fun hsafe => ?_⟩
  have hnew := (hsafe 0).replaced "abc\n" rfl ⟨'\n', by decide, by decide⟩
  exact absurd hnew (by decide)

end Observability
