import TaxLiability.Machinery.StableSort
import TaxLiability.Service.TaxBracket

/-!
# Service/ProgressiveStateBracketResolver — the bracket an amount falls into

    brackets ──sorted by floor──▸ the first that covers

The sort keeps brackets of one floor in the order they came in.  So the bracket found is the same
for every order exactly if no two brackets that cover the amount share the least floor
(`resolve_determined_iff`).
-/

namespace Service

/-- What a resolver throws. -/
inductive ResolverException
  | illegalArgument (message : String)
  | invalidIncome (message : String)
  | bracketResolutionFailed (message : String)
  deriving DecidableEq, Repr

/-- `Comparator.comparing(TaxBracket::floor)`, less or equal. -/
def TaxBracket.floorLe (b b' : TaxBracket) : Prop := b.floor.compareTo b'.floor ≤ 0

instance : DecidableRel TaxBracket.floorLe := fun _ _ => inferInstanceAs (Decidable (_ ≤ _))

/-- **The resolver of a state**, its brackets in order of their floors. -/
structure ProgressiveStateBracketResolver where
  jurisdiction : String
  brackets : List TaxBracket
  jurisdiction_notBlank : ¬ Java.IsBlank jurisdiction
  brackets_ne_nil : brackets ≠ []
  belongs : ∀ b ∈ brackets, b.jurisdiction = jurisdiction
  sorted : brackets.Pairwise TaxBracket.floorLe

theorem TaxBracket.floorLe_iff {b b' : TaxBracket} :
    b.floorLe b' ↔ b.floor.value ≤ b'.floor.value := by
  rw [floorLe, ← not_lt, BigDecimal.compareTo_pos_iff, not_lt]

instance : Std.Total TaxBracket.floorLe :=
  ⟨fun b b' => by
    simp only [TaxBracket.floorLe_iff]
    exact le_total _ _⟩

instance : IsTrans TaxBracket TaxBracket.floorLe :=
  ⟨fun b b' b'' => by
    simp only [TaxBracket.floorLe_iff]
    exact le_trans⟩

namespace ProgressiveStateBracketResolver

def EXTENDED_TABLE_THRESHOLD : BigDecimal := ⟨1000000000, 0⟩

/-- **The constructor of `ProgressiveStateBracketResolver`.** -/
def create (jurisdiction : String) (brackets : List TaxBracket) :
    Except ResolverException ProgressiveStateBracketResolver :=
  if h₁ : Java.IsBlank jurisdiction then
    .error (.illegalArgument "jurisdiction must not be blank")
  else if h₂ : brackets = [] then .error (.illegalArgument "brackets must not be empty")
  else match h₃ : brackets.find? fun b => b.jurisdiction ≠ jurisdiction with
    | some bracket => .error (.illegalArgument ("bracket " ++ bracket.id
        ++ " does not belong to jurisdiction " ++ jurisdiction))
    | none => .ok ⟨jurisdiction, brackets.insertionSort TaxBracket.floorLe, h₁,
        fun h => h₂ (List.perm_nil.mp (h ▸ (List.perm_insertionSort _ _).symm)),
        fun b hb => by simpa using List.find?_eq_none.mp h₃ b ((List.mem_insertionSort _).mp hb),
        List.pairwise_insertionSort _ _⟩

/-- **`findCoveringBracket`.** -/
def findCoveringBracket (R : ProgressiveStateBracketResolver) (taxableAmount : BigDecimal) :
    Option TaxBracket :=
  R.brackets.find? fun b => b.covers taxableAmount

/-- **`resolve`.** -/
def resolve (R : ProgressiveStateBracketResolver) (taxableAmount : BigDecimal) :
    Except ResolverException (Option TaxBracket) :=
  if taxableAmount.signum < 0 then
    .error (.invalidIncome ("taxableAmount must be non-null and non-negative: "
      ++ taxableAmount.toString))
  else if 0 ≤ taxableAmount.compareTo EXTENDED_TABLE_THRESHOLD then
    .error (.bracketResolutionFailed ("failed loading extended bracket table for jurisdiction "
      ++ R.jurisdiction))
  else .ok (R.findCoveringBracket taxableAmount)

/-! ## The property and the condition -/

variable {jurisdiction : String} {brackets : List TaxBracket} {taxableAmount : BigDecimal}

/-- The amounts whose brackets are looked up: from nothing to a billion. -/
def InTable (taxableAmount : BigDecimal) : Prop :=
  0 ≤ taxableAmount.signum ∧ taxableAmount.compareTo EXTENDED_TABLE_THRESHOLD < 0

instance : DecidablePred InTable := fun _ => inferInstanceAs (Decidable (_ ∧ _))

/-- **A bracket of the least floor** among those that cover an amount. -/
def IsLeast (brackets : List TaxBracket) (taxableAmount : BigDecimal) (b : TaxBracket) : Prop :=
  b ∈ brackets ∧ b.covers taxableAmount ∧ ∀ b' ∈ brackets, b'.covers taxableAmount → b.floorLe b'

/-- **An amount's bracket is a function of the set of brackets**: it is one of the least floor,
there is none exactly if none covers the amount, and every order of the brackets gives the same. -/
structure Determined (jurisdiction : String) (brackets : List TaxBracket)
    (taxableAmount : BigDecimal) (R : ProgressiveStateBracketResolver) : Prop where
  least : ∀ b, R.resolve taxableAmount = .ok (some b) → IsLeast brackets taxableAmount b
  empty : R.resolve taxableAmount = .ok none ↔ ∀ b ∈ brackets, ¬ b.covers taxableAmount
  returns : ∃ result, R.resolve taxableAmount = .ok result
  permuted : ∀ brackets', brackets'.Perm brackets → ∃ R', create jurisdiction brackets' = .ok R'
    ∧ R'.resolve taxableAmount = R.resolve taxableAmount

/-- **No two brackets share the least floor** of those that cover an amount. -/
def Unambiguous (brackets : List TaxBracket) (taxableAmount : BigDecimal) : Prop :=
  ∀ b b', IsLeast brackets taxableAmount b → IsLeast brackets taxableAmount b' → b = b'

/-! ## What is resolved -/

theorem create_eq_ok {R : ProgressiveStateBracketResolver}
    (h : create jurisdiction brackets = .ok R) :
    ¬ Java.IsBlank jurisdiction ∧ brackets ≠ [] ∧ (∀ b ∈ brackets, b.jurisdiction = jurisdiction)
      ∧ R.brackets = brackets.insertionSort TaxBracket.floorLe := by
  unfold create at h
  split_ifs at h with h₁ h₂
  split at h
  · cases h
  · next hfind =>
    cases h
    exact ⟨h₁, h₂, fun b hb => by simpa using List.find?_eq_none.mp hfind b hb, rfl⟩

/-- **Every order of the brackets is accepted** if one is. -/
theorem exists_create_of_perm {R : ProgressiveStateBracketResolver}
    (h : create jurisdiction brackets = .ok R) {brackets' : List TaxBracket}
    (hperm : brackets'.Perm brackets) : ∃ R', create jurisdiction brackets' = .ok R' := by
  obtain ⟨h₁, h₂, h₃, -⟩ := create_eq_ok h
  have hnil : brackets' ≠ [] := fun hnil => h₂ (List.perm_nil.mp (hnil ▸ hperm.symm))
  unfold create
  rw [dif_neg h₁, dif_neg hnil]
  split
  · next b hfind =>
    have hb := List.find?_some hfind
    exact absurd (h₃ b (hperm.mem_iff.mp (List.mem_of_find?_eq_some hfind))) (by simpa using hb)
  · exact ⟨_, rfl⟩

theorem resolve_of_inTable {R : ProgressiveStateBracketResolver} (h : InTable taxableAmount) :
    R.resolve taxableAmount = .ok (R.findCoveringBracket taxableAmount) := by
  rw [resolve, if_neg (not_lt.mpr h.1), if_neg (not_le.mpr h.2)]

/-- **What is found is of the least floor.** -/
theorem isLeast_of_find {R : ProgressiveStateBracketResolver}
    (h : create jurisdiction brackets = .ok R) {b : TaxBracket}
    (hb : R.findCoveringBracket taxableAmount = some b) : IsLeast brackets taxableAmount b := by
  obtain ⟨-, -, -, hbrackets⟩ := create_eq_ok h
  have hmem : ∀ b', b' ∈ R.brackets ↔ b' ∈ brackets := fun b' => by
    rw [hbrackets, List.mem_insertionSort]
  obtain ⟨hin, hcovers, hleast⟩ := StableSort.find?_of_pairwise
    (fun b => TaxBracket.floorLe_iff.mpr le_rfl) R.sorted hb
  exact ⟨(hmem b).mp hin, hcovers, fun b' hb' => hleast b' ((hmem b').mpr hb')⟩

theorem find_eq_none_iff {R : ProgressiveStateBracketResolver}
    (h : create jurisdiction brackets = .ok R) :
    R.findCoveringBracket taxableAmount = none ↔ ∀ b ∈ brackets, ¬ b.covers taxableAmount := by
  obtain ⟨-, -, -, hbrackets⟩ := create_eq_ok h
  rw [findCoveringBracket, hbrackets, List.find?_eq_none]
  exact forall_congr' fun b => imp_congr_left (List.mem_insertionSort _)

/-- **A bracket of the least floor that comes first in the list is found.** -/
theorem find_eq_some_of_head {R : ProgressiveStateBracketResolver} {b : TaxBracket}
    (h : create jurisdiction (b :: brackets) = .ok R)
    (hb : IsLeast (b :: brackets) taxableAmount b) :
    R.findCoveringBracket taxableAmount = some b := by
  obtain ⟨-, -, -, hbrackets⟩ := create_eq_ok h
  rw [findCoveringBracket, hbrackets]
  refine StableSort.find?_orderedInsert hb.2.1 fun b' hb' hcovers => ?_
  exact hb.2.2 b' (List.mem_cons_of_mem b ((List.mem_insertionSort _).mp hb')) hcovers

/-- **Without two of the least floor every order finds the same.** -/
theorem find_eq_of_perm {R R' : ProgressiveStateBracketResolver} {brackets' : List TaxBracket}
    (h : create jurisdiction brackets = .ok R) (h' : create jurisdiction brackets' = .ok R')
    (hperm : brackets'.Perm brackets) (hone : Unambiguous brackets taxableAmount) :
    R'.findCoveringBracket taxableAmount = R.findCoveringBracket taxableAmount := by
  have hleast : ∀ b, IsLeast brackets' taxableAmount b → IsLeast brackets taxableAmount b :=
    fun b hb => ⟨hperm.mem_iff.mp hb.1, hb.2.1, fun c hc => hb.2.2 c (hperm.mem_iff.mpr hc)⟩
  cases hfound : R.findCoveringBracket taxableAmount with
  | none =>
    refine (find_eq_none_iff h').mpr fun b hb => ?_
    exact (find_eq_none_iff h).mp hfound b (hperm.mem_iff.mp hb)
  | some b =>
    have hb := isLeast_of_find h hfound
    cases hfound' : R'.findCoveringBracket taxableAmount with
    | none =>
      exact absurd hb.2.1 ((find_eq_none_iff h').mp hfound' b (hperm.mem_iff.mpr hb.1))
    | some b' => rw [hone b' b (hleast b' (isLeast_of_find h' hfound')) hb]

/-- **An amount's bracket is a function of the set of brackets** exactly if no two of them share the
least floor of those that cover it. -/
theorem resolve_determined_iff (jurisdiction : String) (brackets : List TaxBracket)
    (taxableAmount : BigDecimal) (R : ProgressiveStateBracketResolver)
    (h : create jurisdiction brackets = .ok R) (hamount : InTable taxableAmount) :
    Determined jurisdiction brackets taxableAmount R ↔ Unambiguous brackets taxableAmount := by
  constructor
  · intro hdetermined b b' hb hb'
    have hfirst : ∀ c, IsLeast brackets taxableAmount c
        → R.resolve taxableAmount = .ok (some c) := fun c hc => by
      have hperm := (List.perm_cons_erase hc.1).symm
      obtain ⟨R', hR', hsame⟩ := hdetermined.permuted _ hperm
      have hc' : IsLeast (c :: brackets.erase c) taxableAmount c :=
        ⟨List.mem_cons_self, hc.2.1, fun d hd => hc.2.2 d (hperm.mem_iff.mp hd)⟩
      rw [← hsame, resolve_of_inTable hamount, find_eq_some_of_head hR' hc']
    exact Option.some.inj (Except.ok.inj ((hfirst b hb).symm.trans (hfirst b' hb')))
  · intro hone
    refine ⟨fun b hb => ?_, ?_, ⟨_, resolve_of_inTable hamount⟩, fun brackets' hperm => ?_⟩
    · rw [resolve_of_inTable hamount] at hb
      exact isLeast_of_find h (Except.ok.inj hb)
    · rw [resolve_of_inTable hamount, Except.ok.injEq]
      exact find_eq_none_iff h
    · obtain ⟨R', hR'⟩ := exists_create_of_perm h hperm
      refine ⟨R', hR', ?_⟩
      rw [resolve_of_inTable hamount, resolve_of_inTable hamount, find_eq_of_perm h hR' hperm hone]

/-- Up to a hundred dollars, and up to two hundred at another rate. -/
def upToHundred : TaxBracket := ⟨"ca-bracket-1", "CALIFORNIA", ⟨1, 2⟩, ⟨0, 2⟩, some ⟨10000, 2⟩,
  by decide, by decide, by decide, by decide, rfl, by decide, by decide⟩

def upToTwoHundred : TaxBracket := ⟨"ca-bracket-2", "CALIFORNIA", ⟨9, 2⟩, ⟨0, 2⟩, some ⟨20000, 2⟩,
  by decide, by decide, by decide, by decide, rfl, by decide, by decide⟩

theorem resolve_upToHundred : ∃ R, create "CALIFORNIA" [upToHundred] = .ok R
    ∧ Determined "CALIFORNIA" [upToHundred] ⟨50, 0⟩ R := by
  obtain ⟨R, hR⟩ : ∃ R, create "CALIFORNIA" [upToHundred] = .ok R := ⟨_, rfl⟩
  refine ⟨R, hR, (resolve_determined_iff "CALIFORNIA" _ ⟨50, 0⟩ R hR (by decide)).mpr ?_⟩
  intro b b' hb hb'
  rw [List.mem_singleton.mp hb.1, List.mem_singleton.mp hb'.1]

/-- **Fifty dollars fall into both**, and into the one that comes first. -/
theorem resolve_of_order :
    (create "CALIFORNIA" [upToHundred, upToTwoHundred]).bind (·.resolve ⟨50, 0⟩)
        = .ok (some upToHundred)
      ∧ (create "CALIFORNIA" [upToTwoHundred, upToHundred]).bind (·.resolve ⟨50, 0⟩)
        = .ok (some upToTwoHundred)
      ∧ ∀ R, create "CALIFORNIA" [upToHundred, upToTwoHundred] = .ok R
        → ¬ Determined "CALIFORNIA" [upToHundred, upToTwoHundred] ⟨50, 0⟩ R := by
  have hswap : (create "CALIFORNIA" [upToTwoHundred, upToHundred]).bind (·.resolve ⟨50, 0⟩)
      = .ok (some upToTwoHundred) := by decide
  have hfirst : (create "CALIFORNIA" [upToHundred, upToTwoHundred]).bind (·.resolve ⟨50, 0⟩)
      = .ok (some upToHundred) := by decide
  refine ⟨hfirst, hswap, fun R hR hdetermined => ?_⟩
  obtain ⟨R', hR', hsame⟩ := hdetermined.permuted _ (List.Perm.swap upToHundred upToTwoHundred [])
  rw [hR] at hfirst
  rw [hR'] at hswap
  have hne : upToTwoHundred = upToHundred :=
    Option.some.inj (Except.ok.inj (hswap.symm.trans (hsame.trans hfirst)))
  exact absurd hne (by decide)

end ProgressiveStateBracketResolver

end Service
