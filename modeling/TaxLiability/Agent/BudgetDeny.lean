import TaxLiability.Oidc.TrustPolicy

/-!
# Agent/BudgetDeny — the offline decision on the spending cap, against IAM's

    statement ──Passes──▸ Deny              statement ──Applies──▸ Deny
              ▸ next ──▸ NotDenied                    ▸ next ──▸ not denied

The simulator reads of a `Deny` statement its `Action` and its `Resource`, both without regard to
case, with wildcards that stand for anything but a line feed.  IAM reads a resource to the letter,
and also what the statement excludes and its conditions.  So the two agree as far as what is skipped
lets them (`decides_as_iam_iff`).
-/

namespace Agent.BudgetDeny

open Oidc (OneOrMany pattern Plain)

/-! ## Policies -/

/-- **A statement of a policy**, with any effect; its condition has, for each operator, the values
of each key. -/
structure Statement where
  effect : Option String
  action : Option OneOrMany
  notAction : Option OneOrMany
  resource : Option OneOrMany
  notResource : Option OneOrMany
  condition : Dict String (Dict String OneOrMany)

/-- The values an operator has for a key. -/
def Statement.test (s : Statement) (operator key : String) : Option OneOrMany :=
  (Dict.get? s.condition operator).bind fun block => Dict.get? block key

/-! ## The simulator -/

/-- **What `re.IGNORECASE` takes for the same character.** -/
structure CaseFold where
  same : Char → Char → Bool
  refl : ∀ c, same c c
  /-- A line feed has no case. -/
  newline : ∀ c d, same c d → (c = '\n' ↔ d = '\n')
  ascii : ∀ c d, c.val < 128 → d.val < 128 → (same c d ↔ c.toLower = d.toLower)

variable (F : CaseFold)

/-- **`_matches`**: the regular expression has `.*` and `.` for the wildcards, which stand for
anything but a line feed, and every other character escaped. -/
def matches_ (p value : String) : Bool :=
  Glob.acceptsWith F.same (· ≠ '\n') (pattern p) value.toList

/-- The patterns of `Action` or `Resource`: `st.get(key) or []`, and a string is a list of one. -/
def listed : Option OneOrMany → List String
  | none => []
  | some (.one v) => if v = "" then [] else [v]
  | some (.many vs) => vs

/-- What is answered. -/
inductive Decision
  | deny
  | notDenied
  deriving DecidableEq

/-- **`decide`**, over the statements of a policy. -/
protected def decide (action resource : String) : List Statement → Decision
  | [] => .notDenied
  | s :: ss =>
    if s.effect ≠ some "Deny" then BudgetDeny.decide action resource ss
    else if (listed s.action).any (matches_ F · action)
        && (listed s.resource).any (matches_ F · resource) then .deny
    else BudgetDeny.decide action resource ss

/-! ## IAM -/

/-- A text is one of the pattern's. -/
def Like (p value : String) : Prop := Glob.Like (pattern p) value.toList

/-- A text is one of the pattern's, whatever the case. -/
def LikeFold (p value : String) : Prop :=
  Glob.LikeWith (F.same · ·) (fun _ => True) (pattern p) value.toList

/-- Operators that fail of a key the request does not have. -/
def NEEDS_KEY : List String :=
  ["StringEquals", "StringEqualsIgnoreCase", "StringLike", "NumericEquals", "NumericLessThan",
    "DateGreaterThan", "DateLessThan", "Bool", "IpAddress", "ArnEquals", "ArnLike"]

/-- **IAM, on a request with an empty context**: whether a pattern of `Resource` is for a resource,
and whether an operator holds of a key and its values.  A pattern without policy variables stands
for what it is documented to; the other operators, and variables, are IAM's. -/
structure Iam where
  resourceMatches : String → String → Prop
  holds : String → String → List String → Prop
  resourceMatches_iff : ∀ p resource, '$' ∉ p.toList →
    (resourceMatches p resource ↔ Like p resource)
  not_holds : ∀ operator ∈ NEEDS_KEY, ∀ key vs, ¬ holds operator key vs

/-- To IAM no variable need be known, and no operator need hold. -/
example : Nonempty Iam := ⟨⟨Like, fun _ _ _ => False, fun _ _ _ => Iff.rfl, fun _ _ _ _ => id⟩⟩

/-- **An element is for a value**: one of its patterns is, and none of those it excludes.  IAM has a
statement give one or the other. -/
structure IsFor (like : String → Prop) (element excluded : Option OneOrMany) : Prop where
  given : element ≠ none ∨ excluded ≠ none
  some_like : ∀ vs, element = some vs → ∃ v ∈ vs.asList, like v
  none_like : ∀ vs, excluded = some vs → ∀ v ∈ vs.asList, ¬ like v

/-- The conditions of a statement hold. -/
def Iam.Holds (iam : Iam) (s : Statement) : Prop :=
  ∀ operator key vs, s.test operator key = some vs → iam.holds operator key vs.asList

/-- **A statement applies** to an action on a resource. -/
structure Iam.Applies (iam : Iam) (action resource : String) (s : Statement) : Prop where
  action : IsFor (LikeFold F · action) s.action s.notAction
  resource : IsFor (iam.resourceMatches · resource) s.resource s.notResource
  condition : iam.Holds s

/-- **IAM's decision is an explicit deny.** -/
def Iam.Denied (iam : Iam) (action resource : String) (policy : List Statement) : Prop :=
  ∃ s ∈ policy, s.effect = some "Deny" ∧ iam.Applies F action resource s

section

variable {F} {iam : Iam} {p value action resource : String} {s : Statement}
  {policy : List Statement}

/-! ## Patterns -/

/-- A text has the line feeds of the pattern, and no other. -/
def SameNewlines (p value : String) : Prop := value.toList.count '\n' = p.toList.count '\n'

theorem token_eq_newline_iff {c : Char} : Oidc.token c = .lit '\n' ↔ c = '\n' := by
  rw [Oidc.token]
  split_ifs with hany hone
  · simp [hany]
  · simp [hone]
  · simp

theorem count_pattern : (pattern p).count (.lit '\n') = p.toList.count '\n' := by
  rw [pattern, List.count, List.countP_map, List.count]
  exact List.countP_congr fun c _ => by simp [token_eq_newline_iff]

/-- A text is one of the pattern's, whatever the case, and no wildcard stands for a line feed. -/
def LikeInLine (F : CaseFold) (p value : String) : Prop :=
  LikeFold F p value ∧ SameNewlines p value

/-- **A pattern matches** what it stands for in any case, if no wildcard is to stand for a line
feed. -/
theorem matches_iff : matches_ F p value ↔ LikeInLine F p value := by
  have hne : (fun c : Char => (decide (c ≠ '\n') : Prop)) = (· ≠ '\n') := by simp
  rw [matches_, Glob.acceptsWith_iff, hne, Glob.likeWith_ne_iff F.newline, count_pattern]
  rfl

theorem likeFold_of_like (h : Like p value) : LikeFold F p value := by
  refine (Glob.likeWith_eq_iff.mpr h).mono (fun c d heq => ?_) fun _ _ => trivial
  exact heq ▸ F.refl c

/-- Of a text without line feeds a pattern that stands for it has none. -/
theorem sameNewlines_of_likeFold (hvalue : '\n' ∉ value.toList) (h : LikeFold F p value) :
    SameNewlines p value := by
  have hle := Glob.count_le_of_likeWith F.newline h
  rw [count_pattern, List.count_eq_zero.mpr hvalue] at hle
  exact (List.count_eq_zero.mpr hvalue).trans (Nat.le_zero.mp hle).symm

/-- A pattern matches as an action's does, exactly when no wildcard stands for a line feed. -/
theorem matches_iff_likeFold_iff : (matches_ F p value ↔ LikeFold F p value) ↔
    (LikeFold F p value → SameNewlines p value) := by
  rw [matches_iff, LikeInLine, and_iff_left_iff_imp]

/-- A pattern matches as a resource's does, exactly when also none matches for its case alone. -/
theorem matches_iff_like_iff : (matches_ F p value ↔ Like p value) ↔
    (Like p value → SameNewlines p value)
      ∧ (LikeFold F p value → SameNewlines p value → Like p value) := by
  rw [matches_iff]
  constructor
  · exact fun h => ⟨fun hlike => (h.mpr hlike).2, fun hfold hsame => h.mp ⟨hfold, hsame⟩⟩
  · exact fun ⟨hsame, hlike⟩ =>
      ⟨fun h => hlike h.1 h.2, fun h => ⟨likeFold_of_like h, hsame h⟩⟩

/-! ## What passes -/

/-- **What the simulator asks of a statement.** -/
structure Passes (F : CaseFold) (action resource : String) (s : Statement) : Prop where
  effect : s.effect = some "Deny"
  action : ∃ p ∈ listed s.action, LikeInLine F p action
  resource : ∃ p ∈ listed s.resource, LikeInLine F p resource

/-- Some pattern of a list matches. -/
theorem any_matches_iff {ps : List String} :
    ps.any (matches_ F · value) ↔ ∃ p ∈ ps, LikeInLine F p value := by
  simp only [List.any_eq_true, matches_iff]

/-- **The simulator answers Deny at the first statement that passes.** -/
theorem decide_eq_deny_iff : BudgetDeny.decide F action resource policy = .deny ↔
    ∃ s ∈ policy, Passes F action resource s := by
  induction policy with
  | nil => simp [BudgetDeny.decide]
  | cons s ss ih =>
    rw [BudgetDeny.decide, List.exists_mem_cons_iff]
    split
    case isTrue heffect =>
      rw [ih, or_iff_right]
      exact fun h => heffect h.effect
    case isFalse heffect =>
      split
      case isTrue hany =>
        obtain ⟨haction, hresource⟩ := Bool.and_eq_true_iff.mp hany
        refine iff_of_true rfl (.inl ⟨not_not.mp heffect, ?_, ?_⟩)
        · exact any_matches_iff.mp haction
        · exact any_matches_iff.mp hresource
      case isFalse hany =>
        rw [ih, or_iff_right]
        rintro ⟨-, haction, hresource⟩
        exact hany (Bool.and_eq_true_iff.mpr
          ⟨any_matches_iff.mpr haction, any_matches_iff.mpr hresource⟩)

/-- What is listed is the element's own. -/
theorem eq_some_of_mem_listed {element : Option OneOrMany} (h : p ∈ listed element) :
    ∃ vs, element = some vs ∧ listed element = vs.asList := by
  rcases element with _ | (v | vs)
  · cases h
  · rw [listed] at h ⊢
    split_ifs at h ⊢
    · cases h
    · exact ⟨.one v, rfl, rfl⟩
  · exact ⟨.many vs, rfl, rfl⟩

/-- An element that is given, and is not the empty text, is listed. -/
theorem listed_eq {vs : OneOrMany} (h : vs ≠ .one "") : listed (some vs) = vs.asList := by
  cases vs with
  | one v => exact if_neg fun hv => h (congrArg OneOrMany.one hv)
  | many vs => rfl

/-- **An element is for a value** if it lists a pattern that is, and excludes none. -/
theorem isFor_of_listed {like : String → Prop} {element excluded : Option OneOrMany}
    (hlisted : ∃ p ∈ listed element, like p)
    (hexcluded : ∀ vs, excluded = some vs → ∀ v ∈ vs.asList, ¬ like v) :
    IsFor like element excluded := by
  obtain ⟨p, hp, hlike⟩ := hlisted
  obtain ⟨vs, rfl, heq⟩ := eq_some_of_mem_listed hp
  refine ⟨.inl (Option.some_ne_none vs), fun ws hws => ?_, hexcluded⟩
  obtain rfl := Option.some.inj hws
  exact ⟨p, heq ▸ hp, hlike⟩

/-! ## What it skips -/

/-- **The rest of a statement applies**: a pattern of `Resource` is for the resource to the letter,
nothing is excluded, and the conditions hold. -/
structure Iam.RestApplies (iam : Iam) (F : CaseFold) (action resource : String) (s : Statement) :
    Prop where
  notAction : ∀ vs, s.notAction = some vs → ∀ v ∈ vs.asList, ¬ LikeFold F v action
  notResource : ∀ vs, s.notResource = some vs → ∀ v ∈ vs.asList, ¬ iam.resourceMatches v resource
  resource : ∃ p ∈ listed s.resource, iam.resourceMatches p resource
  condition : iam.Holds s

/-- **A statement that passes applies exactly when its rest does.** -/
theorem applies_iff_of_passes (h : Passes F action resource s) :
    iam.Applies F action resource s ↔ iam.RestApplies F action resource s := by
  obtain ⟨-, ⟨a, ha, hlike⟩, r, hr, -⟩ := h
  constructor
  · rintro ⟨⟨-, -, hnotAction⟩, ⟨-, hsome, hnotResource⟩, hcondition⟩
    obtain ⟨vs, hvs, heq⟩ := eq_some_of_mem_listed hr
    obtain ⟨v, hv, hmatch⟩ := hsome vs hvs
    exact ⟨hnotAction, hnotResource, ⟨v, heq ▸ hv, hmatch⟩, hcondition⟩
  · rintro ⟨hnotAction, hnotResource, hresource, hcondition⟩
    exact ⟨isFor_of_listed ⟨a, ha, hlike.1⟩ hnotAction,
      isFor_of_listed hresource hnotResource, hcondition⟩

/-- **A statement the simulator can read**, of an action and a resource without line feeds: it gives
both as patterns, not as an empty text, and the resource without policy variables. -/
structure Legible (action resource : String) (s : Statement) : Prop where
  action : '\n' ∉ action.toList ∧ ∃ vs, s.action = some vs ∧ vs ≠ .one ""
  resource : '\n' ∉ resource.toList ∧ ∃ vs, s.resource = some vs ∧ vs ≠ .one "" ∧ Plain vs.asList

/-- **A statement that applies passes, if the simulator can read it.** -/
theorem passes_of_applies (heffect : s.effect = some "Deny") (h : iam.Applies F action resource s)
    (hlegible : Legible action resource s) : Passes F action resource s := by
  obtain ⟨⟨haction, actions, hactions, hne⟩, hresource, resources, hresources, hne', hplain⟩ :=
    hlegible
  refine ⟨heffect, ?_, ?_⟩
  · obtain ⟨a, ha, hlike⟩ := h.action.some_like actions hactions
    refine ⟨a, ?_, hlike, sameNewlines_of_likeFold haction hlike⟩
    rwa [hactions, listed_eq hne]
  · obtain ⟨r, hr, hmatch⟩ := h.resource.some_like resources hresources
    have hlike := likeFold_of_like (F := F) ((iam.resourceMatches_iff _ _ (hplain r hr)).mp hmatch)
    refine ⟨r, ?_, hlike, sameNewlines_of_likeFold hresource hlike⟩
    rwa [hresources, listed_eq hne']

/-- **What the simulator skips makes no difference.** -/
structure SkipsNothing (F : CaseFold) (iam : Iam) (action resource : String)
    (policy : List Statement) : Prop where
  /-- If a statement passes, the rest of one that passes applies, or else a `Deny` statement that
  the simulator turns away. -/
  passing : (∃ s ∈ policy, Passes F action resource s) →
    (∃ s ∈ policy, Passes F action resource s ∧ iam.RestApplies F action resource s)
      ∨ ∃ s ∈ policy, s.effect = some "Deny" ∧ ¬ Passes F action resource s
        ∧ iam.Applies F action resource s
  /-- If none does, no `Deny` statement applies that the simulator cannot read. -/
  turnedAway : (¬ ∃ s ∈ policy, Passes F action resource s) →
    ∀ s ∈ policy, s.effect = some "Deny" → ¬ Legible action resource s →
      ¬ iam.Applies F action resource s

/-- **The decisions agree exactly when what is skipped makes no difference.** -/
theorem decide_iff_denied_iff :
    (BudgetDeny.decide F action resource policy = .deny ↔ iam.Denied F action resource policy) ↔
      SkipsNothing F iam action resource policy := by
  rw [decide_eq_deny_iff]
  constructor
  · refine fun heq => ⟨fun hpasses => ?_, fun hpasses s hmem heffect _ happlies => ?_⟩
    · obtain ⟨s, hmem, heffect, happlies⟩ := heq.mp hpasses
      by_cases hs : Passes F action resource s
      · exact .inl ⟨s, hmem, hs, (applies_iff_of_passes hs).mp happlies⟩
      · exact .inr ⟨s, hmem, heffect, hs, happlies⟩
    · exact hpasses (heq.mpr ⟨s, hmem, heffect, happlies⟩)
  · rintro ⟨hpassing, hturned⟩
    constructor
    · intro hpasses
      rcases hpassing hpasses with ⟨s, hmem, hs, hrest⟩ | ⟨s, hmem, heffect, -, happlies⟩
      · exact ⟨s, hmem, hs.effect, (applies_iff_of_passes hs).mpr hrest⟩
      · exact ⟨s, hmem, heffect, happlies⟩
    · rintro ⟨s, hmem, heffect, happlies⟩
      by_contra hpasses
      have hlegible : Legible action resource s := by
        by_contra hlegible
        exact hturned hpasses s hmem heffect hlegible happlies
      exact hpasses ⟨s, hmem, passes_of_applies heffect happlies hlegible⟩

end

/-- **The simulator decides as IAM does exactly when no wildcard is to stand for a line feed, no
resource matches for its case alone, and what it skips makes no difference.** -/
theorem decides_as_iam_iff (iam : Iam) :
    (∀ p action, (matches_ F p action ↔ LikeFold F p action) ↔
      (LikeFold F p action → SameNewlines p action))
    ∧ (∀ p resource, (matches_ F p resource ↔ Like p resource) ↔
      (Like p resource → SameNewlines p resource)
        ∧ (LikeFold F p resource → SameNewlines p resource → Like p resource))
    ∧ ∀ policy action resource,
      (BudgetDeny.decide F action resource policy = .deny ↔ iam.Denied F action resource policy) ↔
        SkipsNothing F iam action resource policy :=
  ⟨fun _ _ => matches_iff_likeFold_iff, fun _ _ => matches_iff_like_iff,
    fun _ _ _ => decide_iff_denied_iff⟩

/-! ## The committed policy -/

section

variable {F} {iam : Iam} {action resource : String} {s : Statement} {policy : List Statement}

/-- **A statement of which the simulator skips nothing**: patterns for actions and resources alone,
and none that is for this resource by its case. -/
structure Bare (F : CaseFold) (action resource : String) (s : Statement) : Prop where
  legible : Legible action resource s
  notAction : s.notAction = none
  notResource : s.notResource = none
  condition : s.condition = []
  exact : ∀ p ∈ listed s.resource, LikeFold F p resource → Like p resource

theorem restApplies_of_bare (hpasses : Passes F action resource s) (h : Bare F action resource s) :
    iam.RestApplies F action resource s where
  notAction vs hvs := absurd (h.notAction.symm.trans hvs) (Option.some_ne_none vs).symm
  notResource vs hvs := absurd (h.notResource.symm.trans hvs) (Option.some_ne_none vs).symm
  resource := by
    obtain ⟨-, vs, hvs, hne, hplain⟩ := h.legible.resource
    obtain ⟨p, hp, hfold, -⟩ := hpasses.resource
    have hmem : p ∈ vs.asList := by rwa [← listed_eq hne, ← hvs]
    exact ⟨p, hp, (iam.resourceMatches_iff p resource (hplain p hmem)).mpr
      (h.exact p hp hfold)⟩
  condition operator key vs htest := by
    rw [Statement.test, h.condition] at htest
    cases htest

/-- **Of bare statements the simulator's answer is IAM's decision.** -/
theorem decide_iff_denied (h : ∀ s ∈ policy, s.effect = some "Deny" → Bare F action resource s) :
    BudgetDeny.decide F action resource policy = .deny ↔ iam.Denied F action resource policy := by
  refine decide_iff_denied_iff.mpr ⟨fun ⟨s, hmem, hs⟩ => .inl ⟨s, hmem, hs, ?_⟩, ?_⟩
  · exact restApplies_of_bare hs (h s hmem hs.effect)
  · exact fun _ s hmem heffect hlegible => absurd (h s hmem heffect).legible hlegible

/-- **A test of a key the request does not have** keeps a statement from applying. -/
theorem not_applies_of_test {operator key : String} {vs : OneOrMany} (hop : operator ∈ NEEDS_KEY)
    (htest : s.test operator key = some vs) : ¬ iam.Applies F action resource s :=
  fun h => iam.not_holds operator hop key vs.asList (h.condition operator key vs htest)

/-- …so of a policy of such a statement, if it passes, the simulator answers Deny in error. -/
theorem decide_of_test {operator key : String} {vs : OneOrMany}
    (hpasses : Passes F action resource s) (hop : operator ∈ NEEDS_KEY)
    (htest : s.test operator key = some vs) :
    BudgetDeny.decide F action resource [s] = .deny ∧ ¬ iam.Denied F action resource [s] := by
  refine ⟨decide_eq_deny_iff.mpr ⟨s, List.mem_singleton.mpr rfl, hpasses⟩, ?_⟩
  rintro ⟨t, ht, -, happlies⟩
  obtain rfl := List.mem_singleton.mp ht
  exact not_applies_of_test hop htest happlies

end

/-- The default of `AnthropicSecretArn`. -/
def SECRET_ARN : String :=
  "arn:aws:secretsmanager:us-east-1:123456789012:secret:taxcalc/agent-svc/anthropic-*"

/-- The default of `LlmProxyApiArn`. -/
def PROXY_ARN : String := "arn:aws:execute-api:us-east-1:123456789012:*/*/POST/v1/completions"

/-- A statement of the template. -/
def denyStatement (action resource : String) : Statement where
  effect := some "Deny"
  action := some (.many [action])
  notAction := none
  resource := some (.one resource)
  notResource := none
  condition := []

/-- `DenyLlmSpendPolicy`, with the defaults of the template's parameters. -/
def denyLlmSpendPolicy : List Statement :=
  [denyStatement "secretsmanager:GetSecretValue" SECRET_ARN,
    denyStatement "execute-api:Invoke" PROXY_ARN]

/-- The resources have no policy variable. -/
theorem not_mem_arns : '$' ∉ SECRET_ARN.toList ∧ '$' ∉ PROXY_ARN.toList := by
  simp [SECRET_ARN, PROXY_ARN]

/-- A statement of the template is bare, of a resource that is not its own but for the case. -/
theorem bare_denyStatement {F : CaseFold} {a p action resource : String}
    (haction : '\n' ∉ action.toList) (hresource : '\n' ∉ resource.toList) (hne : p ≠ "")
    (hplain : '$' ∉ p.toList) (hlike : LikeFold F p resource → Like p resource) :
    Bare F action resource (denyStatement a p) where
  legible := ⟨⟨haction, .many [a], rfl, by simp⟩, hresource, .one p, rfl, by simpa using hne,
    List.forall_mem_singleton.mpr hplain⟩
  notAction := rfl
  notResource := rfl
  condition := rfl
  exact q hq := by
    have hlisted : listed (some (.one p)) = [p] := if_neg hne
    obtain rfl : q = p := List.mem_singleton.mp (hlisted ▸ hq)
    exact hlike

/-- **Of the committed policy the simulator's answer is IAM's decision**, on any action and any
resource that is not one of its own but for the case. -/
theorem committed_policy {F : CaseFold} {iam : Iam} {action resource : String}
    (haction : '\n' ∉ action.toList) (hresource : '\n' ∉ resource.toList)
    (hsecret : LikeFold F SECRET_ARN resource → Like SECRET_ARN resource)
    (hproxy : LikeFold F PROXY_ARN resource → Like PROXY_ARN resource) :
    BudgetDeny.decide F action resource denyLlmSpendPolicy = .deny ↔
      iam.Denied F action resource denyLlmSpendPolicy := by
  refine decide_iff_denied fun s hs _ => ?_
  rcases List.mem_pair.mp hs with hs | hs <;> rw [hs]
  · exact bare_denyStatement haction hresource (by simp [SECRET_ARN]) not_mem_arns.1 hsecret
  · exact bare_denyStatement haction hresource (by simp [PROXY_ARN]) not_mem_arns.2 hproxy

/-! ## Another secret -/

theorem toLower_eq_newline_iff {c : Char} : c.toLower = '\n' ↔ c = '\n' := by
  delta Char.toLower
  split
  case isFalse => rfl
  case isTrue h =>
    have hge : 65 ≤ c.val.toNat := UInt32.le_iff_toNat_le.mp h.1
    have hle : c.val.toNat ≤ 90 := UInt32.le_iff_toNat_le.mp h.2
    refine iff_of_false (fun heq => ?_) (fun heq => ?_)
    · have hval : (c.val + 32).toNat = 10 := congrArg (fun d : Char => d.val.toNat) heq
      rw [UInt32.toNat_add, show (32 : UInt32).toNat = 32 from rfl] at hval
      omega
    · have hval : c.val.toNat = 10 := congrArg (fun d : Char => d.val.toNat) heq
      omega

/-- The ignoring of ASCII case. -/
def CaseFold.ofAscii : CaseFold where
  same c d := c.toLower = d.toLower
  refl _ := decide_eq_true rfl
  newline c d h := by
    rw [← toLower_eq_newline_iff, of_decide_eq_true h, toLower_eq_newline_iff]
  ascii _ _ _ _ := decide_eq_true_iff

/-- A secret whose name is the agent's but for the case. -/
def OTHER_SECRET : String :=
  "arn:aws:secretsmanager:us-east-1:123456789012:secret:TAXCALC/agent-svc/anthropic-AbC123"

/-- It is none of the policy's resources. -/
theorem not_like_other : ¬ Like SECRET_ARN OTHER_SECRET ∧ ¬ Like PROXY_ARN OTHER_SECRET := by
  rw [Like, Like, ← Glob.accepts_iff, ← Glob.accepts_iff]
  decide +kernel

/-- **The simulator answers Deny of another secret**, which the committed policy is not for. -/
theorem other_secret : ¬ ∃ iam : Iam,
    (BudgetDeny.decide .ofAscii "secretsmanager:GetSecretValue" OTHER_SECRET denyLlmSpendPolicy
      = .deny ↔
      iam.Denied .ofAscii "secretsmanager:GetSecretValue" OTHER_SECRET denyLlmSpendPolicy) := by
  rintro ⟨iam, h⟩
  have hdeny : BudgetDeny.decide .ofAscii "secretsmanager:GetSecretValue" OTHER_SECRET
      denyLlmSpendPolicy = .deny := by decide +kernel
  obtain ⟨s, hs, -, happlies⟩ := h.mp hdeny
  have hresource : ∀ p, '$' ∉ p.toList → s.resource = some (.one p) → Like p OTHER_SECRET := by
    intro p hplain heq
    obtain ⟨v, hv, hmatch⟩ := happlies.resource.some_like _ heq
    obtain rfl := List.mem_singleton.mp hv
    exact (iam.resourceMatches_iff v _ hplain).mp hmatch
  rcases List.mem_pair.mp hs with rfl | rfl
  · exact not_like_other.1 (hresource SECRET_ARN not_mem_arns.1 rfl)
  · exact not_like_other.2 (hresource PROXY_ARN not_mem_arns.2 rfl)

end Agent.BudgetDeny
