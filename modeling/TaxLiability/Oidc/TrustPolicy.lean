import TaxLiability.Machinery.Dict
import TaxLiability.Machinery.Glob

/-!
# Oidc/TrustPolicy — the offline decision on a trust policy, against IAM's

    statement ──verdict──▸ rejected ──▸ next          statement ──satisfied──▸ { Allow: some
                         ▸ admitted ──▸ Allow                                    Deny: none }
                         ▸ raised

The simulator reads of an `Allow` statement its `StringEquals` on `aud`, and its `StringEquals` on
`sub` or, if that has none, its `StringLike`; and it reads no `Deny` statement.  IAM reads every
test of every statement.  So the two agree as far as what is skipped lets them (`reproduces_iff`).
-/

namespace Oidc

/-! ## Trust policies -/

def AUD_KEY : String := "token.actions.githubusercontent.com:aud"
def SUB_KEY : String := "token.actions.githubusercontent.com:sub"

/-- The action of a web-identity assume. -/
def WEB_IDENTITY : String := "sts:AssumeRoleWithWebIdentity"

/-- How the provider of GitHub's tokens is named, in any account. -/
def PROVIDER_SUFFIX : String := "/token.actions.githubusercontent.com"

/-- A value of the document that may be a list. -/
inductive OneOrMany
  | one (v : String)
  | many (vs : List String)
  deriving DecidableEq

/-- `_as_list` -/
def OneOrMany.asList : OneOrMany → List String
  | .one v => [v]
  | .many vs => vs

inductive Effect
  | allow
  | deny
  deriving DecidableEq

/-- Who a statement is about: `"*"`, or the principals of each kind. -/
inductive Principal
  | everyone
  | named (principals : Dict String OneOrMany)

/-- **A statement of a trust policy.**  Its condition has, for each operator, the values of each
key. -/
structure Statement where
  sid : Option String
  effect : Effect
  principal : Option Principal
  notPrincipal : Option Principal
  action : Option OneOrMany
  notAction : Option OneOrMany
  condition : Dict String (Dict String OneOrMany)

namespace Statement

/-- `_as_list(stmt.get("Action", []))` -/
def actions (s : Statement) : List String := (s.action.map OneOrMany.asList).getD []

/-- `stmt.get("Principal", {}).get("Federated", "")`, of which `endswith` is then asked; the error
is the text of the exception. -/
def federated (s : Statement) : Except String String :=
  match s.principal with
  | none => .ok ""
  | some .everyone => .error "'str' object has no attribute 'get'"
  | some (.named principals) =>
    match Dict.get? principals "Federated" with
    | none => .ok ""
    | some (.one federated) => .ok federated
    | some (.many _) => .error "'list' object has no attribute 'endswith'"

/-- The values an operator has for a key. -/
def test (s : Statement) (operator key : String) : Option OneOrMany :=
  (Dict.get? s.condition operator).bind fun block => Dict.get? block key

end Statement

/-! ## The simulator -/

/-- **`string_equals`.** -/
def stringEquals (claim : String) (allowed : OneOrMany) : Bool := claim ∈ allowed.asList

/-- A character of a pattern. -/
def token (c : Char) : Glob.Token Char :=
  if c = '*' then .any else if c = '?' then .one else .lit c

def pattern (v : String) : List (Glob.Token Char) := v.toList.map token

/-- `fnmatch.fnmatchcase`, of a pattern without brackets. -/
def fnmatchcase (claim v : String) : Bool := Glob.accepts (pattern v) claim.toList

/-- The language's text of a value. -/
structure Library where
  repr : OneOrMany → String

/-- The text of the `ValueError` for a bracket. -/
def bracketError (L : Library) (v : String) : String :=
  "pattern " ++ L.repr (.one v) ++ " contains a bracket; fnmatch would treat it as a " ++
    "character class but IAM would not - refusing to guess"

/-- The patterns in turn, up to one that matches or has a bracket. -/
def anyLike (L : Library) (claim : String) : List String → Except String Bool
  | [] => .ok false
  | v :: vs =>
    if '[' ∈ v.toList ∨ ']' ∈ v.toList then .error (bracketError L v)
    else if fnmatchcase claim v then .ok true
    else anyLike L claim vs

/-- **`string_like`.** -/
def stringLike (L : Library) (claim : String) (allowed : OneOrMany) : Except String Bool :=
  anyLike L claim allowed.asList

/-- What becomes of a statement. -/
inductive Verdict
  | admitted
  | rejected (reason : Option String)
  | raised (detail : String)

/-- The `sub` condition, which must exist. -/
def subVerdict (L : Library) (s : Statement) (sub : String) : Verdict :=
  match s.test "StringEquals" SUB_KEY with
  | some allowed =>
    if stringEquals sub allowed then .admitted
    else .rejected (some ("sub " ++ L.repr (.one sub) ++ " does not StringEquals " ++
      L.repr allowed))
  | none =>
    match s.test "StringLike" SUB_KEY with
    | some allowed =>
      match stringLike L sub allowed with
      | .error detail => .raised detail
      | .ok true => .admitted
      | .ok false => .rejected (some ("sub " ++ L.repr (.one sub) ++ " does not StringLike " ++
        L.repr allowed))
    | none => .rejected (some "NO sub condition - policy would trust every GitHub repo")

/-- The conditions on the claims. -/
def claimsVerdict (L : Library) (s : Statement) (sub aud : String) : Verdict :=
  match s.test "StringEquals" AUD_KEY with
  | some allowed =>
    if stringEquals aud allowed then subVerdict L s sub
    else .rejected (some ("aud " ++ L.repr (.one aud) ++ " != required " ++ L.repr allowed))
  | none => subVerdict L s sub

/-- **One statement.** -/
def verdict (L : Library) (s : Statement) (sub aud : String) : Verdict :=
  if s.effect ≠ .allow then .rejected none
  else if WEB_IDENTITY ∉ s.actions then
    .rejected (some "statement does not allow sts:AssumeRoleWithWebIdentity")
  else
    match s.federated with
    | .error detail => .raised detail
    | .ok federated =>
      if PROVIDER_SUFFIX.toList <:+ federated.toList then claimsVerdict L s sub aud
      else .rejected (some ("Principal.Federated " ++ L.repr (.one federated) ++
        " is not the GitHub OIDC provider"))

/-- The reason of an Allow. -/
def matched (L : Library) (s : Statement) : String :=
  "matched statement " ++ L.repr (.one (s.sid.getD "<no Sid>"))

/-- The statements in turn, with the reasons so far. -/
def evaluateFrom (L : Library) (sub aud : String) :
    List String → List Statement → Except String (Bool × List String)
  | reasons, [] => .ok (false, reasons)
  | reasons, s :: ss =>
    match verdict L s sub aud with
    | .admitted => .ok (true, [matched L s])
    | .rejected reason => evaluateFrom L sub aud (reasons ++ reason.toList) ss
    | .raised detail => .error detail

/-- **`evaluate`**, over the statements of a policy. -/
def evaluate (L : Library) (policy : List Statement) (sub aud : String) :
    Except String (Bool × List String) := evaluateFrom L sub aud [] policy

/-! ## IAM -/

/-- A value that holds no policy variable, and so stands for itself. -/
def Plain (vs : List String) : Prop := ∀ v ∈ vs, '$' ∉ v.toList

/-- The claim a condition key reads. -/
def claimOf (sub aud key : String) : Option String :=
  if key = AUD_KEY then some aud else if key = SUB_KEY then some sub else none

/-- The provider of GitHub's tokens in an account. -/
def provider (account : String) : String :=
  "arn:aws:iam::" ++ account ++ ":oidc-provider" ++ PROVIDER_SUFFIX

/-- A statement that lists the action and names the provider. -/
structure Statement.Names (s : Statement) (account : String) : Prop where
  action : WEB_IDENTITY ∈ s.actions
  principal : ∃ principals, s.principal = some (.named principals)
    ∧ Dict.get? principals "Federated" = some (.one (provider account))
  notAction : s.notAction = none
  notPrincipal : s.notPrincipal = none

/-- **IAM, on a token with these claims**: whether a statement is for the web-identity action and
the provider of the token, and whether an operator holds of a key and its values.  `StringEquals`
and `StringLike` are what they are documented to be; the rest of the request is IAM's. -/
structure Iam (sub aud : String) where
  account : String
  isFor : Statement → Prop
  holds : String → String → List String → Prop
  isFor_of_names : ∀ s, s.Names account → isFor s
  equals : ∀ key claim vs, claimOf sub aud key = some claim → Plain vs →
    (holds "StringEquals" key vs ↔ claim ∈ vs)
  like : ∀ key claim vs, claimOf sub aud key = some claim → Plain vs →
    (holds "StringLike" key vs ↔ ∃ v ∈ vs, Glob.Like (pattern v) claim.toList)

variable {sub aud : String}

/-- **A statement matches the request**: it is for the action and the provider, and all of its
conditions hold. -/
def Iam.Satisfied (iam : Iam sub aud) (s : Statement) : Prop :=
  iam.isFor s ∧ ∀ operator key vs, s.test operator key = some vs →
    iam.holds operator key vs.asList

/-- A `Deny` statement matches. -/
def Iam.Denied (iam : Iam sub aud) (policy : List Statement) : Prop :=
  ∃ s ∈ policy, s.effect = .deny ∧ iam.Satisfied s

/-- **IAM's decision is Allow.** -/
def Iam.Allows (iam : Iam sub aud) (policy : List Statement) : Prop :=
  (∃ s ∈ policy, s.effect = .allow ∧ iam.Satisfied s) ∧ ¬ iam.Denied policy

/-! ## What the simulator makes of a statement -/

section

variable {L : Library} {s : Statement} {policy : List Statement}

/-- The provider of a statement is one text, and ends as GitHub's is named. -/
def Statement.OfProvider (s : Statement) : Prop :=
  ∃ federated, s.federated = .ok federated ∧ PROVIDER_SUFFIX.toList <:+ federated.toList

/-- What the simulator asks of `aud`. -/
def AudPasses (aud : String) (s : Statement) : Prop :=
  ∀ allowed, s.test "StringEquals" AUD_KEY = some allowed → aud ∈ allowed.asList

/-- What the simulator asks of `sub`. -/
def SubPasses (L : Library) (sub : String) (s : Statement) : Prop :=
  (∃ allowed, s.test "StringEquals" SUB_KEY = some allowed ∧ sub ∈ allowed.asList)
    ∨ s.test "StringEquals" SUB_KEY = none
      ∧ ∃ allowed, s.test "StringLike" SUB_KEY = some allowed ∧ stringLike L sub allowed = .ok true

/-- The patterns of `sub` are read, and a bracket comes before one that matches. -/
def SubStops (L : Library) (sub : String) (s : Statement) : Prop :=
  s.test "StringEquals" SUB_KEY = none ∧ ∃ allowed,
    s.test "StringLike" SUB_KEY = some allowed ∧ ∃ detail, stringLike L sub allowed = .error detail

/-- **What the simulator asks of a statement.** -/
structure Checked (L : Library) (sub aud : String) (s : Statement) : Prop where
  effect : s.effect = .allow
  action : WEB_IDENTITY ∈ s.actions
  ofProvider : s.OfProvider
  aud : AudPasses aud s
  sub : SubPasses L sub s

/-- **A statement the simulator stops at**: its provider is no text, or it comes to a bracket. -/
structure Stops (L : Library) (sub aud : String) (s : Statement) : Prop where
  effect : s.effect = .allow
  action : WEB_IDENTITY ∈ s.actions
  stops : (∃ detail, s.federated = .error detail)
    ∨ s.OfProvider ∧ AudPasses aud s ∧ SubStops L sub s

/-- A verdict says whether its statement passes, and whether it stops the simulator. -/
def Verdict.Decides (passes stops : Prop) : Verdict → Prop
  | .admitted => passes
  | .rejected _ => ¬ passes ∧ ¬ stops
  | .raised _ => ¬ passes ∧ stops

theorem subVerdict_decides :
    (subVerdict L s sub).Decides (SubPasses L sub s) (SubStops L sub s) := by
  rw [subVerdict, SubPasses, SubStops]
  cases s.test "StringEquals" SUB_KEY with
  | some allowed => by_cases h : sub ∈ allowed.asList <;> simp [stringEquals, Verdict.Decides, h]
  | none =>
    cases s.test "StringLike" SUB_KEY with
    | none => simp [Verdict.Decides]
    | some allowed =>
      rcases hlike : stringLike L sub allowed with detail | (_ | _) <;>
        simp [Verdict.Decides, hlike]

theorem claimsVerdict_decides : (claimsVerdict L s sub aud).Decides
    (AudPasses aud s ∧ SubPasses L sub s) (AudPasses aud s ∧ SubStops L sub s) := by
  by_cases haud : AudPasses aud s
  · have heq : claimsVerdict L s sub aud = subVerdict L s sub := by
      rw [claimsVerdict]
      split
      case h_1 allowed htest => exact if_pos (decide_eq_true (haud allowed htest))
      case h_2 => rfl
    simpa only [heq, haud, true_and] using subVerdict_decides
  · obtain ⟨allowed, htest, hnot⟩ : ∃ allowed, s.test "StringEquals" AUD_KEY = some allowed
        ∧ aud ∉ allowed.asList := by simpa [AudPasses] using haud
    simp [claimsVerdict, htest, stringEquals, hnot, Verdict.Decides, haud]

/-- **What the verdict on a statement says.** -/
theorem verdict_decides :
    (verdict L s sub aud).Decides (Checked L sub aud s) (Stops L sub aud s) := by
  rw [verdict]
  split
  case isTrue heffect => exact ⟨fun h => heffect h.effect, fun h => heffect h.effect⟩
  case isFalse heffect =>
    split
    case isTrue haction => exact ⟨fun h => haction h.action, fun h => haction h.action⟩
    case isFalse haction =>
      split
      case h_1 detail herror =>
        refine ⟨?_, not_not.mp heffect, not_not.mp haction, .inl ⟨detail, herror⟩⟩
        rintro ⟨-, -, ⟨federated, hfederated, -⟩, -, -⟩
        rw [herror] at hfederated
        cases hfederated
      case h_2 federated hfederated =>
        have hfails : ¬ ∃ detail, s.federated = .error detail := by simp [hfederated]
        have hsuffix : s.OfProvider ↔ PROVIDER_SUFFIX.toList <:+ federated.toList := by
          simp [Statement.OfProvider, hfederated]
        have hchecked : Checked L sub aud s ↔
            s.OfProvider ∧ AudPasses aud s ∧ SubPasses L sub s :=
          ⟨fun h => ⟨h.ofProvider, h.aud, h.sub⟩,
            fun h => ⟨not_not.mp heffect, not_not.mp haction, h.1, h.2.1, h.2.2⟩⟩
        have hstops : Stops L sub aud s ↔ s.OfProvider ∧ AudPasses aud s ∧ SubStops L sub s :=
          ⟨fun h => h.stops.resolve_left hfails,
            fun h => ⟨not_not.mp heffect, not_not.mp haction, .inr h⟩⟩
        rw [hchecked, hstops, hsuffix]
        split
        case isTrue hends => simpa only [hends, true_and] using claimsVerdict_decides
        case isFalse hends => exact ⟨fun h => hends h.1, fun h => hends h.1⟩

/-- **A statement passes, and none that the simulator stops at comes before it.** -/
def Passes (L : Library) (sub aud : String) (policy : List Statement) : Prop :=
  ∃ pre s post, policy = pre ++ s :: post ∧ Checked L sub aud s ∧ ∀ t ∈ pre, ¬ Stops L sub aud t

theorem passes_cons_iff : Passes L sub aud (s :: policy) ↔
    Checked L sub aud s ∨ ¬ Stops L sub aud s ∧ Passes L sub aud policy := by
  constructor
  · rintro ⟨pre, t, post, heq, ht, hpre⟩
    rcases pre with _ | ⟨u, pre⟩
    · obtain ⟨rfl, -⟩ := List.cons.inj heq
      exact .inl ht
    · obtain ⟨rfl, rfl⟩ := List.cons.inj heq
      obtain ⟨hstops, hpre⟩ := List.forall_mem_cons.mp hpre
      exact .inr ⟨hstops, pre, t, post, rfl, ht, hpre⟩
  · rintro (h | ⟨hstops, pre, t, post, rfl, ht, hpre⟩)
    · exact ⟨[], s, policy, rfl, h, by simp⟩
    · exact ⟨s :: pre, t, post, rfl, ht, List.forall_mem_cons.mpr ⟨hstops, hpre⟩⟩

/-- `evaluate` answers Allow. -/
def AnswersAllow (L : Library) (sub aud : String) (policy : List Statement) : Prop :=
  ∃ reasons, evaluate L policy sub aud = .ok (true, reasons)

theorem evaluateFrom_iff {reasons : List String} :
    (∃ answer, evaluateFrom L sub aud reasons policy = .ok (true, answer)) ↔
      Passes L sub aud policy := by
  induction policy generalizing reasons with
  | nil => simp [evaluateFrom, Passes]
  | cons s ss ih =>
    have hdecides : (verdict L s sub aud).Decides _ _ := verdict_decides
    rw [evaluateFrom, passes_cons_iff]
    cases hverdict : verdict L s sub aud with
    | admitted =>
      rw [hverdict] at hdecides
      exact iff_of_true ⟨_, rfl⟩ (.inl hdecides)
    | rejected reason =>
      rw [hverdict] at hdecides
      obtain ⟨hchecked, hstops⟩ := hdecides
      rw [or_iff_right hchecked, and_iff_right hstops]
      exact ih
    | raised detail =>
      rw [hverdict] at hdecides
      obtain ⟨hchecked, hstops⟩ := hdecides
      rw [or_iff_right hchecked]
      exact iff_of_false (by rintro ⟨answer, h⟩; cases h) fun h => h.1 hstops

/-- **The simulator answers Allow at the first statement that passes.** -/
theorem answersAllow_iff : AnswersAllow L sub aud policy ↔ Passes L sub aud policy :=
  evaluateFrom_iff

/-- A list of patterns is passed by one that matches. -/
theorem exists_like_of_anyLike {claim : String} {vs : List String}
    (h : anyLike L claim vs = .ok true) :
    ∃ v ∈ vs, Glob.Like (pattern v) claim.toList := by
  induction vs with
  | nil => cases h
  | cons v vs ih =>
    rw [anyLike] at h
    split at h
    · cases h
    · split at h
      case isTrue hmatch => exact ⟨v, List.mem_cons_self, Glob.accepts_iff.mp hmatch⟩
      case isFalse =>
        obtain ⟨w, hw, hlike⟩ := ih h
        exact ⟨w, List.mem_cons_of_mem v hw, hlike⟩

/-- …and one that matches passes it, unless a bracket stands before. -/
theorem anyLike_eq_ok_true {claim : String} {vs : List String}
    (h : ∃ v ∈ vs, Glob.Like (pattern v) claim.toList)
    (hbracket : ∀ detail, anyLike L claim vs ≠ .error detail) : anyLike L claim vs = .ok true := by
  induction vs with
  | nil =>
    obtain ⟨v, hv, -⟩ := h
    cases hv
  | cons v vs ih =>
    rw [anyLike] at hbracket ⊢
    split
    case isTrue hb => exact absurd (if_pos hb) (hbracket _)
    case isFalse hb =>
      split
      case isTrue => rfl
      case isFalse hmatch =>
        rw [if_neg hb, if_neg hmatch] at hbracket
        obtain ⟨w, hw, hlike⟩ := h
        rcases List.mem_cons.mp hw with rfl | hw
        · exact absurd (Glob.accepts_iff.mpr hlike) hmatch
        · exact ih ⟨w, hw, hlike⟩ hbracket

/-! ## What it skips -/

/-- **A test the simulator reads as IAM does**: of plain values, and `StringEquals` on either claim,
or `StringLike` on a `sub` that has no `StringEquals`. -/
structure Statement.Reads (s : Statement) (operator key : String) (vs : List String) : Prop where
  plain : Plain vs
  read : operator = "StringEquals" ∧ (key = AUD_KEY ∨ key = SUB_KEY)
    ∨ operator = "StringLike" ∧ key = SUB_KEY ∧ s.test "StringEquals" SUB_KEY = none

/-- **The rest of a statement matches**: it is for the action and the provider, and the tests the
simulator does not read hold. -/
def Iam.RestSatisfied (iam : Iam sub aud) (s : Statement) : Prop :=
  iam.isFor s ∧ ∀ operator key vs, s.test operator key = some vs →
    ¬ s.Reads operator key vs.asList → iam.holds operator key vs.asList

@[simp] theorem claimOf_aud : claimOf sub aud AUD_KEY = some aud := if_pos rfl

@[simp] theorem claimOf_sub : claimOf sub aud SUB_KEY = some sub := by
  rw [claimOf, if_neg (by decide), if_pos rfl]

/-- **A statement that passes matches exactly when its rest does.** -/
theorem satisfied_iff_of_checked {iam : Iam sub aud} (h : Checked L sub aud s) :
    iam.Satisfied s ↔ iam.RestSatisfied s := by
  obtain ⟨-, -, -, haud, hsub⟩ := h
  refine and_congr_right fun _ => ⟨fun hall operator key vs htest _ => hall operator key vs htest,
    fun hrest operator key vs htest => ?_⟩
  by_cases hreads : s.Reads operator key vs.asList
  · obtain ⟨hplain, ⟨rfl, rfl | rfl⟩ | ⟨rfl, rfl, hnone⟩⟩ := hreads
    · exact (iam.equals _ _ _ claimOf_aud hplain).mpr (haud vs htest)
    · refine (iam.equals _ _ _ claimOf_sub hplain).mpr ?_
      rcases hsub with ⟨allowed, hallowed, hmem⟩ | ⟨hnone, -⟩
      · obtain rfl := Option.some.inj (htest.symm.trans hallowed)
        exact hmem
      · rw [hnone] at htest
        cases htest
    · refine (iam.like _ _ _ claimOf_sub hplain).mpr ?_
      rcases hsub with ⟨allowed, hallowed, -⟩ | ⟨-, allowed, hallowed, hlike⟩
      · rw [hnone] at hallowed
        cases hallowed
      · obtain rfl := Option.some.inj (htest.symm.trans hallowed)
        exact exists_like_of_anyLike hlike
  · exact hrest operator key vs htest hreads

/-- **A statement the simulator can read**: the action is listed as it is, the provider is one text,
`sub` has a condition, the values read are plain, and no bracket stands before a pattern that
matches. -/
structure Legible (L : Library) (sub : String) (s : Statement) : Prop where
  action : WEB_IDENTITY ∈ s.actions
  ofProvider : s.OfProvider
  pinned : s.test "StringEquals" SUB_KEY ≠ none ∨ s.test "StringLike" SUB_KEY ≠ none
  plain : ∀ operator key allowed, s.test operator key = some allowed →
    (operator = "StringEquals" ∧ (key = AUD_KEY ∨ key = SUB_KEY)
      ∨ operator = "StringLike" ∧ key = SUB_KEY) → Plain allowed.asList
  bracket : ∀ allowed, s.test "StringLike" SUB_KEY = some allowed →
    ∀ detail, stringLike L sub allowed ≠ .error detail

/-- **A statement that matches passes, if the simulator can read it.** -/
theorem checked_of_satisfied {iam : Iam sub aud} (heffect : s.effect = .allow)
    (h : iam.Satisfied s) (hlegible : Legible L sub s) : Checked L sub aud s := by
  obtain ⟨-, hall⟩ := h
  refine ⟨heffect, hlegible.action, hlegible.ofProvider, fun allowed htest => ?_, ?_⟩
  · have hplain := hlegible.plain _ _ _ htest (.inl ⟨rfl, .inl rfl⟩)
    exact (iam.equals _ _ _ claimOf_aud hplain).mp (hall _ _ _ htest)
  · cases hequals : s.test "StringEquals" SUB_KEY with
    | some allowed =>
      have hplain := hlegible.plain _ _ _ hequals (.inl ⟨rfl, .inr rfl⟩)
      exact .inl ⟨allowed, hequals, (iam.equals _ _ _ claimOf_sub hplain).mp (hall _ _ _ hequals)⟩
    | none =>
      obtain ⟨allowed, htest⟩ : ∃ allowed, s.test "StringLike" SUB_KEY = some allowed :=
        Option.ne_none_iff_exists'.mp (hlegible.pinned.resolve_left (not_not.mpr hequals))
      have hplain := hlegible.plain _ _ _ htest (.inr ⟨rfl, rfl⟩)
      have hlike := (iam.like _ _ _ claimOf_sub hplain).mp (hall _ _ _ htest)
      exact .inr ⟨hequals, allowed, htest, anyLike_eq_ok_true hlike (hlegible.bracket _ htest)⟩

/-! ## The decisions compared -/

/-- A policy of `StringEquals` and `StringLike` on `aud` and `sub` alone. -/
def OnlyClaims (policy : List Statement) : Prop :=
  ∀ s ∈ policy, ∀ operator key allowed, s.test operator key = some allowed →
    (operator = "StringEquals" ∨ operator = "StringLike") ∧ (key = AUD_KEY ∨ key = SUB_KEY)

/-- **The simulator reproduces the decision**: its Allow is IAM's, and of a policy on the claims
alone it answers every Allow of IAM's. -/
structure Reproduces (L : Library) (iam : Iam sub aud) (policy : List Statement) : Prop where
  sound : AnswersAllow L sub aud policy → iam.Allows policy
  complete : OnlyClaims policy → iam.Allows policy → AnswersAllow L sub aud policy

/-- **What the simulator skips makes no difference.** -/
structure SkipsNothing (L : Library) (iam : Iam sub aud) (policy : List Statement) : Prop where
  /-- If a statement passes, no `Deny` matches, and the rest of a statement that passes does, or
  else a statement that the simulator turns away. -/
  passing : Passes L sub aud policy → ¬ iam.Denied policy ∧
    ((∃ s ∈ policy, Checked L sub aud s ∧ iam.RestSatisfied s)
      ∨ ∃ s ∈ policy, s.effect = .allow ∧ ¬ Checked L sub aud s ∧ iam.Satisfied s)
  /-- If none does, no statement matches that the simulator cannot read, or does not come to. -/
  turnedAway : ¬ Passes L sub aud policy → OnlyClaims policy → ¬ iam.Denied policy →
    ∀ s ∈ policy, s.effect = .allow →
      (¬ Legible L sub s ∨ ∃ t ∈ policy, Stops L sub aud t) → ¬ iam.Satisfied s

/-- A statement that passes does so at its place, if the simulator stops at none. -/
theorem passes_of_checked {t : Statement} (hmem : t ∈ policy) (hchecked : Checked L sub aud t)
    (hstops : ¬ ∃ u ∈ policy, Stops L sub aud u) : Passes L sub aud policy := by
  obtain ⟨pre, post, rfl⟩ := List.append_of_mem hmem
  exact ⟨pre, t, post, rfl, hchecked,
    fun u hu hstop => hstops ⟨u, List.mem_append_left _ hu, hstop⟩⟩

/-- Some `Allow` statement matches: one that passes, or one that is turned away. -/
theorem exists_satisfied_iff {iam : Iam sub aud} :
    (∃ s ∈ policy, s.effect = .allow ∧ iam.Satisfied s) ↔
      (∃ s ∈ policy, Checked L sub aud s ∧ iam.RestSatisfied s)
        ∨ ∃ s ∈ policy, s.effect = .allow ∧ ¬ Checked L sub aud s ∧ iam.Satisfied s := by
  constructor
  · rintro ⟨s, hmem, heffect, hsatisfied⟩
    by_cases hchecked : Checked L sub aud s
    · exact .inl ⟨s, hmem, hchecked, (satisfied_iff_of_checked hchecked).mp hsatisfied⟩
    · exact .inr ⟨s, hmem, heffect, hchecked, hsatisfied⟩
  · rintro (⟨s, hmem, hchecked, hrest⟩ | ⟨s, hmem, heffect, -, hsatisfied⟩)
    · exact ⟨s, hmem, hchecked.effect, (satisfied_iff_of_checked hchecked).mpr hrest⟩
    · exact ⟨s, hmem, heffect, hsatisfied⟩

end

/-- **The simulator reproduces IAM's decision exactly when what it skips makes no difference.** -/
theorem reproduces_iff (L : Library) (sub aud : String) (iam : Iam sub aud)
    (policy : List Statement) : Reproduces L iam policy ↔ SkipsNothing L iam policy := by
  constructor
  · rintro ⟨hsound, hcomplete⟩
    refine ⟨fun hpasses => ?_, fun hpasses honly hdenied s hmem heffect _ hsatisfied => ?_⟩
    · obtain ⟨hallow, hdenied⟩ := hsound (answersAllow_iff.mpr hpasses)
      exact ⟨hdenied, exists_satisfied_iff.mp hallow⟩
    · have hallows : iam.Allows policy := ⟨⟨s, hmem, heffect, hsatisfied⟩, hdenied⟩
      exact hpasses (answersAllow_iff.mp (hcomplete honly hallows))
  · rintro ⟨hpassing, hturned⟩
    refine ⟨fun hanswer => ?_, fun honly hallows => answersAllow_iff.mpr ?_⟩
    · obtain ⟨hdenied, hallow⟩ := hpassing (answersAllow_iff.mp hanswer)
      exact ⟨exists_satisfied_iff.mpr hallow, hdenied⟩
    · obtain ⟨⟨s, hmem, heffect, hsatisfied⟩, hdenied⟩ := hallows
      by_contra hpasses
      have hread : ¬ (¬ Legible L sub s ∨ ∃ t ∈ policy, Stops L sub aud t) := fun h =>
        hturned hpasses honly hdenied s hmem heffect h hsatisfied
      obtain ⟨hlegible, hstops⟩ := not_or.mp hread
      exact hpasses (passes_of_checked hmem
        (checked_of_satisfied heffect hsatisfied (not_not.mp hlegible)) hstops)

/-! ## The committed policies -/

section

variable {L : Library} {s : Statement} {policy : List Statement}

/-- **A statement of which the simulator skips nothing**: an `Allow` of the action for the provider,
with a condition on `sub`, every test read, and no bracket. -/
structure Pinned (account : String) (s : Statement) : Prop where
  effect : s.effect = .allow
  names : s.Names account
  reads : ∀ operator key allowed, s.test operator key = some allowed →
    s.Reads operator key allowed.asList
  pinned : s.test "StringEquals" SUB_KEY ≠ none ∨ s.test "StringLike" SUB_KEY ≠ none
  bracket : ∀ allowed, s.test "StringLike" SUB_KEY = some allowed →
    ∀ v ∈ allowed.asList, '[' ∉ v.toList ∧ ']' ∉ v.toList

/-- Patterns without brackets raise nothing. -/
theorem anyLike_ne_error {claim : String} {vs : List String}
    (h : ∀ v ∈ vs, '[' ∉ v.toList ∧ ']' ∉ v.toList) (detail : String) :
    anyLike L claim vs ≠ .error detail := by
  induction vs with
  | nil => simp [anyLike]
  | cons v vs ih =>
    obtain ⟨hv, hvs⟩ := List.forall_mem_cons.mp h
    rw [anyLike, if_neg (not_or.mpr hv)]
    split
    · simp
    · exact ih hvs

theorem ofProvider_of_names {account : String} (h : s.Names account) : s.OfProvider := by
  obtain ⟨principals, hprincipal, hfederated⟩ := h.principal
  refine ⟨provider account, by simp only [Statement.federated, hprincipal, hfederated], ?_⟩
  have hends : (provider account).toList = _ ++ PROVIDER_SUFFIX.toList := String.toList_append
  exact ⟨_, hends.symm⟩

theorem legible_of_pinned {account : String} (h : Pinned account s) : Legible L sub s where
  action := h.names.action
  ofProvider := ofProvider_of_names h.names
  pinned := h.pinned
  plain operator key allowed htest _ := (h.reads operator key allowed htest).plain
  bracket allowed htest := anyLike_ne_error (h.bracket allowed htest)

/-- The simulator stops at nothing it can read. -/
theorem not_stops_of_legible (h : Legible L sub s) : ¬ Stops L sub aud s := by
  rintro ⟨-, -, ⟨detail, herror⟩ | ⟨-, -, -, allowed, htest, detail, herror⟩⟩
  · obtain ⟨federated, hfederated, -⟩ := h.ofProvider
    rw [herror] at hfederated
    cases hfederated
  · exact h.bracket allowed htest detail herror

/-- **Of pinned statements the simulator's answer is IAM's decision.** -/
theorem answersAllow_iff_allows {iam : Iam sub aud} (h : ∀ s ∈ policy, Pinned iam.account s) :
    AnswersAllow L sub aud policy ↔ iam.Allows policy := by
  have hdenied : ¬ iam.Denied policy := by
    rintro ⟨s, hmem, heffect, -⟩
    rw [(h s hmem).effect] at heffect
    cases heffect
  have hrest : ∀ s ∈ policy, iam.RestSatisfied s := fun s hmem =>
    ⟨iam.isFor_of_names s (h s hmem).names, fun operator key allowed htest hreads =>
      absurd ((h s hmem).reads operator key allowed htest) hreads⟩
  have hstops : ¬ ∃ s ∈ policy, Stops L sub aud s := by
    rintro ⟨s, hmem, hstops⟩
    exact not_stops_of_legible (legible_of_pinned (h s hmem)) hstops
  rw [answersAllow_iff, Iam.Allows, and_iff_left hdenied]
  constructor
  · rintro ⟨pre, s, post, rfl, hchecked, -⟩
    have hmem : s ∈ pre ++ s :: post := List.mem_append_right _ List.mem_cons_self
    exact ⟨s, hmem, (h s hmem).effect, (satisfied_iff_of_checked hchecked).mpr (hrest s hmem)⟩
  · rintro ⟨s, hmem, heffect, hsatisfied⟩
    exact passes_of_checked hmem
      (checked_of_satisfied heffect hsatisfied (legible_of_pinned (h s hmem))) hstops

end

/-- The account id the committed policies have in place of the real one. -/
def ACCOUNT : String := "123456789012"

/-- The committed form of a statement. -/
def statement (sid : String) (effect : Effect) (condition : Dict String (Dict String OneOrMany)) :
    Statement where
  sid := some sid
  effect := effect
  principal := some (.named [("Federated", .one (provider ACCOUNT))])
  notPrincipal := none
  action := some (.one WEB_IDENTITY)
  notAction := none
  condition := condition

/-- The subjects of this repository. -/
def SUB_PREFIX : String :=
  "repo:AI-Native-2026-07-29-Intuit@309728071/arush-adabala-tax-liability@1317703842"

/-- `trust-policy-build.json` -/
def buildPolicy : List Statement :=
  [statement "GitHubActionsBuildPush" .allow
    [("StringEquals", [(AUD_KEY, .one "sts.amazonaws.com")]),
      ("StringLike", [(SUB_KEY, .many [SUB_PREFIX ++ ":environment:dev",
        SUB_PREFIX ++ ":ref:refs/heads/main"])])]]

/-- `trust-policy-prod.json` -/
def prodPolicy : List Statement :=
  [statement "GitHubActionsProdDeploy" .allow
    [("StringEquals", [(AUD_KEY, .one "sts.amazonaws.com"),
      (SUB_KEY, .one (SUB_PREFIX ++ ":environment:prod"))])]]

theorem names_statement {sid : String} {effect : Effect}
    {condition : Dict String (Dict String OneOrMany)} :
    (statement sid effect condition).Names ACCOUNT :=
  ⟨List.mem_singleton.mpr rfl, ⟨_, rfl, rfl⟩, rfl, rfl⟩

/-- The subjects hold no character that a policy reads as anything else. -/
theorem not_mem_subPrefix : '$' ∉ SUB_PREFIX.toList ∧ '[' ∉ SUB_PREFIX.toList
    ∧ ']' ∉ SUB_PREFIX.toList := by
  simp [SUB_PREFIX]

theorem pinned_build : ∀ s ∈ buildPolicy, Pinned ACCOUNT s := by
  refine List.forall_mem_singleton.mpr ⟨rfl, names_statement, fun operator key allowed htest => ?_,
    .inr (by decide), fun allowed htest => ?_⟩
  · simp only [Statement.test, statement, Dict.get?_cons, Dict.get?_nil] at htest
    split_ifs at htest with hequals hlike
    · subst hequals
      simp only [Option.bind_some, Dict.get?_cons, Dict.get?_nil] at htest
      split_ifs at htest with haud
      obtain rfl := Option.some.inj htest
      exact ⟨by simp [Plain, OneOrMany.asList], .inl ⟨rfl, .inl haud.symm⟩⟩
    · subst hlike
      simp only [Option.bind_some, Dict.get?_cons, Dict.get?_nil] at htest
      split_ifs at htest with hsub
      obtain rfl := Option.some.inj htest
      exact ⟨by simp [Plain, OneOrMany.asList, not_mem_subPrefix], .inr ⟨rfl, hsub.symm, rfl⟩⟩
    · cases htest
  · obtain rfl := Option.some.inj htest
    simp [OneOrMany.asList, not_mem_subPrefix]

theorem pinned_prod : ∀ s ∈ prodPolicy, Pinned ACCOUNT s := by
  refine List.forall_mem_singleton.mpr ⟨rfl, names_statement, fun operator key allowed htest => ?_,
    .inl (by decide), fun allowed htest => ?_⟩
  · simp only [Statement.test, statement, Dict.get?_cons, Dict.get?_nil] at htest
    split_ifs at htest with hequals
    · subst hequals
      simp only [Option.bind_some, Dict.get?_cons, Dict.get?_nil] at htest
      split_ifs at htest with haud hsub
      · obtain rfl := Option.some.inj htest
        exact ⟨by simp [Plain, OneOrMany.asList], .inl ⟨rfl, .inl haud.symm⟩⟩
      · obtain rfl := Option.some.inj htest
        exact ⟨by simp [Plain, OneOrMany.asList, not_mem_subPrefix], .inl ⟨rfl, .inr hsub.symm⟩⟩
    · cases htest
  · cases htest

/-- **Of the committed policies the simulator's answer is IAM's decision**, whatever the claims. -/
theorem committed_policies (L : Library) {sub aud : String} (iam : Iam sub aud)
    (h : iam.account = ACCOUNT) :
    (AnswersAllow L sub aud buildPolicy ↔ iam.Allows buildPolicy)
      ∧ (AnswersAllow L sub aud prodPolicy ↔ iam.Allows prodPolicy) :=
  ⟨answersAllow_iff_allows (h ▸ pinned_build), answersAllow_iff_allows (h ▸ pinned_prod)⟩

/-! ## A statement that is skipped -/

/-- A token request of which nothing but the two claims is known. -/
def Iam.offline (account sub aud : String) : Iam sub aud where
  account := account
  isFor s := s.Names account
  holds operator key vs := ∃ claim, claimOf sub aud key = some claim ∧
    (operator = "StringEquals" ∧ claim ∈ vs
      ∨ operator = "StringLike" ∧ ∃ v ∈ vs, Glob.Like (pattern v) claim.toList)
  isFor_of_names _ h := h
  equals key claim vs h _ := by simp [h]
  like key claim vs h _ := by simp [h]

/-- The committed policy of the production role, and a statement that denies it. -/
def frozenPolicy : List Statement := prodPolicy ++ [statement "Freeze" .deny []]

/-- **The simulator answers Allow of a policy that denies**: it reads no `Deny` statement. -/
theorem frozen_allowed : ¬ ∃ L : Library, Reproduces L
    (Iam.offline ACCOUNT (SUB_PREFIX ++ ":environment:prod") "sts.amazonaws.com") frozenPolicy := by
  rintro ⟨L, h⟩
  have hpasses : Passes L (SUB_PREFIX ++ ":environment:prod") "sts.amazonaws.com" frozenPolicy := by
    refine ⟨[], _, _, rfl, ⟨rfl, names_statement.action, ofProvider_of_names names_statement, ?_,
      ?_⟩, by simp⟩
    · intro allowed htest
      obtain rfl := Option.some.inj htest
      exact List.mem_singleton.mpr rfl
    · exact .inl ⟨_, rfl, List.mem_singleton.mpr rfl⟩
  refine (h.sound (answersAllow_iff.mpr hpasses)).2 ⟨statement "Freeze" .deny [], ?_, rfl, ?_, ?_⟩
  · exact List.mem_append_right _ (List.mem_singleton.mpr rfl)
  · exact names_statement
  · intro operator key vs htest
    cases htest

end Oidc
