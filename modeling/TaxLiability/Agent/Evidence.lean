import Mathlib.Tactic.NormNum
import TaxLiability.Agent.Synthesis
import TaxLiability.Agent.Threads

/-!
# Agent/Evidence — what the synthesis node answers from

    docs, tool_results ──prompt──▸ model ──arguments──▸ FinalAnswer.model_validate ──▸ answer

The node shows the model its evidence and accepts whatever arguments its schema accepts; the schema
sees no document.  So an answer is grounded exactly if the arguments it was made of are
(`answers_grounded_iff`), except for the sentinel of the deadline, which always is.
-/

open Machine

namespace Agent.Evidence

open Synthesis

/-- Confidence at or below which the answer is a refusal: `0.4`, as the double it is. -/
def REFUSAL_CONFIDENCE : ℚ := 3602879701896397 / 9007199254740992

/-- The state the node reads: documents are dictionaries, tool results any values. -/
abbrev State := AgentState Json.Fields Json

/-- The `doc_id` of a dictionary, where it has a string there. -/
def docId? : Json → Option String
  | .obj fields =>
    match Dict.get? fields "doc_id" with
    | some (.str doc_id) => some doc_id
    | _ => none
  | _ => none

/-- The ids of the documents in the state. -/
def docIds (state : State) : List String := state.docs.filterMap fun d => docId? (.obj d)

/-- The state has neither docs nor tool_results. -/
def IsBare (state : State) : Prop := state.docs = [] ∧ state.tool_results = []

/-- **An answer cites only supplied evidence**, and refuses where there is none. -/
structure Grounded (state : State) (answer : FinalAnswer) : Prop where
  supplied : ∀ c ∈ answer.citations, c.doc_id ∈ docIds state
  refuses : IsBare state → answer.citations = [] ∧ answer.confidence ≤ REFUSAL_CONFIDENCE

/-- The sentinel of the deadline is grounded in any state. -/
theorem grounded_timeoutAnswer (state : State) : Grounded state timeoutAnswer where
  supplied := by rintro c ⟨⟩
  refuses := fun _ => ⟨rfl, by norm_num [timeoutAnswer, REFUSAL_CONFIDENCE]⟩

/-! ## The arguments of an answer -/

/-- The documents that arguments cite. -/
def citedIds : Json → List String
  | .obj fields =>
    match Dict.get? fields "citations" with
    | some (.arr citations) => citations.filterMap docId?
    | _ => []
  | _ => []

/-- The confidence that arguments state. -/
def confidenceOf (toFloat : ToFloat) : Json → Option ℚ
  | .obj fields => (Dict.get? fields "confidence").bind toFloat
  | _ => none

/-- **The arguments keep to the evidence**: they cite only ids of documents in the state, and where
it has no evidence, none, at a confidence of a refusal. -/
def Supported (toFloat : ToFloat) (state : State) (arguments : Json) : Prop :=
  (∀ id ∈ citedIds arguments, id ∈ docIds state)
    ∧ (IsBare state → citedIds arguments = []
        ∧ ∀ confidence ∈ confidenceOf toFloat arguments, confidence ≤ REFUSAL_CONFIDENCE)

instance (state : State) : Decidable (IsBare state) := inferInstanceAs (Decidable (_ ∧ _))

instance (toFloat : ToFloat) (state : State) (arguments : Json) :
    Decidable (Supported toFloat state arguments) :=
  inferInstanceAs (Decidable ((∀ id ∈ citedIds arguments, id ∈ docIds state) ∧ (IsBare state → _)))

/-- A citation that validates is of the document it names. -/
theorem docId?_of_modelValidate {arguments : Json} {c : Citation}
    (h : Citation.modelValidate arguments = some c) : docId? arguments = some c.doc_id := by
  cases arguments with
  | obj fields =>
    simp only [Citation.modelValidate] at h
    obtain ⟨-, h⟩ := Option.ite_none_right_eq_some.mp h
    split at h
    · next doc_id quote hdoc hquote =>
      split at h
      · cases h
        simp only [docId?, hdoc]
      · cases h
    · cases h
  | null | bool | int | float | str | arr => cases h

/-- Citations that validate are of the documents they name, in their order. -/
theorem filterMap_docId? {xs : List Json} {citations : List Citation}
    (h : xs.mapM Citation.modelValidate = some citations) :
    xs.filterMap docId? = citations.map Citation.doc_id := by
  have hvalid := Machine.mapM_eq_some_iff.mp h
  clear h
  induction hvalid with
  | nil => rfl
  | cons hc _ ih => rw [List.filterMap_cons_some (docId?_of_modelValidate hc), ih, List.map_cons]

/-- **What an answer takes from its arguments**: its citations and its confidence. -/
theorem modelValidate_eq_some {toFloat : ToFloat} {arguments : Json} {answer : FinalAnswer}
    (h : FinalAnswer.modelValidate toFloat arguments = some answer) :
    citedIds arguments = answer.citations.map Citation.doc_id
      ∧ confidenceOf toFloat arguments = some answer.confidence := by
  cases arguments with
  | obj fields =>
    simp only [FinalAnswer.modelValidate] at h
    obtain ⟨-, h⟩ := Option.ite_none_right_eq_some.mp h
    split at h
    · next text citations confidence _ hcitations hconfidence =>
      split at h
      · cases h
        refine ⟨?_, hconfidence⟩
        cases hc : Dict.get? fields "citations" with
        | none =>
          rw [hc] at hcitations
          cases hcitations
          simp only [citedIds, hc, List.map_nil]
        | some v =>
          rw [hc] at hcitations
          cases v with
          | arr xs =>
            simp only [citedIds, hc]
            exact filterMap_docId? hcitations
          | null | bool | int | float | str | obj => cases hcitations
      · cases h
    · cases h
  | null | bool | int | float | str | arr => cases h

/-- **An answer is grounded** exactly if its arguments keep to the evidence. -/
theorem grounded_iff_supported {toFloat : ToFloat} {arguments : Json} {answer : FinalAnswer}
    (h : FinalAnswer.modelValidate toFloat arguments = some answer) (state : State) :
    Grounded state answer ↔ Supported toFloat state arguments := by
  obtain ⟨hcited, hconfidence⟩ := modelValidate_eq_some h
  simp only [Supported, hcited, hconfidence, List.forall_mem_map, List.map_eq_nil_iff,
    Option.mem_some_iff, forall_eq']
  exact ⟨fun hg => ⟨hg.supplied, hg.refuses⟩, fun hs => ⟨hs.1, hs.2⟩⟩

/-! ## The node -/

/-- **The arguments that are accepted keep to the evidence.** -/
def AcceptsSupported (toFloat : ToFloat) (state : State) :
    Synthesis.Event → Prop
  | .final content _ =>
    (FinalAnswer.modelValidate toFloat (argumentsOf content)).isSome →
      Supported toFloat state (argumentsOf content)
  | .openStream | .delta _ | .deadline | .fail _ => True

instance (toFloat : ToFloat) (state : State) :
    (e : Synthesis.Event) → Decidable (AcceptsSupported toFloat state e)
  | .final _ _ => inferInstanceAs (Decidable (_ → _))
  | .openStream | .delta _ | .deadline | .fail _ => isTrue trivial

/-- Every answer the node has returned is grounded. -/
def AllGrounded (state : State) (s : Visit) : Prop := ∀ answer ∈ s.answers, Grounded state answer

variable {jiter : PartialParser} {toFloat : ToFloat} {state : State}

/-- A node that can still take a step has answered nothing. -/
theorem answers_eq_nil_of_step {s s' : Visit} {e : Synthesis.Event}
    (h : s.step jiter toFloat e = some s') : s.answers = [] := by
  cases hphase : s.phase with
  | ready failed => simp only [Visit.answers, hphase]
  | streaming failed buffer sent => simp only [Visit.answers, hphase]
  | answered _ | timedOut | raised _ =>
    cases e <;> simp only [Visit.step, hphase] at h <;> cases h

/-- **What a final message returns**: the answer its arguments validate to, or nothing. -/
theorem answers_of_final {s s' : Visit} {content : List Block} {usage : Option Usage}
    (h : s.step jiter toFloat (.final content usage) = some s') :
    (∃ answer, FinalAnswer.modelValidate toFloat (argumentsOf content) = some answer
        ∧ s'.answers = [answer])
      ∨ (FinalAnswer.modelValidate toFloat (argumentsOf content) = none ∧ s'.answers = []) := by
  simp only [Visit.step] at h
  split at h
  · split at h
    · next answer hvalid =>
      cases h
      exact .inl ⟨answer, hvalid, rfl⟩
    · next hinvalid =>
      refine .inr ⟨hinvalid, ?_⟩
      split at h <;> cases h <;> rfl
  · cases h

/-- **What a step returns**: the answer its arguments validate to, the sentinel, or nothing. -/
theorem answers_of_step (state : State) {s s' : Visit} {e : Synthesis.Event}
    (h : s.step jiter toFloat e = some s') :
    (∃ content usage answer, e = .final content usage
        ∧ FinalAnswer.modelValidate toFloat (argumentsOf content) = some answer
        ∧ s'.answers = [answer])
      ∨ (AcceptsSupported toFloat state e
        ∧ (s'.answers = [] ∨ s'.answers = [timeoutAnswer])) := by
  cases e with
  | openStream =>
    simp only [Visit.step] at h
    split at h
    · refine .inr ⟨trivial, .inl ?_⟩
      split at h <;> cases h <;> rfl
    · cases h
  | delta partial_json =>
    simp only [Visit.step] at h
    split at h
    · next failed buffer sent hp =>
      refine .inr ⟨trivial, .inl ?_⟩
      cases partial_json with
      | none => cases h; simp only [Visit.answers, hp]
      | some fragment =>
        dsimp only at h
        split_ifs at h <;> cases h <;> simp only [Visit.answers, hp]
    · cases h
  | final content usage =>
    obtain ⟨answer, hvalid, hanswers⟩ | ⟨hinvalid, hanswers⟩ := answers_of_final h
    · exact .inl ⟨content, usage, answer, rfl, hvalid, hanswers⟩
    · refine .inr ⟨fun hsome => ?_, .inl hanswers⟩
      rw [hinvalid] at hsome
      cases hsome
  | deadline =>
    simp only [Visit.step] at h
    split at h <;> cases h <;> exact .inr ⟨trivial, .inr rfl⟩
  | fail e =>
    simp only [Visit.step] at h
    split at h <;> cases h <;> exact .inr ⟨trivial, .inl rfl⟩

theorem allGrounded_step {s s' : Visit} {e : Synthesis.Event}
    (h : s.step jiter toFloat e = some s') :
    AllGrounded state s' ↔ AllGrounded state s ∧ AcceptsSupported toFloat state e := by
  have hs : AllGrounded state s := by
    rw [AllGrounded, answers_eq_nil_of_step h]
    rintro answer ⟨⟩
  rw [and_iff_right hs]
  rcases answers_of_step state h with
    ⟨content, usage, answer, rfl, hvalid, hanswers⟩ | ⟨haccepts, hanswers⟩
  · rw [AllGrounded, hanswers, List.forall_mem_singleton, grounded_iff_supported hvalid]
    simp only [AcceptsSupported, hvalid, Option.isSome_some, forall_const]
  · refine iff_of_true ?_ haccepts
    rcases hanswers with hanswers | hanswers
    · rw [AllGrounded, hanswers]
      rintro answer ⟨⟩
    · rw [AllGrounded, hanswers, List.forall_mem_singleton]
      exact grounded_timeoutAnswer state

/-- **Answers cite only supplied evidence**, exactly if the arguments the schema accepts do. -/
theorem answers_grounded_iff (jiter : PartialParser) (toFloat : ToFloat) (state : State)
    (guard : BudgetGuard) (es : List Synthesis.Event) (s : Visit)
    (h : exec (Visit.step jiter toFloat) (.start guard) es = some s) :
    (∀ answer ∈ s.answers, Grounded state answer)
      ↔ Throughout (Visit.step jiter toFloat) (fun _ => AcceptsSupported toFloat state)
        (.start guard) es := by
  have hstart : AllGrounded state (.start guard) := by rintro answer ⟨⟩
  have hiff := exec_iff_throughout (I := fun _ => True) (Q := AllGrounded state)
    (C := fun _ => AcceptsSupported toFloat state) (fun _ _ => trivial)
    (fun _ hs => allGrounded_step hs) trivial h
  exact hiff.trans (and_iff_right hstart)

/-- A state with one document. -/
def docsState : State :=
  ⟨"can I deduct my home office?", "t-1", "th-1", [[("doc_id", .str "pub-587")]], []⟩

/-- One attempt, whose answer cites this document. -/
def citingRun (doc_id : String) : List Synthesis.Event :=
  [.openStream,
    .final [.toolUse TOOL_NAME (.obj [("text", .str "Yes, if used only for work."),
      ("citations", .arr [.obj [("doc_id", .str doc_id),
        ("quote", .str "exclusive and regular use")]]),
      ("confidence", .int 1)])] none]

/-- A half-dollar ceiling. -/
def docsGuard : BudgetGuard := ⟨50000, 0, by decide⟩

theorem answers_grounded_docsRun :
    ∃ s, exec (Visit.step Visit.repairedParser Visit.intToFloat) (.start docsGuard)
        (citingRun "pub-587") = some s
      ∧ ∀ answer ∈ s.answers, Grounded docsState answer := by
  have hrun : (exec (Visit.step Visit.repairedParser Visit.intToFloat) (.start docsGuard)
      (citingRun "pub-587")).isSome = true := by decide
  obtain ⟨s, hs⟩ := Option.isSome_iff_exists.mp hrun
  exact ⟨s, hs, (answers_grounded_iff Visit.repairedParser Visit.intToFloat docsState docsGuard
    (citingRun "pub-587") s hs).mpr (by decide)⟩

/-- **A fabricated citation is returned**: the schema accepts an id no document in the state has. -/
theorem fabricated_citation_returned :
    ∃ s, exec (Visit.step Visit.repairedParser Visit.intToFloat) (.start docsGuard)
        (citingRun "pub-999") = some s
      ∧ ∃ answer ∈ s.answers, (∃ c ∈ answer.citations, c.doc_id = "pub-999")
        ∧ ¬ Grounded docsState answer := by
  have hrun : (exec (Visit.step Visit.repairedParser Visit.intToFloat) (.start docsGuard)
      (citingRun "pub-999")).map (fun s => s.answers.map fun a => a.citations.map Citation.doc_id)
        = some [["pub-999"]] := by decide
  obtain ⟨s, hs, hanswers⟩ := Option.map_eq_some_iff.mp hrun
  obtain ⟨answer, hanswer, hids⟩ := List.mem_map.mp (hanswers ▸ List.mem_singleton_self _)
  obtain ⟨c, hc, hid⟩ := List.mem_map.mp (hids ▸ List.mem_singleton_self "pub-999")
  refine ⟨s, hs, answer, hanswer, ⟨c, hc, hid⟩, fun hg => ?_⟩
  have hmem : c.doc_id ∈ docIds docsState := hg.supplied c hc
  rw [hid] at hmem
  exact absurd hmem (by decide)

end Agent.Evidence
