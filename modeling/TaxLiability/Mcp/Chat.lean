import TaxLiability.Machinery.JsonText
import TaxLiability.Mcp.Numeric

/-!
# Mcp/Chat — the reply of `llm.chat`, from the proxy's answer

    body ──get──▸ text, model, counts ──▸ reply

A body that is an object always makes a reply, but a text that is no string is printed into it:
what is tolerated is narrower than what is received (`tolerant_iff`).  What the tool publishes is
this reply, given the language's conversions (`parseReply_eq`).
-/

open Mcp.Numeric

namespace Mcp.Chat

/-! ## `_parse_reply` -/

/-- `repr` of a float. -/
def floatRepr (x : Json.Float) : String :=
  if x.text = "NaN".toList then "nan"
  else if x.text = "Infinity".toList then "inf"
  else if x.text = "-Infinity".toList then "-inf"
  else String.ofList x.text

mutual

/-- **`repr`**, from how a text is quoted. -/
def reprOf (quote : String → String) : Json → String
  | .null => "None"
  | .bool b => if b then "True" else "False"
  | .int n => String.ofList (Json.intText n)
  | .float x => floatRepr x
  | .str s => quote s
  | .arr xs => "[" ++ ", ".intercalate (reprList quote xs) ++ "]"
  | .obj fields => "\x7b" ++ ", ".intercalate (reprFields quote fields) ++ "\x7d"

/-- …of the elements of a list. -/
def reprList (quote : String → String) : List Json → List String
  | [] => []
  | x :: xs => reprOf quote x :: reprList quote xs

/-- …of the fields of a dictionary. -/
def reprFields (quote : String → String) : List (String × Json) → List String
  | [] => []
  | (k, v) :: fields => (quote k ++ ": " ++ reprOf quote v) :: reprFields quote fields

end

/-- **`str`**: a text is itself. -/
def str (quote : String → String) : Json → String
  | .str s => s
  | v => reprOf quote v

/-- `ChatReply`. -/
structure ChatReply where
  text : String
  model : String
  input_tokens : ℤ
  output_tokens : ℤ

/-- The message of the first choice, empty where there is none. -/
def firstMessage (body : Json) : Json :=
  let first := match get body "choices" with
    | some (.arr (first :: _)) => first
    | _ => .obj []
  match first with
  | .obj _ => (get first "message").getD (.obj [])
  | _ => .obj []

/-- The usage, empty where it is no object. -/
def usageOf (body : Json) : Json :=
  match get body "usage" with
  | some (.obj usage) => .obj usage
  | _ => .obj []

/-- `resolvedModel`, or else `model`. -/
def modelOf (body : Json) : Option Json :=
  match get body "resolvedModel" with
  | some v => if truthy v then some v else get body "model"
  | none => get body "model"

/-- **`_parse_reply`**, in the shape the path asks for. -/
def parseReply (quote : String → String) (body : Json.Fields) (path : String) :
    Except NumericError ChatReply :=
  let body := Json.obj body
  let strOr (v : Option Json) := (v.map (str quote)).getD ""
  let countOr (v : Option Json) := Numeric.asTokenCount (v.getD (.int 0))
  if isChatShape path then
    (countOr (get (usageOf body) "prompt_tokens")).bind fun input_tokens =>
      (countOr (get (usageOf body) "completion_tokens")).map fun output_tokens =>
        ⟨strOr (get (firstMessage body) "content"), strOr (get body "model"), input_tokens,
          output_tokens⟩
  else
    (countOr (get body "inputTokens")).bind fun input_tokens =>
      (countOr (get body "outputTokens")).map fun output_tokens =>
        ⟨strOr (get body "text"), strOr (modelOf body), input_tokens, output_tokens⟩

/-- **What the upstream sent as its text**, if anything. -/
def upstreamText (body : Json.Fields) (path : String) : Option Json :=
  if isChatShape path then get (firstMessage (.obj body)) "content" else get (.obj body) "text"

/-- **A reply comes back**, and its text is the upstream's where that is a string and empty where
it is not. -/
def RepliesWithText (quote : String → String) (body : Json.Fields) (path : String) : Prop :=
  ∃ r, parseReply quote body path = .ok r
    ∧ r.text = match upstreamText body path with
      | some (.str s) => s
      | _ => ""

/-- The upstream's text is a string, if there is one. -/
def TextOrNothing (body : Json.Fields) (path : String) : Prop :=
  ∀ v, upstreamText body path = some v → ∃ s, v = .str s

/-- **A reply always comes back.** -/
theorem exists_parseReply (quote : String → String) (body : Json.Fields) (path : String) :
    ∃ r, parseReply quote body path = .ok r
      ∧ r.text = ((upstreamText body path).map (str quote)).getD "" := by
  unfold parseReply upstreamText
  dsimp only
  split_ifs
  · obtain ⟨m, hm⟩ :=
      exists_asTokenCount ((get (usageOf (.obj body)) "prompt_tokens").getD (.int 0))
    obtain ⟨n, hn⟩ :=
      exists_asTokenCount ((get (usageOf (.obj body)) "completion_tokens").getD (.int 0))
    rw [hm, hn]
    exact ⟨_, rfl, rfl⟩
  · obtain ⟨m, hm⟩ := exists_asTokenCount ((get (.obj body) "inputTokens").getD (.int 0))
    obtain ⟨n, hn⟩ := exists_asTokenCount ((get (.obj body) "outputTokens").getD (.int 0))
    rw [hm, hn]
    exact ⟨_, rfl, rfl⟩

theorem floatRepr_ne_empty (x : Json.Float) : floatRepr x ≠ "" := by
  unfold floatRepr
  split_ifs
  · decide
  · decide
  · decide
  · intro h
    have hnil : x.text = [] := by simpa using congrArg String.toList h
    have hstarts := x.starts
    rw [hnil] at hstarts
    cases hstarts

/-- **What is no text is never printed as nothing.** -/
theorem str_ne_empty (quote : String → String) {v : Json} (h : ∀ s, v ≠ .str s) :
    str quote v ≠ "" := by
  cases v with
  | null => simp [str, reprOf]
  | bool b => cases b <;> simp [str, reprOf]
  | int n =>
    intro he
    have hnil : Json.intText n = [] := by
      simpa [str, reprOf] using congrArg String.toList he
    have hstarts := Json.intText_starts n
    rw [hnil] at hstarts
    cases hstarts
  | float x => exact floatRepr_ne_empty x
  | str s => exact absurd rfl (h s)
  | arr xs =>
    intro he
    have := congrArg String.toList he
    simp [str, reprOf] at this
  | obj fields =>
    intro he
    have := congrArg String.toList he
    simp [str, reprOf] at this

/-- **The text is the upstream's** exactly if that is a string, or is not there. -/
theorem repliesWithText_iff (quote : String → String) (body : Json.Fields) (path : String) :
    RepliesWithText quote body path ↔ TextOrNothing body path := by
  obtain ⟨r, hr, htext⟩ := exists_parseReply quote body path
  have hiff : RepliesWithText quote body path ↔ r.text = match upstreamText body path with
      | some (.str s) => s
      | _ => "" := by
    constructor
    · rintro ⟨r', hr', ht⟩
      obtain rfl : r = r' := Except.ok.inj (hr.symm.trans hr')
      exact ht
    · exact fun ht => ⟨r, hr, ht⟩
  rw [hiff, htext]
  unfold TextOrNothing
  cases hv : upstreamText body path with
  | none => simp
  | some v =>
    by_cases hs : ∃ s, v = .str s
    · obtain ⟨s, rfl⟩ := hs
      simp [str]
    · have hne := str_ne_empty quote fun s h => hs ⟨s, h⟩
      refine iff_of_false ?_ fun h => hs (h v rfl)
      cases v with
      | str s => exact absurd ⟨s, rfl⟩ hs
      | _ => simpa using hne

/-- **What the tool publishes** is the reply that is parsed here, given the language's conversions
and its `str`. -/
theorem parseReply_eq {B : Builtins} {quote : String → String} (hB : Conversions B)
    (hstr : B.str = str quote) {body : Json.Fields} {path : String} {r : ChatReply}
    (h : parseReply quote body path = .ok r) : Mcp.parseReply B (.obj body) path
      = chatReply r.text r.model r.input_tokens r.output_tokens := by
  have hcount : ∀ v : Option Json, Numeric.asTokenCount (v.getD (.int 0))
      = .ok ((v.map (Mcp.asTokenCount B)).getD 0) := by
    rintro (_ | v)
    · rfl
    · exact asTokenCount_eq hB v
  have husage : ∀ key, get ((get (.obj body) "usage").getD .null) key
      = get (usageOf (.obj body)) key := by
    intro key
    rw [usageOf]
    cases get (.obj body) "usage" with
    | none => rfl
    | some v => cases v <;> rfl
  unfold parseReply at h
  unfold Mcp.parseReply
  simp only [hcount] at h
  simp only [hstr, husage]
  split_ifs at h ⊢
  · obtain rfl := Except.ok.inj h
    rfl
  · obtain rfl := Except.ok.inj h
    rfl

/-! ## Tolerance -/

/-- **Nothing fails and nothing odd comes back**: a finite score, counts and units that are not
negative, and a reply with the upstream's text. -/
structure Tolerant (quote : String → String) (v : Json) (body : Json.Fields) (path : String) :
    Prop where
  score : ∃ q, Numeric.toScore v = .ok (.finite q)
  count : Counts (Numeric.asTokenCount v)
  units : Counts (asMinorUnits v)
  reply : RepliesWithText quote body path

/-- **Tolerant**, exactly on a value whose score, count and cost can be had and a body whose text is
a string or absent. -/
theorem tolerant_iff (quote : String → String) (v : Json) (body : Json.Fields) (path : String) :
    Tolerant quote v body path
      ↔ (Scorable v ∧ Countable v ∧ Billable v) ∧ TextOrNothing body path := by
  rw [← toScore_finite_iff, ← asTokenCount_counts_iff, ← asMinorUnits_counts_iff,
    ← repliesWithText_iff quote]
  exact ⟨fun h => ⟨⟨h.score, h.count, h.units⟩, h.reply⟩,
    fun ⟨⟨hs, hc, hu⟩, hr⟩ => ⟨hs, hc, hu, hr⟩⟩

/-- **An integer no float can hold** ends `to_score` in an `OverflowError`. -/
theorem large_score_not_tolerant :
    ¬ Tolerant id (.int (2 ^ 1024)) [] "/v1/completions" := by
  intro h
  have hlt := (floatOfInt_eq_ok_finite (2 ^ 1024)).mp h.score
  have hpos : (0 : ℚ) < 2 ^ 970 := pow_pos two_pos _
  rw [Int.cast_pow, Int.cast_ofNat, abs_of_pos (pow_pos two_pos _), Float64.limit] at hlt
  exact absurd hlt (sub_le_self _ hpos.le).not_gt

end Mcp.Chat
