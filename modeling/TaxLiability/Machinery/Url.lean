import Mathlib.Data.List.Basic
import Mathlib.Data.String.Defs

/-!
# Machinery/Url — escapes and the segments of a path

    "a b" ──encode──▸ "a%20b" ──unescape──▸ 61 20 62 ──decode──▸ "a b"

`encode` leaves the safe characters as they are.  Where `%` is one of them, a text with an escape of
its own is read as another: an escape has three ASCII characters and stands for one at most
(`count_ascii_le`).
-/

namespace Url

/-- What is checked of each character of a list holds of all of them. -/
theorem forall_of_all {p : Char → Prop} [DecidablePred p] {s : List Char}
    (h : s.all (fun c => decide (p c)) = true) : ∀ c ∈ s, p c :=
  fun c hc => of_decide_eq_true (List.all_eq_true.mp h c hc)

theorem toNat_of_isAlphanum {c : Char} (h : c.isAlphanum) : 0x30 ≤ c.toNat ∧ c.toNat < 0x7b := by
  change ((decide (65 ≤ c.val ∧ c.val ≤ 90) || decide (97 ≤ c.val) && decide (c.val ≤ 122))
    || decide (48 ≤ c.val) && decide (c.val ≤ 57)) = true at h
  simp only [Bool.or_eq_true, Bool.and_eq_true, decide_eq_true_eq, UInt32.le_iff_toNat_le] at h
  change (((65 ≤ c.toNat ∧ c.toNat ≤ 90) ∨ (97 ≤ c.toNat ∧ c.toNat ≤ 122))
    ∨ (48 ≤ c.toNat ∧ c.toNat ≤ 57)) at h
  omega

/-! ## Bytes -/

def isAscii (c : Char) : Bool := c.toNat < 128

/-- The bytes of a text in UTF-8. -/
def utf8 (s : List Char) : List UInt8 := s.flatMap String.utf8EncodeChar

/-- **A UTF-8 decoder**: it reads what is well formed, and puts nothing in ASCII in the place of
what is not. -/
structure Decoder where
  decode : List UInt8 → List Char
  decode_utf8 : ∀ s, decode (utf8 s) = s
  ascii : ∀ bytes, (decode bytes).countP isAscii ≤ bytes.countP (· < 128)

theorem utf8EncodeChar_of_isAscii {c : Char} (h : isAscii c) :
    String.utf8EncodeChar c = [UInt8.ofNat c.toNat] := by
  have hc : c.toNat < 128 := of_decide_eq_true h
  exact if_pos (show c.toNat ≤ 127 by omega)

/-- A character's bytes hold one of ASCII at most, and only if it is. -/
theorem countP_utf8EncodeChar (c : Char) :
    (String.utf8EncodeChar c).countP (· < 128) = if isAscii c then 1 else 0 := by
  have hbyte : ∀ n, n < 256 → (UInt8.ofNat n < 128 ↔ n < 128) := by
    intro n hn
    rw [UInt8.lt_iff_toNat_lt, UInt8.toNat_ofNat', Nat.mod_eq_of_lt hn]
    rfl
  split
  case isTrue h =>
    have hc : c.toNat < 128 := of_decide_eq_true h
    rw [utf8EncodeChar_of_isAscii h, List.countP_singleton,
      if_pos (decide_eq_true ((hbyte _ (by omega)).mpr hc))]
  case isFalse h =>
    have hc : ¬ c.toNat ≤ 127 := fun hc => h (decide_eq_true (by omega))
    have hlead : ∀ n, 128 ≤ n → n < 256 → ¬ decide (UInt8.ofNat n < 128) = true :=
      fun n hle hlt hd => absurd ((hbyte n hlt).mp (of_decide_eq_true hd)) (by omega)
    rw [List.countP_eq_zero]
    intro b hb
    change b ∈ ite (c.toNat ≤ 127) _ _ at hb
    rw [if_neg hc] at hb
    split at hb
    · simp only [List.mem_cons, List.not_mem_nil, or_false] at hb
      rcases hb with rfl | rfl <;> exact hlead _ (by omega) (by omega)
    · split at hb
      · simp only [List.mem_cons, List.not_mem_nil, or_false] at hb
        rcases hb with rfl | rfl | rfl <;> exact hlead _ (by omega) (by omega)
      · simp only [List.mem_cons, List.not_mem_nil, or_false] at hb
        rcases hb with rfl | rfl | rfl | rfl <;> exact hlead _ (by omega) (by omega)

theorem countP_utf8 (s : List Char) : (utf8 s).countP (· < 128) = s.countP isAscii := by
  induction s with
  | nil => rfl
  | cons c s ih =>
    rw [utf8, List.flatMap_cons, List.countP_append, countP_utf8EncodeChar, List.countP_cons,
      Nat.add_comm]
    exact congrArg (· + _) ih

/-- The decoder that has no text at all for what is not well formed. -/
def Decoder.strict : Decoder where
  decode bytes := bytes.toByteArray.utf8Decode?.elim [] Array.toList
  decode_utf8 s := by
    rw [show (utf8 s).toByteArray = s.utf8Encode from rfl, List.utf8Decode?_utf8Encode]
    rfl
  ascii bytes := by
    rcases h : bytes.toByteArray.utf8Decode? with _ | text
    · exact Nat.zero_le _
    · have hutf8 : (utf8 text.toList).toByteArray = bytes.toByteArray := by
        have hget := ByteArray.utf8Encode_get_utf8Decode? (b := bytes.toByteArray)
          (h := by rw [h]; rfl)
        simp only [h, Option.get_some] at hget
        exact hget
      rw [← List.toByteArray_inj.mp hutf8, countP_utf8]
      exact Nat.le_refl _

/-! ## Escapes -/

/-- An uppercase hexadecimal digit. -/
def hexDigit (n : ℕ) : Char := Char.ofNat (if n < 10 then 48 + n else 55 + n)

/-- The value of a hexadecimal digit. -/
def hexValue (c : Char) : Option ℕ :=
  if '0' ≤ c ∧ c ≤ '9' then some (c.toNat - 48)
  else if 'A' ≤ c ∧ c ≤ 'F' then some (c.toNat - 55)
  else if 'a' ≤ c ∧ c ≤ 'f' then some (c.toNat - 87)
  else none

def escape (b : UInt8) : List Char := ['%', hexDigit (b.toNat / 16), hexDigit (b.toNat % 16)]

/-- **`quote`**: the characters that are not safe, as the escapes of their bytes. -/
def encode (safe : Char → Bool) (s : List Char) : List Char :=
  s.flatMap fun c => if safe c then [c] else (String.utf8EncodeChar c).flatMap escape

/-- **The bytes a text stands for**, `none` where a `%` is not followed by two digits. -/
def unescape : List Char → Option (List UInt8)
  | [] => some []
  | c :: s =>
    if c = '%' then
      match s with
      | h :: l :: s =>
        match hexValue h, hexValue l with
        | some h, some l => (unescape s).map (UInt8.ofNat (16 * h + l) :: ·)
        | _, _ => none
      | _ => none
    else (unescape s).map (UInt8.ofNat c.toNat :: ·)

/-- **`uriDecode`**: a text without an escape is itself. -/
def Decoder.uriDecode (D : Decoder) (s : List Char) : Option (List Char) :=
  if '%' ∈ s then (unescape s).map D.decode else some s

theorem hexValue_hexDigit {n : ℕ} (h : n < 16) : hexValue (hexDigit n) = some n := by
  have hall : ∀ n : Fin 16, hexValue (hexDigit n) = some n.1 := by decide
  exact hall ⟨n, h⟩

theorem unescape_cons {c : Char} (h : c ≠ '%') (s : List Char) :
    unescape (c :: s) = (unescape s).map (UInt8.ofNat c.toNat :: ·) := by
  rw [unescape.eq_def]
  exact if_neg h

/-- **An escape is its byte.** -/
theorem unescape_escape (b : UInt8) (s : List Char) :
    unescape (escape b ++ s) = (unescape s).map (b :: ·) := by
  have hb : b.toNat < 256 := b.toNat_lt
  rw [unescape.eq_def]
  simp only [escape, List.cons_append, List.nil_append, if_true,
    hexValue_hexDigit (show b.toNat / 16 < 16 by omega),
    hexValue_hexDigit (show b.toNat % 16 < 16 by omega),
    Nat.div_add_mod, UInt8.ofNat_toNat]

theorem unescape_escapes (bytes : List UInt8) (s : List Char) :
    unescape (bytes.flatMap escape ++ s) = (unescape s).map (bytes ++ ·) := by
  induction bytes with
  | nil => simp
  | cons b bytes ih =>
    rw [List.flatMap_cons, List.append_assoc, unescape_escape, ih, Option.map_map]
    rfl

theorem unescape_percent {s : List Char} {bytes : List UInt8}
    (h : unescape ('%' :: s) = some bytes) : ∃ d₁ d₂ t b rest, s = d₁ :: d₂ :: t ∧ d₁ ≠ '%'
      ∧ d₂ ≠ '%' ∧ unescape t = some rest ∧ bytes = b :: rest := by
  have hpercent : hexValue '%' = none := by decide
  rw [unescape.eq_def] at h
  simp only [if_true] at h
  split at h
  case h_2 => cases h
  case h_1 d₁ d₂ t =>
    split at h
    case h_2 => cases h
    case h_1 v₁ v₂ h₁ h₂ =>
      obtain ⟨rest, hrest, rfl⟩ := Option.map_eq_some_iff.mp h
      refine ⟨d₁, d₂, t, _, rest, rfl, ?_, ?_, hrest, rfl⟩
      · rintro rfl
        cases hpercent.symm.trans h₁
      · rintro rfl
        cases hpercent.symm.trans h₂

/-! ## Round trips -/

section RoundTrip

variable {safe : Char → Bool}

theorem encode_cons_of_safe {c : Char} (h : safe c) (s : List Char) :
    encode safe (c :: s) = c :: encode safe s := by
  rw [encode, List.flatMap_cons, if_pos h]
  rfl

theorem encode_cons_of_not_safe {c : Char} (h : ¬ safe c) (s : List Char) :
    encode safe (c :: s) = (String.utf8EncodeChar c).flatMap escape ++ encode safe s := by
  rw [encode, List.flatMap_cons, if_neg h]
  rfl

theorem encode_append (safe : Char → Bool) (s t : List Char) :
    encode safe (s ++ t) = encode safe s ++ encode safe t := List.flatMap_append

/-- What begins without an escape begins with a safe character. -/
theorem eq_cons_of_encode_eq_cons {s t : List Char} {c : Char} (hc : c ≠ '%')
    (h : encode safe s = c :: t) : ∃ s', s = c :: s' ∧ safe c ∧ t = encode safe s' := by
  cases s with
  | nil => cases h
  | cons d s =>
    by_cases hd : safe d
    · rw [encode_cons_of_safe hd] at h
      cases h
      exact ⟨s, rfl, hd, rfl⟩
    · obtain ⟨b, bytes, hb⟩ := List.exists_cons_of_ne_nil (String.utf8EncodeChar_ne_nil (c := d))
      rw [encode_cons_of_not_safe hd, hb] at h
      cases h
      exact absurd rfl hc

theorem encode_of_safe {s : List Char} (h : ∀ c ∈ s, safe c) : encode safe s = s := by
  induction s with
  | nil => rfl
  | cons c s ih =>
    rw [encode_cons_of_safe (h c List.mem_cons_self),
      ih fun d hd => h d (List.mem_cons_of_mem c hd)]

/-- A text without escapes has only safe characters. -/
theorem encode_eq_self {s : List Char} (h : '%' ∉ encode safe s) : encode safe s = s := by
  induction s with
  | nil => rfl
  | cons c s ih =>
    by_cases hc : safe c
    · rw [encode_cons_of_safe hc] at h ⊢
      rw [ih (List.not_mem_of_not_mem_cons h)]
    · obtain ⟨b, bytes, hb⟩ := List.exists_cons_of_ne_nil (String.utf8EncodeChar_ne_nil (c := c))
      rw [encode_cons_of_not_safe hc, hb] at h
      exact absurd List.mem_cons_self h

theorem unescape_encode (hsafe : ∀ c, safe c → isAscii c) {s : List Char} (hs : '%' ∉ s) :
    unescape (encode safe s) = some (utf8 s) := by
  induction s with
  | nil => rfl
  | cons c s ih =>
    have ih := ih (List.not_mem_of_not_mem_cons hs)
    by_cases hc : safe c
    · have hbyte := utf8EncodeChar_of_isAscii (hsafe c hc)
      rw [encode_cons_of_safe hc, unescape_cons (List.ne_of_not_mem_cons hs).symm, ih,
        Option.map_some, utf8, utf8, List.flatMap_cons, hbyte]
      rfl
    · rw [encode_cons_of_not_safe hc, unescape_escapes, ih]
      rfl

/-- **Round trip**: a text without escapes of its own is read as it was. -/
theorem Decoder.uriDecode_encode (D : Decoder) (hsafe : ∀ c, safe c → isAscii c) {s : List Char}
    (hs : '%' ∉ s) : D.uriDecode (encode safe s) = some s := by
  unfold Decoder.uriDecode
  split
  case isTrue => rw [unescape_encode hsafe hs, Option.map_some, D.decode_utf8]
  case isFalse h => rw [encode_eq_self h]

/-- An escape of the text's own takes three ASCII characters, and gives one at most. -/
theorem count_unescape_le (hsafe : ∀ c, safe c → isAscii c) (hpercent : safe '%') :
    ∀ (s : List Char) {bytes : List UInt8}, unescape (encode safe s) = some bytes →
      bytes.countP (· < 128) + 2 * s.count '%' ≤ s.countP isAscii
  | [], bytes, h => by
    cases h
    exact Nat.le_refl _
  | c :: s, bytes, h => by
    by_cases hc : safe c
    · by_cases hp : c = '%'
      · subst hp
        rw [encode_cons_of_safe hc] at h
        obtain ⟨d₁, d₂, t, b, rest, hs, h₁, h₂, hrest, rfl⟩ := unescape_percent h
        obtain ⟨s, rfl, hd₁, hs⟩ := eq_cons_of_encode_eq_cons h₁ hs
        obtain ⟨s, rfl, hd₂, rfl⟩ := eq_cons_of_encode_eq_cons h₂ hs.symm
        have ih := count_unescape_le hsafe hpercent s hrest
        rw [List.count_cons_self, List.count_cons_of_ne h₁, List.count_cons_of_ne h₂,
          List.countP_cons_of_pos (hsafe _ hc), List.countP_cons_of_pos (hsafe _ hd₁),
          List.countP_cons_of_pos (hsafe _ hd₂), List.countP_cons]
        split <;> omega
      · rw [encode_cons_of_safe hc, unescape_cons hp] at h
        obtain ⟨rest, hrest, rfl⟩ := Option.map_eq_some_iff.mp h
        have ih := count_unescape_le hsafe hpercent s hrest
        rw [List.count_cons_of_ne hp, List.countP_cons_of_pos (hsafe _ hc), List.countP_cons]
        split <;> omega
    · have hp : c ≠ '%' := fun hp => hc (hp ▸ hpercent)
      rw [encode_cons_of_not_safe hc, unescape_escapes] at h
      obtain ⟨rest, hrest, rfl⟩ := Option.map_eq_some_iff.mp h
      have ih := count_unescape_le hsafe hpercent s hrest
      rw [List.count_cons_of_ne hp, List.countP_append, countP_utf8EncodeChar, List.countP_cons]
      omega
  termination_by s => s.length

theorem Decoder.count_ascii_le (D : Decoder) (hsafe : ∀ c, safe c → isAscii c)
    (hpercent : safe '%') {s o : List Char} (h : D.uriDecode (encode safe s) = some o) :
    o.countP isAscii + 2 * s.count '%' ≤ s.countP isAscii := by
  unfold Decoder.uriDecode at h
  split at h
  case isTrue =>
    obtain ⟨bytes, hbytes, rfl⟩ := Option.map_eq_some_iff.mp h
    have := count_unescape_le hsafe hpercent s hbytes
    have := D.ascii bytes
    omega
  case isFalse hs =>
    have hs' := encode_eq_self hs
    rw [hs'] at hs h
    cases h
    rw [List.count_eq_zero.mpr hs]
    exact Nat.le_refl _

/-- **A text that is read from a part of itself** is that part, and has no escape. -/
theorem Decoder.eq_of_sublist (D : Decoder) (hsafe : ∀ c, safe c → isAscii c)
    (hpercent : safe '%') {s o : List Char} (h : D.uriDecode (encode safe s) = some o)
    (hsub : s.Sublist o) : o = s ∧ '%' ∉ s := by
  have hle := D.count_ascii_le hsafe hpercent h
  have hsub' := hsub.countP_le (p := isAscii)
  have hs : '%' ∉ s := List.count_eq_zero.mp (by omega)
  rw [D.uriDecode_encode hsafe hs] at h
  exact ⟨(Option.some.inj h).symm, hs⟩

/-! ## Separators -/

theorem mem_escapes {bytes : List UInt8} {c : Char} (h : c ∈ bytes.flatMap escape) :
    c = '%' ∨ c.isAlphanum := by
  have hdigit : ∀ n : Fin 16, (hexDigit n).isAlphanum := by decide
  obtain ⟨b, -, hc⟩ := List.mem_flatMap.mp h
  have hb : b.toNat < 256 := b.toNat_lt
  simp only [escape, List.mem_cons, List.not_mem_nil, or_false] at hc
  rcases hc with rfl | rfl | rfl
  · exact .inl rfl
  · exact .inr (hdigit ⟨b.toNat / 16, by omega⟩)
  · exact .inr (hdigit ⟨b.toNat % 16, by omega⟩)

theorem mem_encode {s : List Char} {c : Char} (h : c ∈ encode safe s) :
    c ∈ s ∧ safe c ∨ c = '%' ∨ c.isAlphanum := by
  obtain ⟨d, hd, hc⟩ := List.mem_flatMap.mp h
  split at hc
  case isTrue hsafe =>
    obtain rfl := List.mem_singleton.mp hc
    exact .inl ⟨hd, hsafe⟩
  case isFalse => exact .inr (mem_escapes hc)

theorem mem_encode_of_safe {s : List Char} {c : Char} (hc : c ∈ s) (hsafe : safe c) :
    c ∈ encode safe s :=
  List.mem_flatMap.mpr ⟨c, hc, by rw [if_pos hsafe]; exact List.mem_singleton_self c⟩

/-- **A separator**: a safe character no escape has. -/
structure Separates (safe : Char → Bool) (sep : Char) : Prop where
  safe : safe sep
  not_percent : sep ≠ '%'
  not_alphanum : ¬ sep.isAlphanum

theorem Separates.not_mem_encode {sep c : Char} (hsep : Separates safe sep) (hc : c ≠ sep) :
    sep ∉ encode safe [c] := by
  by_cases h : safe c
  · rw [encode_cons_of_safe h]
    exact fun hmem => hc (List.mem_singleton.mp hmem).symm
  · rw [encode_cons_of_not_safe h, show encode safe [] = [] from rfl, List.append_nil]
    exact fun hmem => (mem_escapes hmem).elim hsep.not_percent hsep.not_alphanum

theorem splitOn_append_of_not_mem {sep : Char} {s : List Char} (h : sep ∉ s) (t : List Char) :
    (s ++ t).splitOn sep = (t.splitOn sep).modifyHead (s ++ ·) := by
  induction s with
  | nil =>
    rw [List.nil_append]
    cases t.splitOn sep <;> rfl
  | cons c s ih =>
    have hc : (c == sep) = false := beq_eq_false_iff_ne.mpr (List.ne_of_not_mem_cons h).symm
    rw [List.cons_append, List.splitOn_cons_eq_if_modifyHead, hc, if_neg Bool.false_ne_true,
      ih (List.not_mem_of_not_mem_cons h), List.modifyHead_modifyHead]
    rfl

/-- **Encoding keeps the parts of a text apart.** -/
theorem splitOn_encode {sep : Char} (hsep : Separates safe sep) (s : List Char) :
    (encode safe s).splitOn sep = (s.splitOn sep).map (encode safe) := by
  induction s with
  | nil => rfl
  | cons c s ih =>
    rw [List.splitOn_cons_eq_if_modifyHead]
    split
    case isTrue hc =>
      rw [beq_iff_eq.mp hc, encode_cons_of_safe hsep.safe, List.splitOn_cons_eq_if_modifyHead,
        beq_self_eq_true, if_pos rfl, ih]
      rfl
    case isFalse hc =>
      have hne : c ≠ sep := fun heq => hc (beq_iff_eq.mpr heq)
      rw [← List.singleton_append, encode_append,
        splitOn_append_of_not_mem (hsep.not_mem_encode hne), ih]
      obtain ⟨head, tail, hs⟩ := List.exists_cons_of_ne_nil (List.splitOn_ne_nil sep s)
      rw [hs]
      simp only [List.map_cons, List.modifyHead_cons, ← encode_append, List.singleton_append]

/-- …and their fronts. -/
theorem takeWhile_encode {sep : Char} (hsep : Separates safe sep) (s : List Char) :
    (encode safe s).takeWhile (· ≠ sep) = encode safe (s.takeWhile (· ≠ sep)) := by
  induction s with
  | nil => rfl
  | cons c s ih =>
    by_cases hc : c = sep
    · rw [hc, encode_cons_of_safe hsep.safe, List.takeWhile_cons_of_neg (by simp),
        List.takeWhile_cons_of_neg (by simp)]
      rfl
    · have hall : ∀ d ∈ encode safe [c], decide (d ≠ sep) = true :=
        fun d hd => decide_eq_true fun heq => hsep.not_mem_encode hc (heq ▸ hd)
      rw [← List.singleton_append, encode_append, List.takeWhile_append_of_pos hall, ih,
        List.takeWhile_append_of_pos (by simp [hc]), encode_append]

end RoundTrip

/-- The parts of a text have no separator, and are in it. -/
theorem of_mem_splitOn {sep : Char} {s t : List Char} (h : t ∈ s.splitOn sep) :
    sep ∉ t ∧ t.Sublist s := by
  induction s generalizing t with
  | nil =>
    rw [List.splitOn_nil, List.mem_singleton] at h
    subst h
    exact ⟨List.not_mem_nil, List.Sublist.refl []⟩
  | cons c s ih =>
    obtain ⟨head, tail, hs⟩ := List.exists_cons_of_ne_nil (List.splitOn_ne_nil sep s)
    rw [hs] at ih
    rw [List.splitOn_cons_eq_if_modifyHead, hs] at h
    split at h
    case isTrue hc =>
      rcases List.mem_cons.mp h with rfl | h
      · exact ⟨List.not_mem_nil, List.nil_sublist _⟩
      · exact ⟨(ih h).1, (ih h).2.cons c⟩
    case isFalse hc =>
      rcases List.mem_cons.mp h with rfl | h
      · obtain ⟨hmem, hsub⟩ := ih List.mem_cons_self
        refine ⟨fun h => ?_, hsub.cons_cons c⟩
        rcases List.mem_cons.mp h with rfl | h
        · exact hc (beq_self_eq_true _)
        · exact hmem h
      · obtain ⟨hmem, hsub⟩ := ih (List.mem_cons_of_mem _ h)
        exact ⟨hmem, hsub.cons c⟩

/-! ## Dot segments -/

/-- The segments a path is relative by. -/
def IsDot (s : List Char) : Prop := s = ".".toList ∨ s = "..".toList

instance (s : List Char) : Decidable (IsDot s) := inferInstanceAs (Decidable (_ ∨ _))

/-- One component more. -/
def push (output : List (List Char)) (component : List Char) : List (List Char) :=
  if component = ".".toList then output
  else if component = "..".toList then
    if output ≠ [] ∧ output ≠ [[]] then output.dropLast else output
  else output ++ [component]

/-- The components of a path without its dot segments. -/
def removeDots (components : List (List Char)) : List (List Char) := components.foldl push []

/-- **`normalize_path`.** -/
def normalizePath (path : List Char) : List Char :=
  ['/'].intercalate (removeDots (path.splitOn '/'))

theorem of_mem_foldl_push {components output : List (List Char)} {s : List Char}
    (h : s ∈ components.foldl push output) : s ∈ output ∨ s ∈ components ∧ ¬ IsDot s := by
  induction components generalizing output with
  | nil => exact .inl h
  | cons c components ih =>
    rcases ih h with h | ⟨hmem, hdot⟩
    · unfold push at h
      split at h
      case isTrue => exact .inl h
      case isFalse h₁ =>
        split at h
        case isTrue =>
          split at h
          · exact .inl (List.dropLast_subset _ h)
          · exact .inl h
        case isFalse h₂ =>
          rcases List.mem_append.mp h with h | h
          · exact .inl h
          · obtain rfl := List.mem_singleton.mp h
            exact .inr ⟨List.mem_cons_self, fun hdot => hdot.elim h₁ h₂⟩
    · exact .inr ⟨List.mem_cons_of_mem c hmem, hdot⟩

/-- **What is left of a path** was there, and is no dot segment. -/
theorem of_mem_removeDots {components : List (List Char)} {s : List Char}
    (h : s ∈ removeDots components) : s ∈ components ∧ ¬ IsDot s :=
  (of_mem_foldl_push h).resolve_left List.not_mem_nil

theorem foldl_push_of_not_isDot {components : List (List Char)} (output : List (List Char))
    (h : ∀ s ∈ components, ¬ IsDot s) : components.foldl push output = output ++ components := by
  induction components generalizing output with
  | nil => exact (List.append_nil output).symm
  | cons c components ih =>
    have hc := h c List.mem_cons_self
    rw [List.foldl_cons, push, if_neg fun h₁ => hc (.inl h₁), if_neg fun h₂ => hc (.inr h₂),
      ih _ fun s hs => h s (List.mem_cons_of_mem c hs), List.append_assoc, List.singleton_append]

theorem removeDots_of_not_isDot {components : List (List Char)}
    (h : ∀ s ∈ components, ¬ IsDot s) : removeDots components = components :=
  foldl_push_of_not_isDot [] h

/-- **A path without dot segments** is normal. -/
theorem normalizePath_of_not_isDot {path : List Char} (h : ∀ s ∈ path.splitOn '/', ¬ IsDot s) :
    normalizePath path = path := by
  rw [normalizePath, removeDots_of_not_isDot h, List.intercalate_splitOn]

end Url
