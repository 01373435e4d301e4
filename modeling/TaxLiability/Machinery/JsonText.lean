import TaxLiability.Machinery.Json

/-!
# Machinery/JsonText — the text of a JSON value determines it

`render` is the ASCII text of a value: `", "` between elements, `": "` after a key, and every
character outside printable ASCII escaped.  A text is read from the left: its first character tells
the kind of value, and each kind ends at a character it cannot contain, so nothing that follows a
value can be taken for a part of it (`render_cancel`).  `dumps` sorts keys first, and two values
have one text exactly when they are the `Same`.

A bar in a text lies inside a string, so what follows it is no text of a value: the bar between what
comes before and a value is told from those on either side of it (`append_bar_render_inj`).
-/

namespace Json

/-! ## Strings -/

/-- Four hexadecimal digits. -/
def hex4 (n : ℕ) : List Char :=
  [Nat.digitChar (n / 4096 % 16), Nat.digitChar (n / 256 % 16), Nat.digitChar (n / 16 % 16),
    Nat.digitChar (n % 16)]

/-- **A character inside a quoted string.**  A character beyond the basic plane is written as its
two surrogates. -/
def escapeChar (c : Char) : List Char :=
  if c = '"' then ['\\', '"']
  else if c = '\\' then ['\\', '\\']
  else if c = '\n' then ['\\', 'n']
  else if c = '\r' then ['\\', 'r']
  else if c = '\t' then ['\\', 't']
  else if c = '\x0c' then ['\\', 'f']
  else if c = '\x08' then ['\\', 'b']
  else if ' ' ≤ c ∧ c ≤ '~' then [c]
  else if c.toNat < 0x10000 then '\\' :: 'u' :: hex4 c.toNat
  else '\\' :: 'u' :: hex4 (0xd800 + (c.toNat - 0x10000) / 1024)
    ++ '\\' :: 'u' :: hex4 (0xdc00 + (c.toNat - 0x10000) % 1024)

/-- **What a character can be written as**: a short escape, itself, or one or two escapes with four
digits. -/
theorem escapeChar_induction {P : List Char → Prop} (c : Char)
    (hshort : ∀ d ∈ ['"', '\\', 'n', 'r', 't', 'f', 'b'], P ['\\', d])
    (hself : c ≠ '"' → c ≠ '\\' → ' ' ≤ c ∧ c ≤ '~' → P [c])
    (hunicode : ∀ n, P ('\\' :: 'u' :: hex4 n))
    (hpair : ∀ n m, P ('\\' :: 'u' :: hex4 n ++ '\\' :: 'u' :: hex4 m)) : P (escapeChar c) := by
  rw [escapeChar]
  refine iteInduction (motive := P) (fun _ => hshort _ (by simp)) fun hquote => ?_
  refine iteInduction (motive := P) (fun _ => hshort _ (by simp)) fun hslash => ?_
  iterate 5 refine iteInduction (motive := P) (fun _ => hshort _ (by simp)) fun _ => ?_
  refine iteInduction (motive := P) (hself hquote hslash) fun _ => ?_
  exact iteInduction (motive := P) (fun _ => hunicode _) fun _ => hpair _ _

/-- A quoted string. -/
def quote (s : List Char) : List Char := '"' :: (s.flatMap escapeChar ++ ['"'])

/-- The value of a hexadecimal digit. -/
def hexVal (c : Char) : ℕ := if c.isDigit then c.toNat - 48 else c.toNat - 87

def hexVal4 (a b c d : Char) : ℕ := ((hexVal a * 16 + hexVal b) * 16 + hexVal c) * 16 + hexVal d

/-- Read one character of a quoted string back; `none` at its end. -/
def readChar : List Char → Option (Char × List Char)
  | '\\' :: 'u' :: a :: b :: c :: d :: r =>
    let n := hexVal4 a b c d
    if 0xd800 ≤ n ∧ n < 0xdc00 then
      match r with
      | '\\' :: 'u' :: a' :: b' :: c' :: d' :: r' =>
        some (Char.ofNat (0x10000 + (n - 0xd800) * 1024 + (hexVal4 a' b' c' d' - 0xdc00)), r')
      | _ => none
    else some (Char.ofNat n, r)
  | '\\' :: 'n' :: r => some ('\n', r)
  | '\\' :: 'r' :: r => some ('\r', r)
  | '\\' :: 't' :: r => some ('\t', r)
  | '\\' :: 'f' :: r => some ('\x0c', r)
  | '\\' :: 'b' :: r => some ('\x08', r)
  | '\\' :: c :: r => some (c, r)
  | '"' :: _ => none
  | c :: r => some (c, r)
  | [] => none

theorem hexVal_digitChar : ∀ d < 16, hexVal (Nat.digitChar d) = d := by decide

theorem hexVal4_hex4 {n : ℕ} (h : n < 65536) :
    hexVal4 (Nat.digitChar (n / 4096 % 16)) (Nat.digitChar (n / 256 % 16))
      (Nat.digitChar (n / 16 % 16)) (Nat.digitChar (n % 16)) = n := by
  have hd : ∀ m, hexVal (Nat.digitChar (m % 16)) = m % 16 := fun m =>
    hexVal_digitChar _ (Nat.mod_lt _ (by decide))
  rw [hexVal4, hd, hd, hd, hd]
  omega

/-- A character is no surrogate. -/
theorem toNat_not_surrogate (c : Char) : ¬ (0xd800 ≤ c.toNat ∧ c.toNat < 0xdc00) := by
  rcases c.valid with h | ⟨h, -⟩
  · exact fun ⟨h', _⟩ => absurd h (not_lt.mpr h')
  · exact fun ⟨_, h'⟩ => absurd (lt_trans h h') (by decide)

theorem readChar_of_ne {c : Char} (hquote : c ≠ '"') (hslash : c ≠ '\\') (r : List Char) :
    readChar (c :: r) = some (c, r) := by
  rw [readChar.eq_def]
  split
  case h_9 heq =>
    obtain ⟨rfl, rfl⟩ := List.cons.inj heq
    rfl
  case h_8 heq => exact absurd (List.cons.inj heq).1 hquote
  case h_10 heq => cases heq
  all_goals
    rename_i heq
    exact absurd (List.cons.inj heq).1 hslash

/-- An escape with four digits. -/
theorem readChar_unicode {n : ℕ} {a b c d : Char} (hn : hexVal4 a b c d = n)
    (h : ¬ (0xd800 ≤ n ∧ n < 0xdc00)) (r : List Char) :
    readChar ('\\' :: 'u' :: a :: b :: c :: d :: r) = some (Char.ofNat n, r) := by
  subst hn
  exact if_neg h

/-- …and a pair of them, for a character beyond the basic plane. -/
theorem readChar_pair {n m : ℕ} {a b c d a' b' c' d' : Char} (hn : hexVal4 a b c d = n)
    (hm : hexVal4 a' b' c' d' = m) (h : 0xd800 ≤ n ∧ n < 0xdc00) (r : List Char) :
    readChar ('\\' :: 'u' :: a :: b :: c :: d :: '\\' :: 'u' :: a' :: b' :: c' :: d' :: r)
      = some (Char.ofNat (0x10000 + (n - 0xd800) * 1024 + (m - 0xdc00)), r) := by
  subst hn hm
  exact if_pos h

/-- **An escaped character reads back.** -/
theorem readChar_escapeChar (c : Char) (r : List Char) :
    readChar (escapeChar c ++ r) = some (c, r) := by
  by_cases h₁ : c = '"'
  · subst h₁; rfl
  by_cases h₂ : c = '\\'
  · subst h₂; rfl
  by_cases h₃ : c = '\n'
  · subst h₃; rfl
  by_cases h₄ : c = '\r'
  · subst h₄; rfl
  by_cases h₅ : c = '\t'
  · subst h₅; rfl
  by_cases h₆ : c = '\x0c'
  · subst h₆; rfl
  by_cases h₇ : c = '\x08'
  · subst h₇; rfl
  rw [escapeChar, if_neg h₁, if_neg h₂, if_neg h₃, if_neg h₄, if_neg h₅, if_neg h₆, if_neg h₇]
  by_cases h₈ : ' ' ≤ c ∧ c ≤ '~'
  · rw [if_pos h₈]
    exact readChar_of_ne h₁ h₂ r
  rw [if_neg h₈]
  by_cases h₉ : c.toNat < 0x10000
  · rw [if_pos h₉]
    exact (readChar_unicode (hexVal4_hex4 h₉) (toNat_not_surrogate c) r).trans
      (by rw [Char.ofNat_toNat])
  · have hlt : c.toNat < 0x110000 := by
      rcases c.valid with h | ⟨-, h⟩
      · exact lt_trans h (by decide)
      · exact h
    have hsum : 0x10000 + (0xd800 + (c.toNat - 0x10000) / 1024 - 0xd800) * 1024
        + (0xdc00 + (c.toNat - 0x10000) % 1024 - 0xdc00) = c.toNat := by omega
    rw [if_neg h₉]
    refine (readChar_pair (hexVal4_hex4 ?_) (hexVal4_hex4 ?_) ?_ r).trans (by
      rw [hsum, Char.ofNat_toNat])
    · omega
    · omega
    · omega

/-- …and so what a quoted string says, and where it ends. -/
theorem escape_cancel {s t : List Char} {r r' : List Char}
    (h : s.flatMap escapeChar ++ '"' :: r = t.flatMap escapeChar ++ '"' :: r') :
    s = t ∧ r = r' := by
  induction s generalizing t with
  | nil =>
    cases t with
    | nil => simpa using h
    | cons d t =>
      have hr := readChar_escapeChar d (t.flatMap escapeChar ++ '"' :: r')
      rw [← List.append_assoc, ← List.flatMap_cons, ← h] at hr
      cases hr
  | cons c s ih =>
    have hc := readChar_escapeChar c (s.flatMap escapeChar ++ '"' :: r)
    rw [← List.append_assoc, ← List.flatMap_cons, h] at hc
    cases t with
    | nil => cases hc
    | cons d t =>
      rw [List.flatMap_cons, List.append_assoc, readChar_escapeChar] at hc
      simp only [Option.some.injEq, Prod.mk.injEq] at hc
      obtain ⟨rfl, hrest⟩ := hc
      obtain ⟨rfl, hr⟩ := ih hrest.symm
      exact ⟨rfl, hr⟩

/-- Read a quoted string back from inside it: what it says, and what follows it. -/
def readChars : ℕ → List Char → Option (List Char × List Char)
  | 0, _ => none
  | fuel + 1, s =>
    if s.head? = some '"' then some ([], s.tail)
    else (readChar s).bind fun c => (readChars fuel c.2).map fun t => (c.1 :: t.1, t.2)

def readString (s : List Char) : Option (List Char × List Char) := readChars s.length s

theorem readChars_escape {s r : List Char} {fuel : ℕ} (h : s.length < fuel) :
    readChars fuel (s.flatMap escapeChar ++ '"' :: r) = some (s, r) := by
  induction s generalizing fuel with
  | nil =>
    cases fuel with
    | zero => cases h
    | succ fuel => rfl
  | cons c s ih =>
    cases fuel with
    | zero => cases h
    | succ fuel =>
      have hread := readChar_escapeChar c (s.flatMap escapeChar ++ '"' :: r)
      rw [← List.append_assoc, ← List.flatMap_cons] at hread
      have hhead : ((c :: s).flatMap escapeChar ++ '"' :: r).head? ≠ some '"' := by
        intro hhead
        obtain ⟨r', heq⟩ := List.head?_eq_some_iff.mp hhead
        rw [heq] at hread
        cases hread
      rw [readChars, if_neg hhead, hread, Option.bind_some, ih (Nat.lt_of_succ_lt_succ h),
        Option.map_some]

theorem length_le_escape (s : List Char) : s.length ≤ (s.flatMap escapeChar).length := by
  induction s with
  | nil => exact Nat.le_refl _
  | cons c s ih =>
    have hpos : 0 < (escapeChar c).length := by
      refine List.length_pos_of_ne_nil fun hnil => ?_
      have hread := readChar_escapeChar c []
      rw [hnil] at hread
      cases hread
    rw [List.flatMap_cons, List.length_append, List.length_cons]
    omega

/-- **A quoted string reads back.** -/
theorem readString_escape (s r : List Char) :
    readString (s.flatMap escapeChar ++ '"' :: r) = some (s, r) := by
  refine readChars_escape ?_
  have hlength := length_le_escape s
  rw [List.length_append, List.length_cons]
  omega

/-! ## Numbers -/

/-- The decimal text of an integer. -/
def intText : ℤ → List Char
  | .ofNat n => Nat.toDigits 10 n
  | .negSucc n => '-' :: Nat.toDigits 10 (n + 1)

/-- A character a number starts with. -/
def isNumberStart (c : Char) : Bool := c.isDigit || c ∈ ['-', 'N', 'I']

theorem isNumberChar_of_mem_toDigits {n : ℕ} {c : Char} (h : c ∈ Nat.toDigits 10 n) :
    c.isDigit := Nat.isDigit_of_mem_toDigits (by decide) (by decide) h

theorem intText_number (n : ℤ) : (intText n).all isNumberChar := by
  rw [List.all_eq_true]
  intro c hc
  cases n with
  | ofNat n => simp [isNumberChar, isNumberChar_of_mem_toDigits hc]
  | negSucc n =>
    rcases List.mem_cons.mp hc with rfl | hc
    · rfl
    · simp [isNumberChar, isNumberChar_of_mem_toDigits hc]

theorem intText_starts (n : ℤ) : (intText n).head?.any isNumberStart := by
  cases n with
  | ofNat n =>
    rcases hd : Nat.toDigits 10 n with _ | ⟨c, cs⟩
    · exact absurd hd Nat.toDigits_ne_nil
    · have hc : c.isDigit := isNumberChar_of_mem_toDigits (n := n) (by simp [hd])
      simp [intText, hd, isNumberStart, hc]
  | negSucc n => rfl

/-- An integer's text has none of a float's marks. -/
theorem intText_not_marked (n : ℤ) : ¬ (intText n).any fun c => c ∈ ['.', 'e', 'N', 'I'] := by
  have hdigit : ∀ (m : ℕ) (c : Char), c ∈ Nat.toDigits 10 m → c ∉ ['.', 'e', 'N', 'I'] := by
    intro m c hc hm
    have hd := isNumberChar_of_mem_toDigits hc
    simp only [List.mem_cons, List.not_mem_nil, or_false] at hm
    rcases hm with rfl | rfl | rfl | rfl <;> simp at hd
  rw [List.any_eq_true]
  rintro ⟨c, hc, hm⟩
  rw [decide_eq_true_eq] at hm
  cases n with
  | ofNat n => exact hdigit n c hc hm
  | negSucc n =>
    rcases List.mem_cons.mp hc with rfl | hc
    · simp at hm
    · exact hdigit _ c hc hm

theorem toDigits_injective {m n : ℕ} (h : Nat.toDigits 10 m = Nat.toDigits 10 n) : m = n := by
  rw [← Nat.ofDigitChars_ten_toDigits (n := m), h, Nat.ofDigitChars_ten_toDigits]

theorem intText_injective {m n : ℤ} (h : intText m = intText n) : m = n := by
  have hminus : ∀ k l, Nat.toDigits 10 k ≠ '-' :: Nat.toDigits 10 l := fun k l h => by
    have hd : Char.isDigit '-' := isNumberChar_of_mem_toDigits (n := k) (by rw [h]; simp)
    exact absurd hd (by decide)
  cases m with
  | ofNat m =>
    cases n with
    | ofNat n => exact congrArg Int.ofNat (toDigits_injective h)
    | negSucc n => exact absurd h (hminus _ _)
  | negSucc m =>
    cases n with
    | ofNat n => exact absurd h.symm (hminus _ _)
    | negSucc n =>
      have := toDigits_injective (List.cons.inj h).2
      rw [Nat.succ.inj this]

/-- What may follow a number: nothing that could continue it. -/
def Stops (r : List Char) : Prop := ∀ c ∈ r.head?, isNumberChar c = false

theorem stops_nil : Stops [] := nofun

theorem stops_cons {c : Char} (h : isNumberChar c = false) (r : List Char) : Stops (c :: r) := by
  intro d hd
  obtain rfl : c = d := by simpa using hd
  exact h

/-- A number ends where its characters do. -/
theorem number_cancel {t u r s : List Char} (ht : t.all isNumberChar) (hu : u.all isNumberChar)
    (hr : Stops r) (hs : Stops s) (h : t ++ r = u ++ s) : t = u ∧ r = s := by
  have htake : ∀ {t r : List Char}, t.all isNumberChar → Stops r →
      (t ++ r).takeWhile isNumberChar = t := by
    intro t r ht hr
    rw [List.takeWhile_append_of_pos (List.all_eq_true.mp ht)]
    cases r with
    | nil => simp
    | cons c r => simp [hr c (by simp)]
  have htu : t = u := by rw [← htake ht hr, h, htake hu hs]
  subst htu
  exact ⟨rfl, List.append_cancel_left h⟩

/-! ## Values -/

mutual

/-- **The text of a value**, fields in the order they stand. -/
def render : Json → List Char
  | .null => ['n', 'u', 'l', 'l']
  | .bool true => ['t', 'r', 'u', 'e']
  | .bool false => ['f', 'a', 'l', 's', 'e']
  | .int n => intText n
  | .float x => x.text
  | .str s => quote s.toList
  | .arr [] => ['[', ']']
  | .arr (x :: xs) => '[' :: (render x ++ renderElems xs)
  | .obj [] => ['{', '}']
  | .obj ((k, v) :: fields) =>
    '{' :: (quote k.toList ++ ':' :: ' ' :: (render v ++ renderFields fields))

/-- What follows an element of an array, its closing bracket included. -/
def renderElems : List Json → List Char
  | [] => [']']
  | x :: xs => ',' :: ' ' :: (render x ++ renderElems xs)

/-- What follows a field of an object, its closing brace included. -/
def renderFields : Fields → List Char
  | [] => ['}']
  | (k, v) :: fields =>
    ',' :: ' ' :: (quote k.toList ++ ':' :: ' ' :: (render v ++ renderFields fields))

end

/-- What the first character of a text tells. -/
inductive Kind
  | null
  | bool
  | number
  | str
  | arr
  | obj
  deriving DecidableEq

def kind : Json → Kind
  | .null => .null
  | .bool _ => .bool
  | .int _ | .float _ => .number
  | .str _ => .str
  | .arr _ => .arr
  | .obj _ => .obj

def kindOf : Char → Option Kind
  | 'n' => some .null
  | 't' | 'f' => some .bool
  | '"' => some .str
  | '[' => some .arr
  | '{' => some .obj
  | c => if isNumberStart c then some .number else none

theorem kindOf_of_isNumberStart {c : Char} (h : isNumberStart c) : kindOf c = some .number := by
  unfold kindOf
  split <;> first | exact absurd h (by decide) | simp [h]

/-- The text of a value starts with a character of its kind. -/
theorem head_render (v : Json) : ∃ c cs, render v = c :: cs ∧ kindOf c = some v.kind := by
  cases v with
  | null => exact ⟨_, _, rfl, rfl⟩
  | bool b => cases b <;> exact ⟨_, _, rfl, rfl⟩
  | int n =>
    have h := intText_starts n
    rcases ht : intText n with _ | ⟨c, cs⟩
    · rw [ht] at h
      cases h
    · rw [ht] at h
      exact ⟨c, cs, by rw [render, ht], kindOf_of_isNumberStart h⟩
  | float x =>
    have h := x.starts
    rcases ht : x.text with _ | ⟨c, cs⟩
    · rw [ht] at h
      cases h
    · rw [ht] at h
      exact ⟨c, cs, by rw [render, ht], kindOf_of_isNumberStart h⟩
  | str s => exact ⟨_, _, rfl, rfl⟩
  | arr xs => cases xs <;> exact ⟨_, _, rfl, rfl⟩
  | obj fields =>
    rcases fields with _ | ⟨⟨k, v⟩, fields⟩
    · exact ⟨_, _, rfl, rfl⟩
    · exact ⟨_, _, rfl, rfl⟩

theorem kind_eq_of_render {v w : Json} {r s : List Char} (h : render v ++ r = render w ++ s) :
    v.kind = w.kind := by
  obtain ⟨c, cs, hv, hc⟩ := head_render v
  obtain ⟨d, ds, hw, hd⟩ := head_render w
  rw [hv, hw, List.cons_append, List.cons_append] at h
  rw [(List.cons.inj h).1, hd] at hc
  exact (Option.some.inj hc).symm

/-- No value's text starts with a closing bracket. -/
theorem render_ne_bracket (v : Json) (r s : List Char) : ']' :: r ≠ render v ++ s := by
  obtain ⟨c, cs, hv, hc⟩ := head_render v
  rw [hv, List.cons_append]
  intro h
  rw [← (List.cons.inj h).1] at hc
  cases hc

theorem quote_cancel {s t : String} {r r' : List Char}
    (h : quote s.toList ++ r = quote t.toList ++ r') : s = t ∧ r = r' := by
  simp only [quote, List.cons_append, List.append_assoc, List.nil_append, List.cons.injEq,
    true_and] at h
  obtain ⟨hst, hr⟩ := escape_cancel h
  exact ⟨String.toList_injective hst, hr⟩

theorem stops_elems (xs : List Json) (r : List Char) : Stops (renderElems xs ++ r) := by
  cases xs <;> exact stops_cons rfl _

theorem stops_fields (fields : Fields) (r : List Char) : Stops (renderFields fields ++ r) := by
  rcases fields with _ | ⟨⟨k, v⟩, fields⟩ <;> exact stops_cons rfl _

mutual

/-- **A value's text ends where the value does**: whatever follows two equal texts, the values are
equal and what follows is. -/
theorem render_cancel (v w : Json) {r s : List Char} (hr : Stops r) (hs : Stops s)
    (h : render v ++ r = render w ++ s) : v = w ∧ r = s := by
  have hk := kind_eq_of_render h
  cases v with
  | null =>
    cases w <;> cases hk
    exact ⟨rfl, by simpa [render] using h⟩
  | bool b =>
    cases w <;> cases hk
    rename_i b'
    cases b <;> cases b' <;> simp_all [render]
  | int n =>
    cases w <;> cases hk
    · obtain ⟨ht, hrs⟩ := number_cancel (intText_number n) (intText_number _) hr hs h
      exact ⟨congrArg int (intText_injective ht), hrs⟩
    · rename_i x
      obtain ⟨ht, -⟩ := number_cancel (intText_number n) x.number hr hs h
      exact absurd (ht ▸ x.marked) (intText_not_marked n)
  | float x =>
    cases w <;> cases hk
    · rename_i n
      obtain ⟨ht, -⟩ := number_cancel x.number (intText_number n) hr hs h
      exact absurd (ht ▸ x.marked) (intText_not_marked n)
    · rename_i y
      obtain ⟨ht, hrs⟩ := number_cancel x.number y.number hr hs h
      cases x
      cases y
      exact ⟨by simpa using ht, hrs⟩
  | str t =>
    cases w <;> cases hk
    obtain ⟨rfl, hrs⟩ := quote_cancel h
    exact ⟨rfl, hrs⟩
  | arr xs =>
    cases w <;> cases hk
    rename_i ys
    match xs, ys with
    | [], [] => exact ⟨rfl, by simpa [render] using h⟩
    | [], y :: ys => exact absurd (by simpa [render] using h) (render_ne_bracket y _ _)
    | x :: xs, [] => exact absurd (by simpa [render] using h.symm) (render_ne_bracket x _ _)
    | x :: xs, y :: ys =>
      simp only [render, List.cons_append, List.append_assoc, List.cons.injEq, true_and] at h
      obtain ⟨rfl, h'⟩ := render_cancel x y (stops_elems xs r) (stops_elems ys s) h
      obtain ⟨rfl, hrs⟩ := renderElems_cancel xs ys h'
      exact ⟨rfl, hrs⟩
  | obj fields =>
    cases w <;> cases hk
    rename_i fields'
    match fields, fields' with
    | [], [] => exact ⟨rfl, by simpa [render] using h⟩
    | [], (k, v) :: fs => simp [render, quote] at h
    | (k, v) :: fs, [] => simp [render, quote] at h
    | (k, v) :: fs, (k', v') :: fs' =>
      simp only [render, List.cons_append, List.append_assoc, List.cons.injEq, true_and] at h
      obtain ⟨rfl, hv⟩ := quote_cancel h
      simp only [List.cons.injEq, true_and] at hv
      obtain ⟨rfl, h'⟩ := render_cancel v v' (stops_fields fs r) (stops_fields fs' s) hv
      obtain ⟨rfl, hrs⟩ := renderFields_cancel fs fs' h'
      exact ⟨rfl, hrs⟩

theorem renderElems_cancel (xs ys : List Json) {r s : List Char}
    (h : renderElems xs ++ r = renderElems ys ++ s) : xs = ys ∧ r = s := by
  match xs, ys with
  | [], [] => exact ⟨rfl, by simpa [renderElems] using h⟩
  | [], y :: ys => simp [renderElems] at h
  | x :: xs, [] => simp [renderElems] at h
  | x :: xs, y :: ys =>
    simp only [renderElems, List.cons_append, List.append_assoc, List.cons.injEq, true_and] at h
    obtain ⟨rfl, h'⟩ := render_cancel x y (stops_elems xs r) (stops_elems ys s) h
    obtain ⟨rfl, hrs⟩ := renderElems_cancel xs ys h'
    exact ⟨rfl, hrs⟩

theorem renderFields_cancel (fs fs' : Fields) {r s : List Char}
    (h : renderFields fs ++ r = renderFields fs' ++ s) : fs = fs' ∧ r = s := by
  match fs, fs' with
  | [], [] => exact ⟨rfl, by simpa [renderFields] using h⟩
  | [], (k, v) :: fs => simp [renderFields] at h
  | (k, v) :: fs, [] => simp [renderFields] at h
  | (k, v) :: fs, (k', v') :: fs' =>
    simp only [renderFields, List.cons_append, List.append_assoc, List.cons.injEq, true_and] at h
    obtain ⟨rfl, hv⟩ := quote_cancel h
    simp only [List.cons.injEq, true_and] at hv
    obtain ⟨rfl, h'⟩ := render_cancel v v' (stops_fields fs r) (stops_fields fs' s) hv
    obtain ⟨rfl, hrs⟩ := renderFields_cancel fs fs' h'
    exact ⟨rfl, hrs⟩

end

/-- **The text determines the value.** -/
theorem render_injective {v w : Json} (h : render v = render w) : v = w :=
  (render_cancel v w stops_nil stops_nil (by rw [h])).1

/-- **The text with sorted keys.** -/
def dumps (v : Json) : List Char := render v.canon

/-- **Two values have one sorted text exactly when they are the same.** -/
theorem dumps_eq_iff {v w : Json} : dumps v = dumps w ↔ v.Same w :=
  ⟨fun h => render_injective h, fun h => congrArg render h⟩

/-! ## Printable ASCII -/

/-- A character of printable ASCII. -/
def Printable (c : Char) : Prop := 32 ≤ c.toNat ∧ c.toNat ≤ 126

instance : DecidablePred Printable := fun c =>
  inferInstanceAs (Decidable (32 ≤ c.toNat ∧ c.toNat ≤ 126))

/-- What is checked of each character of a text holds of all of them. -/
theorem printable_of_all {s : List Char} (h : (s.all fun c => decide (Printable c)) = true) :
    ∀ c ∈ s, Printable c := fun c hc => of_decide_eq_true (List.all_eq_true.mp h c hc)

theorem printable_of_isNumberChar {c : Char} (h : isNumberChar c) : Printable c := by
  rw [isNumberChar, Bool.or_eq_true] at h
  rcases h with h | h
  · obtain ⟨hlow, hhigh⟩ := Char.isDigit_iff_toNat.mp h
    exact ⟨Nat.le_trans (by decide) hlow, Nat.le_trans hhigh (by decide)⟩
  · exact printable_of_all rfl c (of_decide_eq_true h)

theorem printable_hex4 (n : ℕ) : ∀ c ∈ hex4 n, Printable c := by
  have hdigit : ∀ m, Printable (Nat.digitChar (m % 16)) := fun m =>
    (by decide : ∀ d < 16, Printable (Nat.digitChar d)) _ (Nat.mod_lt _ (by decide))
  simp only [hex4, List.forall_mem_cons]
  exact ⟨hdigit _, hdigit _, hdigit _, hdigit _, fun _ h => absurd h List.not_mem_nil⟩

/-- **Nothing outside printable ASCII is left unescaped.** -/
theorem printable_escapeChar (c : Char) : ∀ d ∈ escapeChar c, Printable d := by
  have hunicode : ∀ n, ∀ d ∈ '\\' :: 'u' :: hex4 n, Printable d := fun n =>
    List.forall_mem_cons.mpr ⟨by decide, List.forall_mem_cons.mpr ⟨by decide, printable_hex4 n⟩⟩
  have hshort : ∀ d ∈ ['"', '\\', 'n', 'r', 't', 'f', 'b'], ∀ e ∈ ['\\', d], Printable e :=
    fun d hd => List.forall_mem_cons.mpr
      ⟨by decide, List.forall_mem_singleton.mpr (printable_of_all rfl d hd)⟩
  refine escapeChar_induction (P := fun t => ∀ d ∈ t, Printable d) c hshort (fun _ _ h => ?_)
    hunicode fun n m => List.forall_mem_append.mpr ⟨hunicode n, hunicode m⟩
  exact List.forall_mem_singleton.mpr ⟨UInt32.le_iff_toNat_le.mp (Char.le_def.mp h.1),
    UInt32.le_iff_toNat_le.mp (Char.le_def.mp h.2)⟩

theorem printable_quote (s : List Char) : ∀ c ∈ quote s, Printable c := by
  refine List.forall_mem_cons.mpr ⟨by decide,
    List.forall_mem_append.mpr ⟨fun c hc => ?_, printable_of_all rfl⟩⟩
  obtain ⟨d, -, hd⟩ := List.mem_flatMap.mp hc
  exact printable_escapeChar d c hd

theorem printable_number {t : List Char} (h : t.all isNumberChar) : ∀ c ∈ t, Printable c :=
  fun c hc => printable_of_isNumberChar (List.all_eq_true.mp h c hc)

/-- A key and what follows it. -/
theorem printable_field {k : String} {v r : List Char} (hv : ∀ c ∈ v, Printable c)
    (hr : ∀ c ∈ r, Printable c) : ∀ c ∈ quote k.toList ++ ':' :: ' ' :: (v ++ r), Printable c :=
  List.forall_mem_append.mpr ⟨printable_quote _, List.forall_mem_cons.mpr ⟨by decide,
    List.forall_mem_cons.mpr ⟨by decide, List.forall_mem_append.mpr ⟨hv, hr⟩⟩⟩⟩

mutual

/-- **The text of a value is printable ASCII**: it has no line break. -/
theorem printable_render (v : Json) : ∀ c ∈ render v, Printable c := by
  match v with
  | .null => exact printable_of_all rfl
  | .bool true => exact printable_of_all rfl
  | .bool false => exact printable_of_all rfl
  | .int n => exact printable_number (intText_number n)
  | .float x => exact printable_number x.number
  | .str s => exact printable_quote s.toList
  | .arr [] => exact printable_of_all rfl
  | .arr (x :: xs) =>
    exact List.forall_mem_cons.mpr ⟨by decide,
      List.forall_mem_append.mpr ⟨printable_render x, printable_renderElems xs⟩⟩
  | .obj [] => exact printable_of_all rfl
  | .obj ((k, v) :: fields) =>
    exact List.forall_mem_cons.mpr ⟨by decide,
      printable_field (printable_render v) (printable_renderFields fields)⟩

theorem printable_renderElems (xs : List Json) : ∀ c ∈ renderElems xs, Printable c := by
  match xs with
  | [] => exact printable_of_all rfl
  | x :: xs =>
    refine List.forall_mem_cons.mpr ⟨by decide, List.forall_mem_cons.mpr ⟨by decide, ?_⟩⟩
    exact List.forall_mem_append.mpr ⟨printable_render x, printable_renderElems xs⟩

theorem printable_renderFields (fields : Fields) : ∀ c ∈ renderFields fields, Printable c := by
  match fields with
  | [] => exact printable_of_all rfl
  | (k, v) :: fields =>
    exact List.forall_mem_cons.mpr ⟨by decide, List.forall_mem_cons.mpr ⟨by decide,
      printable_field (printable_render v) (printable_renderFields fields)⟩⟩

end

/-! ## Texts with a separator -/

/-- Two texts parted by a separator that does not come after it agree on both sides. -/
theorem append_sep_inj {α : Type*} {x y x' y' : List α} {c : α} (hy : c ∉ y) (hy' : c ∉ y')
    (h : x ++ c :: y = x' ++ c :: y') : x = x' ∧ y = y' := by
  rcases List.append_eq_append_iff.mp h with ⟨z, rfl, hz⟩ | ⟨z, rfl, hz⟩
  all_goals
    rcases z with _ | ⟨d, z⟩
    · simpa [eq_comm] using hz
    · obtain ⟨-, rfl⟩ := List.cons.inj hz
      simp_all

/-- Where a reader of a text stands: outside a string, inside one, or after a backslash in it. -/
inductive Place
  | outside
  | inside
  | escaped
  deriving DecidableEq

/-- **Where one more character leads.**  Outside its strings a text has no bar and no backslash, and
inside them no escaped bar. -/
def Place.step : Place → Char → Option Place
  | .outside, c =>
    if c = '"' then some .inside else if c = '\\' ∨ c = '|' then none else some .outside
  | .inside, c =>
    if c = '"' then some .outside else if c = '\\' then some .escaped else some .inside
  | .escaped, c => if c = '|' then none else some .inside

/-- Where a text leads. -/
def scan : Place → List Char → Option Place
  | p, [] => some p
  | p, c :: cs => (p.step c).bind fun q => scan q cs

theorem scan_append (p : Place) (s t : List Char) :
    scan p (s ++ t) = (scan p s).bind fun q => scan q t := by
  induction s generalizing p with
  | nil => rfl
  | cons c s ih =>
    simp only [List.cons_append, scan]
    cases p.step c with
    | none => rfl
    | some q => exact ih q

/-- Two texts that lead back to where they start do so one after the other. -/
theorem scan_append_of_eq {p : Place} {s t : List Char} (hs : scan p s = some p)
    (ht : scan p t = some p) : scan p (s ++ t) = some p := by
  rw [scan_append, hs]
  exact ht

/-- A character that is neither a quote, a backslash nor a bar changes nothing outside. -/
theorem scan_outside_cons {c : Char} (hq : c ≠ '"') (hs : c ≠ '\\') (hb : c ≠ '|')
    (t : List Char) : scan .outside (c :: t) = scan .outside t := by
  simp [scan, Place.step, hq, hs, hb]

/-- …and one that is neither a quote nor a backslash, nothing inside. -/
theorem scan_inside_cons {c : Char} (hq : c ≠ '"') (hs : c ≠ '\\') (t : List Char) :
    scan .inside (c :: t) = scan .inside t := by
  simp [scan, Place.step, hq, hs]

theorem scan_number {t : List Char} (h : t.all isNumberChar) :
    scan .outside t = some .outside := by
  induction t with
  | nil => rfl
  | cons c t ih =>
    rw [List.all_cons, Bool.and_eq_true] at h
    have hne : ∀ d, isNumberChar d = false → c ≠ d := by
      rintro d hd rfl
      exact absurd (h.1.symm.trans hd) (by decide)
    rw [scan_outside_cons (hne _ (by decide)) (hne _ (by decide)) (hne _ (by decide)), ih h.2]

theorem scan_hex4 (n : ℕ) (t : List Char) : scan .inside (hex4 n ++ t) = scan .inside t := by
  have hdigit : ∀ d < 16, Nat.digitChar d ≠ '"' ∧ Nat.digitChar d ≠ '\\' := by decide
  have hmod : ∀ m, Nat.digitChar (m % 16) ≠ '"' ∧ Nat.digitChar (m % 16) ≠ '\\' := fun m =>
    hdigit _ (Nat.mod_lt _ (by decide))
  simp only [hex4, List.cons_append, List.nil_append]
  rw [scan_inside_cons (hmod _).1 (hmod _).2, scan_inside_cons (hmod _).1 (hmod _).2,
    scan_inside_cons (hmod _).1 (hmod _).2, scan_inside_cons (hmod _).1 (hmod _).2]

/-- **An escaped character stays inside its string.** -/
theorem scan_escapeChar (c : Char) : scan .inside (escapeChar c) = some .inside := by
  have hunicode : ∀ n, scan .inside ('\\' :: 'u' :: hex4 n) = some .inside := fun n => by
    have hhex := scan_hex4 n []
    rw [List.append_nil] at hhex
    exact hhex
  exact escapeChar_induction (P := fun t => scan .inside t = some .inside) c
    (by simp [scan, Place.step]) (fun hquote hslash _ => scan_inside_cons hquote hslash [])
    hunicode fun n m => scan_append_of_eq (hunicode n) (hunicode m)

theorem scan_quote (s : List Char) : scan .outside (quote s) = some .outside := by
  have hinside : scan .inside (s.flatMap escapeChar) = some .inside := by
    induction s with
    | nil => rfl
    | cons c s ih => exact scan_append_of_eq (scan_escapeChar c) ih
  have hstart : scan .outside (quote s) = scan .inside (s.flatMap escapeChar ++ ['"']) := rfl
  rw [hstart, scan_append, hinside]
  rfl

mutual

/-- **The text of a value leads from outside a string to outside a string.** -/
theorem scan_render (v : Json) : scan .outside (render v) = some .outside := by
  match v with
  | .null => rfl
  | .bool true => rfl
  | .bool false => rfl
  | .int n => exact scan_number (intText_number n)
  | .float x => exact scan_number x.number
  | .str s => exact scan_quote s.toList
  | .arr [] => rfl
  | .arr (x :: xs) => exact scan_append_of_eq (scan_render x) (scan_renderElems xs)
  | .obj [] => rfl
  | .obj ((k, v) :: fields) =>
    exact scan_append_of_eq (s := quote k.toList) (scan_quote _)
      (scan_append_of_eq (s := render v) (scan_render v) (scan_renderFields fields))

theorem scan_renderElems (xs : List Json) : scan .outside (renderElems xs) = some .outside := by
  match xs with
  | [] => rfl
  | x :: xs => exact scan_append_of_eq (scan_render x) (scan_renderElems xs)

theorem scan_renderFields (fields : Fields) :
    scan .outside (renderFields fields) = some .outside := by
  match fields with
  | [] => rfl
  | (k, v) :: fields =>
    exact scan_append_of_eq (s := quote k.toList) (scan_quote _)
      (scan_append_of_eq (s := render v) (scan_render v) (scan_renderFields fields))

end

/-- One reader is outside a string, the other inside. -/
def Opposite (p q : Place) : Prop :=
  (p = .outside ∧ q = .inside) ∨ (p = .inside ∧ q = .outside)

/-- **Two readers of one text who start on opposite sides of a quote end there**: every quote moves
both, and a backslash stops the one outside. -/
theorem scan_opposite {t : List Char} {p q p' q' : Place} (h : Opposite p q)
    (hp : scan p t = some p') (hq : scan q t = some q') : Opposite p' q' := by
  induction t generalizing p q with
  | nil =>
    cases hp
    cases hq
    exact h
  | cons c t ih =>
    obtain ⟨p₁, hp₁, hp⟩ := Option.bind_eq_some_iff.mp hp
    obtain ⟨q₁, hq₁, hq⟩ := Option.bind_eq_some_iff.mp hq
    refine ih ?_ hp hq
    rcases h with ⟨rfl, rfl⟩ | ⟨rfl, rfl⟩
    · simp only [Place.step] at hp₁ hq₁
      split_ifs at hp₁ hq₁ <;> simp_all [Opposite]
    · simp only [Place.step] at hp₁ hq₁
      split_ifs at hp₁ hq₁ <;> simp_all [Opposite]

/-- **No value's text ends in a bar and another value's text**: the bar would stand in a string, and
the second text begin inside it. -/
theorem render_ne_append_bar (v w : Json) (z : List Char) : render v ≠ z ++ '|' :: render w := by
  intro h
  have hv : scan .outside (z ++ '|' :: render w) = some .outside := h ▸ scan_render v
  rw [scan_append] at hv
  obtain ⟨p, -, hv⟩ := Option.bind_eq_some_iff.mp hv
  obtain ⟨q, hq, hv⟩ := Option.bind_eq_some_iff.mp hv
  have hinside : q = .inside := by
    cases p <;> simp [Place.step] at hq
    exact hq.symm
  subst hinside
  rcases scan_opposite (.inl ⟨rfl, rfl⟩) (scan_render w) hv with ⟨-, hp⟩ | ⟨hp, -⟩
  · cases hp
  · cases hp

/-- **A text ended by a bar and a value determines both.** -/
theorem append_bar_render_inj {x y : List Char} {v w : Json}
    (h : x ++ '|' :: render v = y ++ '|' :: render w) : x = y ∧ v = w := by
  rcases List.append_eq_append_iff.mp h with ⟨z, rfl, hz⟩ | ⟨z, rfl, hz⟩
  all_goals
    rcases z with _ | ⟨c, z⟩
    · have hrender := (List.cons.inj hz).2
      simp [render_injective hrender]
    · exact absurd (List.cons.inj hz).2 (render_ne_append_bar _ _ z)

end Json
