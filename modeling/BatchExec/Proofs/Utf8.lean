import BatchExec.Text.Utf8
import Mathlib.Data.List.Basic

/-!
# Bytes and texts

Bytes are decoded character by character: a well-formed sequence becomes its character, and a byte
that begins none is kept by itself. Either way nothing is lost, so encoding gives the bytes back.
The other way round, a text comes back unless it has surrogates, which may stand for bytes.

* `Text.Spells`: the well-formed sequence of a character.
* `Text.spells_of_first`: **only well-formed sequences are decoded to characters.**
* `Text.first_of_encodeCharacter`: **every well-formed sequence is decoded to its character.**
* `Text.encodeUtf8_decodeUtf8`: **encoding undoes decoding**, whatever the bytes are.
* `Text.decodeUtf8_encodeUtf8`: **decoding undoes the encoding** of a text without surrogates.
* `Text.high_of_mem_encodeCharacter`: a character above `U+007F` has no byte of another up to there.
-/

namespace BatchExec.Text

/-! ### Forms of characters -/

theorem isTail_iff {b : UInt8} : isTail b = true ↔ 0x80 ≤ b.toNat ∧ b.toNat ≤ 0xBF := by
  simp [isTail, UInt8.le_iff_toNat_le]

theorem isSecond_iff {a b : UInt8} : isSecond a b = true ↔
    0x80 ≤ b.toNat ∧ b.toNat ≤ 0xBF ∧ (a.toNat = 0xE0 → 0xA0 ≤ b.toNat) ∧
      (a.toNat = 0xED → b.toNat ≤ 0x9F) ∧ (a.toNat = 0xF0 → 0x90 ≤ b.toNat) ∧
      (a.toNat = 0xF4 → b.toNat ≤ 0x8F) := by
  unfold isSecond secondBounds
  simp only [← UInt8.toNat_inj, Bool.and_eq_true, decide_eq_true_eq, UInt8.le_iff_toNat_le]
  split_ifs <;> simp_all <;> omega

theorem val_ofNat {n : Nat} (bound : n < 0x110000) : (CodePoint.ofNat n).val = n :=
  Nat.mod_eq_of_lt bound

theorem uint8_ofNat_eq {n : Nat} {a : UInt8} (same : n = a.toNat) : UInt8.ofNat n = a := by
  rw [same, UInt8.ofNat_toNat]

theorem tailByte_eq {n : Nat} {b : UInt8} (low : 0x80 ≤ b.toNat) (same : n % 64 = b.toNat - 0x80) :
    tailByte n = b :=
  uint8_ofNat_eq (by omega)

theorem isSurrogate_eq_false_iff {c : CodePoint} :
    c.isSurrogate = false ↔ c.val < 0xD800 ∨ 0xDFFF < c.val := by
  simp only [CodePoint.isSurrogate, Bool.and_eq_false_iff, decide_eq_false_iff_not]
  omega

section

variable {c : CodePoint}

theorem encodeCharacter_one (top : c.val ≤ 0x7F) : encodeCharacter c = [UInt8.ofNat c.val] :=
  if_pos top

theorem encodeCharacter_two (low : 0x7F < c.val) (top : c.val ≤ 0x7FF) :
    encodeCharacter c = [UInt8.ofNat (0xC0 + c.val / 64), tailByte c.val] := by
  rw [encodeCharacter, if_neg (by omega), if_pos top]

theorem encodeCharacter_three (low : 0x7FF < c.val) (top : c.val ≤ 0xFFFF)
    (scalar : c.isSurrogate = false) : encodeCharacter c =
      [UInt8.ofNat (0xE0 + c.val / 4096), tailByte (c.val / 64), tailByte c.val] := by
  rw [isSurrogate_eq_false_iff] at scalar
  rw [encodeCharacter, if_neg (by omega), if_neg (by omega), if_neg (by omega), if_pos top]

theorem encodeCharacter_four (low : 0xFFFF < c.val) : encodeCharacter c =
    [UInt8.ofNat (0xF0 + c.val / 262144), tailByte (c.val / 4096), tailByte (c.val / 64),
      tailByte c.val] := by
  rw [encodeCharacter, if_neg (by omega), if_neg (by omega), if_neg (by omega), if_neg (by omega)]

end

/-! ### Decoding one character -/

/-- A well-formed sequence of a character: the character is no surrogate, and the sequence is its
encoding. -/
def Spells (bytes : List UInt8) (c : CodePoint) : Prop :=
  c.isSurrogate = false ∧ encodeCharacter c = bytes

section

variable {a b c d : UInt8}

theorem spells_one (top : a ≤ 0x7F) : Spells [a] (CodePoint.ofNat a.toNat) := by
  simp only [UInt8.le_iff_toNat_le, UInt8.reduceToNat] at top
  have val := val_ofNat (n := a.toNat) (by omega)
  refine ⟨isSurrogate_eq_false_iff.mpr (by omega), ?_⟩
  rw [encodeCharacter_one (by omega), val, UInt8.ofNat_toNat]

theorem spells_two (low : 0xC2 ≤ a) (top : a ≤ 0xDF) (second : isSecond a b = true) :
    Spells [a, b] (CodePoint.ofNat ((a.toNat - 0xC0) * 64 + tailBits b)) := by
  simp only [UInt8.le_iff_toNat_le, UInt8.reduceToNat] at low top
  rw [isSecond_iff] at second
  obtain ⟨n, number⟩ : ∃ n, n = (a.toNat - 0xC0) * 64 + tailBits b := ⟨_, rfl⟩
  rw [← number]
  unfold tailBits at number
  have val := val_ofNat (n := n) (by omega)
  refine ⟨isSurrogate_eq_false_iff.mpr (by omega), ?_⟩
  rw [encodeCharacter_two (by omega) (by omega), val, uint8_ofNat_eq (a := a) (by omega),
    tailByte_eq (b := b) (by omega) (by omega)]

theorem spells_three (low : 0xE0 ≤ a) (top : a ≤ 0xEF) (second : isSecond a b = true)
    (third : isTail c = true) : Spells [a, b, c]
      (CodePoint.ofNat (((a.toNat - 0xE0) * 64 + tailBits b) * 64 + tailBits c)) := by
  simp only [UInt8.le_iff_toNat_le, UInt8.reduceToNat] at low top
  rw [isSecond_iff] at second
  rw [isTail_iff] at third
  obtain ⟨n, number⟩ : ∃ n, n = ((a.toNat - 0xE0) * 64 + tailBits b) * 64 + tailBits c := ⟨_, rfl⟩
  rw [← number]
  unfold tailBits at number
  have val := val_ofNat (n := n) (by omega)
  have scalar : (CodePoint.ofNat n).isSurrogate = false := isSurrogate_eq_false_iff.mpr (by omega)
  refine ⟨scalar, ?_⟩
  rw [encodeCharacter_three (by omega) (by omega) scalar, val, uint8_ofNat_eq (a := a) (by omega),
    tailByte_eq (b := b) (by omega) (by omega), tailByte_eq (b := c) (by omega) (by omega)]

theorem spells_four (low : 0xF0 ≤ a) (top : a ≤ 0xF4) (second : isSecond a b = true)
    (third : isTail c = true) (fourth : isTail d = true) : Spells [a, b, c, d]
      (CodePoint.ofNat
        ((((a.toNat - 0xF0) * 64 + tailBits b) * 64 + tailBits c) * 64 + tailBits d)) := by
  simp only [UInt8.le_iff_toNat_le, UInt8.reduceToNat] at low top
  rw [isSecond_iff] at second
  rw [isTail_iff] at third fourth
  obtain ⟨n, number⟩ : ∃ n, n =
      (((a.toNat - 0xF0) * 64 + tailBits b) * 64 + tailBits c) * 64 + tailBits d := ⟨_, rfl⟩
  rw [← number]
  unfold tailBits at number
  have val := val_ofNat (n := n) (by omega)
  refine ⟨isSurrogate_eq_false_iff.mpr (by omega), ?_⟩
  rw [encodeCharacter_four (by omega), val, uint8_ofNat_eq (a := a) (by omega),
    tailByte_eq (b := b) (by omega) (by omega), tailByte_eq (b := c) (by omega) (by omega),
    tailByte_eq (b := d) (by omega) (by omega)]

end

theorem encodeCharacter_ne_nil (c : CodePoint) : encodeCharacter c ≠ [] := by
  unfold encodeCharacter
  split_ifs <;> exact List.cons_ne_nil _ _

/-- A byte that is part of no character is kept by itself. -/
theorem encodeCharacter_kept {b : UInt8} (high : 0x80 ≤ b.toNat) :
    encodeCharacter (CodePoint.ofNat (0xDC00 + b.toNat)) = [b] := by
  have top := b.toNat_lt
  rw [encodeCharacter, val_ofNat (by omega), if_neg (by omega), if_neg (by omega),
    if_pos (by omega), uint8_ofNat_eq (a := b) (by omega)]

/-- The sequence that a character is decoded from is well formed. -/
theorem spells_of_first (bytes : List UInt8) : ∀ p ∈ firstCharacter? bytes,
    ∃ form, Spells form p.1 ∧ form.length = p.2 ∧ form <+: bytes := by
  fun_cases firstCharacter? bytes with
  | case2 a rest top =>
    intro p first
    obtain rfl := Option.some.inj first
    exact ⟨[a], spells_one top, rfl, rest, rfl⟩
  | case3 a _ lead b rest second =>
    intro p first
    obtain rfl := Option.some.inj first
    exact ⟨[a, b], spells_two lead.1 lead.2 second, rfl, rest, rfl⟩
  | case6 a _ _ lead b c rest tails =>
    intro p first
    obtain rfl := Option.some.inj first
    rw [Bool.and_eq_true] at tails
    exact ⟨[a, b, c], spells_three lead.1 lead.2 tails.1 tails.2, rfl, rest, rfl⟩
  | case9 a _ _ _ lead b c d rest tails =>
    intro p first
    obtain rfl := Option.some.inj first
    rw [Bool.and_eq_true, Bool.and_eq_true] at tails
    exact ⟨[a, b, c, d], spells_four lead.1 lead.2 tails.1.1 tails.1.2 tails.2, rfl, rest, rfl⟩
  | case1 | case4 | case5 | case7 | case8 | case10 | case11 | case12 =>
    exact fun p mem => absurd mem (Option.not_mem_none p)

/-- A sequence that begins with no well-formed one begins with a byte above `U+007F`. -/
theorem high_of_first {b : UInt8} {rest : List UInt8}
    (none : firstCharacter? (b :: rest) = none) : 0x80 ≤ b.toNat := by
  by_contra low
  have ascii : b ≤ 0x7F := by
    simp only [UInt8.le_iff_toNat_le, UInt8.reduceToNat]
    omega
  simp [firstCharacter?, ascii] at none

/-! ### Decoding bytes -/

theorem decodeFrom_eq (skip : Nat) (bytes : List UInt8) :
    decodeFrom skip bytes = decodeUtf8 (bytes.drop skip) := by
  induction bytes generalizing skip with
  | nil => simp [decodeUtf8, decodeFrom]
  | cons b rest ih =>
    cases skip with
    | zero => rfl
    | succ skip => exact ih skip

/-- Decoding goes on behind the first character. -/
theorem decodeUtf8_of_first {bytes : List UInt8} {c : CodePoint} {length : Nat}
    (first : firstCharacter? bytes = some (c, length)) :
    decodeUtf8 bytes = c :: decodeUtf8 (bytes.drop length) := by
  cases bytes with
  | nil => cases first
  | cons b rest =>
    obtain ⟨form, spells, rfl, -⟩ := spells_of_first _ _ first
    have some : 0 < form.length :=
      List.length_pos_iff.mpr (spells.2 ▸ encodeCharacter_ne_nil c)
    show decodeFrom 0 (b :: rest) = _
    rw [decodeFrom, first]
    show c :: decodeFrom (form.length - 1) rest = _
    rw [decodeFrom_eq, List.drop_cons some]

/-- Any other byte is kept by itself. -/
theorem decodeUtf8_of_kept {b : UInt8} {rest : List UInt8}
    (none : firstCharacter? (b :: rest) = none) :
    decodeUtf8 (b :: rest) = CodePoint.ofNat (0xDC00 + b.toNat) :: decodeUtf8 rest := by
  show decodeFrom 0 (b :: rest) = _
  rw [decodeFrom, none]
  rfl

theorem encodeUtf8_cons (c : CodePoint) (t : Text) :
    encodeUtf8 (c :: t) = encodeCharacter c ++ encodeUtf8 t := rfl

theorem encodeUtf8_append (s t : Text) : encodeUtf8 (s ++ t) = encodeUtf8 s ++ encodeUtf8 t :=
  List.flatMap_append

theorem encodeUtf8_eq_nil_iff {t : Text} : encodeUtf8 t = [] ↔ t = [] := by
  cases t with
  | nil => simp [encodeUtf8]
  | cons c t => simp [encodeUtf8_cons, encodeCharacter_ne_nil]

/-- **Encoding undoes decoding**, whatever the bytes are. -/
theorem encodeUtf8_decodeUtf8 (bytes : List UInt8) : encodeUtf8 (decodeUtf8 bytes) = bytes := by
  -- the induction is on the length: a character takes up to four bytes at once
  obtain ⟨n, size⟩ : ∃ n, n = bytes.length := ⟨_, rfl⟩
  induction n using Nat.strongRecOn generalizing bytes with
  | ind n ih =>
    cases bytes with
    | nil => rfl
    | cons b rest =>
      cases first : firstCharacter? (b :: rest) with
      | none =>
        rw [decodeUtf8_of_kept first, encodeUtf8_cons, encodeCharacter_kept (high_of_first first),
          ih rest.length (by simp [size]) rest rfl]
        rfl
      | some p =>
        obtain ⟨form, ⟨-, spells⟩, length, later, split⟩ := spells_of_first _ p first
        have shorter : later.length < n := by
          have some := List.length_pos_iff.mpr (spells ▸ encodeCharacter_ne_nil p.1)
          rw [size, ← split, List.length_append]
          omega
        rw [decodeUtf8_of_first first, ← split, ← length, List.drop_left, encodeUtf8_cons, spells,
          ih later.length shorter later rfl]

/-! ### Decoding an encoded text -/

theorem toNat_uint8_ofNat {n : Nat} (bound : n < 256) : (UInt8.ofNat n).toNat = n :=
  UInt8.toNat_ofNat_of_lt bound

theorem toNat_tailByte (n : Nat) : (tailByte n).toNat = 0x80 + n % 64 := by
  rw [tailByte, toNat_uint8_ofNat (by omega)]

theorem tailBits_tailByte (n : Nat) : tailBits (tailByte n) = n % 64 := by
  have value := toNat_tailByte n
  unfold tailBits
  omega

theorem isTail_tailByte (n : Nat) : isTail (tailByte n) = true := by
  rw [isTail_iff, toNat_tailByte]
  omega

theorem ofNat_eq {n : Nat} {c : CodePoint} (same : n = c.val) : CodePoint.ofNat n = c := by
  rw [same]
  exact Fin.ext (Nat.mod_eq_of_lt c.isLt)

section

variable {a b c d : UInt8} (rest : List UInt8)

theorem first_one (top : a.toNat ≤ 0x7F) :
    firstCharacter? (a :: rest) = some (CodePoint.ofNat a.toNat, 1) := by
  have one : a ≤ 0x7F := by simpa [UInt8.le_iff_toNat_le] using top
  unfold firstCharacter?
  exact if_pos one

theorem first_two (low : 0xC2 ≤ a.toNat) (top : a.toNat ≤ 0xDF) (second : isSecond a b = true) :
    firstCharacter? (a :: b :: rest) =
      some (CodePoint.ofNat ((a.toNat - 0xC0) * 64 + tailBits b), 2) := by
  have more : ¬ a ≤ 0x7F := by simp [UInt8.le_iff_toNat_le]; omega
  have two : 0xC2 ≤ a ∧ a ≤ 0xDF := by simp [UInt8.le_iff_toNat_le]; omega
  rw [firstCharacter?, if_neg more, if_pos two]
  exact if_pos second

theorem first_three (low : 0xE0 ≤ a.toNat) (top : a.toNat ≤ 0xEF) (second : isSecond a b = true)
    (third : isTail c = true) : firstCharacter? (a :: b :: c :: rest) =
      some (CodePoint.ofNat (((a.toNat - 0xE0) * 64 + tailBits b) * 64 + tailBits c), 3) := by
  have more : ¬ a ≤ 0x7F := by simp [UInt8.le_iff_toNat_le]; omega
  have more' : ¬ (0xC2 ≤ a ∧ a ≤ 0xDF) := by simp [UInt8.le_iff_toNat_le]; omega
  have three : 0xE0 ≤ a ∧ a ≤ 0xEF := by simp [UInt8.le_iff_toNat_le]; omega
  rw [firstCharacter?, if_neg more, if_neg more', if_pos three]
  exact if_pos (by rw [second, third]; rfl)

theorem first_four (low : 0xF0 ≤ a.toNat) (top : a.toNat ≤ 0xF4) (second : isSecond a b = true)
    (third : isTail c = true) (fourth : isTail d = true) :
    firstCharacter? (a :: b :: c :: d :: rest) = some (CodePoint.ofNat
      ((((a.toNat - 0xF0) * 64 + tailBits b) * 64 + tailBits c) * 64 + tailBits d), 4) := by
  have more : ¬ a ≤ 0x7F := by simp [UInt8.le_iff_toNat_le]; omega
  have more' : ¬ (0xC2 ≤ a ∧ a ≤ 0xDF) := by simp [UInt8.le_iff_toNat_le]; omega
  have more'' : ¬ (0xE0 ≤ a ∧ a ≤ 0xEF) := by simp [UInt8.le_iff_toNat_le]; omega
  have four : 0xF0 ≤ a ∧ a ≤ 0xF4 := by simp [UInt8.le_iff_toNat_le]; omega
  rw [firstCharacter?, if_neg more, if_neg more', if_neg more'', if_pos four]
  exact if_pos (by rw [second, third, fourth]; rfl)

end

/-- A sequence that begins with the encoding of a character, if it is no surrogate, is decoded from
this character on. -/
theorem first_of_encodeCharacter {c : CodePoint} (scalar : c.isSurrogate = false)
    (rest : List UInt8) :
    firstCharacter? (encodeCharacter c ++ rest) = some (c, (encodeCharacter c).length) := by
  have bound := c.isLt
  have gap := isSurrogate_eq_false_iff.mp scalar
  rcases Nat.lt_or_ge 0x7F c.val with more | one
  · rcases Nat.lt_or_ge 0x7FF c.val with more' | two
    · rcases Nat.lt_or_ge 0xFFFF c.val with four | three
      · have lead := toNat_uint8_ofNat (n := 0xF0 + c.val / 262144) (by omega)
        have value : (((0xF0 + c.val / 262144 - 0xF0) * 64 + c.val / 4096 % 64) * 64 +
            c.val / 64 % 64) * 64 + c.val % 64 = c.val := by omega
        rw [encodeCharacter_four four]
        refine (first_four rest (by omega) (by omega) ?_ (isTail_tailByte _)
          (isTail_tailByte _)).trans ?_
        · rw [isSecond_iff, toNat_tailByte]
          omega
        · rw [tailBits_tailByte, tailBits_tailByte, tailBits_tailByte, lead, ofNat_eq value]
          rfl
      · have lead := toNat_uint8_ofNat (n := 0xE0 + c.val / 4096) (by omega)
        have value : ((0xE0 + c.val / 4096 - 0xE0) * 64 + c.val / 64 % 64) * 64 + c.val % 64 =
            c.val := by omega
        rw [encodeCharacter_three more' three scalar]
        refine (first_three rest (by omega) (by omega) ?_ (isTail_tailByte _)).trans ?_
        · rw [isSecond_iff, toNat_tailByte]
          omega
        · rw [tailBits_tailByte, tailBits_tailByte, lead, ofNat_eq value]
          rfl
    · have lead := toNat_uint8_ofNat (n := 0xC0 + c.val / 64) (by omega)
      have value : (0xC0 + c.val / 64 - 0xC0) * 64 + c.val % 64 = c.val := by omega
      rw [encodeCharacter_two more two]
      refine (first_two rest (by omega) (by omega) ?_).trans ?_
      · rw [isSecond_iff, toNat_tailByte]
        omega
      · rw [tailBits_tailByte, lead, ofNat_eq value]
        rfl
  · have lead := toNat_uint8_ofNat (n := c.val) (by omega)
    rw [encodeCharacter_one one]
    refine (first_one rest (by omega)).trans ?_
    rw [ofNat_eq lead]
    rfl

/-- **Decoding undoes the encoding** of a text without surrogates. -/
theorem decodeUtf8_encodeUtf8 {t : Text} (scalar : ∀ c ∈ t, c.isSurrogate = false) :
    decodeUtf8 (encodeUtf8 t) = t := by
  induction t with
  | nil => rfl
  | cons c t ih =>
    obtain ⟨here, later⟩ := List.forall_mem_cons.mp scalar
    rw [encodeUtf8_cons, decodeUtf8_of_first (first_of_encodeCharacter here _), List.drop_left,
      ih later]

/-! ### Bytes of characters -/

theorem high_tailByte (n : Nat) : 0x80 ≤ (tailByte n).toNat := by
  rw [toNat_tailByte]
  exact Nat.le_add_right _ _

/-- The bytes of a character above `U+007F` are all above `0x7F`. -/
theorem high_of_mem_encodeCharacter {c : CodePoint} (high : 0x7F < c.val) :
    ∀ b ∈ encodeCharacter c, 0x80 ≤ b.toNat := by
  have bound := c.isLt
  unfold encodeCharacter
  split_ifs with one two kept three
  · omega
  · rw [List.forall_mem_cons, toNat_uint8_ofNat (by omega)]
    simp [high_tailByte]
    omega
  · rw [List.forall_mem_singleton, toNat_uint8_ofNat (by omega)]
    omega
  · rw [List.forall_mem_cons, toNat_uint8_ofNat (by omega)]
    simp [high_tailByte]
    omega
  · rw [List.forall_mem_cons, toNat_uint8_ofNat (by omega)]
    simp [high_tailByte]
    omega

end BatchExec.Text
