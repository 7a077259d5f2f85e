import BatchExec.Proofs.Division
import BatchExec.Proofs.Utf8

/-!
# Pieces between terminators

Items that end at a terminator are the non-empty pieces between its occurrences. A terminator of one
byte is found in the bytes wherever it is in the text, and nowhere else.

* `pieces`: the pieces between terminators.
* `Reading.texts_eq_pieces`: items are the pieces of a text.
* `Text.map_encodeUtf8_pieces`: **the bytes of the items are the pieces of the bytes.**
-/

namespace BatchExec

section

variable {α : Type} {a : α} [DecidableEq α]

/-- A list either has no terminator or goes on behind the first one. -/
@[elab_as_elim]
theorem terminatedInduction {motive : List α → Prop} (a : α) (free : ∀ l, a ∉ l → motive l)
    (ended : ∀ l m, a ∉ l → motive m → motive (l ++ a :: m)) (l : List α) : motive l := by
  suffices ∀ start, a ∉ start → motive (start ++ l) from this [] List.not_mem_nil
  induction l with
  | nil =>
    intro start clear
    rw [List.append_nil]
    exact free start clear
  | cons x l ih =>
    intro start clear
    by_cases here : x = a
    · rw [here]
      exact ended start l clear (ih [] List.not_mem_nil)
    · rw [List.append_cons]
      refine ih (start ++ [x]) fun mem => ?_
      rcases List.mem_append.mp mem with early | last
      · exact clear early
      · exact here (List.mem_singleton.mp last).symm

/-- The non-empty pieces of a list between the occurrences of a terminator. -/
def pieces (a : α) (l : List α) : List (List α) := (l.splitOn a).filter (· ≠ [])

/-- **Pieces end at terminators.** -/
theorem pieces_append_cons (a : α) (l m : List α) :
    pieces a (l ++ a :: m) = pieces a l ++ pieces a m := by
  rw [pieces, List.splitOn_append_cons_self, List.filter_append]
  rfl

theorem pieces_of_not_mem {l : List α} (free : a ∉ l) :
    pieces a l = if l = [] then [] else [l] := by
  rw [pieces, List.splitOn_eq_singleton free]
  by_cases none : l = [] <;> simp [none]

theorem flatten_pieces_of_not_mem {l : List α} (free : a ∉ l) : (pieces a l).flatten = l := by
  rw [pieces_of_not_mem free]
  by_cases none : l = [] <;> simp [none]

/-- **Pieces have everything but the terminators.** -/
theorem flatten_pieces (a : α) (l : List α) : (pieces a l).flatten = l.filter (· ≠ a) := by
  have whole {l : List α} (free : a ∉ l) : l.filter (· ≠ a) = l :=
    List.filter_eq_self.mpr fun x mem => decide_eq_true fun same => free (same ▸ mem)
  induction l using terminatedInduction a with
  | free l free => rw [flatten_pieces_of_not_mem free, whole free]
  | ended l m free ih =>
    rw [pieces_append_cons, List.flatten_append, ih, flatten_pieces_of_not_mem free,
      List.filter_append, whole free, List.filter_cons_of_neg (by simp)]

end

/-! ### Texts -/

theorem Text.splitOn_eq (c : CodePoint) (t : Text) : splitOn [c] t = List.splitOn c t := by
  show splitFrom [c] 0 t = _
  induction t with
  | nil => rfl
  | cons x t ih =>
    have first : List.isPrefixOf [c] (x :: t) = (x == c) := by
      simp [List.isPrefixOf, BEq.comm]
    rw [splitFrom, List.splitOn_cons_eq_if_modifyHead, first, ← ih]
    split
    · rfl
    · obtain ⟨piece, later, split⟩ :=
        List.exists_cons_of_ne_nil (splitFrom_ne_nil [c] 0 t)
      rw [split]
      rfl

namespace Reading

/-- The items that end at a character are the pieces of a text. -/
theorem texts_eq_pieces (c : CodePoint) {size : Nat} (positive : size ≠ 0) (input : Text) :
    (terminated [c] size input).texts = pieces c input := by
  rw [texts_terminated (List.cons_ne_nil _ _) positive, Text.splitOn_eq]
  rfl

end Reading

/-! ### Bytes -/

namespace Text

variable {c : CodePoint} (ascii : c.val ≤ 0x7F)
include ascii

/-- The byte of a character up to `U+007F` is no byte of another character. -/
theorem not_mem_encodeCharacter {x : CodePoint} (other : x ≠ c) :
    UInt8.ofNat c.val ∉ encodeCharacter x := by
  have byte := toNat_uint8_ofNat (n := c.val) (by omega)
  intro mem
  rcases Nat.lt_or_ge 0x7F x.val with high | low
  · have above := high_of_mem_encodeCharacter high _ mem
    omega
  · rw [encodeCharacter_one low, List.mem_singleton] at mem
    have byte' := toNat_uint8_ofNat (n := x.val) (by omega)
    rw [mem, byte'] at byte
    exact other (Fin.ext byte)

theorem mem_encodeUtf8_iff {t : Text} : UInt8.ofNat c.val ∈ encodeUtf8 t ↔ c ∈ t := by
  rw [encodeUtf8, List.mem_flatMap]
  constructor
  · rintro ⟨x, mem, here⟩
    by_contra absent
    exact not_mem_encodeCharacter ascii (fun same => absent (same ▸ mem)) here
  · intro mem
    exact ⟨c, mem, by rw [encodeCharacter_one ascii]; exact List.mem_cons_self⟩

/-- **The bytes of pieces are the pieces of the bytes**, if the terminator is one byte. -/
theorem map_encodeUtf8_pieces (t : Text) :
    (pieces c t).map encodeUtf8 = pieces (UInt8.ofNat c.val) (encodeUtf8 t) := by
  have alone {t : Text} (free : c ∉ t) :
      (pieces c t).map encodeUtf8 = pieces (UInt8.ofNat c.val) (encodeUtf8 t) := by
    rw [pieces_of_not_mem free,
      pieces_of_not_mem fun mem => free ((mem_encodeUtf8_iff ascii).mp mem)]
    simp only [encodeUtf8_eq_nil_iff]
    split <;> rfl
  induction t using terminatedInduction c with
  | free t free => exact alone free
  | ended s t free ih =>
    rw [pieces_append_cons, List.map_append, ih, alone free, encodeUtf8_append, encodeUtf8_cons,
      encodeCharacter_one ascii, List.singleton_append, pieces_append_cons]

end Text

end BatchExec
