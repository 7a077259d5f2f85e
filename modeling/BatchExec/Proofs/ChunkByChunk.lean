import BatchExec.Proofs.Division
import Mathlib.Algebra.Order.Floor.Div

/-!
# Reading items chunk by chunk

A separator may end anywhere in a chunk, and may have begun in an earlier one. An item is handed out
when the chunk is in with which its separator is complete, and the next chunk is not read for it. So
what has been read by then is the text up to the end of that separator, rounded up to whole chunks.

* `Text.Divided.split`: **the text up to the end of a separator is divided on its own.**
* `Reading.getElem?_terminatedFrom`: an item with what is unread when it is handed out.
* `Reading.items_taken`: **input is read up to the end of the chunk in which an item ends.**
-/

namespace BatchExec

namespace Text

/-- Pieces, each with the separator that ends it. -/
def terminate (separator : Text) (pieces : List Text) : Text := pieces.flatMap (· ++ separator)

variable {separator t : Text} {ended later : List Text}

theorem terminate_append (separator : Text) (ended later : List Text) :
    terminate separator (ended ++ later) = terminate separator ended ++ terminate separator later :=
  List.flatMap_append

theorem separator_suffix_terminate (separator : Text) (ended : List Text) (piece : Text) :
    separator <:+ terminate separator (ended ++ [piece]) := by
  rw [terminate_append]
  simp only [terminate, List.flatMap_singleton, ← List.append_assoc]
  exact List.suffix_append _ _

theorem Divided.ne_nil {pieces : List Text} (divided : Divided separator t pieces) :
    pieces ≠ [] := by
  cases divided <;> simp

theorem Divided.eq_of_single {piece : Text} (divided : Divided separator t [piece]) :
    t = piece := by
  cases divided with
  | rest free => rfl
  | piece whole first divided => cases divided

/-- **The text up to the end of a separator is divided on its own**, and so is what is behind it. -/
theorem Divided.split (divided : Divided separator t (ended ++ later)) (more : later ≠ []) :
    ∃ rest, t = terminate separator ended ++ rest ∧ Divided separator rest later := by
  induction ended generalizing t with
  | nil => exact ⟨t, rfl, divided⟩
  | cons piece ended ih =>
    generalize whole : piece :: ended ++ later = pieces at divided
    cases divided with
    | rest free =>
      obtain ⟨-, none⟩ := List.cons.inj whole
      exact absurd (List.append_eq_nil_iff.mp none).2 more
    | piece whole' first divided =>
      obtain ⟨rfl, rfl⟩ := List.cons.inj whole
      obtain ⟨rest, rfl, behind⟩ := ih divided
      exact ⟨rest, by simp [terminate, whole'], behind⟩

/-- What does not hold the separator ends in front of the end of the first one behind. -/
theorem length_lt_terminate {pending rest : Text} (free : ¬ separator <:+: pending) {piece : Text}
    (whole : pending ++ t = terminate separator (ended ++ [piece]) ++ rest) :
    pending.length < (terminate separator (ended ++ [piece])).length := by
  by_contra long
  have start : terminate separator (ended ++ [piece]) <+: pending := by
    refine List.prefix_of_prefix_length_le ?_ (List.prefix_append pending t) (Nat.not_lt.mp long)
    rw [whole]
    exact List.prefix_append _ _
  exact free ((separator_suffix_terminate separator ended piece).isInfix.trans start.isInfix)

theorem chunksFrom_eq {size room : Nat} (positive : size ≠ 0) (t : Text) :
    chunksFrom size room t = (t.take room, chunks size (t.drop room)) := by
  fun_induction chunksFrom size room t with
  | case1 => simp [chunks, chunksFrom]
  | case2 c rest chunk later h ih =>
    simp [chunks, positive, chunksFrom, h]
  | case3 room c rest chunk later h ih => simp_all

theorem chunks_of_ne_nil {size : Nat} (positive : size ≠ 0) (nonempty : t ≠ []) :
    chunks size t = t.take size :: chunks size (t.drop size) := by
  obtain ⟨c, rest, rfl⟩ := List.exists_cons_of_ne_nil nonempty
  obtain ⟨room, rfl⟩ := Nat.exists_eq_succ_of_ne_zero positive
  rw [chunks, if_neg positive, chunksFrom, chunksFrom_eq positive]
  simp

/-- A text is empty or has a chunk in front of the others. -/
@[elab_as_elim]
theorem chunkInduction {motive : Text → Prop} {size : Nat} (positive : size ≠ 0)
    (none : motive []) (chunk : ∀ t ≠ [], motive (t.drop size) → motive t) (t : Text) :
    motive t := by
  induction length : t.length using Nat.strong_induction_on generalizing t with
  | _ n ih =>
    by_cases empty : t = []
    · exact empty ▸ none
    · have long : 0 < t.length := List.length_pos_iff.mpr empty
      refine chunk t empty (ih _ ?_ _ rfl)
      rw [List.length_drop]
      omega

end Text

/-! ## Items with what is unread -/

namespace Reading

open Text

variable {separator : Text} {size : Nat}

/-- How much of a text of that length is read for so many characters of it: whole chunks. -/
def readFor (size length count : Nat) : Nat := min length (size * (count ⌈/⌉ size))

theorem drop_readFor (t : Text) {count : Nat} (some : 0 < count) (within : count ≤ size) :
    t.drop (readFor size t.length count) = t.drop size := by
  have one : count ⌈/⌉ size = 1 := by
    rw [Nat.ceilDiv_eq_add_pred_div, Nat.div_eq_iff (by omega)]
    omega
  rw [readFor, one, Nat.mul_one]
  rcases Nat.le_total t.length size with short | long
  · rw [Nat.min_eq_left short, List.drop_length, List.drop_of_length_le short]
  · rw [Nat.min_eq_right long]

theorem readFor_add (positive : size ≠ 0) {length : Nat} (long : size ≤ length) (count : Nat) :
    readFor size length (size + count) = size + readFor size (length - size) count := by
  have next : (size + count) ⌈/⌉ size = 1 + count ⌈/⌉ size := by
    rw [Nat.ceilDiv_eq_add_pred_div, Nat.ceilDiv_eq_add_pred_div, Nat.add_assoc, Nat.add_sub_assoc,
      Nat.add_div_left]
    · omega
    · omega
    · omega
  rw [readFor, readFor, next, Nat.mul_add]
  omega

section

variable {pending t last item : Text} {closed others later : List Text}

/-- An item whose separator is complete with the first chunk is read with it. -/
theorem drop_readFor_of_here (free : ¬ separator <:+: pending)
    (first : Divided separator (pending ++ t.take size) (closed ++ item :: later))
    (more : later ≠ []) :
    t.drop (readFor size t.length ((terminate separator (closed ++ [item])).length -
      pending.length)) = t.drop size := by
  obtain ⟨rest, whole, -⟩ := Divided.split (List.append_cons closed item later ▸ first) more
  have long := length_lt_terminate free whole
  have length := congrArg List.length whole
  simp only [List.length_append, List.length_take] at length
  exact drop_readFor t (by omega) (by omega)

/-- An item whose separator is complete with a later chunk is read as if the first one were none of
the text. -/
theorem drop_readFor_of_later (positive : size ≠ 0) (free : ¬ separator <:+: last)
    (first : Divided separator (pending ++ t.take size) (closed ++ [last]))
    (behind : Divided separator (last ++ t.drop size) (others ++ item :: later))
    (more : later ≠ []) :
    t.drop (readFor size t.length ((terminate separator (closed ++ others ++ [item])).length -
      pending.length)) = (t.drop size).drop (readFor size (t.drop size).length
        ((terminate separator (others ++ [item])).length - last.length)) := by
  obtain ⟨rest, whole, ends⟩ := first.split (List.cons_ne_nil last [])
  obtain rfl : rest = last := ends.eq_of_single
  obtain ⟨rest', whole', -⟩ := Divided.split (List.append_cons others item later ▸ behind) more
  have long := length_lt_terminate free whole'
  have full : size ≤ t.length := by
    by_contra short
    rw [List.drop_of_length_le (by omega), List.append_nil] at behind
    have single := behind.unique (.rest free)
    simp [List.append_eq_cons_iff, more] at single
  have length := congrArg List.length whole
  simp only [List.length_append, List.length_take, Nat.min_eq_left full] at length
  have count : (terminate separator (closed ++ others ++ [item])).length - pending.length =
      size + ((terminate separator (others ++ [item])).length - rest.length) := by
    rw [List.append_assoc, terminate_append, List.length_append]
    omega
  rw [count, readFor_add positive full, List.drop_drop, List.length_drop]

end

/-- An item is handed out when the chunk is in with which its separator is complete; the last one,
which need not end, when all has been read. -/
theorem getElem?_terminatedFrom (proper : separator ≠ []) (positive : size ≠ 0) {pending t : Text}
    (free : ¬ separator <:+: pending) {ended later : List Text} {item : Text}
    (divided : Divided separator (pending ++ t) (ended ++ item :: later)) (nonempty : item ≠ []) :
    (terminatedFrom separator pending (chunks size t) t).items[(ended.filter (· ≠ [])).length]? =
      some ⟨item, if later = [] then [] else t.drop (readFor size t.length
        ((terminate separator (ended ++ [item])).length - pending.length))⟩ := by
  induction t using chunkInduction positive generalizing pending ended with
  | none =>
    have single : ended ++ item :: later = [pending] :=
      divided.unique (by simpa using Divided.rest free)
    obtain ⟨rfl, rfl, rfl⟩ : ended = [] ∧ item = pending ∧ later = [] := by
      simpa [List.append_eq_cons_iff] using single
    simp [chunks, chunksFrom, terminatedFrom, nonempty]
  | chunk t long ih =>
    obtain ⟨closed, last, split, free', goesOn⟩ :=
      ((divided_iff (t := pending ++ t.take size) proper).mpr rfl).append
    have first : Divided separator (pending ++ t.take size) (closed ++ [last]) :=
      (divided_iff proper).mpr split.symm
    obtain ⟨pieces, behind⟩ : ∃ pieces, Divided separator (last ++ t.drop size) pieces :=
      ⟨_, (divided_iff proper).mpr rfl⟩
    have whole : ended ++ item :: later = closed ++ pieces := by
      refine divided.unique ?_
      simpa using goesOn _ _ behind
    have unread : t.drop (t.take size).length = t.drop size := by
      rw [List.length_take]
      rcases Nat.le_total size t.length with within | beyond
      · rw [Nat.min_eq_left within]
      · rw [Nat.min_eq_right beyond, List.drop_length, List.drop_of_length_le beyond]
    rw [chunks_of_ne_nil positive long, terminatedFrom_cons proper split, unread]
    by_cases here : ended.length < closed.length
    · have begins : ended ++ [item] <+: closed := by
        refine List.prefix_of_prefix_length_le ?_ (List.prefix_append closed pieces) (by simpa)
        rw [← whole]
        simp
      obtain ⟨more, rfl⟩ := begins
      obtain rfl : later = more ++ pieces := by simpa using whole
      have goesOn' : more ++ pieces ≠ [] := by simp [behind.ne_nil]
      have here' : Divided separator (pending ++ t.take size)
          (ended ++ item :: (more ++ [last])) := by
        simpa using first
      rw [if_neg goesOn', drop_readFor_of_here free here' (by simp)]
      simp [prepend, nonempty]
    · have begins : closed <+: ended := by
        refine List.prefix_of_prefix_length_le ?_ (List.prefix_append ended (item :: later))
          (by omega)
        rw [whole]
        exact List.prefix_append closed pieces
      obtain ⟨others, rfl⟩ := begins
      obtain rfl : others ++ item :: later = pieces := by simpa using whole
      simp only [prepend, List.filter_append, List.length_append]
      rw [List.getElem?_append_right (by simp), List.length_map, Nat.add_sub_cancel_left,
        ih free' behind]
      by_cases none : later = []
      · rw [if_pos none, if_pos none]
      · rw [if_neg none, if_neg none, drop_readFor_of_later positive free' first behind none]

/-- Each piece that is not empty comes behind so many others. -/
theorem exists_split_of_lt {pieces : List Text} {count : Nat}
    (lt : count < (pieces.filter (· ≠ [])).length) : ∃ ended item later,
      pieces = ended ++ item :: later ∧ item ≠ [] ∧ (ended.filter (· ≠ [])).length = count := by
  obtain ⟨before, behind, rfl, first, rest⟩ :=
    List.filter_eq_append_iff.mp (List.take_append_drop count (pieces.filter (· ≠ []))).symm
  obtain ⟨item, more, next⟩ :=
    List.exists_cons_of_length_pos (List.length_drop ▸ Nat.sub_pos_of_lt lt)
  obtain ⟨others, later, rfl, empty, nonempty, -⟩ := List.filter_eq_cons_iff.mp (rest.trans next)
  refine ⟨before ++ others, item, later, by simp, by simpa using nonempty, ?_⟩
  rw [List.filter_append, first, List.filter_eq_nil_iff.mpr empty, List.append_nil,
    List.length_take, Nat.min_eq_left (Nat.le_of_lt lt)]

/-- **Input is read up to the end of the chunk in which an item ends.** When so many items have been
taken, the last of them with the separator behind it is the end of the text that has been read for
them, and what is read is that text rounded up to whole chunks, or all of the input if there is no
more. All of it is read for an item that does not end. -/
theorem items_taken (proper : separator ≠ []) (positive : size ≠ 0) (input : Text) :
    ∃ pieces, (∀ others, Divided separator input others ↔ others = pieces) ∧
      ∀ count < (pieces.filter (· ≠ [])).length, ∃ ended item later,
        pieces = ended ++ item :: later ∧ item ≠ [] ∧ (ended.filter (· ≠ [])).length = count ∧
        let text := terminate separator (ended ++ [item])
        (later ≠ [] → text <+: input) ∧
        (terminated separator size input).take input (some (count + 1)) = {
          texts := (ended ++ [item]).filter (· ≠ [])
          unread := input.drop (if later = [] then input.length else
            min input.length (size * (text.length ⌈/⌉ size))) } := by
  refine ⟨splitOn separator input, fun others => divided_iff proper, fun count lt => ?_⟩
  obtain ⟨ended, item, later, whole, nonempty, length⟩ := exists_split_of_lt lt
  refine ⟨ended, item, later, whole, nonempty, length, fun more => ?_, ?_⟩
  · rw [List.append_cons] at whole
    have divided := (divided_iff proper).mpr whole.symm
    obtain ⟨rest, rfl, -⟩ := divided.split more
    exact List.prefix_append _ rest
  · have free : ¬ separator <:+: [] := by simpa using proper
    have found := getElem?_terminatedFrom (t := input) proper positive free
      ((divided_iff proper).mpr whole.symm) nonempty
    rw [length] at found
    have texts : (terminated separator size input).texts.take (count + 1) =
        (ended ++ [item]).filter (· ≠ []) := by
      rw [texts_terminated proper positive, whole, ← length]
      simp [nonempty, List.take_append]
    rw [← texts, take, terminated, found]
    by_cases none : later = [] <;> simp [none, readFor]

/-- The separator behind the first item begins in the first chunk and ends in the second. -/
theorem straddled_taken : ("--" : Text) ≠ [] ∧ 4 ≠ 0 ∧
    Divided "--" "a-b----c-d" ["a-b", "", "c-d"] ∧
    (terminated "--" 4 "a-b----c-d").take "a-b----c-d" (some 1) = ⟨["a-b"], "-d", none⟩ := by
  have proper : ("--" : Text) ≠ [] := by decide
  obtain ⟨pieces, unique, items⟩ := items_taken proper (by decide : 4 ≠ 0) "a-b----c-d"
  have divided : Divided "--" "a-b----c-d" ["a-b", "", "c-d"] :=
    (divided_iff proper).mpr (by decide)
  obtain rfl := (unique _).mp divided
  obtain ⟨ended, item, later, whole, -, first, -, taken⟩ := items 0 (by decide)
  refine ⟨proper, by decide, divided, taken.trans ?_⟩
  cases ended with
  | nil =>
    obtain ⟨rfl, rfl⟩ := List.cons.inj whole
    decide
  | cons piece ended =>
    -- the first piece is not empty, so it is the first item
    obtain ⟨rfl, -⟩ := List.cons.inj whole
    exact absurd first (Nat.succ_ne_zero _)

end Reading

end BatchExec
