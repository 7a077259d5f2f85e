import BatchExec.Items

/-!
# Texts divided by a separator

A separator may be any text that is not empty, and may overlap itself. A text is divided at the
first occurrence of its separator, then at the first one behind that, and so on. Input comes in
chunks, and what is behind the last occurrence in a chunk waits for the next one. Whatever follows,
an occurrence that was the first one stays the first one; so it does not matter where a chunk ends.

* `Text.Divided`: a text with its pieces.
* `Text.divided_iff`: **splitting gives the pieces of a text, and there are no others.**
* `Text.Divided.append`: **pieces that have ended stay as they are, whatever follows.**
* `Reading.items_divided`: **chunks do not matter to items.**
-/

namespace BatchExec

namespace Text

/-- A text is divided into pieces by the leftmost occurrences of a separator that do not overlap. -/
inductive Divided (separator : Text) : Text → List Text → Prop
  /-- There is no occurrence. -/
  | rest {t : Text} (free : ¬ separator <:+: t) : Divided separator t [t]
  /-- The first occurrence ends a piece, and what is behind it is divided. -/
  | piece {t piece later : Text} {pieces : List Text} (whole : t = piece ++ separator ++ later)
      (first : ∀ n < piece.length, ¬ separator <+: t.drop n)
      (divided : Divided separator later pieces) : Divided separator t (piece :: pieces)

variable {separator t : Text} {pieces : List Text}

theorem prefix_drop_of_eq {piece later : Text} (whole : t = piece ++ separator ++ later) :
    separator <+: t.drop piece.length := by
  simp [whole]

/-- **A text is divided in one way only.** -/
theorem Divided.unique (divided : Divided separator t pieces) {others : List Text}
    (divided' : Divided separator t others) : pieces = others := by
  induction divided generalizing others with
  | rest free =>
    cases divided' with
    | rest => rfl
    | piece whole => exact absurd ⟨_, _, whole.symm⟩ free
  | @piece t piece later pieces whole first _ ih =>
    cases divided' with
    | rest free => exact absurd ⟨_, _, whole.symm⟩ free
    | @piece _ piece' later' pieces' whole' first' divided' =>
      -- neither of the two first occurrences is in front of the other
      have same : piece.length = piece'.length := by
        apply Nat.le_antisymm
        · exact Nat.not_lt.mp fun before => first _ before (prefix_drop_of_eq whole')
        · exact Nat.not_lt.mp fun before => first' _ before (prefix_drop_of_eq whole)
      have parts : piece ++ (separator ++ later) = piece' ++ (separator ++ later') := by
        simpa using whole.symm.trans whole'
      obtain ⟨rfl, behind⟩ := List.append_inj parts same
      obtain rfl := List.append_cancel_left behind
      rw [ih divided']

/-- **Pieces that have ended stay as they are**, whatever follows; only the last one goes on. -/
theorem Divided.append (divided : Divided separator t pieces) :
    ∃ ended last, pieces = ended ++ [last] ∧ ¬ separator <:+: last ∧ ∀ more later,
      Divided separator (last ++ more) later → Divided separator (t ++ more) (ended ++ later) := by
  induction divided with
  | @rest t free => exact ⟨[], t, rfl, free, fun more later divided => divided⟩
  | @piece t piece later pieces whole first _ ih =>
    obtain ⟨ended, last, rfl, free, goesOn⟩ := ih
    refine ⟨piece :: ended, last, rfl, free, fun more others divided => ?_⟩
    have whole' : t ++ more = piece ++ separator ++ (later ++ more) := by simp [whole]
    refine .piece whole' ?_ (goesOn more others divided)
    intro n before occurs
    -- an occurrence that begins in front of the first one ends within the text
    refine first n before ?_
    have long : separator.length ≤ (t.drop n).length := by
      simp [whole]
      omega
    rw [List.drop_append_of_le_length (by simp [whole]; omega)] at occurs
    exact List.prefix_of_prefix_length_le occurs (List.prefix_append _ _) long

/-- A character in front of a text belongs to the first piece, unless an occurrence begins there. -/
theorem Divided.cons (divided : Divided separator t pieces) {c : CodePoint}
    (other : ¬ separator <+: c :: t) : Divided separator (c :: t) (consHead c pieces) := by
  cases divided with
  | rest free =>
    refine .rest fun occurs => ?_
    rcases List.infix_cons_iff.mp occurs with here | later
    · exact other here
    · exact free later
  | @piece _ piece later pieces whole first divided =>
    have whole' : c :: t = (c :: piece) ++ separator ++ later := by simp [whole]
    refine .piece whole' ?_ divided
    intro n before occurs
    cases n with
    | zero => exact other occurs
    | succ n => exact first n (by simpa using before) (by simpa using occurs)

/-- Splitting gives the pieces of what is behind the code points that are left out. -/
theorem divided_splitFrom (some : separator ≠ []) {skip : Nat} (within : skip ≤ t.length) :
    Divided separator (t.drop skip) (splitFrom separator skip t) := by
  fun_induction splitFrom separator skip t with
  | case1 skip =>
    rw [List.drop_nil]
    exact .rest (by simpa using some)
  | case2 skip c rest ih => exact ih (by simpa using within)
  | case3 c rest occurs ih =>
    obtain ⟨later, whole⟩ := List.isPrefixOf_iff_prefix.mp occurs
    obtain ⟨d, others, rfl⟩ := List.exists_cons_of_ne_nil some
    obtain ⟨rfl, rfl⟩ : d = c ∧ others ++ later = rest := by simpa using whole
    have whole' : d :: (others ++ later) = [] ++ (d :: others) ++ later := by simp
    refine .piece whole' (by simp) ?_
    simpa using ih (by simp)
  | case4 c rest other ih =>
    exact (ih (Nat.zero_le _)).cons fun occurs => other (List.isPrefixOf_iff_prefix.mpr occurs)

/-- **Splitting gives the pieces of a text, and there are no others.** -/
theorem divided_iff (some : separator ≠ []) :
    Divided separator t pieces ↔ pieces = splitOn separator t := by
  have divided : Divided separator t (splitOn separator t) := divided_splitFrom some (Nat.zero_le _)
  constructor
  · intro divided'
    exact divided'.unique divided
  · rintro rfl
    exact divided

/-- No piece holds the separator. -/
theorem Divided.free (some : separator ≠ []) (divided : Divided separator t pieces) :
    ∀ piece ∈ pieces, ¬ separator <:+: piece := by
  induction divided with
  | rest free => simpa using free
  | @piece t piece later pieces whole first _ ih =>
    refine List.forall_mem_cons.mpr ⟨?_, ih⟩
    rintro ⟨before, behind, rfl⟩
    have long : 0 < separator.length := List.length_pos_iff.mpr some
    refine first before.length ?_ ?_
    · simp
      omega
    · simp [whole]

end Text

namespace Reading

variable {separator : Text}

theorem texts_prepend (items : List Item) (r : Reading) :
    (prepend items r).texts = items.map Item.text ++ r.texts := List.map_append

theorem error_terminatedFrom (some : separator ≠ []) (pending : Text) (chunks : List Text)
    (unread : Text) : (terminatedFrom separator pending chunks unread).error = none := by
  induction chunks generalizing pending unread with
  | nil => rfl
  | cons chunk later ih =>
    rw [terminatedFrom, if_neg some]
    exact ih _ _

/-- The pieces that end in a chunk are handed out with it; the last one is pending. -/
theorem terminatedFrom_cons (some : separator ≠ []) {pending chunk last : Text} {ended : List Text}
    (split : Text.splitOn separator (pending ++ chunk) = ended ++ [last]) (later : List Text)
    (unread : Text) :
    terminatedFrom separator pending (chunk :: later) unread =
      prepend ((ended.filter (· ≠ [])).map fun piece => ⟨piece, unread.drop chunk.length⟩)
        (terminatedFrom separator last later (unread.drop chunk.length)) := by
  simp [terminatedFrom, some, split]

/-- Chunks do not matter to items, even if the beginning of one is pending. -/
theorem texts_terminatedFrom (some : separator ≠ []) {pending : Text}
    (free : ¬ separator <:+: pending) (chunks : List Text) (unread : Text) {pieces : List Text}
    (divided : Text.Divided separator (pending ++ chunks.flatten) pieces) :
    (terminatedFrom separator pending chunks unread).texts = pieces.filter (· ≠ []) := by
  -- what is pending does not hold the separator, so only the next chunk can end it
  induction chunks generalizing pending unread pieces with
  | nil =>
    have single : pieces = [pending] :=
      divided.unique (by simpa using Text.Divided.rest free)
    by_cases none : pending = [] <;> simp [terminatedFrom, texts, none, single]
  | cons chunk later ih =>
    obtain ⟨ended, last, split, free', goesOn⟩ :=
      ((Text.divided_iff (t := pending ++ chunk) some).mpr rfl).append
    have later' : Text.Divided separator (last ++ later.flatten) _ :=
      (Text.divided_iff some).mpr rfl
    have same : pieces = ended ++ Text.splitOn separator (last ++ later.flatten) := by
      refine divided.unique ?_
      simpa using goesOn _ _ later'
    rw [terminatedFrom_cons some split, texts_prepend, ih free' _ later', same, List.filter_append,
      List.map_map]
    congr 1
    exact List.map_id _

/-- The items are the pieces of the whole text that are not empty. -/
theorem texts_terminated (some : separator ≠ []) {size : Nat} (positive : size ≠ 0)
    (input : Text) :
    (terminated separator size input).texts = (Text.splitOn separator input).filter (· ≠ []) := by
  refine texts_terminatedFrom some (by simpa using some) _ _ ?_
  rw [List.nil_append, Text.flatten_chunks positive]
  exact (Text.divided_iff some).mpr rfl

/-- **Chunks do not matter to items.** Whatever the size of the chunks, the items are the pieces of
the whole text that are not empty, and the text is divided into pieces in one way only. No item has
the separator in it. -/
theorem items_divided (some : separator ≠ []) (input : Text) :
    ∃ pieces, (∀ others, Text.Divided separator input others ↔ others = pieces) ∧
      ∀ size ≠ 0,
        (terminated separator size input).texts = pieces.filter (· ≠ []) ∧
        (terminated separator size input).error = none ∧
        ∀ item ∈ (terminated separator size input).texts, ¬ separator <:+: item := by
  have divided : Text.Divided separator input (Text.splitOn separator input) :=
    (Text.divided_iff some).mpr rfl
  refine ⟨Text.splitOn separator input, fun others => Text.divided_iff some, ?_⟩
  intro size positive
  have items := texts_terminated some positive input
  refine ⟨items, error_terminatedFrom some _ _ _, fun item mem => ?_⟩
  rw [items] at mem
  exact divided.free some item (List.mem_filter.mp mem).1

/-- A separator that overlaps itself is found where it occurs first, however the text is cut. -/
theorem overlapping_divided : ("aba" : Text) ≠ [] ∧
    Text.Divided "aba" "ababacaba" ["", "bac", ""] ∧
    (terminated "aba" 1 "ababacaba").texts = [("bac" : Text)] ∧
    (terminated "aba" 4 "ababacaba").texts = [("bac" : Text)] := by
  have some : ("aba" : Text) ≠ [] := by decide
  obtain ⟨pieces, unique, items⟩ := items_divided some "ababacaba"
  have divided : Text.Divided "aba" "ababacaba" ["", "bac", ""] :=
    (Text.divided_iff some).mpr (by decide)
  obtain rfl := (unique _).mp divided
  exact ⟨some, divided, (items 1 (by decide)).1, (items 4 (by decide)).1⟩

end Reading

end BatchExec
