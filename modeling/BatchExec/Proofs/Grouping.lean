import BatchExec.Proofs.BackPressure

/-!
# Groups are complete, and come as early as they can

Items are grouped in the order in which they come. Every group but the last one is full, none is
empty and none is missing. A group is handed out when its last item has been taken, so it does not
matter what comes after it: more items, the end, a failure, or items without end.

* `Answers`: what a source does whenever it is asked for an item; it may go on for ever.
* `Answers.pull`: asks for items one by one until so many groups are complete.
* `Answers.pull_of_items`: **so many groups need so many items**, and no more are taken.
* `Answers.pull_congr`: **what comes after the last item of a group does not matter to it.**
* `ItemSource.pull_eq`: grouping what is known of a source is grouping its answers.
* `ItemSource.group_of_failure`: **a failure only drops the items that do not fill a group.**
* `ItemSource.groups_complete`: **grouping loses, adds and delays nothing.**
-/

namespace BatchExec

/-! ## Groups on demand -/

/-- What a source does when it is asked for an item. -/
inductive Answer where
  | item (text : Text)
  | ends
  | fails (failure : Failure)
  deriving DecidableEq, Repr

/-- A group is its position, its items and the number of items taken by then. -/
theorem Grouped.eq_of {g h : Grouped} (index : g.batch.index = h.batch.index)
    (items : g.batch.items = h.batch.items) (taken : g.taken = h.taken) : g = h := by
  obtain ⟨⟨_, _, _⟩, _⟩ := g
  obtain ⟨⟨_, _, _⟩, _⟩ := h
  cases index
  cases items
  cases taken
  rfl

/-- The full group at a position of a sequence of items. -/
def fullGroup {size : Nat} (positive : 0 < size) (item : Nat → Text) (k : Nat) : Grouped where
  batch := ⟨k, (List.range size).map fun i => item (size * k + i), by simp; omega⟩
  taken := size * (k + 1)

/-- What comes of asking for items until a group is complete. -/
inductive Gathered where
  | group (g : Grouped)
  /-- The source ends or fails after so many items. -/
  | stopped (taken : Nat) (failure : Option Failure)
  deriving DecidableEq, Repr

/-- What a source does when it is asked for the item at a position. It may never end. -/
abbrev Answers := Nat → Answer

namespace Answers

/-- Asks for items of which `pending` are in the current batch already, and `room` more go into it
before the one that completes it. -/
def gather (answers : Answers) (index : Nat) :
    (room taken : Nat) → (pending : List Text) → Gathered
  | room, taken, pending =>
    match answers taken with
    | .item text =>
      match room with
      | 0 => .group ⟨⟨index, pending ++ [text], List.concat_ne_nil text pending⟩, taken + 1⟩
      | room + 1 => gather answers index room (taken + 1) (pending ++ [text])
    | .ends => if h : pending ≠ [] then .group ⟨⟨index, pending, h⟩, taken⟩ else .stopped taken none
    | .fails failure => .stopped taken (some failure)

/-- Asks for so many batches of at most `size` items, of which the first has position `index`. -/
def pullFrom (answers : Answers) (size : Nat) : (count index taken : Nat) → ItemSource.Pulled
  | 0, _, taken => { batches := [], taken }
  | count + 1, index, taken =>
    match answers.gather index (size - 1) taken [] with
    | .group g =>
      let later := pullFrom answers size count (index + 1) g.taken
      { later with batches := g :: later.batches }
    | .stopped taken failure => { batches := [], taken, failure }

/-- Asks for so many batches of at most `size` items, and for no item that they do not need. -/
def pull (answers : Answers) (size count : Nat) : ItemSource.Pulled :=
  answers.pullFrom size count 0 0

variable {answers : Answers} {index room taken : Nat} {pending : List Text}

/-- A group needs no more items than there is room for. -/
theorem taken_gather {g : Grouped} (gathered : answers.gather index room taken pending = .group g) :
    g.taken ≤ taken + room + 1 := by
  fun_induction gather answers index room taken pending with
  | case1 taken pending text _ =>
    cases gathered
    simp
  | case2 taken pending text _ room ih =>
    have later := ih gathered
    omega
  | case3 room taken pending _ some =>
    cases gathered
    simp
    omega
  | case4 => cases gathered
  | case5 => cases gathered

/-- Only the answers for the items of a group matter to it. -/
theorem gather_congr {answers' : Answers}
    (alike : ∀ p ≤ taken + room, taken ≤ p → answers p = answers' p) :
    answers.gather index room taken pending = answers'.gather index room taken pending := by
  induction room generalizing taken pending with
  | zero =>
    unfold gather
    rw [alike taken le_rfl le_rfl]
  | succ room ih =>
    have later (text : Text) : answers.gather index room (taken + 1) (pending ++ [text]) =
        answers'.gather index room (taken + 1) (pending ++ [text]) :=
      ih fun p last first => alike p (by omega) (by omega)
    unfold gather
    rw [alike taken (by omega) le_rfl]
    cases answers' taken with
    | item text => exact later text
    | ends => rfl
    | fails failure => rfl

/-- As long as items come, a group gets all that there is room for. -/
theorem gather_of_items {item : Nat → Text}
    (items : ∀ p ≤ taken + room, taken ≤ p → answers p = .item (item p)) :
    ∃ g, answers.gather index room taken pending = .group g ∧ g.batch.index = index ∧
      g.batch.items = pending ++ (List.range (room + 1)).map (fun i => item (taken + i)) ∧
      g.taken = taken + room + 1 := by
  induction room generalizing taken pending with
  | zero =>
    unfold gather
    rw [items taken le_rfl le_rfl]
    exact ⟨_, rfl, rfl, by simp, rfl⟩
  | succ room ih =>
    obtain ⟨g, gathered, position, content, last⟩ :=
      @ih (taken + 1) (pending ++ [item taken]) fun p last first =>
        items p (by omega) (by omega)
    unfold gather
    rw [items taken (by omega) le_rfl]
    refine ⟨g, gathered, position, ?_, by omega⟩
    rw [content, List.range_succ_eq_map (n := room + 1)]
    simp [Function.comp_def, Nat.add_assoc, Nat.add_comm 1]

variable {size count : Nat}

theorem pullFrom_congr (positive : 0 < size) {answers' : Answers}
    (alike : ∀ p < taken + size * count, answers p = answers' p) :
    answers.pullFrom size count index taken = answers'.pullFrom size count index taken := by
  induction count generalizing index taken with
  | zero => rfl
  | succ count ih =>
    rw [Nat.mul_succ] at alike
    have same : answers.gather index (size - 1) taken [] =
        answers'.gather index (size - 1) taken [] :=
      gather_congr fun p last _ => alike p (by omega)
    unfold pullFrom
    rw [← same]
    cases gathered : answers.gather index (size - 1) taken [] with
    | group g =>
      have last := taken_gather gathered
      dsimp only
      rw [ih fun p before => alike p (by omega)]
    | stopped taken failure => rfl

/-- **What comes after the last item of a group does not matter to it.** -/
theorem pull_congr (positive : 0 < size) {answers' : Answers}
    (alike : ∀ p < size * count, answers p = answers' p) :
    answers.pull size count = answers'.pull size count :=
  pullFrom_congr positive fun p before => alike p (by omega)

theorem pullFrom_of_items (positive : 0 < size) {item : Nat → Text}
    (items : ∀ p < size * (index + count), answers p = .item (item p)) :
    answers.pullFrom size count index (size * index) =
      { batches := (List.range count).map fun k => fullGroup positive item (index + k)
        taken := size * (index + count) } := by
  induction count generalizing index with
  | zero => rfl
  | succ count ih =>
    have shift : index + (count + 1) = index + 1 + count := by omega
    rw [shift] at items ⊢
    have within : size * (index + 1) ≤ size * (index + 1 + count) :=
      Nat.mul_le_mul_left size (by omega)
    have next : size * (index + 1) = size * index + size := Nat.mul_succ size index
    obtain ⟨g, gathered, position, content, last⟩ :=
      @gather_of_items answers index (size - 1) (size * index) [] item fun p last _ =>
        items p (by omega)
    have whole : size - 1 + 1 = size := by omega
    have full : g = fullGroup positive item index := by
      refine Grouped.eq_of position ?_ (by rw [last]; simp only [fullGroup]; omega)
      rw [content, whole]
      rfl
    have behind : (fullGroup positive item index).taken = size * (index + 1) := rfl
    unfold pullFrom
    rw [gathered, full]
    dsimp only
    rw [behind, ih items, List.range_succ_eq_map]
    simp [Function.comp_def, Nat.add_assoc, Nat.add_comm 1]

/-- **So many groups need so many items**, and no more are taken. -/
theorem pull_of_items (positive : 0 < size) {item : Nat → Text}
    (items : ∀ p < size * count, answers p = .item (item p)) :
    answers.pull size count =
      { batches := (List.range count).map (fullGroup positive item), taken := size * count } := by
  have pulled : answers.pullFrom size count 0 (size * 0) = _ :=
    pullFrom_of_items positive (by simpa using items)
  simpa [pull] using pulled

end Answers

namespace ItemSource

/-- What a source does when it is asked for the item at a position. -/
def answer (source : ItemSource) (position : Nat) : Answer :=
  match source.items[position]?, source.failure with
  | some text, _ => .item text
  | none, none => .ends
  | none, some failure => .fails failure

/-! ## Sources of which all is known -/

section Known

variable {source : ItemSource} {size count index room taken : Nat} {pending : List Text}

theorem answer_of_lt (within : taken < source.items.length) :
    source.answer taken = .item source.items[taken] := by
  simp [answer, within]

theorem answer_of_le (behind : source.items.length ≤ taken) :
    source.answer taken = source.failure.elim .ends .fails := by
  have none : source.items[taken]? = none := List.getElem?_eq_none behind
  unfold answer
  rw [none]
  cases source.failure <;> rfl

/-- What an answer tells of the items that have not been taken. -/
theorem answer_cases (source : ItemSource) (taken : Nat) :
    (∃ text, source.answer taken = .item text ∧ taken < source.items.length ∧
      source.items.drop taken = text :: source.items.drop (taken + 1)) ∨
    source.items.length ≤ taken := by
  rcases Nat.lt_or_ge taken source.items.length with within | behind
  · exact .inl ⟨_, answer_of_lt within, within, List.drop_eq_getElem_cons within⟩
  · exact .inr behind

/-- The group that is asked for is the first of those that the items are put into, and the later
ones are those of the items behind it. -/
def Begins (source : ItemSource) (size index room taken : Nat) (pending : List Text) : Prop :=
  let grouped := groupFrom size source.failure.isNone
  match Answers.gather source.answer index room taken pending with
  | .group g => g.taken ≤ source.items.length ∧
      grouped index taken room pending (source.items.drop taken) =
        g :: grouped (index + 1) g.taken (size - 1) [] (source.items.drop g.taken)
  | .stopped last failure => last = source.items.length ∧ failure = source.failure ∧
      grouped index taken room pending (source.items.drop taken) = []

/-- When the source is over, what is pending is the last group, or lost with a failure. -/
theorem begins_of_ended (within : taken ≤ source.items.length)
    (behind : source.items.length ≤ taken) : source.Begins size index room taken pending := by
  have all : taken = source.items.length := Nat.le_antisymm within behind
  have none : source.items.drop taken = [] := List.drop_of_length_le behind
  have asked := answer_of_le behind
  unfold Begins Answers.gather
  rw [asked, none]
  cases failed : source.failure with
  | some failure => simp [groupFrom, all]
  | none =>
    by_cases some : pending ≠ []
    · simp [groupFrom, some, all]
    · simp [groupFrom, some, all]

theorem begins (within : taken ≤ source.items.length) :
    source.Begins size index room taken pending := by
  induction room generalizing taken pending with
  | zero =>
    rcases source.answer_cases taken with ⟨text, asked, more, rest⟩ | behind
    · unfold Begins Answers.gather
      rw [asked, rest]
      exact ⟨more, rfl⟩
    · exact begins_of_ended within behind
  | succ room ih =>
    rcases source.answer_cases taken with ⟨text, asked, more, rest⟩ | behind
    · have later : source.Begins size index room (taken + 1) (pending ++ [text]) := ih more
      unfold Begins Answers.gather
      rw [asked, rest]
      exact later
    · exact begins_of_ended within behind

/-- Hands out so many of the batches to come, or all of them if there are fewer. -/
def handOut (source : ItemSource) (taken : Nat) (later : List Grouped) : Nat → Pulled
  | 0 => { batches := [], taken }
  | count + 1 =>
    match later[count]? with
    | some last => { batches := later.take (count + 1), taken := last.taken }
    | none => ⟨later, source.items.length, source.failure⟩

theorem handOut_cons (source : ItemSource) (taken : Nat) (g : Grouped) (later : List Grouped)
    (count : Nat) : source.handOut taken (g :: later) (count + 1) =
      { source.handOut g.taken later count with
        batches := g :: (source.handOut g.taken later count).batches } := by
  cases count with
  | zero => rfl
  | succ count =>
    dsimp only [handOut]
    rw [List.getElem?_cons_succ]
    cases later[count]? <;> rfl

theorem pullFrom_answer (within : taken ≤ source.items.length) :
    Answers.pullFrom source.answer size count index taken =
      source.handOut taken (groupFrom size source.failure.isNone index taken (size - 1) []
        (source.items.drop taken)) count := by
  induction count generalizing index taken with
  | zero => rfl
  | succ count ih =>
    have first : source.Begins size index (size - 1) taken [] := begins within
    unfold Begins at first
    unfold Answers.pullFrom
    cases gathered : Answers.gather source.answer index (size - 1) taken [] with
    | group g =>
      rw [gathered] at first
      obtain ⟨more, grouped⟩ := first
      rw [grouped, handOut_cons, ← ih more]
    | stopped last failure =>
      rw [gathered] at first
      obtain ⟨rfl, rfl, none⟩ := first
      rw [none]
      rfl

/-- **Grouping what is known of a source is grouping its answers**, one by one. -/
theorem pull_eq (source : ItemSource) (size count : Nat) :
    source.pull size (some count) = Answers.pull source.answer size count := by
  have handed : source.pull size (some count) = source.handOut 0 (source.group size) count := by
    cases count <;> rfl
  rw [handed]
  exact (pullFrom_answer (Nat.zero_le _)).symm

theorem batches_pull (source : ItemSource) (size count : Nat) :
    (source.pull size (some count)).batches = (source.group size).take count := by
  cases count with
  | zero => rfl
  | succ count =>
    unfold pull
    dsimp only
    cases last : (source.group size)[count]? with
    | some g => rfl
    | none =>
      have short : (source.group size).length ≤ count := List.getElem?_eq_none_iff.mp last
      exact (List.take_of_length_le (Nat.le_succ_of_le short)).symm

end Known

/-! ## All groups -/

variable {size : Nat} (positive : 0 < size)
include positive

omit positive in
/-- What is left over when a source fails is the only difference that a failure makes. -/
theorem groupFrom_false (index taken room : Nat) (pending items : List Text)
    (full : pending.length + room + 1 = size) :
    groupFrom size false index taken room pending items =
      (groupFrom size true index taken room pending items).take
        ((pending.length + items.length) / size) := by
  have positive : 0 < size := by omega
  fun_induction groupFrom size false index taken room pending items with
  | case1 _ _ _ _ _ open' => cases open'
  | case2 _ _ _ pending some =>
    have none : (pending.length + 0) / size = 0 := Nat.div_eq_of_lt (by omega)
    rw [List.length_nil, none]
    rfl
  | case3 _ _ _ pending none => simp [groupFrom, none]
  | case4 index taken pending item rest ih =>
    have count : (pending.length + (rest.length + 1)) / size = rest.length / size + 1 := by
      rw [← Nat.add_div_right _ positive]
      congr 1
      omega
    rw [ih (by simp; omega), List.length_cons, count]
    simp [groupFrom]
  | case5 index taken pending item rest room ih =>
    rw [ih (by simp; omega)]
    simp [groupFrom, Nat.add_assoc, Nat.add_comm 1]

/-- **A failure only drops the items that do not fill a group.** -/
theorem group_of_failure (items : List Text) (failure : Failure) :
    group ⟨items, some failure⟩ size =
      (group ⟨items, none⟩ size).take (items.length / size) := by
  simpa [group] using groupFrom_false 0 0 (size - 1) [] items (by simp; omega)

/-- A group of a source that ends. -/
theorem getElem?_group (items : List Text) {k : Nat} {g : Grouped}
    (nth : (group ⟨items, none⟩ size)[k]? = some g) :
    g.batch.index = k ∧ g.batch.items = slice size items k ∧
      g.taken = min items.length (size * (k + 1)) := by
  obtain ⟨bound, rfl⟩ := List.getElem?_eq_some_iff.mp nth
  refine ⟨?_, ?_, ?_⟩
  · have counted := numbered_group ⟨items, none⟩ size k (by simpa using bound)
    rwa [List.getElem_map] at counted
  · have cut := congrArg (·[k]?) (map_items_group positive items)
    simp only [slices, List.getElem?_map, nth, Option.map_some] at cut
    obtain ⟨j, here, same⟩ := Option.map_eq_some_iff.mp cut.symm
    obtain ⟨_, rfl⟩ := List.getElem?_eq_some_iff.mp here
    simpa using same.symm
  · have counted := taken_groupFrom positive true 0 0 (size - 1) [] items k
    rw [show groupFrom size true 0 0 (size - 1) [] items = group ⟨items, none⟩ size from rfl, nth,
      Option.elim_some, Nat.zero_add] at counted
    rw [counted, Nat.mul_succ, Nat.mul_comm k]
    congr 1
    omega

/-- The number of groups of a source that ends. -/
theorem length_group (items : List Text) :
    (group ⟨items, none⟩ size).length = groups size items := by
  simpa [slices] using congrArg List.length (map_items_group positive items)

/-- Every group but the last one is full, and it is handed out when its last item has been taken. -/
theorem size_of_getElem? (items : List Text) {k : Nat} {g : Grouped}
    (nth : (group ⟨items, none⟩ size)[k]? = some g) :
    g.taken = size * k + g.batch.size ∧ 0 < g.batch.size ∧ g.batch.size ≤ size ∧
      (k + 1 < (group ⟨items, none⟩ size).length → g.batch.size = size) := by
  obtain ⟨-, cut, taken⟩ := getElem?_group positive items nth
  have some : 0 < g.batch.size := List.length_pos_iff.mpr g.batch.nonempty
  have count : g.batch.size = min size (items.length - size * k) := by
    rw [Batch.size, cut, slice, List.length_take, List.length_drop, Nat.mul_comm k]
  rw [Nat.mul_succ] at taken
  refine ⟨by omega, some, by omega, fun more => ?_⟩
  rw [length_group positive, groups, Nat.lt_div_iff_mul_lt positive] at more
  have behind : size * k + size < items.length := by
    rw [Nat.mul_comm, Nat.mul_succ] at more
    omega
  omega

theorem pull?_of_pos (source : ItemSource) (count : Option Nat) :
    source.pull? size count = .ok (source.pull size count) := by
  unfold pull?
  rw [if_neg (by omega), Int.toNat_natCast]

/-- When a source fails all groups are full, and no full one is missing. -/
theorem group_of_failure_eq (items : List Text) (failure : Failure) :
    group ⟨items, some failure⟩ size =
      (List.range (items.length / size)).map (fullGroup positive (items.getD · [])) := by
  have whole : size * (items.length / size) ≤ items.length := Nat.mul_div_le _ _
  have answers : ∀ p < size * (items.length / size),
      answer ⟨items, some failure⟩ p = .item (items.getD p []) := by
    intro p before
    have within : p < items.length := before.trans_le whole
    have asked : answer ⟨items, some failure⟩ p = .item items[p] := answer_of_lt within
    rw [asked]
    simp [within]
  have all : (group ⟨items, some failure⟩ size).take (items.length / size) =
      group ⟨items, some failure⟩ size := by
    rw [group_of_failure positive, List.take_take, Nat.min_self]
  rw [← all, ← batches_pull, pull_eq, Answers.pull_of_items positive answers]

/-- **Grouping loses, adds and delays nothing.** A source is asked for items one by one. As long as
items come, if need be for ever, each full group is handed out when its last item has been taken,
and what the source does later does not matter. If the source ends, the groups hold all of its items
and only the last group may be short. If it fails, all full groups are handed out, and then the
failure is passed on. -/
theorem groups_complete :
    (∀ (source : ItemSource) (count : Nat),
      source.pull? size (some count) = .ok (Answers.pull source.answer size count)) ∧
    (∀ (answers : Answers) (item : Nat → Text) (count : Nat),
      (∀ p < size * count, answers p = .item (item p)) →
        answers.pull size count =
          { batches := (List.range count).map (fullGroup positive item), taken := size * count }) ∧
    (∀ (answers answers' : Answers) (count : Nat),
      (∀ p < size * count, answers p = answers' p) →
        answers.pull size count = answers'.pull size count) ∧
    (∀ items : List Text, ∃ batches,
      pull? ⟨items, none⟩ size none = .ok { batches, taken := items.length } ∧
      (batches.flatMap fun g => g.batch.items) = items ∧
      ∀ (k : Nat) g, batches[k]? = some g →
        g.batch.index = (k : Int) ∧ g.taken = size * k + g.batch.size ∧
        0 < g.batch.size ∧ g.batch.size ≤ size ∧
        (k + 1 < batches.length → g.batch.size = size)) ∧
    ∀ (items : List Text) (failure : Failure),
      pull? ⟨items, some failure⟩ size none = .ok
        { batches := (List.range (items.length / size)).map (fullGroup positive (items.getD · []))
          taken := items.length
          failure := some failure } := by
  refine ⟨fun source count => ?_, fun answers item count items => ?_,
    fun answers answers' count alike => ?_, fun items => ?_, fun items failure => ?_⟩
  · rw [pull?_of_pos positive, pull_eq]
  · exact Answers.pull_of_items positive items
  · exact Answers.pull_congr positive alike
  · exact ⟨group ⟨items, none⟩ size, pull?_of_pos positive _ _, flatMap_group rfl size,
      fun k g nth => ⟨(getElem?_group positive items nth).1, size_of_getElem? positive items nth⟩⟩
  · rw [pull?_of_pos positive, ← group_of_failure_eq positive items failure]
    rfl

omit positive

/-- A source of numerals without end. -/
def numerals : Answers := fun p => .item (Text.ofNat p)

/-- A source of five numerals that fails when it is asked for one more. -/
def fiveNumerals : ItemSource where
  items := (List.range 5).map Text.ofNat
  failure := some (.saying "OSError" "read failed")

/-- Two pairs of numerals are complete when four have been taken, even if the numerals do not end.
If they end with a failure, the fifth one is lost. -/
theorem numerals_grouped : 0 < 2 ∧
    numerals.pull 2 2 =
      { batches := [⟨⟨0, ["0", "1"], by decide⟩, 2⟩, ⟨⟨1, ["2", "3"], by decide⟩, 4⟩]
        taken := 4 } ∧
    fiveNumerals.pull? 2 none = .ok
      { batches := [⟨⟨0, ["0", "1"], by decide⟩, 2⟩, ⟨⟨1, ["2", "3"], by decide⟩, 4⟩]
        taken := 5
        failure := fiveNumerals.failure } := by
  have positive : 0 < 2 := by decide
  obtain ⟨-, endless, -, -, failing⟩ := groups_complete positive
  exact ⟨positive, endless numerals Text.ofNat 2 fun p before => rfl, failing _ _⟩

end ItemSource

end BatchExec
