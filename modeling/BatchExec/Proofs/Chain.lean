import Mathlib.Logic.Relation

/-!
# Chains of steps

A run goes from state to state: after each one comes at most one other, and after the last one none.

* `Chain`: one state comes before another, or it is the same.
* `Chain.before_last`: **every state of a run comes before its last one.**
* `Chain.exists_gain`: **a property that a run gains is gained in some step.**
* `Chain.exists_entry`: **an entry that a log gains is added to it in some step.**
* `Chain.exists_peak`: **the peak of a counter is reached in some state.**
-/

namespace BatchExec

variable {State : Type} {next : State → Option State} {s t last : State}

/-- One state of a run comes before another, or it is the same; `next` tells what comes right after
a state. -/
abbrev Chain (next : State → Option State) : State → State → Prop :=
  Relation.ReflTransGen fun s t => next s = some t

namespace Chain

theorem head {u : State} (step : next s = some t) (chain : Chain next t u) : Chain next s u :=
  Relation.ReflTransGen.head step chain

theorem tail {u : State} (chain : Chain next s t) (step : next t = some u) : Chain next s u :=
  Relation.ReflTransGen.tail chain step

/-- **Every state of a run comes before its last one.** -/
theorem before_last (passes : Chain next s t) (ends : Chain next s last)
    (halted : next last = none) : Chain next t last := by
  have unique : Relator.RightUnique fun s t => next s = some t := by
    intro a b c first second
    exact Option.some.inj (first.symm.trans second)
  rcases Relation.ReflTransGen.total_of_right_unique unique passes ends with before | after
  · exact before
  · rcases Relation.ReflTransGen.cases_head after with same | ⟨u, step, -⟩
    · exact same ▸ .refl
    · exact absurd (halted.symm.trans step) (Option.some_ne_none u).symm

/-- **A property that a run gains is gained in some step.** -/
theorem exists_gain (P : State → Prop) (chain : Chain next s last) (early : ¬ P s) (late : P last) :
    ∃ t u, Chain next s t ∧ next t = some u ∧ Chain next u last ∧ ¬ P t ∧ P u := by
  induction chain with
  | refl => exact absurd late early
  | @tail t u before step ih =>
    by_cases already : P t
    · obtain ⟨v, w, first, gain, rest, lacks, has⟩ := ih already
      exact ⟨v, w, first, gain, tail rest step, lacks, has⟩
    · exact ⟨t, u, before, step, .refl, already, late⟩

/-- **An entry that a log gains is added to it in some step**, if no step takes anything back. -/
theorem exists_entry {Entry : Type} (log : State → List Entry)
    (grows : ∀ {t u}, Chain next s t → next t = some u → Chain next u last → log t <+: log u)
    (chain : Chain next s last) {before after : List Entry} {x : Entry}
    (split : log last = before ++ x :: after) (early : ¬ before ++ [x] <+: log s) :
    ∃ t u first rest, Chain next s t ∧ next t = some u ∧ Chain next u last ∧
      before = log t ++ first ∧ log u = log t ++ (first ++ x :: rest) := by
  have late : before ++ [x] <+: log last := ⟨after, by rw [split, List.append_assoc]; rfl⟩
  obtain ⟨t, u, reached, step, later, lacks, has⟩ :=
    exists_gain (before ++ [x] <+: log ·) chain early late
  have within : log t <+: before := by
    rcases List.prefix_or_prefix_of_prefix (grows reached step later) has with short | long
    · rcases List.prefix_concat_iff.mp short with all | part
      · exact absurd (all ▸ List.prefix_rfl) lacks
      · exact part
    · exact absurd long lacks
  obtain ⟨first, rfl⟩ := within
  obtain ⟨rest, all⟩ := has
  refine ⟨t, u, first, rest, reached, step, later, rfl, ?_⟩
  rw [← all, List.append_assoc, List.append_assoc]
  rfl

/-- The peak of a counter never falls, if it keeps up with the counter. -/
theorem peak_le (active peak : State → Int)
    (grows : ∀ {a b}, next a = some b → peak b = peak a ∨ peak b = max (peak a) (active b))
    (chain : Chain next s t) : peak s ≤ peak t := by
  induction chain with
  | refl => exact Int.le_refl _
  | @tail a b _ step ih =>
    have := grows step
    omega

/-- **The peak of a counter is reached in some state**, if it grows only with the counter. -/
theorem exists_peak (active peak : State → Int) (start : peak s = active s)
    (grows : ∀ {a b}, next a = some b → peak b = peak a ∨ peak b = max (peak a) (active b))
    (chain : Chain next s t) : ∃ u, Chain next s u ∧ active u = peak t := by
  induction chain with
  | refl => exact ⟨s, .refl, start.symm⟩
  | @tail a b before step ih =>
    by_cases same : peak b = peak a
    · rw [same]
      exact ih
    · have := grows step
      exact ⟨b, tail before step, by omega⟩

end Chain

end BatchExec
