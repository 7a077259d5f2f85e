import BatchExec.Options.Parser
import BatchExec.Value

/-!
# Integers that are read

An integer that is read from a text has so few digits that it can be shown again.

* `Text.ofDigits_lt`: a number with so many digits is less than a power of ten.
* `Text.showable_of_toInt?`: **an integer that is read from a text can be shown.**
* `Arguments.showable_of_read`: **the integers of a command line can be shown.**
-/

namespace BatchExec

/-! ## Steps that may fail -/

@[simp]
theorem mapError_ok {α ε ε' : Type} (f : ε → ε') (a : α) :
    (Except.ok a).mapError f = .ok a := rfl

@[simp]
theorem mapError_error {α ε ε' : Type} (f : ε → ε') (e : ε) :
    (Except.error e : Except ε α).mapError f = .error (f e) := rfl

theorem ok_of_bind {α β ε : Type} {x : Except ε α} {f : α → Except ε β} {b : β}
    (ok : (x >>= f) = .ok b) : ∃ a, x = .ok a ∧ f a = .ok b := by
  cases x with
  | error e => contradiction
  | ok a => exact ⟨a, rfl, ok⟩

theorem bind_of_ok {α β ε : Type} {x : Except ε α} {a : α} (ok : x = .ok a)
    {f : α → Except ε β} : (x >>= f) = f a := by
  rw [ok]
  rfl

theorem ok_of_mapError {α ε ε' : Type} {x : Except ε α} {f : ε → ε'} {a : α}
    (ok : x.mapError f = .ok a) : x = .ok a := by
  cases x with
  | error e => contradiction
  | ok b => exact congrArg Except.ok (Except.ok.inj ok)

/-! ## Digits -/

theorem CodePoint.digitValue?_lt {c : CodePoint} {digit : Nat}
    (value : c.digitValue? = some digit) : digit < 10 := by
  obtain ⟨first, found, rfl⟩ := Option.map_eq_some_iff.mp value
  have row := List.find?_some found
  simp only [Bool.and_eq_true, decide_eq_true_eq] at row
  omega

namespace Text

theorem digits?_lt {t : Text} {digits : List Nat} (read : digits? t = some digits) :
    ∀ digit ∈ digits, digit < 10 := by
  fun_induction digits? t generalizing digits with
  | case1 => contradiction
  | case2 c rest ih =>
    obtain ⟨digit, value, read⟩ := Option.bind_eq_some_iff.mp read
    have first := CodePoint.digitValue?_lt value
    cases rest with
    | nil =>
      cases read
      simpa using first
    | cons next rest =>
      dsimp only at read
      -- the digits go on behind an underscore or at once
      split at read
      all_goals
        obtain ⟨later, found, same⟩ := Option.bind_eq_some_iff.mp read
        cases same
        refine List.forall_mem_cons.mpr ⟨first, ?_⟩
      · exact ih.1 found
      · exact ih.2 found

/-- **A number with so many digits is less than a power of ten.** -/
theorem ofDigits_lt {digits : List Nat} (decimal : ∀ digit ∈ digits, digit < 10) :
    ofDigits digits < Nat.pow 10 digits.length := by
  -- the digits may follow a number that has been read before
  suffices ∀ n, digits.foldl (fun n digit => n * 10 + digit) n < (n + 1) * 10 ^ digits.length by
    simpa [ofDigits] using this 0
  induction digits with
  | nil => simp
  | cons digit digits ih =>
    intro n
    obtain ⟨small, decimal⟩ := List.forall_mem_cons.mp decimal
    calc (digit :: digits).foldl (fun n digit => n * 10 + digit) n
        < (n * 10 + digit + 1) * 10 ^ digits.length := ih decimal _
      _ ≤ ((n + 1) * 10) * 10 ^ digits.length := Nat.mul_le_mul_right _ (by omega)
      _ = (n + 1) * 10 ^ (digit :: digits).length := by
        rw [List.length_cons, Nat.pow_succ', Nat.mul_assoc]

/-- **An integer that is read from a text can be shown.** -/
theorem showable_of_toInt? {t : Text} {n : Int} (read : t.toInt? = some n) :
    (Value.int n).showable = true := by
  obtain ⟨digits, found, read⟩ := Option.bind_eq_some_iff.mp read
  have decimal := ofDigits_lt (digits?_lt found)
  have positive : 0 < maxIntegerDigits := by decide
  rw [Value.showable, decide_eq_true_eq, ofNat, List.length_map]
  generalize maxIntegerDigits = most at read positive
  split at read
  · rename_i few
    refine (Nat.length_toDigits_le_iff (by decide) positive).mpr (Nat.lt_of_lt_of_le ?_
      (Nat.pow_le_pow_right (by decide) few))
    have signed (negative : Bool) :
        (if negative then -(ofDigits digits : Int) else ofDigits digits).natAbs =
          ofDigits digits := by
      cases negative <;> simp
    rw [← Option.some.inj read, signed]
    exact decimal
  · contradiction

end Text

/-! ## Command lines -/

namespace Arguments

/-- What holds of the arguments of a command line, whatever its options are, if every option keeps
it. -/
theorem readWords_keeps {P : Arguments → Prop}
    (flag : ∀ {a a' : Arguments} {o}, a.addFlag o = .ok a' → P a → P a')
    (value : ∀ {a a' : Arguments} {o text}, a.addValue o text = .ok a' → P a → P a')
    (command : ∀ {a : Arguments} {words}, P a → P { a with command := words })
    {a a' : Arguments} {unknown unknown' : List Text} {kinds : List (Text × OptionWord)}
    (ok : readWords a unknown kinds = .ok (a', unknown')) (holds : P a) : P a' := by
  have flags {a a' : Arguments} {options : List CommandOption} (ok : a.addFlags options = .ok a')
      (holds : P a) : P a' := by
    induction options generalizing a with
    | nil => exact Except.ok.inj ok ▸ holds
    | cons o options ih =>
      obtain ⟨b, added, ok⟩ := ok_of_bind ok
      exact ih ok (flag added holds)
  fun_induction readWords a unknown kinds with
  | case1 a unknown =>
    cases ok
    exact holds
  | case2 a unknown word rest option ih => exact ih ok holds
  | case3 a unknown word kind rest option known =>
    cases ok
    exact command holds
  | case4 | case6 => cases ok
  | case5 a unknown word kind flags' o option text rest ih =>
    obtain ⟨b, flagged, ok⟩ := ok_of_bind ok
    obtain ⟨c, valued, ok⟩ := ok_of_bind ok
    exact ih c ok (value valued (flags flagged holds))
  | case7 a unknown word kind rest flags' o text option ih =>
    obtain ⟨b, flagged, ok⟩ := ok_of_bind ok
    obtain ⟨c, valued, ok⟩ := ok_of_bind ok
    exact ih c ok (value valued (flags flagged holds))
  | case8 a unknown word kind rest flags' o option ih =>
    obtain ⟨b, flagged, ok⟩ := ok_of_bind ok
    obtain ⟨c, added, ok⟩ := ok_of_bind ok
    exact ih c ok (flag added (flags flagged holds))

/-- The integers that are asked for can be shown. -/
structure Showable (a : Arguments) : Prop where
  maxArgs : ∀ n, a.maxArgs = some (.given n) → (Value.int n).showable = true
  maxProcs : ∀ n, a.maxProcs = some (.given n) → (Value.int n).showable = true

theorem showable_of_readValue {error : Text → UsageError} {text : OptionValue Text}
    {value : OptionValue Int} (read : readValue Text.toInt? error text = .ok value) :
    ∀ n, some value = some (.given n) → (Value.int n).showable = true := by
  rintro n ⟨⟩
  cases text with
  | empty => cases read
  | given text =>
    unfold readValue at read
    dsimp only at read
    split at read
    · rename_i found
      cases read
      exact Text.showable_of_toInt? found
    · contradiction

theorem Showable.addFlag {a a' : Arguments} {o : CommandOption} (ok : a.addFlag o = .ok a')
    (holds : a.Showable) : a'.Showable := by
  unfold Arguments.addFlag at ok
  split at ok
  · contradiction
  · contradiction
  · split at ok
    · contradiction
    · cases ok
      exact ⟨holds.maxArgs, holds.maxProcs⟩
  all_goals
    cases ok
    exact ⟨holds.maxArgs, holds.maxProcs⟩

theorem Showable.addValue {a a' : Arguments} {o : CommandOption} {text : OptionValue Text}
    (ok : a.addValue o text = .ok a') (holds : a.Showable) : a'.Showable := by
  cases o with
  | maxArgs =>
    obtain ⟨value, read, same⟩ := ok_of_bind ok
    cases same
    exact ⟨showable_of_readValue read, holds.maxProcs⟩
  | maxProcs =>
    obtain ⟨value, read, same⟩ := ok_of_bind ok
    cases same
    exact ⟨holds.maxArgs, showable_of_readValue read⟩
  | timeout | logLevel =>
    obtain ⟨value, read, same⟩ := ok_of_bind ok
    cases same
    exact ⟨holds.maxArgs, holds.maxProcs⟩
  | delimiter =>
    unfold Arguments.addValue at ok
    dsimp only at ok
    split at ok
    · contradiction
    · cases ok
      exact ⟨holds.maxArgs, holds.maxProcs⟩
  | eof | argFile | help | null | verbose | stopOnError | progress | version =>
    cases ok
    exact ⟨holds.maxArgs, holds.maxProcs⟩

/-- **The integers of a command line can be shown.** -/
theorem showable_of_read {words : List Text} {a : Arguments} (accepted : read words = .ok a) :
    a.Showable := by
  obtain ⟨kinds, -, accepted⟩ := ok_of_bind accepted
  obtain ⟨⟨a', unknown⟩, ok, accepted⟩ := ok_of_bind accepted
  dsimp only at accepted
  split at accepted
  · cases accepted
    exact readWords_keeps Showable.addFlag Showable.addValue
      (fun holds => ⟨holds.maxArgs, holds.maxProcs⟩) ok ⟨nofun, nofun⟩
  · contradiction

end Arguments

end BatchExec
