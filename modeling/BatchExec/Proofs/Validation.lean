import BatchExec.Proofs.Configuration
import BatchExec.Proofs.Rounding

/-!
# Valid settings

Settings are checked field by field, and the first field without a valid value is reported. The
checks turn down what is known to be wrong. Of the numbers only one is neither right nor wrong by
that: a time limit that is not a number is not positive, and yet it is let through. A field is
reported with its value, and an integer with too many digits cannot be shown: then another error
says this, and no field is named.

* `Settings.Valid`: which values a field may have; `Settings.Passes`: which values are let through.
* `Settings.Judges`: an outcome that is due to a standard for fields.
* `Settings.validate_decides`: what is let through makes a configuration, the rest is refused.
* `Settings.Decides.judges_valid_iff`: when the outcome is due to what is valid.
* `Settings.completed`: settings filled in from environment variables.
* `Settings.validated`: **the checks accept exactly what passes, with and without environment.**
-/

namespace BatchExec

namespace Settings

/-! ## Standards -/

/-- A field that is checked. -/
inductive Field where
  | maxArgs
  | maxProcs
  | timeout
  | delimiter
  deriving DecidableEq

namespace Field

/-- What errors call a field. -/
def name : Field → Text
  | maxArgs => "max_args"
  | maxProcs => "max_procs"
  | timeout => "timeout"
  | delimiter => "delimiter"

/-- The place of a field in the order of the checks. -/
def rank : Field → Nat
  | maxArgs => 0
  | maxProcs => 1
  | timeout => 2
  | delimiter => 3

theorem rank_injective : Function.Injective rank := by
  intro f g same
  cases f <;> cases g <;> first | rfl | cases same

theorem name_injective : Function.Injective name := by
  intro f g same
  cases f <;> cases g <;> first | rfl | exact absurd same (by decide)

end Field

/-- The time limit, if it is one. -/
def limit? (s : Settings) : Option Seconds := s.timeout.bind Seconds.ofValue?

/-- The time limit is missing or a number of seconds. -/
def Timed (s : Settings) : Prop :=
  ∀ value ∈ s.timeout, value = .none ∨ ∃ limit, Seconds.ofValue? value = some limit

/-- An integer that is not too small, unless it is missing. -/
def AtLeast (least : Int) : Option Value → Prop
  | none => True
  | some (.int n) => least ≤ n
  | some _ => False

/-- The value of a field is valid. -/
def Valid (s : Settings) : Field → Prop
  | .maxArgs => AtLeast 1 s.maxArgs
  | .maxProcs => AtLeast 0 s.maxProcs
  | .timeout => ∀ limit ∈ s.limit?, limit.Positive
  | .delimiter =>
    if s.inputMode = .delimiter then ∃ c, s.delimiter = some [c] else s.delimiter = none

/-- The value of a field is let through: a valid one, and a time limit that is not a number. -/
def Passes (s : Settings) (f : Field) : Prop :=
  s.Valid f ∨ f = .timeout ∧ ∃ limit ∈ s.limit?, limit.isNaN

/-- The value of a field, if it is given. -/
def value? (s : Settings) : Field → Option Value
  | .maxArgs => s.maxArgs
  | .maxProcs => s.maxProcs
  | .timeout => s.timeout
  | .delimiter => s.delimiter.map .text

/-- The value of a field can be shown: no integer in it has too many digits. -/
def Shown (s : Settings) (f : Field) : Prop := ∀ value ∈ s.value? f, value.showable = true

/-- The outcome is an error of a field. -/
def Blames (f : Field) (outcome : Except SettingsError Config) : Prop :=
  ∃ e, outcome = .error (.invalid e) ∧ e.setting = some f.name

/-- A field is the first that is not up to a standard. -/
def First (passes : Field → Prop) (f : Field) : Prop :=
  ¬passes f ∧ ∀ g : Field, g.rank < f.rank → passes g

/-- The outcome is due to a standard: there is a configuration if every field is up to it, and
otherwise the first one that is not is reported. -/
structure Judges (passes : Field → Prop) (outcome : Except SettingsError Config) : Prop where
  accepted_iff : (∃ config, outcome = .ok config) ↔ ∀ f, passes f
  reported : ∀ f, First passes f → Blames f outcome

/-- There is only one first field. -/
theorem First.unique {passes : Field → Prop} {f g : Field} (first : First passes f)
    (first' : First passes g) : f = g := by
  rcases Nat.lt_trichotomy f.rank g.rank with before | same | after
  · exact absurd (first'.2 f before) first.1
  · exact Field.rank_injective same
  · exact absurd (first.2 g after) first'.1

/-- The settings are up to what passes, or a first field is not. -/
theorem all_or_first (passes : Field → Prop) : (∀ f, passes f) ∨ ∃ f, First passes f := by
  by_cases args : passes .maxArgs
  · by_cases procs : passes .maxProcs
    · by_cases limit : passes .timeout
      · by_cases fits : passes .delimiter
        · exact .inl fun f => by cases f <;> assumption
        · refine .inr ⟨.delimiter, fits, fun g before => ?_⟩
          cases g <;> first | assumption | exact absurd before (by decide)
      · refine .inr ⟨.timeout, limit, fun g before => ?_⟩
        cases g <;> first | assumption | exact absurd before (by decide)
    · refine .inr ⟨.maxProcs, procs, fun g before => ?_⟩
      cases g <;> first | assumption | exact absurd before (by decide)
  · exact .inr ⟨.maxArgs, args, fun g before => absurd before (Nat.not_lt_zero _)⟩

/-- What the checks make of settings: a configuration if every field passes, and otherwise the first
one that does not is reported, if its value can be shown. -/
structure Decides (s : Settings) (outcome : Except SettingsError Config) : Prop where
  accepted_iff : (∃ config, outcome = .ok config) ↔ ∀ f, s.Passes f
  reported : ∀ f, First s.Passes f → s.Shown f → Blames f outcome
  unwritable : ∀ f, First s.Passes f → ¬s.Shown f → outcome = .error .unwritable

namespace Decides

variable {s : Settings} {outcome : Except SettingsError Config}

theorem of_ok {config : Config} (all : ∀ f, s.Passes f) : s.Decides (.ok config) where
  accepted_iff := ⟨fun _ => all, fun _ => ⟨config, rfl⟩⟩
  reported := fun f first => absurd (all f) first.1
  unwritable := fun f first => absurd (all f) first.1

/-- The first field that does not pass is refused. -/
theorem of_first {f : Field} {e : ConfigError} (first : First s.Passes f)
    (named : e.setting = some f.name) (shows : e.value.showable = true ↔ s.Shown f) :
    s.Decides (.error (.ofInvalid e)) where
  accepted_iff := by
    refine ⟨?_, fun all => absurd (all f) first.1⟩
    rintro ⟨config, ⟨⟩⟩
  reported := by
    rintro g first' shown
    obtain rfl := first.unique first'
    exact ⟨e, congrArg Except.error (SettingsError.ofInvalid_eq (shows.mpr shown)), named⟩
  unwritable := by
    rintro g first' hidden
    obtain rfl := first.unique first'
    exact congrArg Except.error (if_neg fun shown => hidden (shows.mp shown))

end Decides

/-! ## The checks -/

/-- A check tells whether a field is up to a standard, and otherwise what is wrong with its value.
-/
def Settles {α : Type} (s : Settings) (f : Field) (passes : Prop) (check : Except SettingsError α) :
    Prop :=
  passes ∧ (∃ a, check = .ok a) ∨
    ¬passes ∧ ∃ e : ConfigError, check = .error (.ofInvalid e) ∧ e.setting = some f.name ∧
      (e.value.showable = true ↔ s.Shown f)

/-- A field with a value is shown as this value. -/
theorem shown_iff {s : Settings} {f : Field} {value : Value} (given : s.value? f = some value) :
    value.showable = true ↔ s.Shown f := by
  unfold Shown
  rw [given]
  simp

theorem settles_maxArgs (s : Settings) :
    s.Settles .maxArgs (s.Valid .maxArgs) ((checkMaxArgs s.maxArgs).mapError .ofInvalid) := by
  show s.Settles .maxArgs (AtLeast 1 s.maxArgs) _
  cases given : s.maxArgs with
  | none => exact .inl ⟨trivial, 1, rfl⟩
  | some value =>
    have shown := shown_iff (f := .maxArgs) given
    cases value with
    | int n =>
      rw [checkMaxArgs]
      split
      · rename_i small
        exact .inr ⟨Int.not_le.mpr small, _, rfl, rfl, shown⟩
      · rename_i large
        exact .inl ⟨Int.not_lt.mp large, _, rfl⟩
    | none | float | bool | text | list => exact .inr ⟨id, _, rfl, rfl, shown⟩

theorem settles_maxProcs (s : Settings) :
    s.Settles .maxProcs (s.Valid .maxProcs)
      ((checkMaxProcs s.maxProcs).mapError .ofInvalid) := by
  show s.Settles .maxProcs (AtLeast 0 s.maxProcs) _
  cases given : s.maxProcs with
  | none => exact .inl ⟨trivial, 1, rfl⟩
  | some value =>
    have shown := shown_iff (f := .maxProcs) given
    cases value with
    | int n =>
      rw [checkMaxProcs]
      split
      · rename_i negative
        exact .inr ⟨Int.not_le.mpr negative, _, rfl, rfl, shown⟩
      · rename_i natural
        exact .inl ⟨Int.not_lt.mp natural, _, rfl⟩
    | none | float | bool | text | list => exact .inr ⟨id, _, rfl, rfl, shown⟩

/-- A time limit passes if it is positive or not a number. -/
theorem passes_timeout_iff {s : Settings} :
    s.Passes .timeout ↔ ∀ limit ∈ s.limit?, limit.nonpositive = false := by
  unfold Passes Valid
  cases s.limit? with
  | none => simp
  | some limit => simp [Seconds.nonpositive_eq_false_iff]

theorem checkTimeout_of_number {value : Value} {limit : Seconds}
    (number : Seconds.ofValue? value = some limit) : checkTimeout (some value) =
      (if limit.nonpositive then .error (.ofInvalid (.timeoutNotPositive limit))
        else .ok (some limit)) ∧ limit.toValue = value := by
  cases value <;> cases number <;> exact ⟨rfl, rfl⟩

theorem settles_timeout {s : Settings} (timed : s.Timed) :
    s.Settles .timeout (s.Passes .timeout) (checkTimeout s.timeout) := by
  rw [passes_timeout_iff, limit?]
  unfold Timed at timed
  cases given : s.timeout with
  | none => exact .inl ⟨nofun, _, rfl⟩
  | some value =>
    have shown := shown_iff (f := .timeout) given
    rcases timed value given with rfl | ⟨limit, number⟩
    · exact .inl ⟨nofun, _, rfl⟩
    · obtain ⟨checked, same⟩ := checkTimeout_of_number number
      rw [checked, Option.bind_some, number]
      cases sign : limit.nonpositive with
      | true =>
        refine .inr
          ⟨fun passes => by simp [sign] at passes, .timeoutNotPositive limit, rfl, rfl, ?_⟩
        show limit.toValue.showable = true ↔ _
        rw [same]
        exact shown
      | false => exact .inl ⟨by simp [sign], _, rfl⟩

theorem settles_delimiter (s : Settings) :
    s.Settles .delimiter (s.Valid .delimiter)
      ((checkDelimiter s.inputMode s.delimiter).mapError .ofInvalid) := by
  have shown : s.Shown .delimiter := by
    show ∀ value ∈ s.delimiter.map Value.text, value.showable = true
    cases s.delimiter with
    | none => exact nofun
    | some text =>
      rintro value ⟨⟩
      rfl
  show s.Settles .delimiter
    (if s.inputMode = .delimiter then ∃ c, s.delimiter = some [c] else s.delimiter = none) _
  cases s.inputMode with
  | delimiter =>
    rw [if_pos rfl]
    match s.delimiter with
    | some [c] => exact .inl ⟨⟨c, rfl⟩, _, rfl⟩
    | none | some [] | some (_ :: _ :: _) =>
      exact .inr ⟨fun ⟨_, single⟩ => (by cases single), _, rfl, rfl, iff_of_true rfl shown⟩
  | whitespace | null =>
    rw [if_neg nofun]
    cases s.delimiter with
    | none => exact .inl ⟨rfl, _, rfl⟩
    | some => exact .inr ⟨nofun, _, rfl, rfl, iff_of_true rfl shown⟩

/-- What passes is valid, but for the time limit. -/
theorem passes_iff_valid (s : Settings) {f : Field} (other : f ≠ .timeout) :
    s.Passes f ↔ s.Valid f := or_iff_left fun h => other h.1

/-- **The checks let through what passes.** The first field that does not pass is refused. -/
theorem validate_decides {s : Settings} (timed : s.Timed) : s.Decides s.validate := by
  have maxArgs := settles_maxArgs s
  have maxProcs := settles_maxProcs s
  have timeout := settles_timeout timed
  have delimiter := settles_delimiter s
  rw [← s.passes_iff_valid (by decide)] at maxArgs maxProcs delimiter
  unfold validate
  rcases maxArgs with ⟨passesArgs, n, args⟩ | ⟨fails, e, error, named, shows⟩
  · rw [args]
    rcases maxProcs with ⟨passesProcs, p, procs⟩ | ⟨fails, e, error, named, shows⟩
    · rw [procs]
      rcases timeout with ⟨passesTimeout, limit, limited⟩ | ⟨fails, e, error, named, shows⟩
      · rw [limited]
        rcases delimiter with ⟨passesDelimiter, _, fits⟩ | ⟨fails, e, error, named, shows⟩
        · rw [fits]
          refine .of_ok fun f => ?_
          cases f <;> assumption
        · rw [error]
          refine .of_first ⟨fails, fun g before => ?_⟩ named shows
          cases g <;> first | assumption | exact absurd before (by decide)
      · rw [error]
        refine .of_first ⟨fails, fun g before => ?_⟩ named shows
        cases g <;> first | assumption | exact absurd before (by decide)
    · rw [error]
      refine .of_first ⟨fails, fun g before => ?_⟩ named shows
      cases g <;> first | assumption | exact absurd before (by decide)
  · rw [error]
    exact .of_first ⟨fails, fun g before => absurd before (Nat.not_lt_zero _)⟩ named shows

/-! ## What is neither right nor wrong -/

/-- The time limit is not a number, and nothing is wrong with the fields before it. -/
def Undecided (s : Settings) : Prop :=
  (∃ limit ∈ s.limit?, limit.isNaN = true) ∧ s.Valid .maxArgs ∧ s.Valid .maxProcs

/-- The first field that does not pass has a value that cannot be shown. -/
def Unspeakable (s : Settings) : Prop := ∃ f, First s.Passes f ∧ ¬s.Shown f

theorem not_valid_of_isNaN {s : Settings} (undefined : ∃ limit ∈ s.limit?, limit.isNaN = true) :
    ¬s.Valid .timeout := by
  obtain ⟨limit, given, undefined⟩ := undefined
  exact fun valid => Seconds.not_positive_of_isNaN undefined (valid limit given)

theorem passes_of_valid {s : Settings} {f : Field} (valid : s.Valid f) : s.Passes f := .inl valid

/-- The first field that does not pass is the first that is not valid, unless all hangs on a time
limit that is not a number. -/
theorem first_valid_of_first {s : Settings} (decided : ¬s.Undecided) {f : Field}
    (first : First s.Passes f) : First s.Valid f := by
  refine ⟨fun valid => first.1 (passes_of_valid valid), fun g before => ?_⟩
  rcases first.2 g before with valid | ⟨rfl, undefined⟩
  · exact valid
  · have front (h : Field) (early : h.rank < Field.timeout.rank) : s.Valid h :=
      (s.passes_iff_valid (by rintro rfl; simp at early)).mp (first.2 h (Nat.lt_trans early before))
    exact absurd ⟨undefined, front .maxArgs (by decide), front .maxProcs (by decide)⟩ decided

/-- The first field that is not valid is the first that does not pass, unless all hangs on a time
limit that is not a number. -/
theorem first_of_first_valid {s : Settings} (decided : ¬s.Undecided) {f : Field}
    (first : First s.Valid f) : First s.Passes f := by
  refine ⟨?_, fun g before => passes_of_valid (first.2 g before)⟩
  rintro (valid | ⟨rfl, undefined⟩)
  · exact first.1 valid
  · exact decided ⟨undefined, first.2 .maxArgs (by decide), first.2 .maxProcs (by decide)⟩

namespace Decides

variable {s : Settings} {outcome : Except SettingsError Config}

/-- No outcome blames a time limit that is not a number. -/
theorem not_blames_timeout (decides : s.Decides outcome)
    (undefined : ∃ limit ∈ s.limit?, limit.isNaN = true) : ¬Blames .timeout outcome := by
  rintro ⟨e, rfl, named⟩
  rcases all_or_first s.Passes with all | ⟨f, first⟩
  · obtain ⟨config, accepted⟩ := decides.accepted_iff.mpr all
    cases accepted
  · by_cases shown : s.Shown f
    · obtain ⟨e', same, named'⟩ := decides.reported f first shown
      cases same
      obtain rfl : Field.timeout = f :=
        Field.name_injective (Option.some.inj (named.symm.trans named'))
      exact first.1 (.inr ⟨rfl, undefined⟩)
    · exact nomatch decides.unwritable f first shown

/-- **The outcome is due to what is valid, unless all hangs on a time limit that is not a number**,
or what is wrong cannot be said. -/
theorem judges_valid_iff (decides : s.Decides outcome) :
    Judges s.Valid outcome ↔ ¬s.Undecided ∧ ¬s.Unspeakable := by
  refine ⟨fun judges => ?_, fun ⟨decided, speakable⟩ => ⟨?_, fun f first => ?_⟩⟩
  · have decided : ¬s.Undecided := by
      rintro ⟨undefined, args, procs⟩
      have first : First s.Valid .timeout := by
        refine ⟨not_valid_of_isNaN undefined, fun g before => ?_⟩
        cases g <;> first | assumption | exact absurd before (by decide)
      exact decides.not_blames_timeout undefined (judges.reported .timeout first)
    refine ⟨decided, fun ⟨f, first, hidden⟩ => ?_⟩
    obtain ⟨e, blamed, -⟩ := judges.reported f (first_valid_of_first decided first)
    exact nomatch blamed.symm.trans (decides.unwritable f first hidden)
  · rw [decides.accepted_iff]
    refine ⟨fun all => ?_, fun all f => passes_of_valid (all f)⟩
    rcases all_or_first s.Valid with valid | ⟨f, first⟩
    · exact valid
    · exact absurd (all f) (first_of_first_valid decided first).1
  · have first := first_of_first_valid decided first
    exact decides.reported f first (Classical.not_not.mp fun hidden => speakable ⟨f, first, hidden⟩)

end Decides

/-! ## Settings from the environment -/

/-- A setting is taken from a variable that holds no integer. -/
def Misread (environment : Environment) (name : Text) (given : Option Value) : Prop :=
  given = none ∧ ∃ raw, environment.lookup name = some raw ∧ raw.toInt? = none

/-- A setting, or else the integer that a variable holds. -/
def filled (environment : Environment) (name : Text) (given : Option Value) : Option Value :=
  given.or (((environment.lookup name).bind Text.toInt?).map .int)

/-- The settings with missing numbers filled in. -/
def completed (s : Settings) (environment : Environment) : Settings :=
  { s with
    maxArgs := filled environment maxArgsVariable s.maxArgs
    maxProcs := filled environment maxProcsVariable s.maxProcs }

variable {environment : Environment} {name : Text} {given : Option Value}

theorem fromVariable_of_not_misread (setting : Text) (read : ¬Misread environment name given) :
    fromVariable environment name setting given = .ok (filled environment name given) := by
  cases given with
  | some value => rfl
  | none =>
    rw [fromVariable, filled, Option.none_or]
    cases h : environment.lookup name with
    | none => rfl
    | some raw =>
      cases integer : raw.toInt? with
      | none => exact absurd ⟨rfl, raw, h, integer⟩ read
      | some n => simp [integer]

theorem fromVariable_of_misread (setting : Text) (misread : Misread environment name given) :
    ∃ e, fromVariable environment name setting given = .error e ∧ e.setting = some setting := by
  obtain ⟨rfl, raw, h, integer⟩ := misread
  refine ⟨.environmentNotInteger name setting raw, ?_, rfl⟩
  simp [fromVariable, h, integer]

/-- A variable matters only if its setting is missing. -/
theorem fromVariable_congr {other : Environment} (setting : Text)
    (same : given = none → other.lookup name = environment.lookup name) :
    fromVariable other name setting given = fromVariable environment name setting given := by
  cases given with
  | some value => rfl
  | none => rw [fromVariable, fromVariable, same rfl]

variable {s : Settings}

theorem validateIn_of_not_misread (args : ¬Misread environment maxArgsVariable s.maxArgs)
    (procs : ¬Misread environment maxProcsVariable s.maxProcs) :
    s.validateIn environment = (s.completed environment).validate := by
  rw [validateIn, withEnvironment, fromVariable_of_not_misread _ args,
    fromVariable_of_not_misread _ procs]
  rfl

theorem blames_of_misread_args (misread : Misread environment maxArgsVariable s.maxArgs) :
    Blames .maxArgs (s.validateIn environment) := by
  obtain ⟨e, error, named⟩ := fromVariable_of_misread "max_args" misread
  refine ⟨e, ?_, named⟩
  rw [validateIn, withEnvironment, error]
  rfl

theorem blames_of_misread_procs (args : ¬Misread environment maxArgsVariable s.maxArgs)
    (misread : Misread environment maxProcsVariable s.maxProcs) :
    Blames .maxProcs (s.validateIn environment) := by
  obtain ⟨e, error, named⟩ := fromVariable_of_misread "max_procs" misread
  refine ⟨e, ?_, named⟩
  rw [validateIn, withEnvironment, fromVariable_of_not_misread _ args]
  dsimp only [bind, Except.bind]
  rw [error]
  rfl

theorem validateIn_congr {other : Environment}
    (args : s.maxArgs = none →
      other.lookup maxArgsVariable = environment.lookup maxArgsVariable)
    (procs : s.maxProcs = none →
      other.lookup maxProcsVariable = environment.lookup maxProcsVariable) :
    s.validateIn other = s.validateIn environment := by
  rw [validateIn, withEnvironment, fromVariable_congr _ args, fromVariable_congr _ procs]
  rfl

/-! ## All settings -/

/-- What the checks make of settings is due to what passes. It is due to what is valid unless all
hangs on a time limit that is not a number, or what is wrong cannot be said. -/
structure Checks (s : Settings) (outcome : Except SettingsError Config) : Prop where
  decides : s.Decides outcome
  judges_iff : Judges s.Valid outcome ↔ ¬s.Undecided ∧ ¬s.Unspeakable

theorem checks_validate (timed : s.Timed) : s.Checks s.validate where
  decides := validate_decides timed
  judges_iff := (validate_decides timed).judges_valid_iff

/-- **The checks accept exactly what passes**, in the fields as they are given and in the fields as
the environment fills them in. A variable that is no integer is an error of its field, and only
the variable of a missing field matters. -/
theorem validated (s : Settings) (timed : s.Timed) :
    s.Checks s.validate ∧ ∀ environment,
      (¬Misread environment maxArgsVariable s.maxArgs →
        ¬Misread environment maxProcsVariable s.maxProcs →
        (s.completed environment).Checks (s.validateIn environment)) ∧
      (Misread environment maxArgsVariable s.maxArgs →
        Blames .maxArgs (s.validateIn environment)) ∧
      (¬Misread environment maxArgsVariable s.maxArgs →
        Misread environment maxProcsVariable s.maxProcs →
        Blames .maxProcs (s.validateIn environment)) ∧
      ∀ other : Environment,
        (s.maxArgs = none →
          other.lookup maxArgsVariable = environment.lookup maxArgsVariable) →
        (s.maxProcs = none →
          other.lookup maxProcsVariable = environment.lookup maxProcsVariable) →
        s.validateIn other = s.validateIn environment := by
  refine ⟨checks_validate timed, fun environment => ⟨fun args procs => ?_,
    blames_of_misread_args, blames_of_misread_procs, fun other => validateIn_congr⟩⟩
  rw [validateIn_of_not_misread args procs]
  exact checks_validate timed

/-- Settings with a delimiter, but without a number of commands at a time. -/
def listed : Settings :=
  { maxArgs := some (.int 3), timeout := some (.int 5), inputMode := .delimiter
    delimiter := some [(';' : Char)] }

/-- Variables of both numbers, only one of them an integer. -/
def listedVariables : Environment := [(maxArgsVariable, "x"), (maxProcsVariable, "4")]

/-- The number of commands at a time is filled in; the number of arguments is given, so it does not
matter that its variable holds none. -/
theorem listed_accepted : ∃ config, listed.validateIn listedVariables = .ok config := by
  have timed : listed.Timed := by
    rintro value ⟨⟩
    exact .inr ⟨_, rfl⟩
  have integer : ("4" : Text).toInt? = some 4 := by decide
  have read : ¬Misread listedVariables maxProcsVariable listed.maxProcs := by
    rintro ⟨-, raw, found, misread⟩
    cases found
    cases integer.symm.trans misread
  have checks := ((validated listed timed).2 listedVariables).1 nofun read
  refine checks.decides.accepted_iff.mpr fun f => passes_of_valid ?_
  cases f with
  | maxArgs => exact (by decide : (1 : Int) ≤ 3)
  | maxProcs =>
    have found : filled listedVariables maxProcsVariable none = some (.int 4) :=
      congrArg (Option.map Value.int) integer
    show AtLeast 0 (filled listedVariables maxProcsVariable none)
    rw [found]
    exact (by decide : (0 : Int) ≤ 4)
  | timeout =>
    rintro limit ⟨⟩
    exact (by decide : (0 : Int) < 5)
  | delimiter => exact ⟨_, rfl⟩

/-- A time limit that is not a number. -/
def undefined : Settings := { timeout := some (.float (0 / 0)) }

/-- **Not everything that the checks accept is valid.** -/
theorem undefined_accepted : ¬Judges undefined.Valid undefined.validate := by
  have timed : undefined.Timed := by
    rintro value ⟨⟩
    exact .inr ⟨_, rfl⟩
  have nan : (Seconds.float (0 / 0)).isNaN := by
    show (0 / 0 : Float).isNaN = true
    decide
  rw [(validate_decides timed).judges_valid_iff]
  exact fun decided => decided.1 ⟨⟨_, rfl, nan⟩, trivial, trivial⟩

end Settings

end BatchExec
