import BatchExec.Result
import BatchExec.Value

/-!
# Progress bars

A caller may ask to be told of each result, to see a progress bar, or neither.

* `ResultHandler.ofRequest`: what a request asks for.
* `ProgressBar.calls`: what a bar is told in the course of a run.
-/

namespace BatchExec

/-- What a caller gives in order to be told of results. -/
inductive HandlerRequest where
  /-- Nothing. -/
  | nothing
  /-- A function to call. -/
  | callback
  /-- The name of a built-in handler. -/
  | named (name : Text)
  /-- Something unsuitable, of some type. -/
  | unsuitable (typeName : Text)
  deriving Repr

/-- What is done with each result. -/
inductive ResultHandler where
  | silent
  | callback
  | bar
  deriving DecidableEq, Repr

/-- Why a request cannot be met. -/
inductive HandlerError where
  /-- There is no handler of that name. -/
  | unknownName (name : Text)
  /-- What is given cannot be called. -/
  | notCallable (typeName : Text)
  /-- There is no library to draw the bar. -/
  | libraryMissing
  deriving Repr

/-- The wording of a refused request. -/
def HandlerError.message : HandlerError → Text
  | .unknownName name => "on_result must be 'tqdm', a callable or None, got " ++ name.quoted
  | .notCallable typeName => "on_result must be 'tqdm', a callable or None, got " ++ typeName
  | .libraryMissing => "the progress bar needs tqdm; install it with: pip install cargs[progress]"

namespace ResultHandler

/-- The name of the progress bar. -/
def barName : Text := "tqdm"

/-- The handler that a request asks for. -/
def ofRequest : HandlerRequest → Except HandlerError ResultHandler
  | .nothing => .ok .silent
  | .callback => .ok .callback
  | .named name => if name = barName then .ok .bar else .error (.unknownName name)
  | .unsuitable typeName => .error (.notCallable typeName)

/-- A handler can be used unless it is a bar and there is no library to draw it. -/
def enter (h : ResultHandler) (libraryPresent : Bool) : Except HandlerError Unit :=
  if h = .bar ∧ libraryPresent = false then .error .libraryMissing else .ok ()

end ResultHandler

/-- What a progress bar is told. -/
inductive BarCall where
  /-- It is opened with some options. -/
  | opened (options : List (Text × Value))
  /-- The numbers beside it are replaced, without drawing it yet. -/
  | figures (active : Int) (failed : Nat)
  /-- It moves on by some steps. -/
  | advanced (steps : Nat)
  /-- It is closed. -/
  | closed
  deriving Repr

namespace ProgressBar

/-- The options of a bar that counts commands without a known total. -/
def defaults : List (Text × Value) := [
  ("total", .none), ("desc", .text "cargs"), ("unit", .text "cmd"), ("leave", .bool true),
  ("position", .none), ("file", .none)]

/-- The default options, replaced and completed by a caller's. -/
def withOptions (options : List (Text × Value)) : List (Text × Value) :=
  defaults.map (fun (name, value) => (name, (options.lookup name).getD value)) ++
    options.filter fun (name, _) => (defaults.lookup name).isNone

/-- What a bar is told of events when `failed` results were no success before them. -/
def eventCalls : (failed : Nat) → List Event → List BarCall
  | _, [] => []
  | failed, e :: events =>
    let failed := if e.result.success then failed else failed + 1
    .figures e.active failed :: .advanced 1 :: eventCalls failed events

/-- What a bar is told from its opening to its closing. -/
def calls (options : List (Text × Value)) (events : List Event) : List BarCall :=
  .opened (withOptions options) :: eventCalls 0 events ++ [.closed]

end ProgressBar

namespace ResultHandler

/-- What the progress bar is told of some events, if the handler is one. -/
def barCalls (h : ResultHandler) (options : List (Text × Value)) (events : List Event) :
    List BarCall :=
  if h = .bar then ProgressBar.calls options events else []

/-- What a caller's function gets of some events, if the handler is one. -/
def heard {α : Type} (h : ResultHandler) (events : List α) : List α :=
  if h = .callback then events else []

end ResultHandler

end BatchExec
