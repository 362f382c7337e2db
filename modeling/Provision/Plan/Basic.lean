import Provision.Disk.Calls

namespace Provision

/-!
# Actions

An action is one thing that a procedure asks of its surroundings: a file system call, a request to a
web server, a child process.  `Action.Reply` is the type of the answer.
-/

/-- A child process to start: what differs from the surroundings is given explicitly. -/
structure ChildProcess where
  program : String
  arguments : List String
  workingDirectory : Option Path := none
  bindings : List (String × String) := []
  deriving DecidableEq

/-- How a child process ended. -/
inductive ExitStatus where
  | exited (code : Nat)
  | killed (signal : Nat)
  deriving Repr, DecidableEq

/-- What a child process leaves: how it ended and what it wrote. -/
structure ProcessOutput where
  status : ExitStatus
  output : Bytes
  errors : Bytes
  deriving DecidableEq

/-- The body of a response: received in full, or broken off after some bytes. -/
inductive ResponseBody where
  | whole (bytes : Bytes)
  | broken (received : Bytes)
  deriving DecidableEq

/-- An answer of a web server, with the address that it came from and the one that led there. -/
structure Response where
  address : String
  origin? : Option String := none
  status : Nat
  headers : List (String × String)
  body : ResponseBody
  deriving DecidableEq

/-- The value of the first header with a name. -/
def Response.header? (response : Response) (name : String) : Option String :=
  (response.headers.find? fun (key, _) => Text.sameUpToCase key name).map Prod.snd

/-- What a process can see of its own surroundings. -/
structure Environment where
  processId : Nat
  searchPath : Option String
  homeDirectory : Option String := none
  deriving DecidableEq

/-- One thing that a procedure asks of its surroundings. -/
inductive Action where
  | status (path : Path)
  | linkStatus (path : Path)
  | readFile (path : Path)
  | listDirectory (path : Path)
  | realPath (path : Path)
  | writeFile (path : Path) (content : Bytes)
  | appendFile (path : Path) (content : Bytes)
  | copyFile (source target : Path)
  | makeDirectory (path : Path)
  | makeTemporary (parent : Path) (opening : String)
  | makeLink (target path : Path)
  | makeHardLink (existing path : Path)
  | changeMode (path : Path) (mode : Nat)
  | setTimes (path : Path) (time : Int)
  | rename (source target : Path)
  | removeFile (path : Path)
  | removeTree (path : Path)
  | environment
  | fetch (url : String)
  | spawn (child : ChildProcess)
  deriving DecidableEq

namespace Action

/-- The type of the answer to an action. -/
def Reply : Action → Type
  | .status _ | .linkStatus _ => Except DiskFault Disk.Status
  | .readFile _ => Except DiskFault Bytes
  | .listDirectory _ => Except DiskFault (List (Name × Disk.Kind))
  | .realPath _ | .makeTemporary .. => Except DiskFault Path
  | .environment => Environment
  | .fetch _ => Except String Response
  | .spawn _ => Except DiskFault ProcessOutput
  | _ => Except DiskFault Unit

end Action

/-!
# Plans

A plan is a procedure as a value: it is done, or it asks for one action and goes on with the answer.
What a plan does can so be stated action by action, for every way in which the surroundings may
answer.  `Plan.run` gives the answers from a state of the surroundings.
-/

/-- A procedure: done with a value, or an action and what follows on its answer. -/
inductive Plan (α : Type) where
  | done (value : α)
  | act (action : Action) (next : action.Reply → Plan α)

namespace Plan

/-- Go on with another plan when one is done. -/
def andThen {α β : Type} : Plan α → (α → Plan β) → Plan β
  | .done value, next => next value
  | .act action rest, next => .act action fun reply => (rest reply).andThen next

instance : Monad Plan where
  pure := .done
  bind := andThen

/-- The plan of a single action. -/
def ask (action : Action) : Plan action.Reply :=
  .act action .done

/-- Ask for the actions of a plan one by one, each answered from a state that it may change. -/
def run
    {State α : Type}
    (perform : (action : Action) → State → action.Reply × State) :
    Plan α → State → α × State
  | .done value, state => (value, state)
  | .act action next, state =>
      let (reply, state) := perform action state
      (next reply).run perform state

/-- Going on with nothing more changes no plan. -/
theorem andThen_done {α : Type} (plan : Plan α) : plan.andThen .done = plan := by
  induction plan with
  | done value => rfl
  | act action next inductionHypothesis =>
      simp only [andThen]
      congr
      funext reply
      exact inductionHypothesis reply

/-- Plans that follow each other can be grouped either way. -/
theorem andThen_assoc
    {α β γ : Type}
    (plan : Plan α)
    (second : α → Plan β)
    (third : β → Plan γ) :
    (plan.andThen second).andThen third =
      plan.andThen fun value => (second value).andThen third := by
  induction plan with
  | done value => rfl
  | act action next inductionHypothesis =>
      simp only [andThen]
      congr
      funext reply
      exact inductionHypothesis reply

instance : LawfulMonad Plan :=
  LawfulMonad.mk' Plan
    (fun plan => andThen_done plan)
    (fun _ _ => rfl)
    (fun plan second third => andThen_assoc plan second third)

end Plan

/-- A plan that may fail. -/
abbrev Procedure (ε α : Type) := ExceptT ε Plan α

/-- A plan that may fail and changes a value, which keeps its changes when the plan fails. -/
abbrev Session (σ ε α : Type) := ExceptT ε (StateT σ Plan) α

namespace Procedure

/-- The procedure of an action whose failure is turned into an error. -/
def attempt
    {ε α : Type}
    (plan : Plan (Except DiskFault α))
    (error : DiskFault → ε) :
    Procedure ε α :=
  ExceptT.mk do return (← plan).mapError error

/-- Run a closing plan after a procedure, whatever becomes of it. -/
def closedBy {ε α : Type} (procedure : Procedure ε α) (closing : Plan Unit) : Procedure ε α :=
  ExceptT.mk do
    let outcome ← procedure.run
    closing
    return outcome

/-- Use a procedure that does not know the state of a session. -/
def within {σ ε α : Type} (procedure : Procedure ε α) : Session σ ε α :=
  ExceptT.mk (StateT.lift procedure.run)

end Procedure

end Provision
