import RequestDispatch.Worker.Serve

/-!
# What a task does

Seen from outside, a task is a `Course` for each invocation: it writes, sets a status and sets
headers in some order (`Deed`), and then returns or stops. A `Repertoire` has such a task for each
of its names, and `Repertoire.course` is the course that the call in a stream leads to.

* `run_ofCourse`: the output of a task is that of its deeds one after the other, and it ends as its
  course says.
* `bytes_foldl`, `status_foldl`: what was written is all that was written in order, and the status
  is the one that was set last.
* `Repertoire.run_eq`: a worker leaves what the deeds of the course leave.
-/

set_option autoImplicit false

namespace RequestDispatch.Worker

open ByteStream (Source)

/-- One thing that a task does to its output. -/
inductive Deed where
  | write (bs : List UInt8)
  | setStatus (status : UInt16)
  | setHeader (name value : String)
  deriving DecidableEq, Repr

/-- What a task does, and why it stops, if it does not return. -/
structure Course where
  deeds : List Deed
  stop : Option Stop := none
  deriving DecidableEq, Repr

namespace Deed

def perform : Deed → Task
  | .write bs => Task.write bs
  | .setStatus status => Task.setStatus status
  | .setHeader name value => Task.setHeader name value

def apply (o : Output) : Deed → Output
  | .write bs => { o with bytes := o.bytes ++ bs }
  | .setStatus status => { o with status := some status }
  | .setHeader name value => { o with headers := Http.Header.set name value o.headers }

def written (deeds : List Deed) : List UInt8 :=
  deeds.flatMap fun d =>
    match d with
    | .write bs => bs
    | _ => []

/-- The status that is set last. -/
def lastStatus? (deeds : List Deed) : Option UInt16 :=
  deeds.reverse.findSome? fun d =>
    match d with
    | .setStatus status => some status
    | _ => none

theorem bytes_foldl (deeds : List Deed) (o : Output) :
    (deeds.foldl apply o).bytes = o.bytes ++ written deeds := by
  induction deeds generalizing o with
  | nil => simp [written]
  | cons d deeds ih =>
    rw [List.foldl_cons, ih]
    cases d <;> simp [apply, written]

theorem status_foldl (deeds : List Deed) (o : Output) :
    (deeds.foldl apply o).status = (lastStatus? deeds).or o.status := by
  induction deeds generalizing o with
  | nil => simp [lastStatus?]
  | cons d deeds ih =>
    rw [List.foldl_cons, ih]
    cases d <;> simp [apply, lastStatus?, List.findSome?_append]

end Deed

namespace Course

/-- The task that does what the course says. -/
def task (c : Course) : Task := do
  c.deeds.forM Deed.perform
  match c.stop with
  | none => pure ()
  | some stop => throw stop

def output (c : Course) : Output := c.deeds.foldl Deed.apply {}

end Course

/-- The task that follows a course for each invocation. -/
def Task.ofCourse (f : Invocation → Course) : Task := fun i => (f i).task i

/-! ## The run of a task -/

theorem TaskM.bind_of_ok {α β : Type} {x : TaskM α} {i : Invocation} {o o' : Output} {a : α}
    (h : x i o = (.ok a, o')) (g : α → TaskM β) : (x >>= g) i o = g a i o' := by
  simp only [bind, ReaderT.bind, ExceptT.bind, ExceptT.mk, StateT.bind, h]
  rfl

/-- Steps that cannot stop are taken one after the other. -/
theorem TaskM.run_forM {σ : Type} {step : σ → Task} {next : Output → σ → Output} {i : Invocation}
    (h : ∀ d o, step d i o = (.ok (), next o d)) (ds : List σ) (o : Output) :
    ds.forM step i o = (.ok (), ds.foldl next o) := by
  induction ds generalizing o with
  | nil => rfl
  | cons d ds ih =>
    have hfirst : (d :: ds).forM step i o = ds.forM step i (next o d) :=
      TaskM.bind_of_ok (h d o) fun _ => ds.forM step
    rw [hfirst, ih, List.foldl_cons]

theorem Task.run_eq {t : Task} {i : Invocation} {o : Output} {result : Except Stop Unit}
    (h : t i {} = (result, o)) :
    t.run i = (o, match result with
      | .ok _ => none
      | .error stop => some stop) := by
  have hrun : (ReaderT.run t i).run.run {} = (result, o) := h
  rw [Task.run, hrun]
  cases result <;> rfl

theorem Deed.run_perform (d : Deed) (i : Invocation) (o : Output) :
    d.perform i o = (.ok (), d.apply o) := by
  cases d <;> rfl

/-- A task leaves what its course leaves, and ends as its course does. -/
theorem Task.run_ofCourse (f : Invocation → Course) (i : Invocation) :
    (Task.ofCourse f).run i = ((f i).output, (f i).stop) := by
  have hdeeds := TaskM.run_forM (fun d o => Deed.run_perform d i o) (f i).deeds {}
  have htask : Task.ofCourse f i {} = (match (f i).stop with
      | none => pure ()
      | some stop => throw stop : Task) i (f i).output :=
    TaskM.bind_of_ok hdeeds _
  cases hstop : (f i).stop with
  | none =>
    rw [hstop] at htask
    exact Task.run_eq htask
  | some stop =>
    rw [hstop] at htask
    exact Task.run_eq htask

/-! ## Repertoires -/

/-- Tasks that follow a course, by name. -/
abbrev Repertoire := List (String × (Invocation → Course))

namespace Repertoire

def registry (r : Repertoire) : Registry := ⟨r.map fun p => (p.1, Task.ofCourse p.2)⟩

/-- The course that the call in a stream leads to, unless the call is refused. -/
def course (r : Repertoire) (input : Source) : Except Refusal Course :=
  match Call.read input with
  | .error e => .error e
  | .ok call =>
    match r.lookup call.task with
    | none => .error (.unknownTask call.task)
    | some f => .ok (f { request := call.request, params := call.params })

theorem find?_registry (r : Repertoire) (name : String) :
    r.registry.find? name = (r.lookup name).map Task.ofCourse := by
  rw [Registry.find?, Dictionary.find?, registry]
  induction r with
  | nil => rfl
  | cons p r ih =>
    obtain ⟨k, f⟩ := p
    rw [List.map_cons, List.lookup_cons, List.lookup_cons, ih]
    cases name == k <;> rfl

/-- What is left of a course, or of a call that was refused. -/
def left : Except Refusal Course → Ran
  | .error e => .refused e
  | .ok c => ⟨c.output, .ofStop c.stop⟩

theorem run_eq (r : Repertoire) (input : Source) :
    r.registry.run 0 false input = left (r.course input) := by
  unfold Registry.run course
  cases Call.read input with
  | error e => rfl
  | ok call =>
    simp only [find?_registry]
    cases r.lookup call.task with
    | none => rfl
    | some f =>
      simp only [Option.map_some, Task.run_ofCourse]
      rfl

end Repertoire

end RequestDispatch.Worker
