import Coprocess.Host.Kernel
import Coprocess.Host.Program

/-!
# Machines

A machine runs programs.  Each process has one program, or several if it started threads, and a
`Task` is a program with the process it belongs to.  `advanceBy` makes one step of a program;
`Machine.run` drives a given program to its result and lets all others run as far as they can before
each of its steps.  Each step takes a little time; when everybody waits, the clock is set to the
first deadline.

Nothing bounds how long programs run, so `Machine.run` has a budget of steps, and has no result if
that is used up or if everybody waits for somebody else.
-/

namespace Coprocess.Host

/-- A program with the process it belongs to. -/
structure Task where
  pid : Pid
  /-- Whether the process goes on when the program has ended. -/
  isThread : Bool := false
  program : Program Unit

/-- What the programs that the machine knows do, by name, with arguments and environment. -/
abbrev Images := String → List Bytes → List Bytes → Program Unit

/-- What comes of a step of a program. -/
inductive Turn (α : Type) : Type 1 where
  | going (p : Program α) (started : List Task) (w : World)
  | finished (value : α)
  | waiting (deadline : Option Instant)
  | image (program : String) (argv envv : List Bytes) (w : World)
  | gone (w : World)

/-- Makes one step of a program of a process. -/
def advanceBy {α : Type} (w : World) (pid : Pid) (p : Program α) : Turn α :=
  match p with
  | .done value => .finished value
  | .loop s body next => .going (Program.unroll s body next) [] w
  | .spawn thread next => .going (next (.ok ())) [{ pid, isThread := true, program := thread }] w
  | .fork child next =>
    let (n, w) := w.fork pid
    .going (next (.ok n)) [{ pid := n, program := child }] w
  | .call c next =>
    match w.answer pid c with
    | .reply value w =>
      .going (next value) []
        (if (w.process pid).interrupted then w.modify pid ({ · with interrupted := false }) else w)
    | .image program argv envv w => .image program argv envv w
    | .gone w => .gone w
    | .later deadline =>
      if (w.process pid).interrupted then
        match c.interrupted with
        | some reply => .going (next reply) [] (w.modify pid ({ · with interrupted := false }))
        | none => .waiting deadline
      else .waiting deadline

/-- The earlier of two deadlines. -/
def earlier : Option Instant → Option Instant → Option Instant
  | none, d => d
  | d, none => d
  | some a, some b => some (min a b)

/-- What came of letting tasks run. -/
structure Progress where
  world : World
  /-- The tasks that are left. -/
  tasks : List Task := []
  /-- How many steps were made. -/
  steps : Nat := 0
  /-- When the first of those that wait wants to go on. -/
  deadline : Option Instant := none

/-- The world with the time that one step takes gone by. -/
def World.ticked (w : World) : World := { w with clock := w.clock + 1 }

/-- Lets a task run until it waits or ends, for at most so many steps; tasks that it starts stand
behind it. -/
def runTask (images : Images) : Nat → Task → Progress → Progress
  | 0, t, so => { so with tasks := so.tasks ++ [t] }
  | bound + 1, t, so =>
    if !so.world.isAlive t.pid then so
    else if !so.world.isRunnable t.pid then { so with tasks := so.tasks ++ [t] }
    else match advanceBy so.world t.pid t.program with
      | .going program started w =>
        let so :=
          runTask images bound { t with program }
            { so with world := w.ticked, steps := so.steps + 1 }
        { so with tasks := so.tasks ++ started }
      | .image program argv envv w =>
        runTask images bound { t with program := images program argv envv, isThread := false }
          { so with world := w.ticked, steps := so.steps + 1 }
      | .waiting deadline =>
        { so with tasks := so.tasks ++ [t], deadline := earlier so.deadline deadline }
      | .gone w => { so with world := w.ticked, steps := so.steps + 1 }
      | .finished () =>
        -- A thread leaves its process as it is; a program that is over ends it.
        if t.isThread then { so with steps := so.steps + 1 }
        else { so with world := so.world.finishAndTell t.pid (.exited 0), steps := so.steps + 1 }

/-- How many steps a task makes before it is the next one's turn. -/
def sliceLength : Nat := 200

/-- Lets each task run for a slice. -/
def runEach (images : Images) (tasks : List Task) (w : World) : Progress :=
  tasks.foldl (fun so t => runTask images sliceLength t so) { world := w }

/-- Lets the tasks run, slice by slice, until all of them wait or the slices are used up. -/
def runAll (images : Images) : Nat → List Task → World → Progress
  | 0, tasks, w => { world := w, tasks, steps := 1 }
  | slices + 1, tasks, w =>
    let so := runEach images tasks w
    if so.steps == 0 then so else runAll images slices so.tasks so.world

/-- How many slices the others get before a step of the driven program. -/
def patience : Nat := 20

/-- How much time goes by when the others have used up their slices and the driven program waits. -/
def busyTime : Nat := 10000

/-- Drives a program to its result among other tasks. -/
def run {α : Type} (images : Images) (pid : Pid) :
    Nat → Program α → List Task → World → Option (α × World)
  | 0, _, _, _ => none
  | budget + 1, p, tasks, w =>
    let so := runAll images patience tasks w
    match advanceBy so.world pid p with
    | .going p started w => run images pid budget p (so.tasks ++ started) w.ticked
    | .finished value => some (value, so.world)
    | .image .. => none
    | .gone _ => none
    -- The others are busy and may never wait, so time goes by for the program as well.
    | .waiting deadline =>
      if so.steps != 0 then
        run images pid budget p so.tasks (so.world.advance (so.world.clock + busyTime))
      else match earlier (earlier deadline so.deadline) so.world.nextAlarm with
        | some time => run images pid budget p so.tasks (so.world.advance (max time so.world.clock))
        | none => none

/-! ### Driving a program alone -/

section Alone

variable {α : Type} (images : Images) (pid : Pid) (budget : Nat) {w w' : World}

/-- A loop is unrolled. -/
theorem run_loop {σ β : Type} (s : σ) (body : σ → Program (σ ⊕ β)) (next : β → Program α) :
    run images pid (budget + 1) (.loop s body next) [] w =
      run images pid budget (.unroll s body next) [] w.ticked := rfl

/-- A request is answered, if it need not wait. -/
theorem run_call {c : Call} {next : c.Reply → Program α} {value : c.Reply}
    (answered : w.answer pid c = .reply value w') (calm : (w'.process pid).interrupted = false) :
    run images pid (budget + 1) (.call c next) [] w =
      run images pid budget (next value) [] w'.ticked := by
  have alone : runAll images patience [] w = { world := w } := rfl
  have step : advanceBy w pid (.call c next) = .going (next value) [] w' := by
    simp [advanceBy, answered, calm]
  rw [run, alone, step]
  rfl

end Alone

end Coprocess.Host
