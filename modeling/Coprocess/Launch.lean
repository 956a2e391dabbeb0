import Coprocess.Handle
import Coprocess.Plan

/-!
# Launching

A launch checks the command, builds the plan, makes the channel and forks.  Everything that can be
refused is refused before anything is made; everything made before a later step fails is closed
again.  In the child the channel is wired onto the standard streams and the plan is run; the child
never returns from there.

What the child does between fork and image is a program of its own (`pipedChild`, `attachedChild`).
It closes the parent's ends first, since the ends it wires may lie on any number.
-/

namespace Coprocess

open Host

/-- How coprocesses are started: the resolver's settings, and a search path that takes the place of
the caller's. -/
structure Launcher where
  exec : ExecSettings := {}
  searchPath : Option Bytes := none
deriving DecidableEq, Repr

/-- How a terminal is set up for a coprocess. -/
structure TerminalOptions where
  /-- Room for the name of the slave's device, its terminating zero byte included. -/
  nameCapacity : Nat := 64
  modes : Option Modes := none
  size : Option WindowSize := none
deriving DecidableEq, Repr

/-- The least room for the slave's name that a launch accepts. -/
def leastNameCapacity : Nat := 64

namespace Launcher

/-! ### Preparation -/

/-- The greatest length of a path under a directory. -/
def pathLimit (directory : Bytes) : Program Nat := do
  if directory.hasNul then return pathLimitOf (.error .EINVAL)
  else return pathLimitOf (← Program.request (.pathLimit directory))

/-- What the search for a bare name depends on, captured from the caller. -/
def captureContext (block : List Bytes) : Program SearchContext := do
  let privileged ← Program.request .isPrivileged
  return { searchPath := Environment.valueOf "PATH" block, privileged
           pathLimit := ← pathLimit (Bytes.ofText "/") }

/-- The same, with the launcher's own search path if it has one. -/
def context (l : Launcher) (block : List Bytes) : Program SearchContext := do
  let ctx ← captureContext block
  -- A search path of the launcher hides the caller's, even if it is empty.
  return { ctx with searchPath := l.searchPath <|> ctx.searchPath }

/-- Checks a command and builds its plan, in a process with the given environment block. -/
def plan (l : Launcher) (c : Command) (block : List Bytes) :
    Program (Except Failure (Command.Kind × Plan)) := do
  match c.classify with
  | .error reason => return .error (.rejected reason)
  | .ok kind =>
    let ctx ← l.context block
    match ← Plan.prepare c kind ctx l.exec block with
    | .error reason => return .error (.rejected reason)
    | .ok plan => return .ok (kind, plan)

/-- Closes descriptors in order. -/
def closeAll : List Fd → Program Unit
  | [] => return ()
  | fd :: rest => do
    let _ ← Program.request (.close fd)
    closeAll rest

/-! ### Over pipes -/

/-- The two pipes of a launch: the parent writes to the child, and reads from it. -/
structure PipePair where
  toRead : Fd
  toWrite : Fd
  fromRead : Fd
  fromWrite : Fd
deriving DecidableEq, Repr

/-- Makes both pipes; the first is closed again if the second cannot be made. -/
def makePipes : Program (Except Failure PipePair) := do
  match ← Program.request (.pipe true) with
  | .error reason => return .error (.system "pipe" reason)
  | .ok (toRead, toWrite) =>
    match ← Program.request (.pipe true) with
    | .error reason => do
      -- What was bound last is let go first.
      closeAll [toWrite, toRead]
      return .error (.system "pipe" reason)
    | .ok (fromRead, fromWrite) => return .ok { toRead, toWrite, fromRead, fromWrite }

/-- The child of a launch over pipes: input from the first pipe, output and diagnostics into the
second. -/
def pipedChild (pipes : PipePair) (plan : Plan) : Program Unit := do
  closeAll [pipes.toWrite, pipes.fromRead]
  if ← wireAll [(pipes.toRead, standardInput), (pipes.fromWrite, standardOutput),
      (standardOutput, standardError)] then plan.run
  else Program.exit Status.setupFailedCode

/-- Starts a command whose input is fed from one pipe and whose output and diagnostics feed
another. -/
def openPiped (l : Launcher) (c : Command) (block : List Bytes) :
    Program (Except Failure Handle) := do
  match ← l.plan c block with
  | .error reason => return .error reason
  | .ok (kind, plan) =>
    match ← makePipes with
    | .error reason => return .error reason
    | .ok pipes =>
      .fork (pipedChild pipes plan) fun
        | .error reason => do
          closeAll [pipes.toRead, pipes.toWrite, pipes.fromRead, pipes.fromWrite]
          return .error (.system "fork" reason)
        | .ok child => do
          Program.tell (.openedPiped child c.line kind)
          -- The parent must not hold the child's ends: the child would never see its input end.
          closeAll [pipes.toRead, pipes.fromWrite]
          return .ok { pid := child
                       transport := .pipes (.holding pipes.toWrite) (.holding pipes.fromRead) }

/-! ### On a terminal -/

/-- Makes the caller the leader of a session of its own that the slave controls, with the slave on
all standard streams, and says whether that worked. -/
def attach (slave : Fd) : Program Bool := do
  if (← Program.request .newSession).isOk then
    if (← Program.request (.controlTerminal slave)).isOk then
      wireAll [(slave, standardInput), (slave, standardOutput), (slave, standardError)]
    else return false
  else return false

/-- The child of a launch on a terminal. -/
def attachedChild (pair : TerminalPair) (plan : Plan) : Program Unit := do
  closeAll [pair.master]
  if ← attach pair.slave then plan.run else Program.exit Status.setupFailedCode

/-- Starts a command on the slave side of a terminal; the handle holds the master. -/
def openTerminal (l : Launcher) (c : Command) (options : TerminalOptions) (block : List Bytes) :
    Program (Except Failure Handle) := do
  if options.nameCapacity < leastNameCapacity then
    return .error (.rejected (.slaveNameCapacity options.nameCapacity leastNameCapacity))
  else
    match ← l.plan c block with
    | .error reason => return .error reason
    | .ok (kind, plan) =>
      match ← Program.request (.acquireTerminal options.modes options.size) with
      | .error reason => return .error reason
      | .ok pair =>
        -- The name is known only now, and the zero byte behind it counts.
        if (Bytes.ofText pair.slaveName).length + 1 > options.nameCapacity then do
          Handle.release .launch pair.slaveName
          closeAll [pair.master, pair.slave]
          return .error (.slaveNameTooLong pair.slaveName options.nameCapacity)
        else
          .fork (attachedChild pair plan) fun
            | .error reason => do
              Handle.release .launch pair.slaveName
              closeAll [pair.master, pair.slave]
              return .error (.system "fork" reason)
            | .ok child => do
              Program.tell (.openedTerminal child c.line kind pair.slaveName)
              closeAll [pair.slave]
              return .ok { pid := child
                           transport := .terminal (.holding pair.master) pair.slaveName }

end Launcher

end Coprocess
