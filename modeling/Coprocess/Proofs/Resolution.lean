import Coprocess.Proofs.Contract
import Coprocess.Proofs.Plans

/-!
# One-phase resolution

`Resolution.resolve` finds the image of a command while it runs: it looks at the command, walks the
list of directories entry by entry, and makes up the path and the arguments of each attempt at the
moment of the attempt.  The engine cannot do so, since a child between fork and image must not
allocate; it prepares all attempts before the fork and the child only walks over them.

The main statement, `Plan.run_eq_resolve`, is that the two are the same program.  Programs are trees
that branch over the answers to their requests, so this is agreement under every sequence of
answers, whatever the host makes them depend on: the same attempts in the same order, with the same
path, arguments and environment, and the same end.
-/

namespace Coprocess

open Host

namespace Resolution

/-! ### The reference -/

/-- What all attempts for a command have in common. -/
structure Job where
  command : Bytes
  shell : Bytes
  argv : List Bytes
  envv : List Bytes
  /-- The longest path that is tried, its terminating zero byte included. -/
  limit : Nat

namespace Job

variable (j : Job)

/-- Asks for the image of a file.  A file without a header is given to the shell, with its path in
the place of the first argument, and that is the last attempt; after any other failure it goes on
with `onward`. -/
def attempt (path : Bytes) (onward : Program Unit) : Program Unit := do
  let reason ← Program.request (.execute path j.argv j.envv)
  if reason = .ENOEXEC then
    let _ ← Program.request (.execute j.shell (j.shell :: path :: j.argv.tail) j.envv)
  else onward

/-- Tries the command in one directory; the empty entry is the directory one is in. -/
def visit (entry : Bytes) (onward : Program Unit) : Program Unit :=
  let path := if entry = [] then j.command else entry ++ [0x2F] ++ j.command
  if path.length + 1 > j.limit then onward else j.attempt path onward

/-- Reads a list of directories from left to right and tries the command in each as soon as the
entry is complete; `entry` is what was read of the current one. -/
def walk (entry : Bytes) : Bytes → Program Unit
  | [] => j.visit entry (pure ())
  | b :: rest => if b = 0x3A then j.visit entry (walk [] rest) else walk (entry ++ [b]) rest

end Job

/-- What the attempts for a command have in common: its arguments, and its own environment or the
part of the caller's that is passed on. -/
def jobOf (c : Command) (ctx : SearchContext) (exec : ExecSettings) (block : List Bytes) : Job where
  command := Bytes.ofText c.line
  shell := exec.shell
  argv := (c.argv.getD []).map Bytes.ofText
  envv := match c.envv with
    | some entries => entries.map Bytes.ofText
    | none => Environment.inherited block
  limit := ctx.pathLimit

/-- Tries to become the command.  A line for the shell goes to the shell, a command with a separator
is a path, and any other is searched for along the path of the caller or, if that has none, along
the built-in one for its privilege. -/
def become (c : Command) (ctx : SearchContext) (exec : ExecSettings) (j : Job) : Program Unit :=
  if c.line.toList.any (· ∈ Command.metaCharacters) then do
    let _ ← Program.request
      (.execute j.shell [Bytes.ofText "sh", Bytes.ofText "-c", j.command] j.envv)
  else if '/' ∈ c.line.toList then j.attempt j.command (pure ())
  else match ctx.searchPath, ctx.privileged with
    | some path, _ => j.walk [] path
    | none, true => j.walk [] (Bytes.ofText exec.rootPath)
    | none, false => j.walk [] (Bytes.ofText exec.userPath)

/-- Becomes the command, or exits: the broken-pipe signal is set back first, and a child that got no
image exits with 127. -/
def resolve (c : Command) (ctx : SearchContext) (exec : ExecSettings) (block : List Bytes) :
    Program Unit := do
  let _ ← Program.request (.setDisposition 13 .default)
  become c ctx exec (jobOf c ctx exec block)
  Program.exit 127

/-! ### The walk and the list of candidates -/

namespace Job

variable (j : Job)

/-- Tries each entry of a list of directories that is already taken apart. -/
def visitAll : List Bytes → Program Unit
  | [] => pure ()
  | entry :: rest => j.visit entry (visitAll rest)

/-- Reading the list from left to right visits the pieces between its colons. -/
theorem walk_eq_visitAll (entry list piece : Bytes) (more : List Bytes)
    (h : Bytes.splitOn 0x3A list = piece :: more) :
    j.walk entry list = j.visitAll ((entry ++ piece) :: more) := by
  induction list generalizing entry piece more with
  | nil =>
    obtain ⟨rfl, rfl⟩ := List.cons.inj h
    simp [walk, visitAll]
  | cons b rest ih =>
    obtain ⟨piece', more', h'⟩ := List.exists_cons_of_ne_nil (Bytes.splitOn_ne_nil 0x3A rest)
    simp only [Bytes.splitOn_cons, h', Bytes.cut] at h
    by_cases hb : b = 0x3A
    · -- A colon ends the current entry, and the next one begins empty.
      rw [if_pos (by simpa using hb)] at h
      obtain ⟨rfl, rfl⟩ := List.cons.inj h
      rw [walk, if_pos hb, ih [] piece' more' h']
      simp [visitAll]
    · rw [if_neg (by simpa using hb)] at h
      obtain ⟨rfl, rfl⟩ := List.cons.inj h
      rw [walk, if_neg hb, ih (entry ++ [b]) piece' more' h']
      simp

/-- What a prepared candidate is tried with is what the reference makes up on the spot. -/
theorem tryEach_cons {p : Plan} {exec : ExecSettings} (path : Bytes) (rest : List Candidate)
    (shell : p.shell = exec.shell) (command : Bytes) (limit : Nat) :
    p.tryEach (Plan.candidateFor exec p.argv path :: rest) =
      Job.attempt ⟨command, exec.shell, p.argv, p.envv, limit⟩ path (p.tryEach rest) := by
  simp only [Plan.tryEach, Plan.candidateFor, attempt, beq_iff_eq]
  rw [shell, List.drop_one]

/-- Trying the candidates that were prepared is visiting the entries they were prepared from. -/
theorem tryEach_candidates {p : Plan} {exec : ExecSettings} {ctx : SearchContext}
    (shell : p.shell = exec.shell) (command : Bytes) (pieces : List Bytes) :
    p.tryEach ((((pieces.map (Search.candidateIn command)).filter ctx.fits).map
        (Plan.candidateFor exec p.argv))) =
      Job.visitAll ⟨command, exec.shell, p.argv, p.envv, ctx.pathLimit⟩ pieces := by
  induction pieces with
  | nil => rfl
  | cons piece pieces ih =>
    have hpath : (if piece = [] then command else piece ++ [0x2F] ++ command) =
        Search.candidateIn command piece := by
      unfold Search.candidateIn
      cases piece <;> simp
    rw [List.map_cons, visitAll, visit, hpath, ← ih]
    by_cases hfits : ctx.fits (Search.candidateIn command piece)
    · have hlimit := SearchContext.fits_iff.1 hfits
      rw [List.filter_cons_of_pos hfits, List.map_cons, if_neg (by simpa using hlimit)]
      exact tryEach_cons _ _ shell _ _
    · -- An entry whose path does not fit has no candidate, and costs no attempt.
      have hlimit := mt SearchContext.fits_iff.2 hfits
      rw [List.filter_cons_of_neg hfits, if_pos (by simpa using hlimit)]

/-- Trying the prepared candidates is walking the list of directories. -/
theorem tryEach_eq_walk {p : Plan} {exec : ExecSettings} (shell : p.shell = exec.shell)
    (command : String) (ctx : SearchContext) :
    p.tryEach ((Search.candidates command ctx exec).map (Plan.candidateFor exec p.argv)) =
      Job.walk ⟨Bytes.ofText command, exec.shell, p.argv, p.envv, ctx.pathLimit⟩ []
        (ctx.effectivePath exec) := by
  obtain ⟨piece, more, hpieces⟩ :=
    List.exists_cons_of_ne_nil (Bytes.splitOn_ne_nil 0x3A (ctx.effectivePath exec))
  rw [walk_eq_visitAll _ [] _ piece more hpieces, List.nil_append, ← hpieces]
  exact tryEach_candidates shell _ _

end Job

end Resolution

/-! ### What the classifier promises -/

namespace Command

/-- A command that is accepted is of the kind that its characters say. -/
theorem kind_of_classify {c : Command} {kind : Kind} (h : c.classify = .ok kind) :
    kind = if hasMeta c.line then .shell else if '/' ∈ c.line.toList then .path else .bare := by
  simpa [kindOf, hasMeta_iff] using (classify_eq_ok_iff.1 h).2

end Command

open Resolution

/-- What the plan asks for in turn is what the reference asks for. -/
theorem Plan.attempts_eq_become {c : Command} {kind : Command.Kind} {ctx : SearchContext}
    {exec : ExecSettings} {block : List Bytes} {p : Plan} (accepted : c.classify = .ok kind)
    (built : Plan.build c kind ctx exec block = .ok p) :
    p.attempts = become c ctx exec (jobOf c ctx exec block) := by
  obtain rfl := Command.kind_of_classify accepted
  obtain rfl := eq_of_build_eq_ok built
  have hmeta : c.line.toList.any (· ∈ Command.metaCharacters) = Command.hasMeta c.line := by
    rw [Command.hasMeta]
    congr 1
    funext x
    rw [List.contains_eq_mem]
  rw [become, hmeta]
  by_cases shellLine : Command.hasMeta c.line
  · rw [if_pos shellLine, if_pos shellLine]
    rfl
  · rw [if_neg shellLine, if_neg shellLine]
    by_cases slash : '/' ∈ c.line.toList
    · rw [if_pos slash, if_pos slash]
      -- A path is a search with one candidate.
      exact Job.tryEach_cons (Bytes.ofText c.line) [] rfl _ _
    · rw [if_neg slash, if_neg slash]
      refine (Job.tryEach_eq_walk rfl _ _).trans ?_
      unfold SearchContext.effectivePath
      cases ctx.searchPath with
      | some path => rfl
      | none => cases ctx.privileged <;> rfl

/-- **Refinement of the two-phase resolver.** Whenever the classifier accepts a command and a plan
is built for it, running the plan is resolving the command in one go. -/
theorem Plan.run_eq_resolve {c : Command} {kind : Command.Kind} {ctx : SearchContext}
    {exec : ExecSettings} {block : List Bytes} {p : Plan} (accepted : c.classify = .ok kind)
    (built : Plan.build c kind ctx exec block = .ok p) : p.run = resolve c ctx exec block := by
  rw [run, attempts_eq_become accepted built]
  rfl

/-- A name that is searched for where one directory is too long and the last entry is empty. -/
theorem Plan.run_eq_resolve_of_search :
    ∃ p, Plan.build (.program "tool" ["tool", "x"]) .bare
        ⟨some (Bytes.ofText "/opt:/far/away:"), false, 10⟩ {} [] = .ok p ∧
      p.run = resolve (.program "tool" ["tool", "x"])
        ⟨some (Bytes.ofText "/opt:/far/away:"), false, 10⟩ {} [] := by
  have accepted : (Command.program "tool" ["tool", "x"]).classify = .ok .bare := by decide
  exact ⟨_, rfl, run_eq_resolve accepted rfl⟩

end Coprocess
