import Coprocess.Launch
import Coprocess.Proofs.Allocation
import Coprocess.Proofs.Descriptors
import Coprocess.Proofs.Opening

/-!
# A descriptor table through a run

`Table.after` follows a table through requests that open nothing.  `Table.Passes` follows it through
all requests that the engine makes: a new descriptor has a number that was free, and a close gives
its number up whatever it answers.  Nothing else is assumed of the host, so that a request may fail
at any point.

`Table.Grown` says that a table is an older one with certain bindings on top; it is what descriptors
are accounted by.  Closing one of these numbers takes its binding away (`Grown.remove`), and when
none of them is left the table is the older one again, binding by binding.

The native allocator opens both sides of a terminal or nothing (`through_of_acquireNative`), so that
with it in charge the host's exchanges can be read as those of the program
(`Allocator.Serves.through_of_native`).
-/

namespace Coprocess

open Host Program

variable {T U V : Table Description} {t t' t₁ t₂ : List Exchange}

namespace Host.Table

/-! ### Through exchanges -/

/-- The table `T` of a process can become `U` through an exchange.  A request that opens something
binds numbers that were free, to what it is to open. -/
def Passes (T : Table Description) (x : Exchange) (U : Table Description) : Prop :=
  match x with
  -- The number is given up even if the host reports a failure.
  | .reply (.close fd) _ => U = T.remove fd
  | .reply (.pipe cloexec) (.ok (readEnd, writeEnd)) =>
    T.find? readEnd = none ∧ T.find? writeEnd = none ∧ readEnd ≠ writeEnd ∧ ∃ n,
      U = (writeEnd, ⟨.pipeWriter n, cloexec⟩) :: (readEnd, ⟨.pipeReader n, cloexec⟩) :: T
  | .reply .openMaster (.ok fd) => T.find? fd = none ∧ ∃ n, U = (fd, ⟨.master n, true⟩) :: T
  | .reply (.openFile _ mode) (.ok fd) =>
    T.find? fd = none ∧ ∃ d, U = (fd, ⟨d, mode.cloexec⟩) :: T
  | .reply (.duplicate source _ cloexec) (.ok fd) =>
    T.find? fd = none ∧ ∃ b, T.find? source = some b ∧ U = (fd, ⟨b.description, cloexec⟩) :: T
  -- An allocator that hands out a pair has opened both sides.
  | .reply (.acquireTerminal _ _) (.ok pair) =>
    T.find? pair.master = none ∧ T.find? pair.slave = none ∧ pair.master ≠ pair.slave ∧ ∃ n d,
      U = (pair.slave, ⟨d, true⟩) :: (pair.master, ⟨.master n, true⟩) :: T
  | x => U = T.after x

/-- The table `T` of a process can become `U` through a number of exchanges. -/
def Through (T : Table Description) : List Exchange → Table Description → Prop
  | [], U => U = T
  | x :: t, U => ∃ V, T.Passes x V ∧ V.Through t U

theorem through_append_iff :
    T.Through (t₁ ++ t₂) U ↔ ∃ V, T.Through t₁ V ∧ V.Through t₂ U := by
  induction t₁ generalizing T with
  | nil => simp [Through]
  | cons x t₁ ih =>
    simp only [List.cons_append, Through, ih]
    constructor
    · rintro ⟨V, passes, W, first, second⟩
      exact ⟨W, ⟨V, passes, first⟩, second⟩
    · rintro ⟨W, ⟨V, passes, first⟩, second⟩
      exact ⟨V, passes, W, first, second⟩

/-- Requests that are interrupted bind nothing. -/
theorem passes_of_opening {path : Bytes} {mode : OpenMode} {answer : Except Errno Fd} {n : Nat}
    (through : T.Through (Transfer.opening path mode answer n) U) :
    T.Passes (.reply (.openFile path mode) answer) U := by
  induction n with
  | zero =>
    obtain ⟨V, passes, rfl⟩ := through
    exact passes
  | succ n ih =>
    obtain ⟨V, rfl, through⟩ := through
    exact ih through

end Host.Table

/-- A request through which every table stays as it is, whatever the answer. -/
def Host.Call.Keeps (c : Call) : Prop :=
  ∀ (T U : Table Description) (r : c.Reply), T.Passes (.reply c r) U → U = T

/-- A program that only makes requests which keep tables keeps them. -/
theorem through_of_only {α : Type} {p : Program α} {a : α} (run : p.Yields t a)
    (only : p.Only Call.Keeps) (through : T.Through t U) : U = T := by
  have kept := run.forall_of_only only
  clear run only
  induction t generalizing T with
  | nil => exact through
  | cons x t ih =>
    rw [List.forall_mem_cons] at kept
    obtain ⟨⟨c, r, rfl, keeps⟩, kept⟩ := kept
    obtain ⟨V, passes, rest⟩ := through
    rw [ih rest kept, keeps _ _ _ passes]

/-! ### What is on top of a table -/

namespace Host.Table

/-- The table `U` is `T` with the bindings `added` on top, under numbers that are different and free
in `T`. -/
structure Grown (T added U : Table Description) : Prop where
  eq : U = added ++ T
  distinct : added.Distinct
  free : ∀ e ∈ added, T.find? e.1 = none

theorem Grown.refl (T : Table Description) : Grown T [] T := ⟨rfl, List.nodup_nil, nofun⟩

/-- Something new goes on top. -/
theorem Grown.cons {added : Table Description} {fd : Fd} {b : Binding Description}
    (grown : Grown T added U) (free : U.find? fd = none) :
    Grown T ((fd, b) :: added) ((fd, b) :: U) := by
  have absent := find?_eq_none_iff.1 free
  rw [grown.eq, List.map_append, List.mem_append, not_or] at absent
  refine ⟨by rw [grown.eq]; rfl, List.nodup_cons.2 ⟨absent.1, grown.distinct⟩, ?_⟩
  rw [List.forall_mem_cons]
  exact ⟨find?_eq_none_iff.2 absent.2, grown.free⟩

/-- What is closed is no longer on top. -/
theorem Grown.remove {added : Table Description} {fd : Fd} (grown : Grown T added U)
    (listed : fd ∈ added.map Prod.fst) : Grown T (added.remove fd) (U.remove fd) := by
  obtain ⟨entry, hentry, rfl⟩ := List.mem_map.1 listed
  refine ⟨?_, grown.distinct.remove _, ?_⟩
  · have below : T.remove entry.1 = T := remove_of_free (grown.free entry hentry)
    rw [grown.eq, Table.remove, List.filter_append]
    exact congrArg _ below
  · intro e he
    exact grown.free e (List.mem_filter.1 he).1

end Host.Table

/-! ### Closing in order -/

/-- Descriptors that are closed in order are gone. -/
theorem Launcher.through_of_closeAll {fds : List Fd} {u : Unit} (run : (closeAll fds).Yields t u)
    (through : T.Through t U) : U = fds.foldl Table.remove T := by
  induction fds generalizing t T with
  | nil =>
    obtain ⟨rfl, -⟩ := yields_done_iff.1 run
    exact through
  | cons fd fds ih =>
    obtain ⟨r, t, rfl, rest⟩ := yields_call_iff.1 run
    obtain ⟨V, rfl, through⟩ := through
    exact ih rest through

/-! ### The native allocator -/

/-- The replies to the forks of a trace. -/
def forks (t : List Exchange) : List (Except Errno Pid) :=
  t.filterMap fun
    | .fork _ r => some r
    | _ => none

@[simp] theorem forks_nil : forks [] = [] := rfl

@[simp] theorem forks_reply (c : Call) (r : c.Reply) (t : List Exchange) :
    forks (.reply c r :: t) = forks t := rfl

@[simp] theorem forks_fork (child : Program Unit) (r : Except Errno Pid) (t : List Exchange) :
    forks (.fork child r :: t) = r :: forks t := rfl

@[simp] theorem forks_append (t₁ t₂ : List Exchange) : forks (t₁ ++ t₂) = forks t₁ ++ forks t₂ :=
  List.filterMap_append

/-- A program that only makes requests does not fork. -/
theorem forks_of_only {α : Type} {P : Call → Prop} {p : Program α} {a : α} (run : p.Yields t a)
    (only : p.Only P) : forks t = [] := by
  refine List.filterMap_eq_nil_iff.2 fun x hx => ?_
  obtain ⟨c, r, rfl, -⟩ := run.forall_of_only only x hx
  rfl

namespace Allocator

/-- Going on with the result of a request, unless that failed. -/
theorem cases_of_orFail {α β : Type} {operation : String} {answer : Except Errno α}
    {next : α → Program (Except Failure β)} {r : Except Failure β}
    (run : (orFail operation answer next).Yields t r) :
    (∃ reason, answer = .error reason ∧ t = [] ∧ r = .error (.system operation reason)) ∨
    ∃ a, answer = .ok a ∧ (next a).Yields t r := by
  cases answer with
  | error reason =>
    obtain ⟨rfl, rfl⟩ := yields_done_iff.1 run
    exact .inl ⟨reason, rfl, rfl, rfl⟩
  | ok a => exact .inr ⟨a, rfl, run⟩

/-- Makes a request about what is asked for, if anything is. -/
def ifAsked {α : Type} (about : α → Program (Except Errno Unit)) :
    Option α → Program (Except Errno Unit)
  | some a => about a
  | none => .done (.ok ())

theorem ifAsked_only {α : Type} {P : Call → Prop} {about : α → Program (Except Errno Unit)}
    (only : ∀ a, (about a).Only P) (asked : Option α) : (ifAsked about asked).Only P := by
  cases asked with
  | none => exact trivial
  | some a => exact only a

theorem setUp_eq (slave : Fd) (modes : Option Modes) (size : Option WindowSize) :
    setUp slave modes size =
      (ifAsked (fun m => request (.setModes slave m)) modes).bind fun moded =>
        orFail "tcsetattr" moded fun _ =>
          (ifAsked (fun w => request (.setWindowSize slave w)) size).bind fun sized =>
            orFail "ioctl(TIOCSWINSZ)" sized fun _ => .done (.ok ()) := by
  cases modes <;> cases size <;> rfl

/-- Setting a slave up opens nothing. -/
theorem setUp_only {P : Call → Prop} (slave : Fd) (modes : Option Modes) (size : Option WindowSize)
    (ofModes : ∀ m, P (.setModes slave m)) (ofSize : ∀ w, P (.setWindowSize slave w)) :
    (setUp slave modes size).Only P := by
  rw [setUp_eq]
  refine Only.bind (ifAsked_only ?_ modes) fun moded => ?_
  · exact fun m => ⟨ofModes m, fun _ => trivial⟩
  · cases moded with
    | error => exact trivial
    | ok =>
      refine Only.bind (ifAsked_only ?_ size) fun sized => ?_
      · exact fun w => ⟨ofSize w, fun _ => trivial⟩
      · cases sized <;> exact trivial

/-- What the system refuses is not the caller's fault. -/
theorem isInvalidArgument_of_setUp {slave : Fd} {modes : Option Modes} {size : Option WindowSize}
    {reason : Failure} (run : (setUp slave modes size).Yields t (.error reason)) :
    reason.isInvalidArgument = false := by
  rw [setUp_eq] at run
  obtain ⟨_, _, _, -, -, moded⟩ := yields_bind_iff.1 run
  rcases cases_of_orFail moded with ⟨_, -, -, ⟨⟩⟩ | ⟨_, -, sizes⟩
  · rfl
  · obtain ⟨_, _, _, -, -, sized⟩ := yields_bind_iff.1 sizes
    rcases cases_of_orFail sized with ⟨_, -, -, ⟨⟩⟩ | ⟨_, -, last⟩
    · rfl
    · cases (yields_done_iff.1 last).2

/-- A slave that is opened stays open if it can be set up, and else nothing does. -/
theorem through_of_openSlave {master : Fd} {modes : Option Modes} {size : Option WindowSize}
    {r : Except Failure TerminalPair} (run : (openSlave master modes size).Yields t r)
    (through : T.Through t U) :
    (∃ reason, r = .error reason ∧ reason.isInvalidArgument = false ∧ U = T) ∨
    ∃ slave name d, r = .ok ⟨master, slave, name⟩ ∧ T.find? slave = none ∧
      U = (slave, ⟨d, true⟩) :: T := by
  obtain ⟨granted, t₁, rfl, grant⟩ := yields_call_iff.1 run
  obtain ⟨_, rfl, through₁⟩ := through
  rcases cases_of_orFail grant with ⟨_, -, rfl, rfl⟩ | ⟨_, -, unlocks⟩
  · exact .inl ⟨_, rfl, rfl, through₁⟩
  obtain ⟨unlocked, t₂, rfl, unlock⟩ := yields_call_iff.1 unlocks
  obtain ⟨_, rfl, through₂⟩ := through₁
  rcases cases_of_orFail unlock with ⟨_, -, rfl, rfl⟩ | ⟨_, -, names⟩
  · exact .inl ⟨_, rfl, rfl, through₂⟩
  obtain ⟨named, t₃, rfl, name⟩ := yields_call_iff.1 names
  obtain ⟨_, rfl, through₃⟩ := through₂
  rcases cases_of_orFail name with ⟨_, -, rfl, rfl⟩ | ⟨slaveName, -, opens⟩
  · exact .inl ⟨_, rfl, rfl, through₃⟩
  obtain ⟨t₄, opened, t₄', rfl, attempts, opening⟩ := yields_bind_iff.1 opens
  obtain ⟨-, n, rfl⟩ := Transfer.yields_openFd_iff.1 attempts
  obtain ⟨V, attempting, through₄⟩ := Table.through_append_iff.1 through₃
  have passes := Table.passes_of_opening attempting
  cases opened with
  | error reason =>
    obtain ⟨rfl, rfl⟩ := yields_done_iff.1 opening
    exact .inl ⟨_, rfl, rfl, through₄.trans passes⟩
  | ok slave =>
    obtain ⟨free, d, rfl⟩ := passes
    obtain ⟨t₅, set, t₆, rfl, sets, ends⟩ := yields_bind_iff.1 opening
    obtain ⟨W, settingUp, through₅⟩ := Table.through_append_iff.1 through₄
    obtain rfl := through_of_only sets
      (setUp_only _ _ _ (fun _ _ _ _ kept => kept) fun _ _ _ _ kept => kept) settingUp
    cases set with
    | error reason =>
      -- The slave is closed again.
      obtain ⟨_, t₇, rfl, closed⟩ := yields_call_iff.1 ends
      obtain ⟨rfl, rfl⟩ := yields_done_iff.1 closed
      obtain ⟨_, rfl, rfl⟩ := through₅
      refine .inl ⟨_, rfl, isInvalidArgument_of_setUp sets, ?_⟩
      exact Table.remove_cons_self free _
    | ok =>
      obtain ⟨rfl, rfl⟩ := yields_done_iff.1 ends
      exact .inr ⟨slave, slaveName, d, rfl, free, through₅⟩

/-- **The native allocator** opens both sides of a terminal, or leaves nothing open. -/
theorem through_of_acquireNative {modes : Option Modes} {size : Option WindowSize}
    {r : Except Failure TerminalPair} (run : (acquireNative modes size).Yields t r)
    (through : T.Through t U) :
    T.Passes (.reply (.acquireTerminal modes size) r) U ∧
      ∀ reason, r = .error reason → reason.isInvalidArgument = false := by
  obtain ⟨made, t₁, rfl, masters⟩ := yields_call_iff.1 run
  obtain ⟨V, passes, through₁⟩ := through
  rcases cases_of_orFail masters with ⟨_, rfl, rfl, rfl⟩ | ⟨master, rfl, opens⟩
  · refine ⟨through₁.trans passes, ?_⟩
    rintro _ ⟨⟩
    rfl
  obtain ⟨free, n, rfl⟩ := passes
  obtain ⟨t₂, opened, t₃, rfl, slaves, ends⟩ := yields_bind_iff.1 opens
  obtain ⟨V, through₂, through₃⟩ := Table.through_append_iff.1 through₁
  rcases through_of_openSlave slaves through₂ with
    ⟨reason, rfl, valid, rfl⟩ | ⟨slave, name, d, rfl, free', rfl⟩
  · -- The master is closed again.
    obtain ⟨_, t₄, rfl, closed⟩ := yields_call_iff.1 ends
    obtain ⟨rfl, rfl⟩ := yields_done_iff.1 closed
    obtain ⟨_, rfl, rfl⟩ := through₃
    refine ⟨?_, ?_⟩
    · show Table.remove _ _ = T
      exact Table.remove_cons_self free _
    · rintro _ ⟨⟩
      exact valid
  · obtain ⟨_, t₄, rfl, told⟩ := yields_call_iff.1 ends
    obtain ⟨rfl, rfl⟩ := yields_done_iff.1 told
    obtain ⟨_, rfl, rfl⟩ := through₃
    rw [Table.find?_cons] at free'
    split at free'
    · cases free'
    next other => exact ⟨⟨free, free', other, n, d, rfl⟩, nofun⟩

theorem orFail_only {α β : Type} {P : Call → Prop} {operation : String} {answer : Except Errno α}
    {next : α → Program (Except Failure β)} (only : ∀ a, (next a).Only P) :
    (orFail operation answer next).Only P := by
  cases answer with
  | error => exact trivial
  | ok a => exact only a

/-- Making a terminal takes nothing but requests, and tells of nothing but the terminal. -/
theorem acquireNative_only {P : Call → Prop} (modes : Option Modes) (size : Option WindowSize)
    (ofOther : ∀ c, (∀ e, c ≠ .log e) → P c)
    (ofLog : ∀ slaveName, P (.log (.terminalAllocated slaveName))) :
    (acquireNative modes size).Only P := by
  have ofOpen (path : Bytes) (mode : OpenMode) : P (.openFile path mode) := ofOther _ nofun
  refine ⟨ofOther _ nofun, fun _ => orFail_only fun master => Only.bind ?_ fun opened => ?_⟩
  · refine ⟨ofOther _ nofun, fun _ => orFail_only fun _ => ⟨ofOther _ nofun, fun _ =>
      orFail_only fun _ => ⟨ofOther _ nofun, fun _ => orFail_only fun _ =>
        (Transfer.openFd_only (ofOpen _ _)).bind fun slave => ?_⟩⟩⟩
    cases slave with
    | error => exact trivial
    | ok slave =>
      refine (setUp_only slave modes size (fun _ => ofOther _ nofun)
        fun _ => ofOther _ nofun).bind fun set => ?_
      cases set with
      | error => exact ⟨ofOther _ nofun, fun _ => trivial⟩
      | ok => exact trivial
  · cases opened with
    | error => exact ⟨ofOther _ nofun, fun _ => trivial⟩
    | ok => exact ⟨ofLog _, fun _ => trivial⟩

end Allocator

/-- The exchange makes something that a coprocess is connected by, or a process. -/
def Host.Exchange.Makes : Exchange → Prop
  | .reply (.pipe _) _ => True
  | .reply .openMaster _ => True
  | .reply (.openFile _ _) _ => True
  | .reply (.acquireTerminal _ _) _ => True
  | .fork _ _ => True
  | _ => False

namespace Allocator

theorem acquireNative_of_acquire {modes : Option Modes} {size : Option WindowSize}
    {r : Except Failure TerminalPair} {s s' : Unit}
    (run : (native.acquire s modes size).Yields t (r, s')) :
    (acquireNative modes size).Yields t r := by
  obtain ⟨t₁, _, _, rfl, acquires, last⟩ := yields_bind_iff.1 run
  obtain ⟨rfl, ⟨⟩⟩ := yields_done_iff.1 last
  rw [List.append_nil]
  exact acquires

/-- The native allocator only tells of a release. -/
theorem eq_of_release {slaveName : String} {r : Except Failure Unit} {s s' : Unit}
    (run : (native.release s slaveName).Yields t (r, s')) :
    t = [.reply (.log (.terminalReleased slaveName)) ()] := by
  obtain ⟨t₁, _, t₂, rfl, releases, last⟩ := yields_bind_iff.1 run
  obtain ⟨rfl, -⟩ := yields_done_iff.1 last
  obtain ⟨_, t₃, rfl, told⟩ := yields_call_iff.1 releases
  obtain ⟨rfl, -⟩ := yields_done_iff.1 told
  rfl

namespace Serves

variable {s s' : Unit}

/-- With the native allocator in charge, the exchanges of the host do to a table what those of the
program do, and no terminal is refused as an invalid argument. -/
theorem through_of_native (serves : native.Serves s t t' s') (through : T.Through t' U) :
    T.Through t U ∧ ∀ modes size reason,
      .reply (.acquireTerminal modes size) (.error reason) ∈ t →
        reason.isInvalidArgument = false := by
  induction serves generalizing T with
  | nil => exact ⟨through, fun _ _ _ listed => absurd listed List.not_mem_nil⟩
  | @acquire modes size r _ _ _ _ _ _ run _ ih =>
    obtain ⟨V, first, second⟩ := Table.through_append_iff.1 through
    obtain ⟨passes, valid⟩ := through_of_acquireNative (acquireNative_of_acquire run) first
    obtain ⟨rest, validAfter⟩ := ih second
    refine ⟨⟨V, passes, rest⟩, fun modes' size' reason listed => ?_⟩
    rcases List.mem_cons.1 listed with same | listed
    · cases same
      exact valid reason rfl
    · exact validAfter _ _ reason listed
  | release run _ ih =>
    obtain rfl := eq_of_release run
    obtain ⟨_, rfl, rest⟩ := through
    obtain ⟨rest, valid⟩ := ih rest
    exact ⟨⟨_, rfl, rest⟩, fun _ _ reason listed => valid _ _ reason (by simpa using listed)⟩
  | reply ofAcquire _ _ ih =>
    obtain ⟨V, passes, rest⟩ := through
    obtain ⟨rest, valid⟩ := ih rest
    refine ⟨⟨V, passes, rest⟩, fun modes size reason listed => ?_⟩
    rcases List.mem_cons.1 listed with same | listed
    · cases same
      exact absurd rfl (ofAcquire modes size)
    · exact valid _ _ reason listed
  | fork _ ih =>
    obtain ⟨_, rfl, rest⟩ := through
    obtain ⟨rest, valid⟩ := ih rest
    exact ⟨⟨_, rfl, rest⟩, fun _ _ reason listed => valid _ _ reason (by simpa using listed)⟩
  | spawn _ ih =>
    obtain ⟨_, rfl, rest⟩ := through
    obtain ⟨rest, valid⟩ := ih rest
    exact ⟨⟨_, rfl, rest⟩, fun _ _ reason listed => valid _ _ reason (by simpa using listed)⟩

/-- The native allocator does not fork. -/
theorem forks_of_native (serves : native.Serves s t t' s') : forks t' = forks t := by
  induction serves with
  | nil => rfl
  | acquire run _ ih =>
    rw [forks_append, forks_of_only (acquireNative_of_acquire run)
      (acquireNative_only (P := fun _ => True) _ _ (fun _ _ => trivial) fun _ => trivial), ih]
    rfl
  | release run _ ih =>
    obtain rfl := eq_of_release run
    exact ih
  | reply _ _ _ ih => exact ih
  | @fork _ r _ _ _ _ _ ih => exact congrArg (r :: ·) ih
  | spawn _ ih => exact ih

/-- The native allocator makes nothing by itself. -/
theorem makes_of_native (serves : native.Serves s t t' s') (nothing : ∀ x ∈ t, ¬ x.Makes) :
    ∀ x ∈ t', ¬ x.Makes := by
  induction serves with
  | nil => exact fun _ listed => absurd listed List.not_mem_nil
  | acquire => exact absurd trivial (nothing _ List.mem_cons_self)
  | release run _ ih =>
    obtain rfl := eq_of_release run
    rw [List.forall_mem_cons] at nothing
    exact List.forall_mem_cons.2 ⟨id, ih nothing.2⟩
  | reply _ _ _ ih =>
    rw [List.forall_mem_cons] at nothing
    exact List.forall_mem_cons.2 ⟨nothing.1, ih nothing.2⟩
  | fork => exact absurd trivial (nothing _ List.mem_cons_self)
  | spawn _ ih =>
    rw [List.forall_mem_cons] at nothing
    exact List.forall_mem_cons.2 ⟨id, ih nothing.2⟩

end Serves

end Allocator

end Coprocess
