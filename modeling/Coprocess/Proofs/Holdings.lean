import Coprocess.Proofs.Ownership

/-!
# What a launch holds

A launch keeps to its discipline because it closes, clones and hands to its child only what it has
opened itself and not closed yet.  `Table.Holds` says of a list of numbers that they are different
and all bound; each step of a launch, and each use of its handle, is followed by what is held then.

Main statements:
* `Launcher.obeys_openPiped` and `Launcher.obeys_openTerminal`, for a launch as a whole;
* `Handle.obeys_perform` and `Handle.obeys_drop`, for the use of its handle;
* `Allocator.obeys_acquireNative`, for the native allocator on behalf of a launch.
-/

namespace Coprocess

open Host Program

variable {n : Nat} {T U : Table Made}

/-! ### What a launch holds -/

namespace Host.Table

/-- The numbers are different, and all of them are bound. -/
def Holds (T : Table Made) (fds : List Fd) : Prop :=
  fds.Nodup ∧ ∀ fd ∈ fds, T.isBound fd = true

namespace Holds

variable {fd : Fd} {fds fds' : List Fd}

theorem nil (T : Table Made) : T.Holds [] := ⟨List.nodup_nil, nofun⟩

theorem cons (holds : T.Holds fds) (free : T.find? fd = none) (b : Binding Made) :
    Holds ((fd, b) :: T) (fd :: fds) := by
  have kept {other : Fd} (bound : T.isBound other = true) :
      isBound ((fd, b) :: T) other = true := by
    rw [isBound, find?_cons]
    split
    · rfl
    · exact bound
  refine ⟨List.nodup_cons.2 ⟨fun listed => ?_, holds.1⟩, ?_⟩
  · have taken := holds.2 fd listed
    rw [isBound, free] at taken
    cases taken
  · rw [List.forall_mem_cons]
    exact ⟨isBound_cons_self .., fun other listed => kept (holds.2 other listed)⟩

theorem cons_cons {fd' : Fd} (holds : T.Holds fds) (free : T.find? fd = none)
    (free' : T.find? fd' = none) (different : fd ≠ fd') (b b' : Binding Made) :
    Holds ((fd', b') :: (fd, b) :: T) (fd' :: fd :: fds) :=
  (holds.cons free b).cons (by rwa [find?_cons, if_neg different]) b'

theorem remove (holds : T.Holds (fd :: fds)) : (T.remove fd).Holds fds := by
  obtain ⟨absent, distinct⟩ := List.nodup_cons.1 holds.1
  refine ⟨distinct, fun other listed => ?_⟩
  have different : other ≠ fd := by
    rintro rfl
    exact absent listed
  rw [Table.isBound, find?_remove, if_neg different]
  exact holds.2 other (List.mem_cons_of_mem _ listed)

theorem perm (holds : T.Holds fds) (perm : fds.Perm fds') : T.Holds fds' :=
  ⟨perm.nodup holds.1, fun fd listed => holds.2 fd (perm.mem_iff.2 listed)⟩

theorem isBound (holds : T.Holds (fd :: fds)) : T.isBound fd = true :=
  holds.2 fd List.mem_cons_self

end Holds

end Host.Table

/-- A request that is no business of a table. -/
def Host.Call.Neutral (c : Call) : Prop :=
  ∀ T : Table Made, c.Considerate T ∧ ∀ n r U, T.Moves n (.reply c r) U → U = T

/-- Neutral requests change nothing. -/
theorem obeys_of_neutral {α : Type} {p : Program α} (only : p.Only Call.Neutral)
    (J : Table Made → Prop) (holds : J T) : p.Obeys (launchDiscipline n) (fun _ U => J U) T := by
  refine Obeys.of_only only (fun c neutral T holds => ⟨(neutral T).1, fun r U moves => ?_⟩) holds
  obtain rfl := (neutral T).2 _ r U moves
  exact holds

namespace Launcher

variable {fds : List Fd}

/-! ### Launching -/

/-- Descriptors that are held can be closed. -/
theorem obeys_closeAll_of_holds {rest : List Fd} (holds : T.Holds (fds ++ rest)) :
    (closeAll fds).Obeys (launchDiscipline n) (fun _ U => U.Holds rest) T := by
  induction fds generalizing T with
  | nil => exact holds
  | cons fd fds ih =>
    refine ⟨holds.isBound, fun r U moves => ?_⟩
    obtain rfl : U = T.remove fd := moves
    exact ih holds.remove

theorem obeys_closeAll_of_holds_all (holds : T.Holds fds) :
    (closeAll fds).Obeys (launchDiscipline n) (fun _ _ => True) T := by
  rw [← List.append_nil fds] at holds
  exact (obeys_closeAll_of_holds holds).mono fun _ _ _ => trivial

theorem plan_neutral (l : Launcher) (c : Command) (block : List Bytes) :
    (l.plan c block).Only Call.Neutral :=
  l.plan_only c block (fun _ => ⟨trivial, fun _ _ _ moves => moves⟩)
    (fun _ _ => ⟨trivial, fun _ _ _ moves => moves⟩) fun _ _ => ⟨trivial, fun _ _ _ moves => moves⟩

/-- Both pipes are held if they can be made. -/
theorem obeys_makePipes : makePipes.Obeys (launchDiscipline n) (fun r U => ∀ pipes, r = .ok pipes →
    U.Holds [pipes.toRead, pipes.toWrite, pipes.fromRead, pipes.fromWrite]) T := by
  refine Obeys.request rfl fun first U moves => ?_
  rcases first with reason | ⟨toRead, toWrite⟩
  · exact nofun
  obtain ⟨readFree, writeFree, different, k, rfl⟩ := moves
  have one := (Table.Holds.nil T).cons_cons readFree writeFree different
    ⟨⟨.pipeReader k, some n⟩, true⟩ ⟨⟨.pipeWriter k, some n⟩, true⟩
  refine Obeys.request rfl fun second U moves => ?_
  rcases second with reason | ⟨fromRead, fromWrite⟩
  · obtain rfl : U = _ := moves
    have closes := obeys_closeAll_of_holds_all (n := n) one
    exact Obeys.bind (closes.mono fun _ _ _ => nofun)
  · obtain ⟨readFree', writeFree', different', m, rfl⟩ := moves
    have both := one.cons_cons readFree' writeFree' different'
      ⟨⟨.pipeReader m, some n⟩, true⟩ ⟨⟨.pipeWriter m, some n⟩, true⟩
    rintro _ ⟨⟩
    exact both.perm (List.reverse_perm [toRead, toWrite, fromRead, fromWrite])

/-- A launch over pipes keeps to its discipline, and its handle holds what it shows. -/
theorem obeys_openPiped (l : Launcher) (c : Command) (block : List Bytes) :
    (l.openPiped c block).Obeys (launchDiscipline n)
      (fun r U => ∀ h, r = .ok h → U.Holds h.transport.fds) T := by
  refine Obeys.bind ((obeys_of_neutral (l.plan_neutral c block) (fun _ => True) trivial).mono ?_)
  rintro (reason | ⟨kind, plan⟩) U -
  · exact nofun
  refine Obeys.bind (obeys_makePipes.mono ?_)
  rintro (reason | pipes) V held
  · exact nofun
  have held := held pipes rfl
  refine ⟨mayStart_pipedChild plan (held.2 _ (by simp)) (held.2 _ (by simp)), ?_⟩
  rintro (reason | child)
  · have closes := obeys_closeAll_of_holds_all (n := n) held
    exact Obeys.bind (p := closeAll _) (closes.mono fun _ _ _ => nofun)
  · refine Obeys.request trivial fun _ W moves => ?_
    obtain rfl : W = V := moves
    -- The child's ends go first, and then those of the handle are left.
    have ordered : W.Holds ([pipes.toRead, pipes.fromWrite] ++ [pipes.toWrite, pipes.fromRead]) :=
      held.perm ((List.perm_append_singleton pipes.fromWrite
        [pipes.toWrite, pipes.fromRead]).cons pipes.toRead)
    refine Obeys.bind ((obeys_closeAll_of_holds ordered).mono fun _ _ held => ?_)
    rintro _ ⟨⟩
    exact held

/-- Asking for a slave to be released, and telling if that fails, is no business of a table. -/
theorem release_neutral (during : Origin) (slaveName : String) :
    (Handle.release during slaveName).Only Call.Neutral := by
  refine ⟨fun _ => ⟨trivial, fun _ _ _ moves => moves⟩, fun r => ?_⟩
  rcases r with reason | _
  · exact ⟨fun _ => ⟨trivial, fun _ _ _ moves => moves⟩, fun _ => trivial⟩
  · exact trivial

/-- A launch on a terminal keeps to its discipline, and its handle holds what it shows. -/
theorem obeys_openTerminal (l : Launcher) (c : Command) (options : TerminalOptions)
    (block : List Bytes) :
    (l.openTerminal c options block).Obeys (launchDiscipline n)
      (fun r U => ∀ h, r = .ok h → U.Holds h.transport.fds) T := by
  rw [openTerminal]
  split
  · exact fun _ h => by cases h
  refine Obeys.bind ((obeys_of_neutral (l.plan_neutral c block) (fun _ => True) trivial).mono ?_)
  rintro (reason | ⟨kind, plan⟩) U -
  · exact fun _ h => by cases h
  refine Obeys.request trivial fun acquired V moves => ?_
  rcases acquired with reason | pair
  · exact fun _ h => by cases h
  obtain ⟨masterFree, slaveFree, different, k, rfl⟩ := moves
  have held := (Table.Holds.nil U).cons_cons masterFree slaveFree different
    ⟨⟨.master k, some n⟩, true⟩ ⟨⟨.slave k, some n⟩, true⟩
  -- Whoever gives the pair up releases the slave and closes both sides.
  have givesUp (reason : Failure) {V : Table Made} (held : V.Holds [pair.slave, pair.master]) :
      ((Handle.release .launch pair.slaveName).bind fun _ =>
        (closeAll [pair.master, pair.slave]).bind fun _ =>
          Program.done (Except.error reason)).Obeys (launchDiscipline n)
        (fun (r : Except Failure Handle) U => ∀ h, r = .ok h → U.Holds h.transport.fds) V := by
    have releases := obeys_of_neutral (n := n) (release_neutral .launch pair.slaveName)
      (fun U => U.Holds [pair.slave, pair.master]) held
    refine Obeys.bind (releases.mono fun _ W held => ?_)
    have closes := obeys_closeAll_of_holds_all (n := n) (held.perm (.swap _ _ _))
    exact Obeys.bind (closes.mono fun _ _ _ _ h => by cases h)
  dsimp only
  split
  · exact givesUp _ held
  refine ⟨mayStart_attachedChild plan held.isBound, ?_⟩
  rintro (reason | child)
  · exact givesUp _ held
  · refine Obeys.request trivial fun _ W moves => ?_
    obtain rfl : W = _ := moves
    have ordered : Table.Holds _ ([pair.slave] ++ [pair.master]) := held
    refine Obeys.bind ((obeys_closeAll_of_holds ordered).mono fun _ _ held => ?_)
    rintro _ ⟨⟩
    exact held

end Launcher

/-! ### Using a handle -/

section Using

variable {rest : List Fd}

theorem Slot.obeys_close {s : Slot} (holds : T.Holds (s.fd.toList ++ rest)) :
    s.close.Obeys (launchDiscipline n) (fun r U => r.1 = .empty ∧ U.Holds rest) T := by
  rcases s with ⟨_ | fd⟩
  · exact ⟨rfl, holds⟩
  · refine Obeys.request (c := .close fd) holds.isBound fun r U moves => ⟨rfl, ?_⟩
    obtain rfl : U = T.remove fd := moves
    exact holds.remove

namespace Handle

/-- Closing a transport gives up what it holds, and keeps the rest. -/
theorem obeys_closeTransport {N : Transport} (holds : T.Holds (N.fds ++ rest)) :
    (closeTransport N).Obeys (launchDiscipline n) (fun N' U => N'.fds = [] ∧ U.Holds rest) T := by
  cases N with
  | pipes input output =>
    rw [Transport.fds, List.append_assoc] at holds
    refine Obeys.bind ((Slot.obeys_close holds).mono ?_)
    rintro ⟨_, _⟩ U ⟨rfl, holds⟩
    refine Obeys.bind ((Slot.obeys_close holds).mono ?_)
    rintro ⟨_, _⟩ U ⟨rfl, holds⟩
    exact ⟨rfl, holds⟩
  | terminal master slaveName =>
    rw [closeTransport]
    split
    next closed =>
      obtain rfl := Slot.isClosed_iff.1 closed
      exact ⟨rfl, holds⟩
    · have releases := obeys_of_neutral (n := n) (Launcher.release_neutral .lifecycle slaveName)
        (fun U => U.Holds (master.fd.toList ++ rest)) holds
      refine Obeys.bind (releases.mono fun _ U holds => ?_)
      refine Obeys.bind ((Slot.obeys_close holds).mono ?_)
      rintro ⟨_, _⟩ V ⟨rfl, holds⟩
      exact ⟨rfl, holds⟩

theorem obeys_close {h : Handle} (holds : T.Holds (h.transport.fds ++ rest)) :
    h.close.Obeys (launchDiscipline n)
      (fun r U => r.1.transport.fds = [] ∧ U.Holds rest) T := by
  rw [close_eq]
  refine Obeys.bind ((obeys_closeTransport holds).mono ?_)
  rintro N U ⟨closed, holds⟩
  refine ⟨trivial, fun _ V moves => ?_⟩
  obtain rfl : V = U := moves
  have reaps : ({ h with transport := N } : Handle).reap.Only Call.Neutral :=
    reap_only _ (fun _ _ => ⟨trivial, fun _ _ _ moves => moves⟩)
      fun _ _ _ => ⟨trivial, fun _ _ _ moves => moves⟩
  refine (obeys_of_neutral reaps (fun U => U.Holds rest) holds).and_yields.mono ?_
  rintro ⟨h', result⟩ W ⟨holds, t, run⟩
  rw [(yields_reap_iff.1 run).transport_eq]
  exact ⟨closed, holds⟩

theorem obeys_closeInput {h : Handle} (holds : T.Holds (h.transport.fds ++ rest)) :
    h.closeInput.Obeys (launchDiscipline n)
      (fun r U => U.Holds (r.1.transport.fds ++ rest)) T := by
  obtain ⟨pid, N, status⟩ := h
  cases N with
  | pipes input output =>
    rw [Transport.fds, List.append_assoc] at holds
    refine Obeys.bind ((Slot.obeys_close holds).mono ?_)
    rintro ⟨_, closed⟩ U ⟨rfl, holds⟩
    exact holds
  | terminal master slaveName => exact holds

/-- A clone of the input is held besides all that was held before. -/
theorem obeys_cloneInput {h : Handle} (holds : T.Holds (h.transport.fds ++ rest)) :
    h.cloneInput.Obeys (launchDiscipline n) (fun r U =>
      U.Holds (r.toOption.toList ++ (h.transport.fds ++ rest))) T := by
  rw [cloneInput]
  split
  · exact holds
  next fd input =>
    have listed : fd ∈ h.transport.fds := by
      obtain ⟨pid, N, status⟩ := h
      cases N with
      | pipes => exact List.mem_append_left _ (by simp_all [Transport.input])
      | terminal => simp_all [Transport.input, Transport.fds]
    refine Obeys.request (c := .duplicate fd firstCloneFd true)
      ⟨holds.2 fd (List.mem_append_left _ listed), rfl⟩ fun r U moves => ?_
    rcases r with reason | clone
    · obtain rfl : U = T := moves
      exact holds
    · obtain ⟨free, b, -, rfl⟩ := moves
      exact holds.cons free _

/-- **An operation on a handle** keeps to the discipline.  What is held afterwards is what the
handle shows then, a clone if one was made, and the rest. -/
theorem obeys_perform {h : Handle} (holds : T.Holds (h.transport.fds ++ rest))
    (operation : Operation) :
    (h.perform operation).Obeys (launchDiscipline n)
      (fun r U => U.Holds (r.1.transport.fds ++ (r.2.cloned?.toList ++ rest))) T := by
  -- What is only looked at stays as it is.
  have looked {α : Type} {p : Program α} {f : α → Answer} (only : p.Only Call.Neutral)
      (plain : ∀ a, (f a).cloned? = none) :
      (p.bind fun a => .done (h, f a)).Obeys (launchDiscipline n)
        (fun r U => U.Holds (r.1.transport.fds ++ (r.2.cloned?.toList ++ rest))) T := by
    refine Obeys.bind ((obeys_of_neutral only
      (fun U => U.Holds (h.transport.fds ++ rest)) holds).mono fun a U holds => ?_)
    show U.Holds (h.transport.fds ++ ((f a).cloned?.toList ++ rest))
    rw [plain a]
    exact holds
  cases operation with
  | read count =>
    exact looked (h.read_only (fun _ _ _ => ⟨trivial, fun _ _ _ moves => moves⟩) count)
      fun _ => rfl
  | write data =>
    exact looked (h.write_only (fun _ _ _ => ⟨trivial, fun _ _ _ moves => moves⟩) data)
      fun _ => rfl
  | flush => exact holds
  | closeInput =>
    refine Obeys.bind ((obeys_closeInput holds).mono ?_)
    rintro ⟨h', closed⟩ U holds
    exact holds
  | cloneInput =>
    refine Obeys.bind ((obeys_cloneInput holds).mono ?_)
    rintro (reason | fd) U holds
    · exact holds
    · have moved : (fd :: (h.transport.fds ++ rest)).Perm (h.transport.fds ++ fd :: rest) :=
        List.perm_middle.symm
      exact holds.perm moved
  | close =>
    refine Obeys.bind ((obeys_close holds).mono ?_)
    rintro ⟨h', result⟩ U ⟨closed, holds⟩
    show U.Holds (h'.transport.fds ++ rest)
    rw [closed]
    exact holds
  | status => exact holds

/-- Giving a handle up closes what it holds, and keeps the rest. -/
theorem obeys_drop {h : Handle} (holds : T.Holds (h.transport.fds ++ rest)) :
    h.drop.Obeys (launchDiscipline n) (fun _ U => U.Holds rest) T := by
  have tells : (if h.status.isNone then tell (.droppedUnreaped h.pid) else .done ()).Only
      Call.Neutral := by
    split
    · exact ⟨fun _ => ⟨trivial, fun _ _ _ moves => moves⟩, fun _ => trivial⟩
    · exact trivial
  rw [drop_eq]
  refine Obeys.bind ((obeys_of_neutral tells
    (fun U => U.Holds (h.transport.fds ++ rest)) holds).mono fun _ U holds => ?_)
  obtain ⟨pid, N, status⟩ := h
  cases N with
  | pipes input output =>
    replace holds : U.Holds (input.fd.toList ++ (output.fd.toList ++ rest)) := by
      rwa [Transport.fds, List.append_assoc] at holds
    refine Obeys.bind ((Slot.obeys_close holds).mono ?_)
    rintro ⟨_, _⟩ V ⟨-, holds⟩
    refine Obeys.bind ((Slot.obeys_close holds).mono ?_)
    rintro ⟨_, _⟩ W ⟨-, holds⟩
    exact holds
  | terminal master slaveName =>
    refine Obeys.bind ((Slot.obeys_close holds).mono ?_)
    rintro ⟨_, _⟩ V ⟨-, holds⟩
    exact holds

end Handle

end Using

/-! ### The native allocator -/

/-- Opening a file comes to what the last request to open it comes to: those before it were
interrupted, and left the table as it was. -/
theorem Transfer.obeys_openFd {path : Bytes} {mode : OpenMode} {D : Discipline}
    (may : D.mayAsk T (.openFile path mode)) :
    (openFd path mode).Obeys D (fun r U => T.Moves D.launch (.reply (.openFile path mode) r) U)
      T := by
  rw [openFd_eq_iterate]
  refine ⟨fun _ U => U = T, rfl, ?_⟩
  rintro _ _ rfl
  refine ⟨may, fun answer U moves => ?_⟩
  dsimp only
  by_cases interrupted : answer = .error .EINTR
  · rw [if_pos interrupted]
    subst interrupted
    exact moves
  · rw [if_neg interrupted]
    exact moves

namespace Allocator

/-- A slave is opened for a master that the launch has made, or the table stays as it is. -/
theorem obeys_openSlave {master : Fd} {k : Nat} (modes : Option Modes) (size : Option WindowSize)
    (bound : T.find? master = some ⟨⟨.master k, some n⟩, true⟩) :
    (openSlave master modes size).Obeys (launchDiscipline n) (fun r U =>
      match r with
      | .error _ => U = T
      | .ok pair => pair.master = master ∧ T.find? pair.slave = none ∧
          U = (pair.slave, ⟨⟨.slave k, some n⟩, true⟩) :: T) T := by
  have isBound : T.isBound master = true := by
    rw [Table.isBound, bound]
    rfl
  refine Obeys.request (c := .grantSlave master) trivial fun granted U moves => ?_
  obtain rfl : U = T := moves
  rcases granted with reason | _
  · rfl
  refine Obeys.request (c := .unlockSlave master) trivial fun unlocked V moves => ?_
  obtain rfl : V = U := moves
  rcases unlocked with reason | _
  · rfl
  refine Obeys.request (c := .slaveName master) isBound fun named V moves => ?_
  rcases named with reason | slaveName
  · exact moves
  obtain ⟨rfl, b, k', found, isMaster, rfl⟩ := moves
  -- The master is that of the terminal `k`, and so the name is that of its slave.
  obtain rfl : ⟨⟨.master k, some n⟩, true⟩ = b := Option.some.inj (bound.symm.trans found)
  obtain rfl : k = k' := by simpa using isMaster
  have listed := Table.mem_of_find? bound
  have may (mode : OpenMode) (closedOnExec : mode.cloexec = true) : (launchDiscipline n).mayAsk _
      (.openFile (Bytes.ofText (World.slavePath k)) mode) := ⟨closedOnExec, _, listed, k, rfl, rfl⟩
  refine Obeys.bind ((Transfer.obeys_openFd (may _ rfl)).mono fun opened U moves => ?_)
  rcases opened with reason | slave
  · exact moves
  obtain ⟨free, d, names, rfl⟩ := moves
  obtain rfl : d = ⟨.slave k, some n⟩ := names _ listed k rfl rfl
  have sets : (setUp slave modes size).Only Call.Neutral := setUp_only slave modes size
    (fun _ _ => ⟨trivial, fun _ _ _ moves => moves⟩)
    fun _ _ => ⟨trivial, fun _ _ _ moves => moves⟩
  refine Obeys.bind ((obeys_of_neutral sets (fun U => U = _) rfl).mono ?_)
  rintro (reason | _) W rfl
  · refine Obeys.request (c := .close slave) (Table.isBound_cons_self ..) fun _ W moves => ?_
    obtain rfl : W = _ := moves
    exact Table.remove_cons_self free _
  · exact ⟨rfl, free, rfl⟩

/-- **Making a terminal** comes to what a launch takes its request for one for. -/
theorem obeys_acquireNative (modes : Option Modes) (size : Option WindowSize) :
    (acquireNative modes size).Obeys (launchDiscipline n)
      (fun r U => T.Moves n (.reply (.acquireTerminal modes size) r) U) T := by
  refine Obeys.request (c := .openMaster) trivial fun opened U moves => ?_
  rcases opened with reason | master
  · exact moves
  obtain ⟨free, k, -, rfl⟩ := moves
  have bound : Table.find? ((master, ⟨⟨.master k, some n⟩, true⟩) :: T) master = some _ :=
    (Table.find?_cons ..).trans (if_pos rfl)
  refine Obeys.bind ((obeys_openSlave modes size bound).mono ?_)
  rintro (reason | ⟨_, slave, slaveName⟩) V opened
  · obtain rfl := opened
    refine Obeys.request (c := .close master) (Table.isBound_cons_self ..) fun _ W moves => ?_
    obtain rfl : W = _ := moves
    exact Table.remove_cons_self free _
  · obtain ⟨rfl, slaveFree, rfl⟩ := opened
    refine Obeys.request trivial fun _ W moves => ?_
    obtain rfl : W = _ := moves
    rw [Table.find?_cons] at slaveFree
    split at slaveFree
    · cases slaveFree
    next different => exact ⟨free, slaveFree, different, k, rfl⟩

end Allocator

end Coprocess
