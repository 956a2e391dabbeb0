import Coprocess.Proofs.Passage
import Coprocess.Proofs.Relaying
import Coprocess.Proofs.Release
import Mathlib.Data.List.Nodup

/-!
# The descriptors of a parent

A launch opens descriptors in several steps, each of which may fail, and hands some of them to the
handle.  Here the parent's table is followed from before a launch to the last use of its handle.

`Accounted` is the account: a launch that fails leaves the table as it was and no child behind, and
after one that succeeds the table has grown by what the handle holds, and by nothing else.  What is
done with the handle afterwards closes these descriptors again, and adds only the clones that the
caller asks for (`Lifetime.grown`).

The main statement is `Launcher.accounted`, for a launch over pipes and one on a terminal of the
host.
-/

namespace Coprocess

open Host Program Launcher

variable {T U V : Table Description} {t : List Exchange}

/-! ### Closing what was opened -/

namespace Host.Table

/-- What is closed is taken out, wherever it stands. -/
theorem Grown.remove_middle (above below : Table Description) {fd : Fd} {b : Binding Description}
    (grown : Grown T (above ++ (fd, b) :: below) U) : Grown T (above ++ below) (U.remove fd) := by
  have distinct := grown.distinct
  rw [Distinct, List.map_append, List.map_cons, List.nodup_middle, List.nodup_cons,
    ← List.map_append] at distinct
  have taken : Table.remove (above ++ (fd, b) :: below) fd = above ++ below := by
    have rest : Table.remove (above ++ below) fd = above ++ below :=
      remove_of_free (find?_eq_none_iff.2 distinct.1)
    rw [Table.remove, List.filter_append] at rest ⊢
    simpa using rest
  rw [← taken]
  exact grown.remove (by simp)

end Host.Table

open Host.Table

/-- Closing a slot takes its descriptor out. -/
theorem Slot.Closing.grown {s : Slot} {b : Binding Description} {above below : Table Description}
    (closing : s.Closing t) (through : U.Through t V)
    (grown : Grown T (above ++ (s.fd.toList.map fun fd => (fd, b)) ++ below) U) :
    Grown T (above ++ below) V := by
  rcases s with ⟨_ | fd⟩
  · obtain rfl : t = [] := closing
    obtain rfl : V = U := through
    simpa using grown
  · obtain ⟨r, rfl⟩ := closing
    obtain ⟨_, rfl, rfl⟩ := through
    rw [List.append_assoc] at grown
    exact grown.remove_middle above below

/-- What a transport still holds, if its ends lead to `input` and `output`.  What was opened last
comes first. -/
def Transport.bindings (input output : Description) : Transport → Table Description
  | .pipes i o =>
    (o.fd.toList.map fun fd => (fd, ⟨output, true⟩)) ++
      i.fd.toList.map fun fd => (fd, ⟨input, true⟩)
  | .terminal master _ => master.fd.toList.map fun fd => (fd, ⟨input, true⟩)

/-- Nothing is left of a transport with both directions closed. -/
theorem Transport.bindings_eq_nil {N : Transport} (input output : Description)
    (closed : N.input = .empty ∧ N.output = .empty) : N.bindings input output = [] := by
  obtain ⟨inputClosed, outputClosed⟩ := closed
  cases N with
  | pipes i o =>
    obtain rfl : i = .empty := inputClosed
    obtain rfl : o = .empty := outputClosed
    rfl
  | terminal master slaveName =>
    obtain rfl : master = .empty := inputClosed
    rfl

/-- A release leaves the table as it is. -/
theorem Transport.Releasing.through_eq {during : Origin} {slaveName : String}
    (releasing : Releasing during slaveName t) (through : T.Through t U) : U = T := by
  rcases releasing with ⟨r, rfl⟩ | ⟨reason, rfl⟩
  · obtain ⟨_, rfl, rfl⟩ := through
    rfl
  · obtain ⟨_, rfl, _, rfl, rfl⟩ := through
    rfl

/-- Closing a transport takes all its descriptors out. -/
theorem Transport.Closing.grown {N : Transport} {input output : Description}
    {clones : Table Description} (closing : N.Closing t) (through : U.Through t V)
    (grown : Grown T (clones ++ N.bindings input output) U) : Grown T clones V := by
  cases N with
  | pipes i o =>
    obtain ⟨t₁, t₂, rfl, closesInput, closesOutput⟩ := closing
    obtain ⟨W, first, second⟩ := through_append_iff.1 through
    rw [bindings, ← List.append_assoc, ← List.append_nil (_ ++ i.fd.toList.map _)] at grown
    have left := closesInput.grown first grown
    rw [List.append_nil, ← List.append_nil (clones ++ _)] at left
    simpa using closesOutput.grown second left
  | terminal master slaveName =>
    rw [Transport.Closing] at closing
    split at closing
    next closed =>
      obtain rfl : V = U := by
        subst closing
        exact through
      rw [bindings, Slot.isClosed_iff.1 closed] at grown
      simpa [Slot.empty] using grown
    next =>
      obtain ⟨t₁, t₂, rfl, releasing, closes⟩ := closing
      obtain ⟨W, first, second⟩ := through_append_iff.1 through
      obtain rfl := releasing.through_eq first
      rw [bindings, ← List.append_nil (clones ++ _)] at grown
      simpa using closes.grown second grown

/-! ### Using a handle -/

/-- The descriptor that an answer hands to the caller, if it does. -/
def Answer.cloned? : Answer → Option Fd
  | .cloned (.ok fd) => some fd
  | _ => none

/-- A close takes all that the handle holds out of the table, whatever its wait answers. -/
theorem Handle.grown_of_close {h h' : Handle} {result : Except Failure Status}
    {input output : Description} {clones : Table Description}
    (run : h.close.Yields t (h', result)) (through : U.Through t V)
    (grown : Grown T (clones ++ h.transport.bindings input output) U) :
    Grown T (clones ++ h'.transport.bindings input output) V := by
  obtain ⟨t₁, t₂, rfl, closing, reaping⟩ := yields_close_iff.1 run
  obtain ⟨W, first, W', told, second⟩ := through_append_iff.1 through
  obtain rfl : W' = W := told
  have kept : V = W' := through_of_only (yields_reap_iff.2 reaping)
    (reap_only _ (fun _ _ _ _ kept => kept) fun _ _ _ _ _ kept => kept) second
  have nothing := Transport.bindings_eq_nil input output
    ⟨h.transport.input_emptied, h.transport.output_emptied⟩
  rw [reaping.transport_eq, transport_emptied, nothing, List.append_nil, kept]
  exact closing.grown first grown

theorem Handle.grown_of_closeInput {h h' : Handle} {closed : Bool} {input output : Description}
    {clones : Table Description} (run : h.closeInput.Yields t (h', closed))
    (through : U.Through t V)
    (grown : Grown T (clones ++ h.transport.bindings input output) U) :
    Grown T (clones ++ h'.transport.bindings input output) V := by
  rw [yields_closeInput_iff] at run
  split at run
  next i o transport =>
    obtain ⟨closing, rfl, -⟩ := run
    rw [transport, Transport.bindings, ← List.append_assoc, ← List.append_nil (_ ++ _)] at grown
    have left := closing.grown through grown
    simpa [Transport.bindings, Slot.empty] using left
  next =>
    obtain ⟨rfl, rfl, -⟩ := run
    obtain rfl : V = U := through
    exact grown

/-- Cloning the input adds one descriptor, or none if it fails. -/
theorem Handle.grown_of_cloneInput {h : Handle} {r : Except SystemError Fd}
    {added : Table Description} (run : h.cloneInput.Yields t r) (through : U.Through t V)
    (grown : Grown T added U) :
    (∃ reason, r = .error reason ∧ Grown T added V) ∨
    ∃ fd d, r = .ok fd ∧ Grown T ((fd, ⟨d, true⟩) :: added) V := by
  rw [cloneInput] at run
  split at run
  · obtain ⟨rfl, rfl⟩ := yields_done_iff.1 run
    obtain rfl : V = U := through
    exact .inl ⟨_, rfl, grown⟩
  · obtain ⟨answer, _, rfl, last⟩ := yields_call_iff.1 run
    obtain ⟨rfl, rfl⟩ := yields_done_iff.1 last
    obtain ⟨W, passes, rfl⟩ := through
    cases answer with
    | error reason =>
      obtain rfl : V = U := passes
      exact .inl ⟨_, rfl, grown⟩
    | ok fd =>
      obtain ⟨free, b, -, rfl⟩ := passes
      exact .inr ⟨fd, b.description, rfl, grown.cons free⟩

/-- An operation closes what the handle no longer holds afterwards, and adds what it clones. -/
theorem Handle.grown_of_perform {h h' : Handle} {operation : Operation} {answer : Answer}
    {input output : Description} {clones : Table Description}
    (run : (h.perform operation).Yields t (h', answer)) (through : U.Through t V)
    (grown : Grown T (clones ++ h.transport.bindings input output) U) :
    ∃ clones', clones'.map Prod.fst = answer.cloned?.toList ++ clones.map Prod.fst ∧
      Grown T (clones' ++ h'.transport.bindings input output) V := by
  -- What is only looked at stays as it is.
  have looked {α : Type} {p : Program α} {f : α → Answer}
      (run : (p.bind fun a => .done (h, f a)).Yields t (h', answer)) (only : p.Only Call.Keeps)
      (plain : ∀ a, (f a).cloned? = none) :
      ∃ clones', clones'.map Prod.fst = answer.cloned?.toList ++ clones.map Prod.fst ∧
        Grown T (clones' ++ h'.transport.bindings input output) V := by
    obtain ⟨t₁, a, _, rfl, asks, last⟩ := yields_bind_iff.1 run
    obtain ⟨rfl, ⟨⟩⟩ := yields_done_iff.1 last
    rw [List.append_nil] at through
    obtain rfl := through_of_only asks only through
    exact ⟨clones, by rw [plain a]; rfl, grown⟩
  cases operation with
  | read count => exact looked run (h.read_only (fun _ _ _ _ _ kept => kept) count) fun _ => rfl
  | write data => exact looked run (h.write_only (fun _ _ _ _ _ kept => kept) data) fun _ => rfl
  | flush => exact looked run trivial fun _ => rfl
  | status =>
    obtain ⟨rfl, ⟨⟩⟩ := yields_done_iff.1 run
    obtain rfl : V = U := through
    exact ⟨clones, rfl, grown⟩
  | closeInput =>
    obtain ⟨t₁, ⟨h₁, closed⟩, _, rfl, closes, last⟩ := yields_bind_iff.1 run
    obtain ⟨rfl, ⟨⟩⟩ := yields_done_iff.1 last
    rw [List.append_nil] at through
    exact ⟨clones, rfl, grown_of_closeInput closes through grown⟩
  | close =>
    obtain ⟨t₁, ⟨h₁, result⟩, _, rfl, closes, last⟩ := yields_bind_iff.1 run
    obtain ⟨rfl, ⟨⟩⟩ := yields_done_iff.1 last
    rw [List.append_nil] at through
    exact ⟨clones, rfl, grown_of_close closes through grown⟩
  | cloneInput =>
    obtain ⟨t₁, r, _, rfl, cloning, last⟩ := yields_bind_iff.1 run
    obtain ⟨rfl, ⟨⟩⟩ := yields_done_iff.1 last
    rw [List.append_nil] at through
    rcases grown_of_cloneInput cloning through grown with
      ⟨reason, rfl, grown⟩ | ⟨fd, d, rfl, grown⟩
    · exact ⟨clones, rfl, grown⟩
    · exact ⟨(fd, ⟨d, true⟩) :: clones, rfl, grown⟩

/-- The descriptors that the caller has cloned, last first. -/
def clonesOf (es : List Episode) : List Fd := (es.filterMap fun e => e.answer.cloned?).reverse

/-- **Over a lifetime** the table stays what it was before the launch, with what the handle still
holds on top, and the clones on top of that. -/
theorem Lifetime.grown {h h' : Handle} {es : List Episode} {input output : Description}
    {clones : Table Description} (life : Lifetime h es h')
    (through : U.Through (es.flatMap Episode.exchanges) V)
    (grown : Grown T (clones ++ h.transport.bindings input output) U) :
    ∃ clones', clones'.map Prod.fst = clonesOf es ++ clones.map Prod.fst ∧
      Grown T (clones' ++ h'.transport.bindings input output) V := by
  induction life generalizing U clones with
  | nil h =>
    obtain rfl : V = U := through
    exact ⟨clones, rfl, grown⟩
  | cons e life ih =>
    rw [List.flatMap_cons] at through
    obtain ⟨W, first, rest⟩ := through_append_iff.1 through
    obtain ⟨clones₁, keys₁, grown₁⟩ := Handle.grown_of_perform e.run first grown
    obtain ⟨clones₂, keys₂, grown₂⟩ := ih rest grown₁
    refine ⟨clones₂, ?_, grown₂⟩
    rw [keys₂, keys₁, clonesOf, clonesOf, List.filterMap_cons]
    cases e.answer.cloned? <;> simp

/-! ### Launching -/

namespace Launcher

/-- Preparing a launch opens nothing and makes nothing. -/
theorem through_of_plan {l : Launcher} {c : Command} {block : List Bytes}
    {planned : Except Failure (Command.Kind × Plan)} (run : (l.plan c block).Yields t planned)
    (through : T.Through t U) : U = T ∧ forks t = [] ∧ ∀ x ∈ t, ¬ x.Makes := by
  have keeps : (l.plan c block).Only Call.Keeps :=
    l.plan_only c block (fun _ _ _ kept => kept) (fun _ _ _ _ kept => kept) fun _ _ _ _ kept => kept
  have idle : (l.plan c block).Only fun c => ∀ r, ¬ (Exchange.reply c r).Makes :=
    l.plan_only c block (fun _ => id) (fun _ _ => id) fun _ _ => id
  refine ⟨through_of_only run keeps through, forks_of_only run keeps, fun x hx => ?_⟩
  obtain ⟨c, r, rfl, makesNot⟩ := run.forall_of_only idle x hx
  exact makesNot r

theorem forks_of_closeAll {fds : List Fd} {u : Unit} (run : (closeAll fds).Yields t u) :
    forks t = [] :=
  forks_of_only run (closeAll_only (P := fun _ => True) (fun _ => trivial) fds)

/-- What two pipes add to a table, the first with the number `n` and the second with `m`. -/
def PipePair.bindings (p : PipePair) (n m : Nat) : Table Description :=
  [(p.fromWrite, ⟨.pipeWriter m, true⟩), (p.fromRead, ⟨.pipeReader m, true⟩),
    (p.toWrite, ⟨.pipeWriter n, true⟩), (p.toRead, ⟨.pipeReader n, true⟩)]

/-- Both pipes are made, or nothing is left of them. -/
theorem grown_of_makePipes {r : Except Failure PipePair} (run : makePipes.Yields t r)
    (through : T.Through t U) :
    forks t = [] ∧
      ((∃ reason, r = .error (.system "pipe" reason) ∧ U = T) ∨
      ∃ pipes n m, r = .ok pipes ∧ Grown T (pipes.bindings n m) U) := by
  obtain ⟨first, t₁, rfl, made⟩ := yields_call_iff.1 run
  obtain ⟨V, passes, through₁⟩ := through
  rw [done_bind] at made
  rcases first with reason | ⟨toRead, toWrite⟩
  · obtain ⟨rfl, rfl⟩ := yields_done_iff.1 made
    exact ⟨rfl, .inl ⟨reason, rfl, through₁.trans passes⟩⟩
  obtain ⟨readFree, writeFree, different, n, rfl⟩ := passes
  have one : Grown T [(toWrite, ⟨.pipeWriter n, true⟩), (toRead, ⟨.pipeReader n, true⟩)] _ :=
    ((Grown.refl T).cons readFree).cons (by rwa [find?_cons, if_neg different])
  obtain ⟨second, t₂, rfl, made'⟩ := yields_call_iff.1 made
  obtain ⟨W, passes', through₂⟩ := through₁
  rw [done_bind] at made'
  rcases second with reason | ⟨fromRead, fromWrite⟩
  · -- The first pipe is closed again.
    obtain ⟨t₃, _, _, rfl, closes, last⟩ := yields_bind_iff.1 made'
    obtain ⟨rfl, rfl⟩ := yields_done_iff.1 last
    obtain rfl : W = _ := passes'
    rw [List.append_nil] at through₂ ⊢
    obtain rfl := through_of_closeAll closes through₂
    have left := (one.remove_middle [] [_]).remove_middle [] []
    rw [forks_reply, forks_reply]
    exact ⟨forks_of_closeAll closes, .inl ⟨reason, rfl, left.eq⟩⟩
  · obtain ⟨rfl, rfl⟩ := yields_done_iff.1 made'
    obtain ⟨readFree', writeFree', different', m, rfl⟩ := passes'
    obtain rfl : U = _ := through₂
    refine ⟨rfl, .inr ⟨⟨toRead, toWrite, fromRead, fromWrite⟩, n, m, rfl, ?_⟩⟩
    exact (one.cons readFree').cons (by rwa [find?_cons, if_neg different'])

/-- A launch that gives its pipes up leaves none of their ends. -/
theorem eq_of_closeAll_pipes {pipes : PipePair} {n m : Nat} {u : Unit}
    (run : (closeAll [pipes.toRead, pipes.toWrite, pipes.fromRead, pipes.fromWrite]).Yields t u)
    (through : U.Through t V) (grown : Grown T (pipes.bindings n m) U) : V = T := by
  obtain rfl := through_of_closeAll run through
  have first := (grown.remove_middle [_, _, _] []).remove_middle [_, _] []
  exact ((first.remove_middle [_] []).remove_middle [] []).eq

/-- A launch that has forked keeps the ends that are not the child's. -/
theorem grown_of_closeAll_childEnds {pipes : PipePair} {n m : Nat} {u : Unit}
    (run : (closeAll [pipes.toRead, pipes.fromWrite]).Yields t u)
    (through : U.Through t V) (grown : Grown T (pipes.bindings n m) U) :
    Grown T [(pipes.fromRead, ⟨.pipeReader m, true⟩),
      (pipes.toWrite, ⟨.pipeWriter n, true⟩)] V := by
  obtain rfl := through_of_closeAll run through
  exact (grown.remove_middle [_, _, _] []).remove_middle [] [_, _]

end Launcher

/-! ### The account -/

/-- The table `U` comes back to `T` as the handle is used, with the native allocator in charge of
terminals: at any time there is what the handle still holds on top of `T`, with the clones that the
caller was given, and after a close there are only these, whatever its wait has answered. -/
def Handle.Settles (h : Handle) (input output : Description) (T U : Table Description) : Prop :=
  ∀ es h' t' V, Lifetime h es h' →
    Allocator.native.Serves () (es.flatMap Episode.exchanges) t' () → U.Through t' V →
    ∃ clones, clones.map Prod.fst = clonesOf es ∧
      Grown T (clones ++ h'.transport.bindings input output) V ∧
      ((∃ e ∈ es, e.operation = .close) → V = clones ++ T)

theorem Handle.settles_of_grown {h : Handle} {input output : Description}
    (grown : Grown T (h.transport.bindings input output) U) : h.Settles input output T U := by
  intro es h' t' V life serves through
  obtain ⟨clones, keys, grown'⟩ :=
    life.grown (serves.through_of_native through).1 (show Grown T ([] ++ _) U from grown)
  rw [List.map_nil, List.append_nil] at keys
  refine ⟨clones, keys, grown', ?_⟩
  rintro ⟨e, he, close⟩
  have nothing := Transport.bindings_eq_nil input output (life.eq_empty_of_close he close)
  rw [grown'.eq, nothing, List.append_nil]

/-- The account of a launch, by the exchanges `t` with the result `r`, that has found the parent's
table as `T` and left it as `U`.  `Reached` says by what channel a handle reaches its child, and
where the two directions of it lead. -/
structure Accounted (Reached : Handle → Description → Description → Prop) (T : Table Description)
    (t : List Exchange) (r : Except Failure Handle) (U : Table Description) : Prop where
  /-- A launch that fails leaves nothing open, and no child. -/
  failed : ∀ reason, r = .error reason → U = T ∧ ∀ child, .ok child ∉ forks t
  /-- What is refused is refused before anything is made. -/
  refused : ∀ reason, r = .error reason → reason.isInvalidArgument = true → ∀ x ∈ t, ¬ x.Makes
  /-- A launch that succeeds has forked once.  What the handle holds is all that has become of the
  table, and the handle takes it away again. -/
  launched : ∀ h, r = .ok h → forks t = [.ok h.pid] ∧ ∃ input output, Reached h input output ∧
    Grown T (h.transport.bindings input output) U ∧ h.Settles input output T U

section

variable {Reached : Handle → Description → Description → Prop}

/-- The account of a launch that fails. -/
theorem accounted_of_error {reason : Failure} (unchanged : U = T)
    (childless : ∀ child, .ok child ∉ forks t)
    (refused : reason.isInvalidArgument = true → ∀ x ∈ t, ¬ x.Makes) :
    Accounted Reached T t (.error reason) U := by
  refine ⟨?_, ?_, nofun⟩
  · rintro _ ⟨⟩
    exact ⟨unchanged, childless⟩
  · rintro _ ⟨⟩
    exact refused

/-- The account of a launch that succeeds: what its handle does later follows from what it holds. -/
theorem accounted_of_ok {h : Handle} {input output : Description} (forked : forks t = [.ok h.pid])
    (reached : Reached h input output)
    (held : Grown T (h.transport.bindings input output) U) : Accounted Reached T t (.ok h) U := by
  refine ⟨nofun, nofun, ?_⟩
  rintro _ ⟨⟩
  exact ⟨forked, input, output, reached, held, Handle.settles_of_grown held⟩

/-- The account holds for the host as well, if the native allocator is in charge. -/
theorem Accounted.of_native {t' : List Exchange} {r : Except Failure Handle}
    (serves : Allocator.native.Serves () t t' ()) (balanced : Accounted Reached T t r U) :
    Accounted Reached T t' r U where
  failed := by
    rw [serves.forks_of_native]
    exact balanced.failed
  refused reason error invalid := serves.makes_of_native (balanced.refused reason error invalid)
  launched := by
    rw [serves.forks_of_native]
    exact balanced.launched

end

/-- What a terminal with the number `n` adds to a table, if its slave leads to `d`. -/
def Host.TerminalPair.bindings (pair : TerminalPair) (n : Nat) (d : Description) :
    Table Description :=
  [(pair.slave, ⟨d, true⟩), (pair.master, ⟨.master n, true⟩)]

namespace Launcher

variable {l : Launcher} {c : Command} {block : List Bytes} {r : Except Failure Handle}

/-- The handle is the parent's end of two pipes that are new in the table `T`: the child reads from
the first and writes into the second. -/
def PipedTo (T : Table Description) (t : List Exchange) (h : Handle)
    (input output : Description) : Prop :=
  ∃ pipes n m plan before after V,
    t = before ++ .fork (pipedChild pipes plan) (.ok h.pid) :: after ∧
    T.Through before V ∧ Grown T (pipes.bindings n m) V ∧
    h.transport = .pipes (.holding pipes.toWrite) (.holding pipes.fromRead) ∧
    input = .pipeWriter n ∧ output = .pipeReader m

/-- The account of a launch over pipes. -/
theorem accounted_of_openPiped (run : (l.openPiped c block).Yields t r)
    (through : T.Through t U) : Accounted (PipedTo T t) T t r U := by
  obtain ⟨t₁, planned, t₂, rfl, planning, rest⟩ := yields_bind_iff.1 run
  obtain ⟨V, first, through₂⟩ := through_append_iff.1 through
  obtain ⟨rfl, childless, makesNot⟩ := through_of_plan planning first
  rcases planned with reason | ⟨kind, plan⟩
  · obtain ⟨rfl, rfl⟩ := yields_done_iff.1 rest
    obtain rfl : U = V := through₂
    rw [List.append_nil]
    exact accounted_of_error rfl (by simp [childless]) fun _ => makesNot
  obtain ⟨t₃, made, t₄, rfl, making, forking⟩ := yields_bind_iff.1 rest
  obtain ⟨W, second, through₄⟩ := through_append_iff.1 through₂
  obtain ⟨childless', made⟩ := grown_of_makePipes making second
  rcases made with ⟨reason, rfl, rfl⟩ | ⟨pipes, n, m, rfl, grown⟩
  · obtain ⟨rfl, rfl⟩ := yields_done_iff.1 forking
    obtain rfl : U = W := through₄
    exact accounted_of_error rfl (by simp [childless, childless']) nofun
  obtain ⟨forked, t₅, rfl, parent⟩ := yields_fork_iff.1 forking
  obtain ⟨W', kept, through₅⟩ := through₄
  obtain rfl : W' = W := kept
  rcases forked with reason | child
  · obtain ⟨t₆, _, _, rfl, closes, last⟩ := yields_bind_iff.1 parent
    obtain ⟨rfl, rfl⟩ := yields_done_iff.1 last
    rw [List.append_nil] at through₅ ⊢
    have unchanged := eq_of_closeAll_pipes closes through₅ grown
    refine accounted_of_error unchanged ?_ nofun
    simp [childless, childless', forks_of_closeAll closes]
  · obtain ⟨⟨⟩, t₆, rfl, told⟩ := yields_call_iff.1 parent
    rw [done_bind] at told
    obtain ⟨t₇, _, _, rfl, closes, last⟩ := yields_bind_iff.1 told
    obtain ⟨rfl, rfl⟩ := yields_done_iff.1 last
    obtain ⟨W'', kept', through₆⟩ := through₅
    obtain rfl : W'' = W' := kept'
    rw [List.append_nil] at through₆ ⊢
    have held := grown_of_closeAll_childEnds closes through₆ grown
    refine accounted_of_ok ?_ ?_ held
    · simp [childless, childless', forks_of_closeAll closes]
    · refine ⟨pipes, n, m, plan, t₁ ++ t₃, _, _, (List.append_assoc ..).symm, ?_, grown, rfl, rfl,
        rfl⟩
      exact through_append_iff.2 ⟨_, first, second⟩

/-- The handle is the master of a terminal. -/
def OnTerminal (h : Handle) (input output : Description) : Prop :=
  ∃ master slaveName n, h.transport = .terminal (.holding master) slaveName ∧
    input = .master n ∧ output = .master n

/-- A launch that gives its terminal up leaves neither side of it, and has no child. -/
theorem eq_of_giveUp {pair : TerminalPair} {n : Nat} {d : Description} {reason : Failure}
    (run : ((Handle.release .launch pair.slaveName).bind fun _ =>
      (closeAll [pair.master, pair.slave]).bind fun _ => .done (.error reason)).Yields t r)
    (through : U.Through t V) (grown : Grown T (pair.bindings n d) U) :
    r = .error reason ∧ V = T ∧ forks t = [] := by
  obtain ⟨t₁, _, _, rfl, releasing, rest⟩ := yields_bind_iff.1 run
  obtain ⟨t₂, _, _, rfl, closes, last⟩ := yields_bind_iff.1 rest
  obtain ⟨rfl, rfl⟩ := yields_done_iff.1 last
  rw [List.append_nil] at through ⊢
  obtain ⟨W, first, second⟩ := through_append_iff.1 through
  have releasing := Handle.yields_release_iff.1 releasing
  obtain rfl := releasing.through_eq first
  obtain rfl := through_of_closeAll closes second
  refine ⟨rfl, ((grown.remove_middle [_] []).remove_middle [] []).eq, ?_⟩
  rcases releasing with ⟨_, rfl⟩ | ⟨_, rfl⟩ <;> simp [forks_of_closeAll closes]

variable {options : TerminalOptions}

/-- The account of a launch on a terminal, if the allocator opens both sides of it or none, and
refuses nothing that the caller has asked for as invalid. -/
theorem accounted_of_openTerminal (run : (l.openTerminal c options block).Yields t r)
    (through : T.Through t U)
    (valid : ∀ modes size reason, .reply (.acquireTerminal modes size) (.error reason) ∈ t →
      reason.isInvalidArgument = false) : Accounted OnTerminal T t r U := by
  rw [openTerminal] at run
  split at run
  · obtain ⟨rfl, rfl⟩ := yields_done_iff.1 run
    obtain rfl : U = T := through
    exact accounted_of_error rfl (by simp) fun _ => by simp
  obtain ⟨t₁, planned, t₂, rfl, planning, rest⟩ := yields_bind_iff.1 run
  obtain ⟨V, first, through₂⟩ := through_append_iff.1 through
  obtain ⟨rfl, childless, makesNot⟩ := through_of_plan planning first
  rcases planned with reason | ⟨kind, plan⟩
  · obtain ⟨rfl, rfl⟩ := yields_done_iff.1 rest
    obtain rfl : U = V := through₂
    rw [List.append_nil]
    exact accounted_of_error rfl (by simp [childless]) fun _ => makesNot
  obtain ⟨acquired, t₃, rfl, answered⟩ := yields_call_iff.1 rest
  obtain ⟨W, passes, through₃⟩ := through₂
  rcases acquired with reason | pair
  · obtain ⟨rfl, rfl⟩ := yields_done_iff.1 answered
    obtain rfl : U = W := through₃
    have valid := valid _ _ reason (List.mem_append_right _ List.mem_cons_self)
    refine accounted_of_error passes (by simp [childless]) fun invalid => ?_
    rw [valid] at invalid
    cases invalid
  obtain ⟨masterFree, slaveFree, different, n, d, rfl⟩ := passes
  have both : Grown V (pair.bindings n d) _ :=
    ((Grown.refl V).cons masterFree).cons (by rwa [find?_cons, if_neg different])
  rw [done_bind] at answered
  dsimp only at answered
  split at answered
  · obtain ⟨rfl, unchanged, childless'⟩ := eq_of_giveUp answered through₃ both
    exact accounted_of_error unchanged (by simp [childless, childless']) fun h => by cases h
  obtain ⟨forked, t₄, rfl, parent⟩ := yields_fork_iff.1 answered
  obtain ⟨W', kept, through₄⟩ := through₃
  obtain rfl : W' = _ := kept
  rcases forked with reason | child
  · obtain ⟨rfl, unchanged, childless'⟩ := eq_of_giveUp parent through₄ both
    exact accounted_of_error unchanged (by simp [childless, childless']) fun h => by cases h
  · obtain ⟨⟨⟩, t₅, rfl, told⟩ := yields_call_iff.1 parent
    rw [done_bind] at told
    obtain ⟨t₆, _, _, rfl, closes, last⟩ := yields_bind_iff.1 told
    obtain ⟨rfl, rfl⟩ := yields_done_iff.1 last
    obtain ⟨W', kept, through₅⟩ := through₄
    obtain rfl : W' = _ := kept
    rw [List.append_nil] at through₅ ⊢
    obtain rfl := through_of_closeAll closes through₅
    have held := both.remove_middle [] [_]
    refine accounted_of_ok ?_ ⟨pair.master, pair.slaveName, n, rfl, rfl, rfl⟩ held
    simp [childless, forks_of_closeAll closes]

/-- **Descriptors are accounted for.**  Whatever a launch is answered, over pipes or on a terminal
of the host, and whatever is then done with its handle, the account of the parent's table
balances. -/
theorem accounted (l : Launcher) (c : Command) (options : TerminalOptions) (block : List Bytes)
    (T U : Table Description) (t : List Exchange) (r : Except Failure Handle) :
    ((l.openPiped c block).Yields t r → T.Through t U → Accounted (PipedTo T t) T t r U) ∧
    (((l.openTerminal c options block).allocatedBy Allocator.native ()).Yields t (r, ()) →
      T.Through t U → Accounted OnTerminal T t r U) := by
  constructor
  · intro run through
    exact accounted_of_openPiped run through
  · intro run through
    obtain ⟨t₀, alone, serves⟩ := exists_of_yields_allocatedBy run
    obtain ⟨through₀, valid⟩ := serves.through_of_native through
    exact (accounted_of_openTerminal alone through₀ valid).of_native serves

/-- A launch over pipes whose handle is cloned from and then closed, with a wait that fails, and a
launch on a terminal that cannot fork. -/
theorem accounted_of_failed_wait :
    let T : Table Description :=
      [(0, ⟨.file 0, false⟩), (1, ⟨.file 0, false⟩), (2, ⟨.file 0, false⟩)]
    (∃ t h U, (({} : Launcher).openPiped (.shell "exit;") []).Yields t (.ok h) ∧ T.Through t U ∧
      Accounted (PipedTo T t) T t (.ok h) U ∧
      ∃ es h', Lifetime h es h' ∧
        es.map Episode.answer = [.cloned (.ok 7), .ended (.error (.system "waitpid" .ECHILD))] ∧
        U.Through (es.flatMap Episode.exchanges) ((7, ⟨.pipeWriter 0, true⟩) :: T)) ∧
    ∃ t, ((({} : Launcher).openTerminal (.shell "exit;") {} []).allocatedBy
        Allocator.native ()).Yields t (.error (.system "fork" .EAGAIN), ()) ∧ T.Through t T ∧
      Accounted OnTerminal T t (.error (.system "fork" .EAGAIN)) T := by
  intro T
  constructor
  · let h : Handle := ⟨9, .pipes (.holding 4) (.holding 5), none⟩
    have launch : ∃ t, (({} : Launcher).openPiped (.shell "exit;") []).Yields t (.ok h) ∧
        T.Through t ((5, ⟨.pipeReader 1, true⟩) :: (4, ⟨.pipeWriter 0, true⟩) :: T) := by
      apply Exists.intro
      apply And.intro
      · apply Yields.call (r := false)
        apply Yields.call (r := Except.ok none)
        apply Yields.call (r := Except.ok (3, 4))
        apply Yields.call (r := Except.ok (5, 6))
        apply Yields.fork (r := .ok 9)
        apply Yields.call (r := ())
        apply Yields.call (r := Except.ok ())
        apply Yields.call (r := Except.ok ())
        exact .done _
      · refine ⟨_, rfl, _, rfl, _, ⟨rfl, rfl, by decide, 0, rfl⟩, _, ⟨rfl, rfl, by decide, 1, rfl⟩,
          _, rfl, _, rfl, _, rfl, _, rfl, rfl⟩
    obtain ⟨t, run, through⟩ := launch
    refine ⟨t, h, _, run, through, (accounted _ _ {} _ _ _ _ _).1 run through, ?_⟩
    let h' : Handle := { h with transport := .pipes .empty .empty }
    have clone : (h.perform .cloneInput).Yields [.reply (.duplicate 4 3 true) (.ok 7)]
        (h, .cloned (.ok 7)) := .call (.done _)
    have closing : h.close.Yields ([.reply (.close 4) (.ok ()), .reply (.close 5) (.ok ())] ++
        h.closedNote :: Handle.waits 9 ([] ++ [.error .ECHILD]))
        (h', .error (.system "waitpid" .ECHILD)) :=
      Handle.yields_close_iff.2 ⟨_, _, rfl, ⟨[_], [_], rfl, ⟨_, rfl⟩, _, rfl⟩,
        .failed rfl nofun (by decide)⟩
    have life : Lifetime h _ h' :=
      .cons ⟨h, .cloneInput, _, _, h, clone⟩
        (.cons ⟨h, .close, _, _, h', closing.bind (.done _)⟩ (.nil h'))
    refine ⟨_, h', life, rfl, ?_⟩
    exact ⟨_, ⟨rfl, _, rfl, rfl⟩, _, rfl, _, rfl, _, rfl, _, rfl, rfl⟩
  · have fits : ¬ (Bytes.ofText "/dev/pts/3").length + 1 > 64 := by decide
    have launch : ∃ t, ((({} : Launcher).openTerminal (.shell "exit;") {} []).allocatedBy
        Allocator.native ()).Yields t (.error (.system "fork" .EAGAIN), ()) ∧ T.Through t T := by
      apply Exists.intro
      apply And.intro
      · apply Yields.call (r := false)
        apply Yields.call (r := Except.ok none)
        apply Yields.call (r := Except.ok 3)
        apply Yields.call (r := Except.ok ())
        apply Yields.call (r := Except.ok ())
        apply Yields.call (r := Except.ok "/dev/pts/3")
        apply Yields.stop
        · apply Yields.call (r := Except.ok 4)
          exact .done _
        apply Yields.call (r := ())
        simp only [done_bind, pure_eq, if_neg fits]
        apply Yields.fork (r := .error .EAGAIN)
        apply Yields.call (r := ())
        apply Yields.call (r := Except.ok ())
        apply Yields.call (r := Except.ok ())
        exact .done _
      · exact ⟨_, rfl, _, rfl, _, ⟨rfl, 0, rfl⟩, _, rfl, _, rfl, _, rfl, _, ⟨rfl, .slave 0, rfl⟩, _,
          rfl, _, rfl, _, rfl, _, rfl, _, rfl, rfl⟩
    obtain ⟨t, run, through⟩ := launch
    exact ⟨t, run, through, (accounted _ _ _ _ _ _ _ _).2 run through⟩

end Launcher

end Coprocess
