import Coprocess.Proofs.Abandonment
import Coprocess.Proofs.Events
import Coprocess.Proofs.Passage
import Coprocess.Proofs.Preparation

/-!
# The chronicle of a coprocess

The engine tells of a coprocess when it is started, when its descriptors are closed and when it is
reaped, and when its handle is given up before that.  `Chronicle` says what the events come to over
a launch, everything that is done with the handle, and the end of the handle.

An allocator may tell of its own work.  One that tells of nothing else is `Quiet`, as the native one
is, and then the chronicle is the same with what the allocator tells put in
(`Allocator.Serves.filter_events`).

The main statement is `Launcher.chronicled`.
-/

namespace Coprocess

open Host Program

variable {t t' t₁ t₂ : List Exchange}

/-! ### What a launch tells -/

/-- While a plan is built nothing is told of but the search. -/
theorem Plan.isPreparatory_of_mem_reported {c : Command} {kind : Command.Kind}
    {ctx : SearchContext} {exec : ExecSettings} {block : List Bytes} :
    ∀ event ∈ reported c kind ctx exec block, event.isPreparatory = true := by
  unfold reported
  split
  · cases kind with
    | shell => nofun
    | path => nofun
    | bare =>
      intro event told
      rcases List.mem_append.1 told with skipped | resolved
      · obtain ⟨_, -, rfl⟩ := List.mem_map.1 skipped
        rfl
      · rw [List.mem_singleton.1 resolved]
        rfl
  · nofun

namespace Launcher

/-- A launch that succeeds, in two parts: what comes before there is a coprocess, and what is done
once that is told of, of which nothing more is told. -/
def Opens (opening : Event) (t : List Exchange) : Prop :=
  ∃ t₁ t₂, t = t₁ ++ .reply (.log opening) () :: t₂ ∧
    (∀ x ∈ t₁, x.TellsOnly (·.isPreparatory = true)) ∧ ∀ x ∈ t₂, x.TellsOnly fun _ => False

variable {l : Launcher} {c : Command} {block : List Bytes} {h : Handle}

theorem tellsOnly_of_plan {kind : Command.Kind} {plan : Plan}
    (run : (l.plan c block).Yields t (.ok (kind, plan))) :
    c.classify = .ok kind ∧ ∀ x ∈ t, x.TellsOnly (·.isPreparatory = true) := by
  rcases yields_plan_iff.1 run with
    ⟨_, _, _, ⟨⟩⟩ | ⟨kind', privileged, reported, accepted, rfl, built⟩
  have same : kind = kind' := by
    unfold planned at built
    split at built
    · cases built
    · cases built
      rfl
  refine ⟨same ▸ accepted, List.forall_mem_cons.2 ⟨trivial, List.forall_mem_cons.2 ⟨trivial, ?_⟩⟩⟩
  rw [List.forall_mem_map]
  exact Plan.isPreparatory_of_mem_reported

theorem tellsOnly_of_closeAll {P : Event → Prop} {fds : List Fd} {u : Unit}
    (run : (closeAll fds).Yields t u) : ∀ x ∈ t, x.TellsOnly P :=
  tellsOnly_of_only run (closeAll_only (fun _ _ => trivial) _)

theorem tellsOnly_of_makePipes {P : Event → Prop} {made : Except Failure PipePair}
    (run : makePipes.Yields t made) : ∀ x ∈ t, x.TellsOnly P :=
  tellsOnly_of_only run (makePipes_only (fun _ => trivial) fun _ _ => trivial)

theorem opens_of_openPiped (run : (l.openPiped c block).Yields t (.ok h)) :
    ∃ kind, c.classify = .ok kind ∧ h.status = none ∧ Opens (.openedPiped h.pid c.line kind) t := by
  obtain ⟨t₁, planned, t₂, rfl, planning, rest⟩ := yields_bind_iff.1 run
  rcases planned with reason | ⟨kind, plan⟩
  · cases (yields_done_iff.1 rest).2
  obtain ⟨accepted, prepared⟩ := tellsOnly_of_plan planning
  obtain ⟨t₃, made, t₄, rfl, making, forking⟩ := yields_bind_iff.1 rest
  rcases made with reason | pipes
  · cases (yields_done_iff.1 forking).2
  obtain ⟨forked, t₅, rfl, parent⟩ := yields_fork_iff.1 forking
  rcases forked with reason | child
  · obtain ⟨_, _, _, -, -, last⟩ := yields_bind_iff.1 parent
    cases (yields_done_iff.1 last).2
  · obtain ⟨⟨⟩, t₆, rfl, told⟩ := yields_call_iff.1 parent
    rw [done_bind] at told
    obtain ⟨t₇, _, _, rfl, closes, last⟩ := yields_bind_iff.1 told
    obtain ⟨rfl, ⟨⟩⟩ := yields_done_iff.1 last
    refine ⟨kind, accepted, rfl, t₁ ++ t₃ ++ [.fork (pipedChild pipes plan) (.ok child)], t₇,
      ?_, ?_, tellsOnly_of_closeAll closes⟩
    · simp
    · simp only [List.forall_mem_append, List.forall_mem_singleton]
      exact ⟨⟨prepared, tellsOnly_of_makePipes making⟩, trivial⟩

theorem opens_of_openTerminal {options : TerminalOptions}
    (run : (l.openTerminal c options block).Yields t (.ok h)) :
    ∃ kind slaveName, c.classify = .ok kind ∧ h.status = none ∧
      (∃ master, h.transport = .terminal (.holding master) slaveName) ∧
      Opens (.openedTerminal h.pid c.line kind slaveName) t := by
  rw [openTerminal] at run
  split at run
  · cases (yields_done_iff.1 run).2
  obtain ⟨t₁, planned, t₂, rfl, planning, rest⟩ := yields_bind_iff.1 run
  rcases planned with reason | ⟨kind, plan⟩
  · cases (yields_done_iff.1 rest).2
  obtain ⟨accepted, prepared⟩ := tellsOnly_of_plan planning
  obtain ⟨acquired, t₃, rfl, answered⟩ := yields_call_iff.1 rest
  rcases acquired with reason | pair
  · cases (yields_done_iff.1 answered).2
  rw [done_bind] at answered
  dsimp only at answered
  split at answered
  · cases (deeds_of_giveUp answered).2
  obtain ⟨forked, t₄, rfl, parent⟩ := yields_fork_iff.1 answered
  rcases forked with reason | child
  · cases (deeds_of_giveUp parent).2
  · obtain ⟨⟨⟩, t₅, rfl, told⟩ := yields_call_iff.1 parent
    rw [done_bind] at told
    obtain ⟨t₆, _, _, rfl, closes, last⟩ := yields_bind_iff.1 told
    obtain ⟨rfl, ⟨⟩⟩ := yields_done_iff.1 last
    refine ⟨kind, pair.slaveName, accepted, rfl, ⟨pair.master, rfl⟩,
      t₁ ++ [.reply (.acquireTerminal options.modes options.size) (.ok pair),
        .fork (attachedChild pair plan) (.ok child)], t₆, ?_, ?_, tellsOnly_of_closeAll closes⟩
    · simp
    · simp only [List.forall_mem_append, List.forall_mem_cons]
      exact ⟨prepared, fun _ => rfl, trivial, List.forall_mem_nil _⟩

end Launcher

/-! ### Allocators that tell of their work only -/

namespace Allocator

variable {σ : Type} {a : Allocator σ} {s s' : σ}

/-- The allocator tells of nothing but what it allocates and takes back. -/
structure Quiet (a : Allocator σ) : Prop where
  acquire : ∀ s modes size t r, (a.acquire s modes size).Yields t r →
    ∀ event ∈ events t, ∃ slaveName, event = .terminalAllocated slaveName
  release : ∀ s slaveName t r, (a.release s slaveName).Yields t r →
    ∀ event ∈ events t, ∃ slaveName, event = .terminalReleased slaveName

theorem native_quiet : native.Quiet where
  acquire _ modes size t r run event told := by
    have only : (acquireNative modes size).Only fun c => ∀ e, c = .log e →
        ∃ slaveName, e = .terminalAllocated slaveName := by
      refine acquireNative_only modes size (fun c other e same => absurd same (other e)) ?_
      rintro slaveName _ ⟨⟩
      exact ⟨slaveName, rfl⟩
    exact forall_events_of_only (acquireNative_of_acquire run) only event told
  release _ slaveName t r run event told := by
    rw [eq_of_release run] at told
    exact ⟨slaveName, List.mem_singleton.1 told⟩

/-- What is told under a quiet allocator is what is told anyway, with what the allocator tells put
in. -/
theorem Serves.filter_events (quiet : a.Quiet) (serves : a.Serves s t t' s') :
    (events t').filter (! ·.isAllocators) = (events t).filter (! ·.isAllocators) := by
  induction serves with
  | nil => rfl
  | @acquire _ _ _ _ _ _ t t₁ t₂ run _ ih =>
    have own : (events t₁).filter (! ·.isAllocators) = [] := by
      refine List.filter_eq_nil_iff.2 fun event told => ?_
      obtain ⟨_, rfl⟩ := quiet.acquire _ _ _ _ _ run event told
      simp [Event.isAllocators]
    rw [events_append, List.filter_append, own, ih]
    rfl
  | @release _ _ _ _ _ t t₁ t₂ run _ ih =>
    have own : (events t₁).filter (! ·.isAllocators) = [] := by
      refine List.filter_eq_nil_iff.2 fun event told => ?_
      obtain ⟨_, rfl⟩ := quiet.release _ _ _ _ run event told
      simp [Event.isAllocators]
    rw [events_append, List.filter_append, own, ih]
    rfl
  | @reply c r _ _ t t' _ _ _ ih =>
    rw [events_cons _ t', events_cons _ t, List.filter_append, List.filter_append, ih]
  | fork _ ih => exact ih
  | spawn _ ih => exact ih

/-- What holds of all that an exchange can tell holds of all that is told. -/
theorem Serves.forall_events {P : Event → Prop} (quiet : a.Quiet) (serves : a.Serves s t t' s')
    (only : ∀ x ∈ t, x.TellsOnly P) : ∀ event ∈ events t', P event := by
  induction serves with
  | nil => nofun
  | acquire run _ ih =>
    rw [List.forall_mem_cons] at only
    rw [events_append, List.forall_mem_append]
    refine ⟨fun event told => ?_, ih only.2⟩
    obtain ⟨slaveName, rfl⟩ := quiet.acquire _ _ _ _ _ run event told
    exact only.1 slaveName
  | release run _ ih =>
    rw [List.forall_mem_cons] at only
    rw [events_append, List.forall_mem_append]
    refine ⟨fun event told => ?_, ih only.2⟩
    obtain ⟨slaveName, rfl⟩ := quiet.release _ _ _ _ run event told
    exact only.1 slaveName
  | reply _ _ _ ih =>
    rw [List.forall_mem_cons] at only
    rw [events_cons, List.forall_mem_append]
    exact ⟨forall_events_of_tellsOnly (List.forall_mem_singleton.2 only.1), ih only.2⟩
  | fork _ ih =>
    rw [List.forall_mem_cons] at only
    exact ih only.2
  | spawn _ ih =>
    rw [List.forall_mem_cons] at only
    exact ih only.2

/-- A program that has no terminal to ask for tells the same under a quiet allocator. -/
theorem Serves.events_eq (quiet : a.Quiet) (serves : a.Serves s t t' s')
    (only : ∀ x ∈ t, x.TellsOnly (·.isAllocators = false)) : events t' = events t := by
  have kept {es : List Event} (own : ∀ event ∈ es, event.isAllocators = false) :
      es.filter (! ·.isAllocators) = es :=
    List.filter_eq_self.2 fun event told => by rw [own event told, Bool.not_false]
  rw [← kept (serves.forall_events quiet only), ← kept (forall_events_of_tellsOnly only)]
  exact serves.filter_events quiet

end Allocator

/-! ### The chronicle -/

/-- What is told of a coprocess over a launch that tells of the `opening`, the episodes `es` of its
handle `h`, and the end of the handle: `evs` are all events, in order. -/
structure Chronicle (opening : Event) (h : Handle) (es : List Episode) (evs : List Event) :
    Prop where
  /-- That the coprocess was started is told once. -/
  opened_once : evs.filter Event.isOpening = [opening]
  /-- Nothing is told of the handle before that, and nothing but of the handle after it. -/
  opened : ∃ before after, evs = before ++ opening :: after ∧
    (∀ event ∈ before, event.isPreparatory = true) ∧ ∀ event ∈ after, event.isOfHandle = true
  /-- Each close tells once that the descriptors are closed, and nothing else tells it. -/
  closed : evs.filter Event.isClosing =
    List.replicate (es.countP Episode.isClose) (.descriptorsClosed h.pid)
  /-- It is told when all of them are closed, and before anything is told of the child. -/
  each_closed : ∀ e ∈ es, e.operation = .close → e.after.transport.isClosed = true ∧
    ∃ t₁ t₂, e.exchanges = t₁ ++ .reply (.log (.descriptorsClosed h.pid)) () :: t₂ ∧
      t₁.filterMap Exchange.closed? = e.before.transport.fds ∧
      t₂.filterMap Exchange.closed? = [] ∧
      (∀ event ∈ events t₁, event.isReleaseFailure = true) ∧
      ∀ event ∈ events t₂, event.isEnd = true
  /-- If a close succeeds, its status is told once, by the first that succeeds, and nobody tells
  that the child is left unreaped.  The status is what every later close answers and what is known
  from then on. -/
  reaped : ∀ es₁ e es₂ s, es = es₁ ++ e :: es₂ → e.answer = .ended (.ok s) →
    evs.filter Event.isEnd = [.waited h.pid s] ∧
    ((∀ earlier ∈ es₁, ∀ s', earlier.answer ≠ .ended (.ok s')) →
      .waited h.pid s ∈ events e.exchanges) ∧
    ∀ later ∈ es₂, (later.operation = .close → later.answer = .ended (.ok s)) ∧
      (later.operation = .status → later.answer = .status (some s))
  /-- If none does, it is told once, and last of all, that the child is left unreaped. -/
  unreaped : (∀ e ∈ es, ∀ s, e.answer ≠ .ended (.ok s)) →
    evs.filter Event.isEnd = [.droppedUnreaped h.pid] ∧
      evs.getLast? = some (.droppedUnreaped h.pid)
  /-- That a release failed is told once at most, and never after descriptors are closed. -/
  releaseFailed : evs.Pairwise fun earlier later => later.isReleaseFailure = true →
    earlier.isReleaseFailure = false ∧ earlier.isClosing = false

/-- Of what is told over a launch, the uses of a handle and its end, the launch and the allocator
have no part in the kinds that are told of handles by the engine. -/
theorem filter_parts {opening : Event} {before uses last : List Event} {p : Event → Bool}
    (opens : opening.isOpening = true) (prepared : ∀ event ∈ before, event.isPreparatory = true)
    (ofHandle : ∀ event, event.isOfHandle = false → p event = false)
    (ofEngine : ∀ event, event.isAllocators = true → p event = false) :
    (before ++ opening :: uses ++ last).filter p =
      (uses.filter (! ·.isAllocators)).filter p ++ last.filter p := by
  have ofBefore : before.filter p = [] := by
    refine List.filter_eq_nil_iff.2 fun event mem => Bool.eq_false_iff.1 (ofHandle event ?_)
    exact (Event.isOfHandle_of_isPreparatory (prepared event mem)).2
  have ofOpening : ¬ p opening = true :=
    Bool.eq_false_iff.1 (ofHandle opening (Event.isOfHandle_of_isOpening opens))
  have same : (fun event => p event && !event.isAllocators) = p := by
    funext event
    cases own : event.isAllocators with
    | true => rw [ofEngine event own, Bool.false_and]
    | false => rw [Bool.not_false, Bool.and_true]
  rw [List.filter_append, List.filter_append, List.filter_cons_of_neg ofOpening, ofBefore,
    List.filter_filter, same, List.nil_append]

namespace Lifetime

variable {h h' : Handle} {es : List Episode}

/-- The account of a lifetime that begins with a launch. -/
theorem chronicle {opening : Event} {before uses : List Event} (life : Lifetime h es h')
    (unknown : h.status = none) (opens : opening.isOpening = true)
    (prepared : ∀ event ∈ before, event.isPreparatory = true)
    (used : ∀ event ∈ uses, event.isOfHandle = true)
    (told : uses.filter (! ·.isAllocators) = events (es.flatMap Episode.exchanges)) :
    Chronicle opening h es (before ++ opening :: uses ++
      if h'.status.isSome then [] else [.droppedUnreaped h'.pid]) where
  opened_once := by
    have ofBefore : before.filter Event.isOpening = [] :=
      List.filter_eq_nil_iff.2 fun event mem opens => by
        cases opens.symm.trans (Event.isOfHandle_of_isPreparatory (prepared event mem)).1
    have ofUses : uses.filter Event.isOpening = [] :=
      List.filter_eq_nil_iff.2 fun event mem opens => by
        cases (used event mem).symm.trans (Event.isOfHandle_of_isOpening opens)
    rw [List.filter_append, List.filter_append, List.filter_cons_of_pos opens, ofBefore, ofUses]
    split <;> rfl
  opened := by
    refine ⟨before, _, List.append_assoc .., prepared, List.forall_mem_append.2 ⟨used, ?_⟩⟩
    split <;> simp [Event.isOfHandle, Event.isEnd]
  closed := by
    rw [filter_parts opens prepared (fun _ h => (Event.kinds_of_isOfHandle h).1)
      fun _ h => (Event.kinds_of_isAllocators h).1, told, life.filter_isClosing]
    split <;> simp [Event.isClosing]
  each_closed e he close := by
    have pid : e.before.pid = h.pid := (life.fades_before he).pid
    refine ⟨Transport.isClosed_iff.2 (Episode.isClosed_of_close close), ?_⟩
    rw [← pid]
    exact Episode.each_closed close
  reaped := by
    rintro es₁ e es₂ s rfl answer
    obtain ⟨earlier, later⟩ := life.exists_of_append
    have known := Episode.status_of_ended answer
    refine ⟨?_, fun first => ?_, later.answer_of_ended known⟩
    · rw [filter_parts opens prepared (fun _ h => (Event.kinds_of_isOfHandle h).2.1)
        fun _ h => (Event.kinds_of_isAllocators h).2.1, told, life.filter_isEnd, unknown,
        later.fades.status s known]
      rfl
    · have unknown' : e.before.status = none :=
        (earlier.status_eq_of_unended first).trans unknown
      have ends := e.filter_isEnd
      rw [unknown', known, earlier.fades.pid] at ends
      have listed : .waited h.pid s ∈ (events e.exchanges).filter Event.isEnd := by
        rw [ends]
        exact List.mem_singleton_self _
      exact (List.mem_filter.1 listed).1
  unreaped unended := by
    have unreaped : h'.status = none := (life.status_eq_of_unended unended).trans unknown
    constructor
    · rw [filter_parts opens prepared (fun _ h => (Event.kinds_of_isOfHandle h).2.1)
        fun _ h => (Event.kinds_of_isAllocators h).2.1, told, life.filter_isEnd, unreaped, unknown,
        life.fades.pid]
      rfl
    · rw [unreaped, life.fades.pid]
      exact List.getLast?_concat
  releaseFailed := by
    have ofUses : uses.Pairwise fun earlier later => later.isReleaseFailure = true →
        earlier.isReleaseFailure = false ∧ earlier.isClosing = false := by
      have pairwise := life.pairwise_isReleaseFailure
      rw [← told, List.pairwise_filter] at pairwise
      refine pairwise.imp fun {earlier later} kept failed => ?_
      have engine : later.isAllocators = false := Bool.eq_false_iff.2 fun own => by
        cases failed.symm.trans (Event.kinds_of_isAllocators own).2.2
      cases own : earlier.isAllocators with
      | true => exact ⟨(Event.kinds_of_isAllocators own).2.2, (Event.kinds_of_isAllocators own).1⟩
      | false => exact kept (by rw [own, Bool.not_false]) (by rw [engine, Bool.not_false]) failed
    -- What is told before the uses of the handle is no word of a close.
    have harmless {event : Event} (other : event.isOfHandle = false) :
        event.isReleaseFailure = false ∧ event.isClosing = false :=
      ⟨(Event.kinds_of_isOfHandle other).2.2, (Event.kinds_of_isOfHandle other).1⟩
    have ofBefore : ∀ earlier ∈ before, ∀ later : Event, later.isReleaseFailure = true →
        earlier.isReleaseFailure = false ∧ earlier.isClosing = false :=
      fun earlier mem _ _ => harmless (Event.isOfHandle_of_isPreparatory (prepared earlier mem)).2
    have ofLast : ∀ later ∈ (if h'.status.isSome then [] else [.droppedUnreaped h'.pid]),
        Event.isReleaseFailure later = false := by
      split <;> simp [Event.isReleaseFailure]
    refine List.pairwise_append.2 ⟨List.pairwise_append.2 ⟨?_, .cons ?_ ofUses, ?_⟩, ?_, ?_⟩
    · exact List.pairwise_of_forall_mem_list fun earlier mem later _ => ofBefore earlier mem later
    · exact fun later _ _ => harmless (Event.isOfHandle_of_isOpening opens)
    · exact fun earlier mem later _ => ofBefore earlier mem later
    · split <;> simp
    · intro earlier _ later mem failed
      cases failed.symm.trans (ofLast later mem)

end Lifetime

/-- The chronicle is that of the events of a trace, and of all that is told in it with a quiet
allocator in charge. -/
def Chronicled (opening : Event) (h : Handle) (es : List Episode) (t : List Exchange) : Prop :=
  Chronicle opening h es (events t) ∧
    ∀ (σ : Type) (a : Allocator σ) (s s' : σ) (t' : List Exchange), a.Quiet →
      a.Serves s t t' s' → Chronicle opening h es (events t')

/-- Whatever launch the handle comes from, the chronicle is right. -/
theorem chronicled_of_opens {opening : Event} {h h' : Handle} {es : List Episode}
    {u : List Exchange} {v : Unit} (opens : Launcher.Opens opening t)
    (isOpening : opening.isOpening = true) (unknown : h.status = none) (life : Lifetime h es h')
    (dropped : h'.drop.Yields u v) :
    Chronicled opening h es (t ++ es.flatMap Episode.exchanges ++ u) := by
  obtain ⟨t₁, t₂, rfl, prepared, silent⟩ := opens
  have engine : (events (es.flatMap Episode.exchanges)).filter (! ·.isAllocators) =
      events (es.flatMap Episode.exchanges) :=
    List.filter_eq_self.2 fun event told => by
      rw [(Lifetime.isOfHandle_of_mem event told).2, Bool.not_false]
  constructor
  · have nothing : events t₂ = [] :=
      List.eq_nil_iff_forall_not_mem.2 (forall_events_of_tellsOnly silent)
    have whole := life.chronicle unknown isOpening (forall_events_of_tellsOnly prepared)
      (fun event told => (Lifetime.isOfHandle_of_mem event told).1) engine
    rw [events_append, events_append, events_append, events_log, nothing,
      Handle.events_of_drop dropped]
    simpa using whole
  · intro σ a s s' t' quiet serves
    obtain ⟨_, u', s₃, rfl, serves, ofDrop⟩ := serves.exists_of_append
    obtain ⟨_, uses', s₂, rfl, serves, ofUses⟩ := serves.exists_of_append
    obtain ⟨t₁', _, s₁, rfl, ofPlan, serves⟩ := serves.exists_of_append
    cases serves with
    | @reply _ _ _ _ _ t₂' _ _ ofRest =>
      have nothing : events t₂' = [] :=
        List.eq_nil_iff_forall_not_mem.2 (ofRest.forall_events quiet silent)
      have whole := life.chronicle unknown isOpening (ofPlan.forall_events quiet prepared)
        (ofUses.forall_events quiet (Lifetime.tellsOnly es))
        ((ofUses.filter_events quiet).trans engine)
      rw [events_append, events_append, events_append, events_log, nothing,
        ofDrop.events_eq quiet (Handle.tellsOnly_of_drop dropped), Handle.events_of_drop dropped]
      simpa using whole

/-! ### The main statement -/

/-- **Every coprocess is accounted for.**  Whatever a launch that succeeds is followed by, the
events are its chronicle. -/
theorem Launcher.chronicled {l : Launcher} {c : Command} {block : List Bytes} {h h' : Handle}
    {es : List Episode} {u : List Exchange} {v : Unit} (life : Lifetime h es h')
    (dropped : h'.drop.Yields u v) :
    ((l.openPiped c block).Yields t (.ok h) → ∃ kind, c.classify = .ok kind ∧
      Chronicled (.openedPiped h.pid c.line kind) h es
        (t ++ es.flatMap Episode.exchanges ++ u)) ∧
    ∀ options, (l.openTerminal c options block).Yields t (.ok h) → ∃ kind slaveName,
      c.classify = .ok kind ∧ (∃ master, h.transport = .terminal (.holding master) slaveName) ∧
      Chronicled (.openedTerminal h.pid c.line kind slaveName) h es
        (t ++ es.flatMap Episode.exchanges ++ u) := by
  constructor
  · intro run
    obtain ⟨kind, accepted, unknown, opens⟩ := opens_of_openPiped run
    exact ⟨kind, accepted, chronicled_of_opens opens rfl unknown life dropped⟩
  · intro options run
    obtain ⟨kind, slaveName, accepted, unknown, holds, opens⟩ := opens_of_openTerminal run
    exact ⟨kind, slaveName, accepted, holds,
      chronicled_of_opens opens rfl unknown life dropped⟩

/-- A handle that is closed twice, the first time with a release and a wait that fail, and one that
is given up without having been closed. -/
theorem Launcher.chronicled_of_retried_close :
    (∃ t h es h' u, (({} : Launcher).openTerminal (.shell "exit;") {} []).Yields t (.ok h) ∧
      Lifetime h es h' ∧ h'.drop.Yields u () ∧
      es.map Episode.answer = [.ended (.error (.system "waitpid" .ECHILD)),
        .ended (.ok (.exited 3))] ∧
      events (es.flatMap Episode.exchanges ++ u) =
        [.releaseFailed .lifecycle "/dev/pts/3" (Failure.system "revoke" .EPERM).message,
          .descriptorsClosed 9, .descriptorsClosed 9, .waited 9 (.exited 3)] ∧
      ∃ kind slaveName, (Command.shell "exit;").classify = .ok kind ∧
        (∃ master, h.transport = .terminal (.holding master) slaveName) ∧
        Chronicled (.openedTerminal h.pid (Command.shell "exit;").line kind slaveName) h es
          (t ++ es.flatMap Episode.exchanges ++ u)) ∧
    ∃ t h u, (({} : Launcher).openPiped (.shell "exit;") []).Yields t (.ok h) ∧
      h.drop.Yields u () ∧
      events (t ++ u) = [.openedPiped 9 "exit;" .shell, .droppedUnreaped 9] ∧
      ∃ kind, (Command.shell "exit;").classify = .ok kind ∧
        Chronicled (.openedPiped h.pid (Command.shell "exit;").line kind) h [] (t ++ [] ++ u) := by
  constructor
  · let h₀ : Handle := ⟨9, .terminal (.holding 5) "/dev/pts/3", none⟩
    let h₁ : Handle := ⟨9, .terminal .empty "/dev/pts/3", none⟩
    let h₂ : Handle := ⟨9, .terminal .empty "/dev/pts/3", some (.exited 3)⟩
    let refused : Failure := .system "revoke" .EPERM
    obtain ⟨t, launch⟩ := exists_openTerminal
    have failed : h₀.close.Yields ([.reply (.releaseTerminal "/dev/pts/3") (.error refused),
        .reply (.log (.releaseFailed .lifecycle "/dev/pts/3" refused.message)) (),
        .reply (.close 5) (.ok ())] ++ h₀.closedNote :: Handle.waits 9 ([] ++ [.error .ECHILD]))
        (h₁, .error (.system "waitpid" .ECHILD)) :=
      Handle.yields_close_iff.2 ⟨_, _, rfl, ⟨[_, _], [_], rfl, .inr ⟨refused, rfl⟩, _, rfl⟩,
        .failed rfl nofun (by decide)⟩
    have ended : h₁.close.Yields ([] ++ h₁.closedNote :: (Handle.waits 9
        ([] ++ [.ok (9, .exited 3)]) ++ [.reply (.log (.waited 9 (.exited 3))) ()]))
        (h₂, .ok (.exited 3)) :=
      Handle.yields_close_iff.2 ⟨_, _, rfl, rfl, .ended rfl nofun rfl⟩
    have life : Lifetime h₀ _ h₂ :=
      .cons ⟨h₀, .close, _, _, h₁, failed.bind (.done _)⟩
        (.cons ⟨h₁, .close, _, _, h₂, ended.bind (.done _)⟩ (.nil h₂))
    have dropped : h₂.drop.Yields [] () := .done _
    exact ⟨t, h₀, _, h₂, _, launch, life, dropped, rfl, rfl,
      (chronicled life dropped).2 {} launch⟩
  · let h : Handle := ⟨9, .pipes (.holding 4) (.holding 5), none⟩
    have launch : ∃ t, (({} : Launcher).openPiped (.shell "exit;") []).Yields t (.ok h) ∧
        events t = [.openedPiped 9 "exit;" .shell] := by
      apply Exists.intro
      apply And.intro
      · apply Yields.call (r := false)
        apply Yields.call (r := Except.ok none)
        apply Yields.call (r := Except.ok (3, 4))
        apply Yields.call (r := Except.ok (5, 6))
        apply Yields.fork (r := .ok 9)
        apply Yields.call (r := ())
        apply Yields.call (r := Except.ok ())
        apply Yields.call (r := Except.ok ())
        exact .done _
      · rfl
    obtain ⟨t, launch, told⟩ := launch
    have dropped : h.drop.Yields [.reply (.log (.droppedUnreaped 9)) (),
        .reply (.close 4) (.ok ()), .reply (.close 5) (.ok ())] () :=
      .call (.call (.call (.done _)))
    refine ⟨t, h, _, launch, dropped, ?_, (chronicled (.nil h) dropped).1 launch⟩
    rw [events_append, told]
    rfl

end Coprocess
