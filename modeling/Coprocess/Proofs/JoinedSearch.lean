import Coprocess.Bytes.Lemmas
import Coprocess.Proofs.Plans

/-!
# A search along two lists, one after the other

A list of directories can be put together from two with a colon between them.  The search along the
whole is then the search along the first and, unless that was decided, the search along the second:
the colon ends the last entry of the first list and begins the first entry of the second, whatever
bytes stand on either side of it.

The attempts are answered by an `Oracle`, which fixes for each path, argument list and environment
whether the image starts.  `Program.Ends` says what a child does under an oracle: which attempts it
makes and how it ends.  For a plan along a list this is a function of the candidates
(`ends_run_iff`), and what that function does to two lists of candidates one after the other
(`Frame.course_append`) is the reason for the main statement.

Main statement:
* `Plan.joined_search`: the plan for two lists joined by a colon is built if the plans for both are,
  it makes the attempts of the first and ends as that does if the first started an image or met a
  file without a header, and otherwise it goes on with the attempts and the end of the second; a
  smaller path limit takes away just the candidates that exceed it.
-/

namespace Coprocess

open Host

namespace Search

/-! ### Attempts and the course of a search -/

/-- A request for an image: the file, the arguments and the environment. -/
structure Attempt where
  path : Bytes
  argv : List Bytes
  envv : List Bytes
deriving DecidableEq, Repr

/-- What the system says to each attempt, no matter when it is made: why the image does not start,
or nothing if it does. -/
abbrev Oracle := Attempt → Option Errno

/-- How a child comes to an end as a copy of its parent. -/
inductive Ending where
  /-- The image of the attempt takes its place. -/
  | became (image : Attempt)
  | exited (code : Nat)
deriving DecidableEq, Repr

/-- The course that a search takes: all that the child tries, in order, and its end. -/
structure Course where
  attempts : List Attempt
  ending : Ending
deriving DecidableEq, Repr

namespace Course

/-- One more attempt, before all others. -/
def after (a : Attempt) (o : Course) : Course := { o with attempts := a :: o.attempts }

/-- The attempts of the first and then those of the second, which has the last word. -/
def followedBy (first second : Course) : Course :=
  { attempts := first.attempts ++ second.attempts, ending := second.ending }

/-- The search is over before the list is: an image has started, or a file has no header and went to
the shell. -/
def Decided (oracle : Oracle) (o : Course) : Prop :=
  (∃ image, o.ending = .became image) ∨ ∃ a ∈ o.attempts, oracle a = some .ENOEXEC

theorem decided_after {oracle : Oracle} {a : Attempt} {o : Course}
    (refused : oracle a ≠ some .ENOEXEC) : (o.after a).Decided oracle ↔ o.Decided oracle := by
  simp [Decided, after, refused]

end Course

end Search

open Search

/-! ### Children under an oracle -/

namespace Host

/-- The attempt that was made and refused, if the exchange is one. -/
def Exchange.attempt? : Exchange → Option Attempt
  | .reply (.execute path argv envv) _ => some ⟨path, argv, envv⟩
  | _ => none

/-- An attempt is refused as the oracle says; everything else is free. -/
def Exchange.AnsweredBy (oracle : Oracle) : Exchange → Prop
  | .reply (.execute path argv envv) reason => oracle ⟨path, argv, envv⟩ = some reason
  | _ => True

namespace Program

/-- `p.Ends oracle o`: some run of `p` whose attempts are answered by the oracle makes the attempts
of `o` and comes to its end. -/
inductive Ends (oracle : Oracle) (p : Program Unit) : Course → Prop
  | became {t : List Exchange} {a : Attempt} : p.Asks t (.execute a.path a.argv a.envv) →
      (∀ x ∈ t, x.AnsweredBy oracle) → oracle a = none →
      Ends oracle p ⟨t.filterMap Exchange.attempt? ++ [a], .became a⟩
  | exited {t : List Exchange} {code : Nat} : p.Asks t (.exit code) →
      (∀ x ∈ t, x.AnsweredBy oracle) →
      Ends oracle p ⟨t.filterMap Exchange.attempt?, .exited code⟩

variable {oracle : Oracle}

theorem ends_exit_iff {code : Nat} {o : Course} :
    (exit code : Program Unit).Ends oracle o ↔ o = ⟨[], .exited code⟩ := by
  constructor
  · rintro (⟨asks, -, -⟩ | ⟨asks, -⟩)
    · obtain ⟨-, h⟩ | ⟨r, -⟩ := asks_call_iff.1 asks
      · cases h
      · exact r.elim
    · obtain ⟨rfl, h⟩ | ⟨r, -⟩ := asks_call_iff.1 asks
      · cases h
        rfl
      · exact r.elim
  · rintro rfl
    exact .exited .here (by simp)

/-- The two ways of a call that does not end the child by itself: the answer fits the oracle, and
the child goes on. -/
theorem Ends.of_call {c : Call} {next : c.Reply → Program Unit} {r : c.Reply} {o : Course}
    (answered : (Exchange.reply c r).AnsweredBy oracle) (ends : (next r).Ends oracle o) :
    (call c next).Ends oracle
      { o with attempts := (Exchange.reply c r).attempt?.toList ++ o.attempts } := by
  have split (t : List Exchange) : (Exchange.reply c r :: t).filterMap Exchange.attempt? =
      (Exchange.reply c r).attempt?.toList ++ t.filterMap Exchange.attempt? := by
    cases h : (Exchange.reply c r).attempt? <;> simp [h]
  cases ends with
  | @became t a asks rest starts =>
    have first : (call c next).Asks (.reply c r :: t) (.execute a.path a.argv a.envv) := asks.call
    have ends := Ends.became first (List.forall_mem_cons.2 ⟨answered, rest⟩) starts
    rwa [split, List.append_assoc] at ends
  | @exited t code asks rest =>
    have first : (call c next).Asks (.reply c r :: t) (.exit code) := asks.call
    have ends := Ends.exited first (List.forall_mem_cons.2 ⟨answered, rest⟩)
    rwa [split] at ends

/-- A child goes on after a call, unless the call is its last. -/
theorem Ends.cases_call {c : Call} {next : c.Reply → Program Unit} {o : Course}
    (ends : (call c next).Ends oracle o) :
    (∃ a, c = .execute a.path a.argv a.envv ∧ oracle a = none ∧ o = ⟨[a], .became a⟩) ∨
    (∃ code, c = .exit code) ∨
    ∃ r o', (Exchange.reply c r).AnsweredBy oracle ∧ (next r).Ends oracle o' ∧
      o = { o' with attempts := (Exchange.reply c r).attempt?.toList ++ o'.attempts } := by
  have split (r : c.Reply) (t : List Exchange) :
      (Exchange.reply c r :: t).filterMap Exchange.attempt? =
        (Exchange.reply c r).attempt?.toList ++ t.filterMap Exchange.attempt? := by
    cases h : (Exchange.reply c r).attempt? <;> simp [h]
  cases ends with
  | @became t a asks answered starts =>
    obtain ⟨rfl, h⟩ | ⟨r, t, rfl, onward⟩ := asks_call_iff.1 asks
    · exact .inl ⟨a, h.symm, starts, rfl⟩
    · obtain ⟨first, rest⟩ := List.forall_mem_cons.1 answered
      exact .inr (.inr ⟨r, _, first, .became onward rest starts, by
        rw [split, List.append_assoc]⟩)
  | @exited t code asks answered =>
    obtain ⟨rfl, h⟩ | ⟨r, t, rfl, onward⟩ := asks_call_iff.1 asks
    · exact .inr (.inl ⟨code, h.symm⟩)
    · obtain ⟨first, rest⟩ := List.forall_mem_cons.1 answered
      exact .inr (.inr ⟨r, _, first, .exited onward rest, by rw [split]⟩)

/-- An attempt that starts its image is the last. -/
theorem ends_execute_iff_of_none {path : Bytes} {argv envv : List Bytes}
    {next : Errno → Program Unit} {o : Course} (starts : oracle ⟨path, argv, envv⟩ = none) :
    (call (.execute path argv envv) next).Ends oracle o ↔
      o = ⟨[⟨path, argv, envv⟩], .became ⟨path, argv, envv⟩⟩ := by
  constructor
  · intro ends
    rcases ends.cases_call with ⟨a, h, -, rfl⟩ | ⟨code, h⟩ | ⟨r, o', first, -⟩
    · cases h
      rfl
    · cases h
    · cases starts.symm.trans first
  · rintro rfl
    exact .became (a := ⟨path, argv, envv⟩) .here (by simp) starts

/-- After an attempt that is refused the program goes on with the reason. -/
theorem ends_execute_iff_of_some {path : Bytes} {argv envv : List Bytes}
    {next : Errno → Program Unit} {reason : Errno} {o : Course}
    (refused : oracle ⟨path, argv, envv⟩ = some reason) :
    (call (.execute path argv envv) next).Ends oracle o ↔
      ∃ o', (next reason).Ends oracle o' ∧ o = o'.after ⟨path, argv, envv⟩ := by
  constructor
  · intro ends
    rcases ends.cases_call with ⟨a, h, starts, rfl⟩ | ⟨code, h⟩ | ⟨r, o', first, rest, rfl⟩
    · cases h
      cases starts.symm.trans refused
    · cases h
    · obtain rfl : reason = r := Option.some.inj (refused.symm.trans first)
      exact ⟨o', rest, rfl⟩
  · rintro ⟨o', rest, rfl⟩
    exact rest.of_call (c := .execute path argv envv) refused

theorem ends_setDisposition_iff {signal : Signal} {disposition : Disposition}
    {next : Except Errno Disposition → Program Unit} {o : Course} :
    (call (.setDisposition signal disposition) next).Ends oracle o ↔
      ∃ r, (next r).Ends oracle o := by
  constructor
  · intro ends
    rcases ends.cases_call with ⟨_, h, -⟩ | ⟨_, h⟩ | ⟨r, o', -, rest, rfl⟩
    · cases h
    · cases h
    · exact ⟨r, rest⟩
  · rintro ⟨r, rest⟩
    exact rest.of_call (c := .setDisposition signal disposition) trivial

end Program

end Host

/-! ### The course of a search -/

namespace Frame

variable (f : Frame) (oracle : Oracle)

/-- The attempt on a candidate itself. -/
def own (c : Candidate) : Attempt := ⟨c.path, f.argv, f.envv⟩

/-- The attempt on the shell with a candidate as its script. -/
def script (c : Candidate) : Attempt := ⟨f.shell, c.fallback, f.envv⟩

/-- What comes of trying the candidates in order. -/
def course : List Candidate → Course
  | [] => ⟨[], .exited Status.unresolvedCode⟩
  | c :: rest =>
    match oracle (f.own c) with
    | none => ⟨[f.own c], .became (f.own c)⟩
    | some reason =>
      if reason = .ENOEXEC then
        match oracle (f.script c) with
        | none => ⟨[f.own c, f.script c], .became (f.script c)⟩
        | some _ => ⟨[f.own c, f.script c], .exited Status.unresolvedCode⟩
      else (course rest).after (f.own c)

variable {f oracle}

theorem course_cons_of_none {c : Candidate} {rest : List Candidate}
    (starts : oracle (f.own c) = none) :
    f.course oracle (c :: rest) = ⟨[f.own c], .became (f.own c)⟩ := by
  simp [course, starts]

theorem course_cons_of_script {c : Candidate} {rest : List Candidate}
    (refused : oracle (f.own c) = some .ENOEXEC) (starts : oracle (f.script c) = none) :
    f.course oracle (c :: rest) = ⟨[f.own c, f.script c], .became (f.script c)⟩ := by
  simp [course, refused, starts]

theorem course_cons_of_failed_script {c : Candidate} {rest : List Candidate} {reason : Errno}
    (refused : oracle (f.own c) = some .ENOEXEC) (failed : oracle (f.script c) = some reason) :
    f.course oracle (c :: rest) = ⟨[f.own c, f.script c], .exited Status.unresolvedCode⟩ := by
  simp [course, refused, failed]

/-- A file without a header decides the search, whether or not the shell starts. -/
theorem decided_course_cons {c : Candidate} (front back : List Candidate)
    (refused : oracle (f.own c) = some .ENOEXEC) :
    (f.course oracle (c :: front)).Decided oracle ∧
      f.course oracle (c :: back) = f.course oracle (c :: front) := by
  cases script : oracle (f.script c) with
  | none =>
    rw [course_cons_of_script refused script, course_cons_of_script refused script]
    exact ⟨.inl ⟨_, rfl⟩, rfl⟩
  | some reason =>
    rw [course_cons_of_failed_script refused script, course_cons_of_failed_script refused script]
    exact ⟨.inr ⟨f.own c, by simp, refused⟩, rfl⟩

theorem course_cons_of_other {c : Candidate} {rest : List Candidate} {reason : Errno}
    (refused : oracle (f.own c) = some reason) (other : reason ≠ .ENOEXEC) :
    f.course oracle (c :: rest) = (f.course oracle rest).after (f.own c) := by
  simp [course, refused, other]

/-- Candidates of a second list are tried only if the first has not decided. -/
theorem course_append (f : Frame) (oracle : Oracle) (front back : List Candidate) :
    ((f.course oracle front).Decided oracle →
      f.course oracle (front ++ back) = f.course oracle front) ∧
    (¬ (f.course oracle front).Decided oracle →
      f.course oracle (front ++ back) =
        (f.course oracle front).followedBy (f.course oracle back)) := by
  induction front with
  | nil =>
    refine ⟨?_, fun _ => rfl⟩
    rintro (⟨_, h⟩ | ⟨_, h, -⟩) <;> cases h
  | cons c front ih =>
    rw [List.cons_append]
    cases answer : oracle (f.own c) with
    | none =>
      rw [course_cons_of_none answer, course_cons_of_none answer]
      exact ⟨fun _ => rfl, fun undecided => (undecided (.inl ⟨_, rfl⟩)).elim⟩
    | some reason =>
      by_cases noexec : reason = .ENOEXEC
      · rw [noexec] at answer
        obtain ⟨decided, same⟩ := decided_course_cons front (front ++ back) answer
        exact ⟨fun _ => same, fun undecided => (undecided decided).elim⟩
      · rw [course_cons_of_other answer noexec, course_cons_of_other answer noexec,
          Course.decided_after (by simpa [answer] using noexec)]
        exact ⟨fun decided => by rw [ih.1 decided], fun undecided => by rw [ih.2 undecided]; rfl⟩

end Frame

namespace Plan

variable {p : Plan} {oracle : Oracle}

/-- What a child does that tries candidates, whatever it does when it got none of them. -/
theorem tryEach_cons_bind (c : Candidate) (rest : List Candidate) (f : Unit → Program Unit) :
    (p.tryEach (c :: rest)).bind f = .call (.execute c.path p.argv p.envv) fun reason =>
      if reason = .ENOEXEC then .call (.execute p.shell c.fallback p.envv) fun _ => f ()
      else (p.tryEach rest).bind f := by
  change Program.call _ _ = _
  congr 1
  funext reason
  by_cases noexec : reason = .ENOEXEC
  · subst noexec
    rfl
  · simp [noexec]

/-- A child that tries candidates and exits when it got none of them takes their course. -/
theorem ends_tryEach_iff {candidates : List Candidate} {o : Course} :
    ((p.tryEach candidates).bind fun _ => Program.exit Status.unresolvedCode).Ends oracle o ↔
      o = p.course oracle candidates := by
  induction candidates generalizing o with
  | nil => exact Program.ends_exit_iff
  | cons c rest ih =>
    rw [tryEach_cons_bind]
    cases answer : oracle (p.own c) with
    | none =>
      rw [Frame.course_cons_of_none answer]
      exact Program.ends_execute_iff_of_none answer
    | some reason =>
      rw [Program.ends_execute_iff_of_some answer]
      by_cases noexec : reason = .ENOEXEC
      · rw [noexec] at answer
        simp only [if_pos noexec]
        cases shell : oracle (p.script c) with
        | none =>
          simp only [Program.ends_execute_iff_of_none shell, exists_eq_left,
            Frame.course_cons_of_script answer shell]
          exact Iff.rfl
        | some reason =>
          simp only [Program.ends_execute_iff_of_some shell, Program.ends_exit_iff, exists_eq_left,
            Frame.course_cons_of_failed_script answer shell]
          exact Iff.rfl
      · simp only [Frame.course_cons_of_other answer noexec, if_neg noexec, ih, exists_eq_left]
        exact Iff.rfl

/-- The child of a plan with candidates ends in one way, which the candidates and the
oracle say. -/
theorem ends_run_iff {candidates : List Candidate} (search : p.strategy = .search candidates)
    {o : Course} : p.run.Ends oracle o ↔ o = p.course oracle candidates := by
  rw [run, attempts, search]
  change (Program.call (.setDisposition brokenPipeSignal .default) _).Ends oracle o ↔ _
  simp only [Program.ends_setDisposition_iff, Program.done_bind]
  exact ⟨fun ⟨_, h⟩ => ends_tryEach_iff.1 h, fun h => ⟨.error .EPERM, ends_tryEach_iff.2 h⟩⟩

end Plan

/-! ### Joined lists -/

/-- A separator between two byte strings ends the last piece of the one and begins the first piece
of the other. -/
theorem Bytes.splitOn_append (sep : UInt8) (front back : Bytes) :
    splitOn sep (front ++ sep :: back) = splitOn sep front ++ splitOn sep back := by
  rw [splitOn_eq_listSplitOn, splitOn_eq_listSplitOn, splitOn_eq_listSplitOn,
    List.splitOn_append_cons_self]

namespace SearchContext

/-- The same circumstances with a search path of its own. -/
def along (ctx : SearchContext) (path : Bytes) : SearchContext :=
  { ctx with searchPath := some path }

/-- The same circumstances with another path limit. -/
def upTo (ctx : SearchContext) (limit : Nat) : SearchContext := { ctx with pathLimit := limit }

end SearchContext

namespace Search

theorem candidates_append (command : String) (ctx : SearchContext) (exec : ExecSettings)
    (front back : Bytes) :
    candidates command (ctx.along (front ++ 0x3A :: back)) exec =
      candidates command (ctx.along front) exec ++ candidates command (ctx.along back) exec := by
  simp only [candidates, expansions, SearchContext.along, SearchContext.effectivePath,
    Bytes.splitOn_append, List.map_append, List.filter_append]
  rfl

/-- A smaller limit keeps, in their order, the candidates that fit in it. -/
theorem candidates_upTo (command : String) (ctx : SearchContext) (exec : ExecSettings)
    {low high : Nat} (le : low ≤ high) :
    candidates command (ctx.upTo low) exec =
      (candidates command (ctx.upTo high) exec).filter fun path => path.length + 1 ≤ low := by
  simp only [candidates, List.filter_filter]
  refine List.filter_congr fun path _ => ?_
  simp only [SearchContext.fits, SearchContext.upTo]
  grind

end Search

namespace Plan

/-- A plan for a name is built if all candidates can be handed to the system, next to what every
plan needs. -/
theorem build_bare_eq_ok_iff {c : Command} {ctx : SearchContext} {exec : ExecSettings}
    {block : List Bytes} {p : Plan} :
    build c .bare ctx exec block = .ok p ↔
      ∃ f, frameFor c exec block = .ok f ∧
        p = { f with strategy := strategyOf c .bare ctx exec } ∧
        ∀ path ∈ Search.candidates c.line ctx exec,
          ∀ s ∈ (candidateFor exec (argumentsOf c) path).strings, 0 ∉ s := by
  simp only [build_eq, frameFor_eq, checked_eq_ok_iff, strings, List.forall_mem_append]
  constructor
  · rintro ⟨rfl, frame, candidates⟩
    exact ⟨_, ⟨rfl, frame⟩, rfl, fun path mem s hs =>
      candidates s (List.mem_flatMap.2 ⟨_, List.mem_map_of_mem mem, hs⟩)⟩
  · rintro ⟨_, ⟨rfl, frame⟩, rfl, ready⟩
    refine ⟨rfl, frame, fun s hs => ?_⟩
    obtain ⟨k, made, hs⟩ := List.mem_flatMap.1 hs
    obtain ⟨path, listed, rfl⟩ := List.mem_map.1 made
    exact ready path listed s hs

/-- Executing the plan for two search paths joined by a colon: if the plan for the first starts an
image or meets a file without a header, the attempts and the end are those of that plan; otherwise
the plan for the second takes over where it leaves off.  And a smaller path limit takes away just
the candidates that exceed it. -/
theorem joined_search {c : Command} {ctx : SearchContext} {exec : ExecSettings}
    {block : List Bytes} {front back : Bytes} {p q : Plan}
    (first : build c .bare (ctx.along front) exec block = .ok p)
    (second : build c .bare (ctx.along back) exec block = .ok q) :
    (∃ r, build c .bare (ctx.along (front ++ 0x3A :: back)) exec block = .ok r ∧
      ∀ oracle : Oracle, ∃ o₁ o₂ : Course,
        (∀ o, p.run.Ends oracle o ↔ o = o₁) ∧
        (∀ o, q.run.Ends oracle o ↔ o = o₂) ∧
        (o₁.Decided oracle → ∀ o, r.run.Ends oracle o ↔ o = o₁) ∧
        (¬ o₁.Decided oracle → ∀ o, r.run.Ends oracle o ↔ o = o₁.followedBy o₂)) ∧
    ∀ low high, low ≤ high → Search.candidates c.line (ctx.upTo low) exec =
      (Search.candidates c.line (ctx.upTo high) exec).filter fun path => path.length + 1 ≤ low := by
  refine ⟨?_, fun low high le => Search.candidates_upTo c.line ctx exec le⟩
  obtain ⟨f, hf, rfl, ready₁⟩ := build_bare_eq_ok_iff.1 first
  obtain ⟨g, hg, rfl, ready₂⟩ := build_bare_eq_ok_iff.1 second
  obtain rfl : f = g := Except.ok.inj (hf.symm.trans hg)
  refine ⟨_, build_bare_eq_ok_iff.2 ⟨f, hf, rfl, ?_⟩, fun oracle => ?_⟩
  · rw [Search.candidates_append]
    exact fun path hpath => (List.mem_append.1 hpath).elim (ready₁ path) (ready₂ path)
  · let listed (path : Bytes) : List Candidate :=
      (Search.candidates c.line (ctx.along path) exec).map (candidateFor exec (argumentsOf c))
    have joined : listed (front ++ 0x3A :: back) = listed front ++ listed back := by
      simp only [listed, Search.candidates_append, List.map_append]
    obtain ⟨decided, undecided⟩ :=
      f.course_append oracle (listed front) (listed back)
    refine ⟨f.course oracle (listed front), f.course oracle (listed back),
      fun o => ends_run_iff rfl, fun o => ends_run_iff rfl, fun h o => ?_, fun h o => ?_⟩
    · rw [← decided h, ← joined]
      exact ends_run_iff rfl
    · rw [← undecided h, ← joined]
      exact ends_run_iff rfl

/-- The first list is one directory where the name cannot be executed, and the second one where it
can. -/
theorem joined_search_of_two_directories :
    ∃ r, build (.program "tool" ["tool", "x"]) .bare
        (SearchContext.along ⟨none, false, 4096⟩
          (Bytes.ofText "/opt" ++ 0x3A :: Bytes.ofText "/bin")) {} [] = .ok r ∧
      ∀ o, r.run.Ends
          (fun a => if a.path = Bytes.ofText "/opt/tool" then some .EACCES else none) o ↔
        o = ⟨[⟨Bytes.ofText "/opt/tool", [Bytes.ofText "tool", Bytes.ofText "x"], []⟩,
              ⟨Bytes.ofText "/bin/tool", [Bytes.ofText "tool", Bytes.ofText "x"], []⟩],
            .became ⟨Bytes.ofText "/bin/tool", [Bytes.ofText "tool", Bytes.ofText "x"], []⟩⟩ := by
  let argv := [Bytes.ofText "tool", Bytes.ofText "x"]
  let planFor (path : Bytes) : Plan :=
    { shell := Bytes.ofText "/bin/sh", argv, envv := []
      strategy := .search [candidateFor {} argv path] }
  have front : build (.program "tool" ["tool", "x"]) .bare
      (SearchContext.along ⟨none, false, 4096⟩ (Bytes.ofText "/opt")) {} [] =
      .ok (planFor (Bytes.ofText "/opt/tool")) := rfl
  have back : build (.program "tool" ["tool", "x"]) .bare
      (SearchContext.along ⟨none, false, 4096⟩ (Bytes.ofText "/bin")) {} [] =
      .ok (planFor (Bytes.ofText "/bin/tool")) := rfl
  obtain ⟨⟨r, built, h⟩, -⟩ := joined_search front back
  refine ⟨r, built, ?_⟩
  obtain ⟨o₁, o₂, first, second, -, undecided⟩ :=
    h fun a => if a.path = Bytes.ofText "/opt/tool" then some .EACCES else none
  have left : (⟨[⟨Bytes.ofText "/opt/tool", argv, []⟩], .exited 127⟩ : Course) = o₁ :=
    (first _).1 ((ends_run_iff rfl).2 (by decide))
  have right : (⟨[⟨Bytes.ofText "/bin/tool", argv, []⟩],
      .became ⟨Bytes.ofText "/bin/tool", argv, []⟩⟩ : Course) = o₂ :=
    (second _).1 ((ends_run_iff rfl).2 (by decide))
  subst left right
  exact undecided (by simp +decide [Course.Decided])

end Plan

end Coprocess
