import Coprocess.Bytes.Lemmas
import Coprocess.CommandLine
import Mathlib.Data.List.Nodup

/-!
# Every invocation has a command line

An invocation is written down by its options, in any order, two hyphens, the command and the
arguments of the program: `written` is that command line, and `choicesOf` are the options that were
chosen.  Reading goes through the same three parts.  Each option adds its value to the draft
(`take_written`), so that after all of them the draft holds what was chosen, whatever the order was
(`draftOf_of_perm`); the two hyphens end the options for good; and from then on every argument is
an operand, however it is spelled.

The main statement is `parse_written`: reading a command line that was written gives the invocation
back.
-/

namespace Coprocess.CommandLine

/-! ### Writing -/

/-- An option that was chosen, with its value. -/
inductive Choice where
  | terminal
  | config (path : Bytes)
  | logFile (path : Bytes)
  | level (level : LogLevel)
deriving DecidableEq, Repr

namespace Choice

/-- Which option it is; `none` is the one without a value. -/
def key : Choice → Option ValueOption
  | terminal => none
  | config _ => some .config
  | logFile _ => some .logFile
  | level _ => some .level

/-- The argument by which the option is given, with its value after an equals sign. -/
def written : Choice → Bytes
  | terminal => Bytes.ofText "--pty"
  | config path => Bytes.ofText "--config=" ++ path
  | logFile path => Bytes.ofText "--log-file=" ++ path
  | level l => Bytes.ofText "--log-level=" ++ Bytes.ofText l.name

/-- An empty path is no value. -/
def Admissible : Choice → Prop
  | config path => path ≠ []
  | logFile path => path ≠ []
  | _ => True

/-- The path of the settings file, if that is what was chosen. -/
def config? : Choice → Option Bytes
  | config path => some path
  | _ => none

/-- The path of the log file, if that is what was chosen. -/
def logFile? : Choice → Option Bytes
  | logFile path => some path
  | _ => none

/-- The log level, if that is what was chosen. -/
def level? : Choice → Option LogLevel
  | level l => some l
  | _ => none

end Choice

/-- The two hyphens that end the options. -/
def endOfOptions : Bytes := Bytes.ofText "--"

/-- The options that an invocation makes use of. -/
def choicesOf (i : Invocation) : List Choice :=
  (if i.terminal then [.terminal] else []) ++ (i.config.map Choice.config).toList ++
    (i.logFile.map Choice.logFile).toList ++ (i.level.map Choice.level).toList

/-- The command line with these options, in this order, for a command with its arguments. -/
def written (choices : List Choice) (command : String) (args : List String) : List Bytes :=
  choices.map Choice.written ++ endOfOptions :: Bytes.ofText command :: args.map Bytes.ofText

/-! ### Reading the options -/

/-- What is read of a command line once these options are taken. -/
def draftOf (choices : List Choice) : Draft where
  terminal := choices.any fun c => c.key.isNone
  config := choices.findSome? Choice.config?
  logFile := choices.findSome? Choice.logFile?
  level := choices.findSome? Choice.level?

theorem settle_of_pending {d : Draft} (none : d.pending = none) : d.settle = .ok d := by
  cases d
  cases none
  rfl

/-- An option with its value behind an equals sign is given that value: the sign is the first of the
argument, since no name holds one. -/
theorem take_valued {d : Draft} (verbatim : d.verbatim = false) (pending : d.pending = none)
    (o : ValueOption) (value : Bytes) :
    d.take (Bytes.ofText "--" ++ Bytes.ofText o.name ++ 0x3D :: value) = d.setOption o value := by
  have known : ValueOption.ofName? o.name = some o := by cases o <;> rfl
  have read : d.take (Bytes.ofText "--" ++ Bytes.ofText o.name ++ 0x3D :: value) =
      d.long (Bytes.ofText "--" ++ Bytes.ofText o.name ++ 0x3D :: value) (Bytes.ofText o.name)
        (some value) := by
    unfold Draft.take
    rw [verbatim]
    cases o <;> rfl
  rw [read, Draft.long, Bytes.text?_ofText]
  dsimp only
  rw [known, settle_of_pending pending]
  rfl

theorem take_terminal {d : Draft} (verbatim : d.verbatim = false) (pending : d.pending = none)
    (unset : d.terminal = false) :
    d.take Choice.terminal.written = .ok { d with terminal := true } := by
  have read : d.take Choice.terminal.written =
      d.long Choice.terminal.written (Bytes.ofText "pty") none := by
    unfold Draft.take
    rw [verbatim]
    rfl
  have unknown : ValueOption.ofName? "pty" = none := rfl
  rw [read, Draft.long, Bytes.text?_ofText]
  dsimp only
  rw [unknown, settle_of_pending pending]
  simp [bind, Except.bind, unset, pure, Except.pure]

/-- **Reading an option** adds it to what was read, if it was not there before. -/
theorem take_written {choices : List Choice} {c : Choice}
    (fresh : c.key ∉ choices.map Choice.key) (admissible : c.Admissible) :
    (draftOf choices).take c.written = .ok (draftOf (choices ++ [c])) := by
  have other {α : Type} {value? : Choice → Option α}
      (ofKey : ∀ e, e.key ≠ c.key → value? e = none) : choices.findSome? value? = none := by
    refine List.findSome?_eq_none_iff.2 fun e mem => ofKey e fun same => fresh ?_
    exact same ▸ List.mem_map_of_mem mem
  cases c with
  | terminal =>
    have unset : (draftOf choices).terminal = false := by
      refine List.any_eq_false.2 fun e mem isTerminal => fresh ?_
      rw [Choice.key, ← Option.isNone_iff_eq_none.1 isTerminal]
      exact List.mem_map_of_mem mem
    rw [take_terminal rfl rfl unset]
    simp [draftOf, Choice.key, Choice.config?, Choice.logFile?, Choice.level?]
  | config path =>
    have unset : choices.findSome? Choice.config? = none :=
      other (by rintro (_ | _ | _ | _) <;> simp [Choice.key, Choice.config?])
    have given : (Choice.config path).written =
        Bytes.ofText "--" ++ Bytes.ofText ValueOption.config.name ++ 0x3D :: path := rfl
    have nonempty : path ≠ [] := admissible
    rw [given, take_valued rfl rfl]
    simp [draftOf, Draft.setOption, unset, nonempty, Choice.key, Choice.config?, Choice.logFile?,
      Choice.level?]
  | logFile path =>
    have unset : choices.findSome? Choice.logFile? = none :=
      other (by rintro (_ | _ | _ | _) <;> simp [Choice.key, Choice.logFile?])
    have given : (Choice.logFile path).written =
        Bytes.ofText "--" ++ Bytes.ofText ValueOption.logFile.name ++ 0x3D :: path := rfl
    have nonempty : path ≠ [] := admissible
    rw [given, take_valued rfl rfl]
    simp [draftOf, Draft.setOption, unset, nonempty, Choice.key, Choice.config?, Choice.logFile?,
      Choice.level?]
  | level l =>
    have unset : choices.findSome? Choice.level? = none :=
      other (by rintro (_ | _ | _ | _) <;> simp [Choice.key, Choice.level?])
    have given : (Choice.level l).written = Bytes.ofText "--" ++
        Bytes.ofText ValueOption.level.name ++ 0x3D :: Bytes.ofText l.name := rfl
    have named : (Bytes.text? (Bytes.ofText l.name)).bind LogLevel.ofName? = some l := by
      rw [Bytes.text?_ofText, Option.bind_some, LogLevel.ofName?_name]
    rw [given, take_valued rfl rfl]
    simp [draftOf, Draft.setOption, unset, named, Choice.key, Choice.config?, Choice.logFile?,
      Choice.level?]

/-- Options that are all different are read one after another.  The induction is on those still to
come: each is new against what was read so far, `read`. -/
theorem foldlM_take_written {choices : List Choice} (admissible : ∀ c ∈ choices, c.Admissible)
    (read : List Choice) (different : ((read ++ choices).map Choice.key).Nodup) :
    (choices.map Choice.written).foldlM Draft.take (draftOf read) =
      .ok (draftOf (read ++ choices)) := by
  induction choices generalizing read with
  | nil => simp [pure, Except.pure]
  | cons c choices ih =>
    have fresh : c.key ∉ read.map Choice.key := by
      rw [List.map_append, List.map_cons, List.nodup_middle, List.nodup_cons] at different
      exact fun mem => different.1 (List.mem_append_left _ mem)
    rw [List.append_cons] at different ⊢
    rw [List.map_cons, List.foldlM_cons, take_written fresh (admissible c List.mem_cons_self)]
    exact ih (fun c mem => admissible c (List.mem_cons_of_mem _ mem)) _ different

/-! ### What was chosen -/

/-- The options of an invocation are all different. -/
theorem nodup_key_choicesOf (i : Invocation) : ((choicesOf i).map Choice.key).Nodup := by
  obtain ⟨terminal, config, logFile, level, command, args⟩ := i
  cases terminal <;> cases config <;> cases logFile <;> cases level <;>
    simp [choicesOf, Choice.key]

/-- Looking for the only one of its kind does not depend on the order. -/
theorem findSome?_eq_of_perm {α β : Type} {f : α → Option β} {as bs : List α} (h : as.Perm bs)
    {b? : Option β} (only : bs.filterMap f = b?.toList) : as.findSome? f = b? := by
  have same : as.filterMap f = b?.toList := by
    have := h.filterMap f
    rw [only] at this
    cases b? with
    | none => exact this.eq_nil
    | some b => exact this.eq_singleton
  rw [← List.head?_filterMap, same]
  cases b? <;> rfl

/-- What the options of an invocation say, one kind at a time. -/
theorem kinds_choicesOf (i : Invocation) :
    (choicesOf i).any (fun c => c.key.isNone) = i.terminal ∧
      (choicesOf i).filterMap Choice.config? = i.config.toList ∧
      (choicesOf i).filterMap Choice.logFile? = i.logFile.toList ∧
      (choicesOf i).filterMap Choice.level? = i.level.toList := by
  obtain ⟨terminal, config, logFile, level, command, args⟩ := i
  cases terminal <;> cases config <;> cases logFile <;> cases level <;>
    exact ⟨rfl, rfl, rfl, rfl⟩

/-- **The order plays no part**: once the options of an invocation are read, the draft holds what
was chosen. -/
theorem draftOf_of_perm {i : Invocation} {choices : List Choice}
    (order : choices.Perm (choicesOf i)) :
    draftOf choices = { terminal := i.terminal, config := i.config, logFile := i.logFile
                        level := i.level } := by
  obtain ⟨terminal, config, logFile, level⟩ := kinds_choicesOf i
  rw [draftOf, order.any_eq, terminal, findSome?_eq_of_perm order config,
    findSome?_eq_of_perm order logFile, findSome?_eq_of_perm order level]

/-! ### Reading the operands -/

theorem take_endOfOptions {d : Draft} (verbatim : d.verbatim = false) :
    d.take endOfOptions = .ok { d with verbatim := true } := by
  unfold Draft.take
  rw [verbatim]
  rfl

/-- Behind the two hyphens the first argument is the command. -/
theorem take_command {d : Draft} (verbatim : d.verbatim = true) (first : d.pastCommand = false)
    (pending : d.pending = none) (command : Bytes) :
    d.take command = .ok { d with pending := some (.command, [command]), pastCommand := true } := by
  simp [Draft.take, verbatim, Draft.operand, first, settle_of_pending pending, bind, Except.bind,
    pure, Except.pure]

/-- The first argument of the program: the command is taken over before it. -/
theorem take_first {d : Draft} (verbatim : d.verbatim = true) (past : d.pastCommand = true)
    {command : String} (pending : d.pending = some (.command, [Bytes.ofText command]))
    (arg : Bytes) :
    d.take arg = .ok { d with command := some command, pending := some (.args, [arg]) } := by
  have settled : d.settle = .ok { d with command := some command, pending := none } := by
    simp [Draft.settle, pending, Bytes.text?_ofText]
  simp [Draft.take, verbatim, Draft.operand, past, pending, settled, bind, Except.bind, pure,
    Except.pure]

/-- A further argument of the program, whatever it looks like. -/
theorem take_next {d : Draft} (verbatim : d.verbatim = true) (past : d.pastCommand = true)
    {values : List Bytes} (pending : d.pending = some (.args, values)) (arg : Bytes) :
    d.take arg = .ok { d with pending := some (.args, arg :: values) } := by
  simp [Draft.take, verbatim, Draft.operand, past, pending]

/-- **The arguments of the program are kept as they are**, in their order. -/
theorem foldlM_take_next {d : Draft} (verbatim : d.verbatim = true) (past : d.pastCommand = true)
    {values : List Bytes} (pending : d.pending = some (.args, values)) (args : List Bytes) :
    args.foldlM Draft.take d = .ok { d with pending := some (.args, args.reverse ++ values) } := by
  induction args generalizing d values with
  | nil =>
    cases d
    cases pending
    rfl
  | cons arg args ih =>
    rw [List.foldlM_cons, take_next verbatim past pending]
    refine (ih (d := { d with pending := some (.args, arg :: values) }) verbatim past rfl).trans ?_
    simp

theorem mapM_text?_ofText (args : List String) :
    (args.map Bytes.ofText).mapM Bytes.text? = some args := by
  induction args with
  | nil => rfl
  | cons arg args ih => simp [Bytes.text?_ofText, ih]

/-- What is read once the command has come: the arguments are those that follow, every one of them a
text. -/
theorem finish_arguments {d : Draft} (verbatim : d.verbatim = true) (past : d.pastCommand = true)
    {command : String} (pending : d.pending = some (.command, [Bytes.ofText command]))
    (noArgs : d.args = []) (args : List String) :
    (args.map Bytes.ofText).foldlM Draft.take d >>= Draft.finish =
      .ok { terminal := d.terminal, config := d.config, logFile := d.logFile, level := d.level
            command, args } := by
  cases args with
  | nil =>
    simp [Draft.finish, Draft.settle, pending, Bytes.text?_ofText, noArgs, bind, Except.bind, pure,
      Except.pure]
  | cons arg args =>
    rw [List.map_cons, List.foldlM_cons, take_first verbatim past pending]
    change (args.map Bytes.ofText).foldlM Draft.take _ >>= Draft.finish = _
    rw [foldlM_take_next (by exact verbatim) (by exact past) rfl]
    have texts : ((args.map Bytes.ofText).reverse ++ [Bytes.ofText arg]).reverse.mapM Bytes.text? =
        some (arg :: args) := by
      rw [List.reverse_append, List.reverse_reverse]
      exact mapM_text?_ofText (arg :: args)
    simp only [bind, Except.bind, Draft.finish, Draft.settle, texts, pure, Except.pure]

/-! ### Reading what was written -/

/-- **Every invocation has a command line, and it is read back as that invocation**: with its
options in any order, each with its value behind an equals sign, then two hyphens, the command and
the arguments of the program.  No argument of the program is taken for an option, left out or
moved; an empty path is no value, so that there are none in the invocation. -/
theorem parse_written {i : Invocation} {choices : List Choice}
    (order : choices.Perm (choicesOf i)) (config : i.config ≠ some [])
    (logFile : i.logFile ≠ some []) :
    parse (written choices i.command i.args) = .ok i := by
  have admissible : ∀ c ∈ choices, c.Admissible := by
    intro c mem
    have chosen := order.mem_iff.1 mem
    cases c <;> simp [choicesOf, Choice.Admissible] at chosen ⊢ <;> rintro rfl <;> contradiction
  have different : (([] ++ choices).map Choice.key).Nodup :=
    (order.map Choice.key).nodup_iff.2 (nodup_key_choicesOf i)
  let chosen : Draft :=
    { terminal := i.terminal, config := i.config, logFile := i.logFile, level := i.level }
  have options : (choices.map Choice.written).foldlM Draft.take {} = .ok chosen := by
    refine (foldlM_take_written admissible [] different).trans ?_
    rw [List.nil_append, draftOf_of_perm order]
  have ended : chosen.take endOfOptions = .ok { chosen with verbatim := true } :=
    take_endOfOptions rfl
  have asked := take_command (d := { chosen with verbatim := true }) rfl rfl rfl
    (Bytes.ofText i.command)
  simp only [parse, written, List.foldlM_append, List.foldlM_cons, options, ended, asked, bind,
    Except.bind]
  exact finish_arguments rfl rfl rfl rfl i.args

/-- The command line `--log-level=debug --config=\xFF= --pty --log-file== -- --pty --help -- ""
--config=x`: both paths hold the sign that ends the name of the option, one of them is no text, and
what follows the two hyphens is spelled like options. -/
theorem parse_written_of_arguments_like_options :
    let line := written [.level .debug, .config [0xFF, 0x3D], .terminal, .logFile [0x3D]] "--pty"
      ["--help", "--", "", "--config=x"]
    line = [Bytes.ofText "--log-level=debug", Bytes.ofText "--config=" ++ [0xFF, 0x3D],
        Bytes.ofText "--pty", Bytes.ofText "--log-file==", Bytes.ofText "--", Bytes.ofText "--pty",
        Bytes.ofText "--help", Bytes.ofText "--", [], Bytes.ofText "--config=x"] ∧
      parse line = .ok
        { terminal := true, config := some [0xFF, 0x3D], logFile := some [0x3D]
          level := some .debug, command := "--pty", args := ["--help", "--", "", "--config=x"] } :=
  ⟨by decide +kernel,
    @parse_written
      { terminal := true, config := some [0xFF, 0x3D], logFile := some [0x3D]
        level := some .debug, command := "--pty", args := ["--help", "--", "", "--config=x"] }
      _ (by decide) (by decide) (by decide)⟩

end Coprocess.CommandLine
