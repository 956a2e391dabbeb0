import Coprocess.Host.Setup
import Coprocess.Proofs.FileReading
import Coprocess.Proofs.Layering

/-!
# The global file

The file asked for has to be there; the global file may be missing.  What loading looks at, however,
is not whether the global file is there but whether its text can be had, and that fails for many
reasons (`FileAccess.Unread`): the file may be missing, but it may also be there and not be opened,
not be read to its end, or hold no text.  All of them are treated alike, so that settings that are
there are passed over without a word.

Main statements:
* `Settings.counts_unless_unread`: a global file counts whenever its text can be had, and otherwise
  loading cannot tell it from one that is missing;
* `Settings.not_forall_present_counts`: on a machine whose global file holds a byte that is no text,
  the defaults are loaded.
-/

namespace Coprocess

open Host Program

variable {t : List Exchange}

/-! ### Whether a layer counts -/

/-- Settings go by a layer: each field that the layer sets, and the layer above it leaves open, has
the layer's value. -/
structure Layer.CountsIn (layer above : Layer) (s : Settings) : Prop where
  level : ∀ value, above.level = none → layer.level = some value → s.level = value
  shell : ∀ value, above.shell? = none → layer.shell? = some value → s.exec.shell = value
  rootPath : ∀ value, above.rootPath? = none → layer.rootPath? = some value →
    s.exec.rootPath = value
  userPath : ∀ value, above.userPath? = none → layer.userPath? = some value →
    s.exec.userPath = value

namespace Settings

theorem countsIn_ofLayers (above below : Layer) : below.CountsIn above (ofLayers above below) where
  level value opened sets := by simp [ofLayers, opened, sets]
  shell value opened sets := by simp [ofLayers, opened, sets]
  rootPath value opened sets := by simp [ofLayers, opened, sets]
  userPath value opened sets := by simp [ofLayers, opened, sets]

variable {block : List Bytes} {explicit : Option Bytes} {r : Except SettingsError Settings}

/-- The text of the global file at a path was had, and it counts: loading fails or comes to settings
that go by the layer that the text describes. -/
def Counts (path : Bytes) (explicit : Option Bytes) (t₁ t₂ : List Exchange)
    (r : Except SettingsError Settings) : Prop :=
  ∃ text, (FileAccess.readText path).Yields t₁ (.ok text) ∧ received t₁ = Bytes.ofText text ∧
    ((∃ reason, r = .error reason) ∨
      ∃ asked above layer s, ReadsAsked (some text) explicit t₂ asked ∧
        Usable Layer.ofText (some text) asked above layer ∧ r = .ok s ∧ layer.CountsIn above s)

/-- The text of the global file at a path, which is found by `t₀`, could not be had, and nobody is
told: loading comes to the same result as after any other reading that fails, that of a missing file
among them. -/
def PassedOver (block : List Bytes) (t₀ : List Exchange) (path : Bytes) (explicit : Option Bytes)
    (t₁ t₂ : List Exchange) (r : Except SettingsError Settings) : Prop :=
  ∃ reason, FileAccess.Unread path t₁ reason ∧
    ∀ other reason', FileAccess.Unread path other reason' →
      (load block explicit).Yields (t₀ ++ other ++ t₂) r

/-- **A global file counts unless its text cannot be had**, and then it is passed over, whether it
is there or not. -/
theorem counts_unless_unread (run : (load block explicit).Yields t r) :
    ∃ t₀ file rest, t = t₀ ++ rest ∧ (globalPath? block).Yields t₀ file ∧
      ∀ path, file = some path → ∃ t₁ t₂, rest = t₁ ++ t₂ ∧
        (Counts path explicit t₁ t₂ r ∨ PassedOver block t₀ path explicit t₁ t₂ r) := by
  obtain ⟨_, t₂, global, asked, rfl, finds | @⟨path, t₀, t₁, content, finds, reads⟩, others,
    decided⟩ := yields_load_iff.1 run
  · exact ⟨_, none, t₂, rfl, finds, nofun⟩
  refine ⟨t₀, some path, t₁ ++ t₂, List.append_assoc .., finds, ?_⟩
  rintro _ ⟨⟩
  refine ⟨t₁, t₂, rfl, ?_⟩
  cases content with
  | ok text =>
    refine .inl ⟨text, reads, FileAccess.received_of_readText reads, ?_⟩
    cases r with
    | error reason => exact .inl ⟨reason, rfl⟩
    | ok s =>
      obtain ⟨above, below, usable, rfl, -⟩ := ((layered_iff.2 decided).loaded s).1 rfl
      exact .inr ⟨asked, above, below, _, others, usable, rfl, countsIn_ofLayers above below⟩
  | error reason =>
    have unread := FileAccess.yields_readText_error_iff.1 reads
    refine .inr ⟨reason, unread, fun other reason' failed => ?_⟩
    have reads' := ReadsGlobal.file finds (FileAccess.yields_readText_error_iff.2 failed)
    exact yields_load_iff.2 ⟨_, t₂, _, asked, rfl, reads', others, decided⟩

/-- An environment whose configuration directory is the root. -/
def rootBlock : List Bytes := [Bytes.ofText "XDG_CONFIG_HOME=/"]

/-- Where the global file should be there is a directory, which is opened and cannot be read: the
defaults are loaded. -/
theorem counts_unless_unread_of_directory :
    ∃ t, t = FileAccess.readUnder (Bytes.ofText "/coproc/config.toml") 3 0
        [.reply (.read 3 8192) (.error .EISDIR)] (.ok ()) ∧
      (load rootBlock none).Yields t (.ok {}) ∧
      ∃ t₀ file rest, t = t₀ ++ rest ∧ (globalPath? rootBlock).Yields t₀ file ∧
        ∀ path, file = some path → ∃ t₁ t₂, rest = t₁ ++ t₂ ∧
          (Counts path none t₁ t₂ (.ok {}) ∨
            PassedOver rootBlock t₀ path none t₁ t₂ (.ok {})) := by
  have finds : (globalPath? rootBlock).Yields [] (some (Bytes.ofText "/coproc/config.toml")) :=
    yields_globalPath?_iff.2 ⟨rfl, by decide⟩
  have unread : FileAccess.Unread (Bytes.ofText "/coproc/config.toml")
      (FileAccess.readUnder (Bytes.ofText "/coproc/config.toml") 3 0
        [.reply (.read 3 8192) (.error .EISDIR)] (.ok ())) (.os .EISDIR) := by
    have refused : (Transfer.readRound (Transfer.readFd 3) []).Yields
        [.reply (.read 3 8192) (.error .EISDIR)] (.inr (.error (.os .EISDIR))) := .call (.done _)
    have reads := Yields.stop refused (.done _)
    exact .broken (by decide) reads
  have reads := ReadsGlobal.file finds (FileAccess.yields_readText_error_iff.2 unread)
  have run : (load rootBlock none).Yields _ (.ok {}) :=
    yields_load_iff.2 ⟨_, [], _, none, rfl, reads, .none, rfl⟩
  rw [List.append_nil] at run
  exact ⟨_, rfl, run, counts_unless_unread run⟩

/-- The path of the global file in that environment. -/
def rootFile : Bytes := Bytes.ofText "/coproc/config.toml"

/-- A machine with one process, whose global file holds the given bytes. -/
def soloWorld (content : Bytes) : World where
  files := { all := #[⟨.directory [(Bytes.ofText "coproc", 1)], 0o755⟩,
    ⟨.directory [(Bytes.ofText "config.toml", 2)], 0o755⟩, ⟨.regular ⟨content.toArray⟩, 0o644⟩] }
  processes := [(firstPid, { parent := 1, session := firstPid, group := firstPid })]

/-- Settings that turn logging off, with a comment in an encoding that is not the documents' own. -/
def latinContent : Bytes := Bytes.ofText "log_level = 'off' # caf" ++ [0xE9, 0x0A]

/-- The machine with those settings, once the file is open. -/
def openWorld : World :=
  { soloWorld latinContent with
    clock := 1
    opened := #[{ file := 2, read := true, write := false, append := false }]
    processes := [(firstPid, { parent := 1, session := firstPid, group := firstPid
                               table := [(0, ⟨.file 0, true⟩)] })] }

theorem resolve_rootFile : (soloWorld latinContent).files.resolve firstPid [] rootFile true =
    .ok ⟨[1], Bytes.ofText "config.toml", some 2, false⟩ := by
  have parts : Files.components rootFile = [Bytes.ofText "coproc", Bytes.ofText "config.toml"] := by
    decide +kernel
  have directory : (soloWorld latinContent).files.Leads [] (Bytes.ofText "coproc") 1 :=
    ⟨by decide, by decide, by decide +kernel, by decide +kernel⟩
  have file : (soloWorld latinContent).files.Leads [1] (Bytes.ofText "config.toml") 2 :=
    ⟨by decide, by decide, by decide +kernel, by decide +kernel⟩
  rw [Files.resolve, if_neg (by decide), if_neg (by decide), parts]
  exact (Files.walk_directory directory rfl (List.cons_ne_nil _ _)).trans
    (Files.walk_regular file rfl)

theorem fileAt_rootFile : (soloWorld latinContent).fileAt firstPid rootFile true = .ok 2 := by
  show Except.bind ((soloWorld latinContent).files.resolve firstPid [] rootFile true) _ = _
  rw [resolve_rootFile]
  rfl

theorem answer_rootFile :
    (soloWorld latinContent).ticked.answer firstPid
        (.openFile rootFile { read := true, cloexec := true }) = .reply (.ok 0) openWorld := by
  show (soloWorld latinContent).ticked.openFile firstPid rootFile _ = _
  rw [World.openFile, if_neg (by decide +kernel)]
  show Outcome.orRefuse _ ((soloWorld latinContent).files.resolve firstPid [] rootFile true) _ = _
  rw [resolve_rootFile]
  rfl

/-- What is read there is no text, so that the defaults are loaded. -/
theorem run_load_of_latinContent :
    (Host.run (fun _ _ _ => .done ()) firstPid 30 (load rootBlock none) []
      (soloWorld latinContent)).map (·.1) = some (.ok {}) := by
  show Option.map _ (Host.run _ _ 30 (.loop _ _ _) _ _) = _
  rw [run_loop]
  show Option.map _ (Host.run _ _ 29 (.call (.openFile rootFile _) _) _ _) = _
  rw [run_call _ _ _ answer_rootFile rfl]
  decide +kernel

/-- A global file that is there does not always count: one with a comment in another encoding is
passed over, and the defaults are loaded. -/
theorem not_forall_present_counts :
    ¬ ∀ (images : Images) (pid : Pid) (budget : Nat) (w w' w'' : World) (block : List Bytes)
        (path : Bytes) (n : FileNumber) (r : Except SettingsError Settings),
      Host.run images pid budget (globalPath? block) [] w = some (some path, w'') →
      w.fileAt pid path true = .ok n →
      Host.run images pid budget (load block none) [] w = some (r, w') →
      (∃ reason, r = .error reason) ∨
        ∃ content text layer s, (w.files.get n).node = .regular content ∧
          Bytes.text? content.data.toList = some text ∧ Layer.ofText text = some layer ∧
          r = .ok s ∧ layer.CountsIn {} s := by
  intro counts
  have finds : Host.run (fun _ _ _ => .done ()) firstPid 30 (globalPath? rootBlock) []
      (soloWorld latinContent) = some (some rootFile, soloWorld latinContent) := rfl
  obtain ⟨⟨r, w'⟩, run, rfl⟩ := Option.map_eq_some_iff.1 run_load_of_latinContent
  have noText : Bytes.text? latinContent = none := by decide +kernel
  obtain ⟨_, ⟨⟩⟩ | ⟨content, text, layer, s, node, isText, -⟩ :=
    counts _ _ _ _ w' _ rootBlock _ 2 _ finds fileAt_rootFile run
  cases node
  cases noText.symm.trans isText

end Settings

end Coprocess
