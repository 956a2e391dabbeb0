import Coprocess.Proofs.Runs
import Coprocess.Settings.Loading

/-!
# Layered settings

Settings come from two files, each of which sets some fields and leaves the rest open.  Laying the
layers over the defaults one after the other is the same as deciding each field by itself, by the
upper layer that sets it (`Settings.over_over_default`); in particular a table that sets one field
of the resolver leaves the others as they were.

Several things can be wrong at once, and the first in the order global text, file asked for, its
text, shell decides what is reported.  `Settings.Layered` says of each result when it comes about,
with the reader of documents as a parameter.

Main statement:
* `Settings.load_layered`: what loading comes to, for everything that its files can hold.
-/

namespace Coprocess

open Host Program

namespace Layer

/-! ### The fields that a layer sets -/

/-- The shell, if the layer sets it. -/
def shell? (l : Layer) : Option Bytes := l.exec.bind ExecLayer.shell

/-- The privileged search path, if the layer sets it. -/
def rootPath? (l : Layer) : Option String := l.exec.bind ExecLayer.rootPath

/-- The search path for everyone else, if the layer sets it. -/
def userPath? (l : Layer) : Option String := l.exec.bind ExecLayer.userPath

/-- A layer acts on each field by itself, whether or not it has a table for the resolver. -/
theorem over_eq (l : Layer) (below : Settings) :
    l.over below =
      { level := l.level.getD below.level
        exec :=
          { shell := l.shell?.getD below.exec.shell
            rootPath := l.rootPath?.getD below.exec.rootPath
            userPath := l.userPath?.getD below.exec.userPath } } := by
  obtain ⟨level, _ | exec⟩ := l <;> rfl

end Layer

namespace Settings

/-- Each field as the upper layer sets it, else as the lower one does, else its default. -/
def ofLayers (above below : Layer) : Settings where
  level := (above.level.or below.level).getD .info
  exec :=
    { shell := (above.shell?.or below.shell?).getD (Bytes.ofText "/bin/sh")
      rootPath := (above.rootPath?.or below.rootPath?).getD "/bin:/usr/bin"
      userPath := (above.userPath?.or below.userPath?).getD ":/bin:/usr/bin" }

theorem over_over_default (above below : Layer) :
    above.over (below.over {}) = ofLayers above below := by
  simp only [Layer.over_eq, ofLayers, Option.getD_or]

/-- A table with one field leaves the others as the lower layer has them. -/
example :
    ofLayers { exec := some { userPath := some "/opt/bin" } }
        { level := some .warn, exec := some { shell := some (Bytes.ofText "/usr/bin/sh")
                                              userPath := some "/usr/local/bin" } } =
      { level := .warn
        exec := { shell := Bytes.ofText "/usr/bin/sh", userPath := "/opt/bin" } } := rfl

/-! ### The layers of files -/

section Decoding

variable (decode : String → Option Layer)

/-- The layer of a file that may be missing; one that is missing sets nothing. -/
def layerOf : Option String → Option Layer
  | none => some {}
  | some text => decode text

/-- Both layers can be used: the global text is a layer, if there is one, and so is the text of the
file asked for, if one was. -/
structure Usable (global : Option String) (asked : Option (Except SystemError String))
    (above below : Layer) : Prop where
  below : layerOf decode global = some below
  above : asked = none ∧ above = {} ∨ ∃ text, asked = some (.ok text) ∧ decode text = some above

/-- What comes of a global text and of what was read of the file asked for: for each result, just
when it comes about. -/
structure Layered (global : Option String) (asked : Option (Except SystemError String))
    (r : Except SettingsError Settings) : Prop where
  /-- The global text is no layer, whatever the other file is, or the other text is none. -/
  malformed : r = .error .malformed ↔
    layerOf decode global = none ∨ ∃ text, asked = some (.ok text) ∧ decode text = none
  /-- The file asked for cannot be read. -/
  unreadable : ∀ reason, r = .error (.unreadable reason) ↔
    layerOf decode global ≠ none ∧ asked = some (.error reason)
  /-- The shell that wins is no absolute path. -/
  relativeShell : ∀ shell, r = .error (.relativeShell shell) ↔
    ∃ above below, Usable decode global asked above below ∧
      shell = (ofLayers above below).exec.shell ∧ shell.head? ≠ some 0x2F
  /-- Each field has the value that wins, and the shell is an absolute path. -/
  loaded : ∀ s, r = .ok s ↔
    ∃ above below, Usable decode global asked above below ∧
      s = ofLayers above below ∧ s.exec.shell.head? = some 0x2F
  /-- An absolute shell of the upper layer is enough, whatever the lower one says. -/
  overruled : ∀ above below shell, Usable decode global asked above below →
    above.shell? = some shell → shell.head? = some 0x2F → r = .ok (ofLayers above below)

variable {decode} {global : Option String} {asked : Option (Except SystemError String)}
  {above below : Layer} {r r' : Except SettingsError Settings}

theorem layerOf_of_usable (usable : Usable decode global asked above below) :
    layerOf decode global ≠ none := by
  simp [usable.below]

theorem not_usable_of_unread {reason : SystemError} :
    ¬ Usable decode global (some (.error reason)) above below := by
  rintro ⟨-, ⟨⟨⟩, -⟩ | ⟨_, ⟨⟩, -⟩⟩

theorem decode_of_usable {text : String}
    (usable : Usable decode global (some (.ok text)) above below) : decode text = some above := by
  obtain ⟨-, ⟨⟨⟩, -⟩ | ⟨_, ⟨⟩, layer⟩⟩ := usable
  exact layer

/-- The layers are determined by the texts. -/
theorem Usable.unique {above' below' : Layer} (usable : Usable decode global asked above below)
    (other : Usable decode global asked above' below') : above' = above ∧ below' = below := by
  have lower : below' = below := by simpa [usable.below] using other.below.symm
  obtain ⟨rfl, rfl⟩ | ⟨text, rfl, layer⟩ := usable.above
  · obtain ⟨-, rfl⟩ | ⟨_, ⟨⟩, -⟩ := other.above
    exact ⟨rfl, lower⟩
  · have layer' := decode_of_usable other
    exact ⟨by simpa [layer] using layer'.symm, lower⟩

/-! ### Assembly -/

theorem validate_of_absolute {s : Settings} (absolute : s.exec.shell.head? = some 0x2F) :
    validate s = .ok s :=
  validate_eq_ok_iff.2 ⟨rfl, beq_iff_eq.2 absolute⟩

theorem validate_of_relative {s : Settings} (relative : s.exec.shell.head? ≠ some 0x2F) :
    validate s = .error (.relativeShell s.exec.shell) :=
  if_neg (mt beq_iff_eq.1 relative)

theorem validate_eq_error_iff {s : Settings} {e : SettingsError} :
    validate s = .error e ↔ e = .relativeShell s.exec.shell ∧ s.exec.shell.head? ≠ some 0x2F := by
  by_cases absolute : s.exec.shell.head? = some 0x2F
  · simp [validate_of_absolute absolute, absolute]
  · rw [validate_of_relative absolute, Except.error.injEq]
    exact ⟨fun same => ⟨same.symm, absolute⟩, fun ⟨same, _⟩ => same.symm⟩

/-- The global text is decoded first; then the file asked for is looked at, and its text is decoded;
the check comes last. -/
theorem assemble_eq :
    assemble decode global asked =
      match layerOf decode global, asked with
      | none, _ => .error .malformed
      | some below, none => validate (ofLayers {} below)
      | some _, some (.error reason) => .error (.unreadable reason)
      | some below, some (.ok text) =>
        match decode text with
        | none => .error .malformed
        | some above => validate (ofLayers above below) := by
  simp only [← over_over_default]
  rcases global with _ | text
  · rcases asked with _ | reason | text
    · rfl
    · rfl
    · cases read : decode text <;> simp only [assemble, layerOf, read] <;> rfl
  · cases base : decode text with
    | none =>
      simp only [assemble, layerOf, base]
      rfl
    | some below =>
      rcases asked with _ | reason | text
      · simp only [assemble, layerOf, base]
        rfl
      · simp only [assemble, layerOf, base]
        rfl
      · cases read : decode text <;> simp only [assemble, layerOf, base, read] <;> rfl

/-! ### What the layers come to -/

/-- Without usable layers the settings are not looked at. -/
theorem layered_of_unusable {e : SettingsError}
    (unusable : ∀ above below, ¬ Usable decode global asked above below)
    (malformed : e = .malformed ↔
      layerOf decode global = none ∨ ∃ text, asked = some (.ok text) ∧ decode text = none)
    (unreadable : ∀ reason, e = .unreadable reason ↔
      layerOf decode global ≠ none ∧ asked = some (.error reason))
    (other : ∀ shell, e ≠ .relativeShell shell) : Layered decode global asked (.error e) where
  malformed := by simpa using malformed
  unreadable reason := by simpa using unreadable reason
  relativeShell shell := by simp [other, unusable]
  loaded s := by simp [unusable]
  overruled above below _ usable := absurd usable (unusable above below)

/-- With usable layers it is the shell that decides. -/
theorem layered_of_usable (usable : Usable decode global asked above below) :
    Layered decode global asked (validate (ofLayers above below)) where
  malformed := by
    refine iff_of_false (fun refused => ?_) ?_
    · cases (validate_eq_error_iff.1 refused).1
    · rintro (noGlobal | ⟨text, rfl, noLayer⟩)
      · exact layerOf_of_usable usable noGlobal
      · cases noLayer.symm.trans (decode_of_usable usable)
  unreadable reason := by
    refine iff_of_false (fun refused => ?_) ?_
    · cases (validate_eq_error_iff.1 refused).1
    · rintro ⟨-, rfl⟩
      exact not_usable_of_unread usable
  relativeShell shell := by
    constructor
    · intro refused
      obtain ⟨⟨⟩, relative⟩ := validate_eq_error_iff.1 refused
      exact ⟨above, below, usable, rfl, relative⟩
    · rintro ⟨above', below', other, rfl, relative⟩
      obtain ⟨rfl, rfl⟩ := usable.unique other
      exact validate_of_relative relative
  loaded s := by
    constructor
    · intro accepted
      obtain ⟨rfl, absolute⟩ := validate_eq_ok_iff.1 accepted
      exact ⟨above, below, usable, rfl, beq_iff_eq.1 absolute⟩
    · rintro ⟨above', below', other, rfl, absolute⟩
      obtain ⟨rfl, rfl⟩ := usable.unique other
      exact validate_of_absolute absolute
  overruled above' below' shell other sets absolute := by
    obtain ⟨rfl, rfl⟩ := usable.unique other
    refine validate_of_absolute ?_
    have wins : (ofLayers above' below').exec.shell = shell := by simp [ofLayers, sets]
    rw [wins, absolute]

theorem layered_assemble : Layered decode global asked (assemble decode global asked) := by
  rw [assemble_eq]
  -- The cases come in the order in which things are looked at; the shell is reached in two of
  -- them, where no file was asked for and where both texts are layers.
  cases base : layerOf decode global with
  | none =>
    refine layered_of_unusable (fun above below usable => ?_) ?_ ?_ ?_
    · exact layerOf_of_usable usable base
    all_goals simp [base]
  | some below =>
    rcases asked with _ | reason | text
    · exact layered_of_usable ⟨base, .inl ⟨rfl, rfl⟩⟩
    · refine layered_of_unusable (fun _ _ => not_usable_of_unread) ?_ ?_ ?_
      all_goals simp [base, eq_comm]
    · cases read : decode text with
      | none =>
        simp only [read]
        refine layered_of_unusable (fun above below usable => ?_) ?_ ?_ ?_
        · cases read.symm.trans (decode_of_usable usable)
        all_goals simp [base, read]
      | some above =>
        simp only [read]
        exact layered_of_usable ⟨base, .inr ⟨text, rfl, read⟩⟩

/-- The texts determine the result. -/
theorem Layered.unique (first : Layered decode global asked r)
    (second : Layered decode global asked r') : r' = r := by
  rcases r with (reason | _ | shell) | s
  · exact (second.unreadable reason).2 ((first.unreadable reason).1 rfl)
  · exact second.malformed.2 (first.malformed.1 rfl)
  · exact (second.relativeShell shell).2 ((first.relativeShell shell).1 rfl)
  · exact (second.loaded s).2 ((first.loaded s).1 rfl)

theorem layered_iff : Layered decode global asked r ↔ r = assemble decode global asked := by
  constructor
  · exact fun layered => layered_assemble.unique layered
  · rintro rfl
    exact layered_assemble

end Decoding

/-! ### Loading -/

/-- What is read of the global file, if there is a place for one. -/
inductive ReadsGlobal (block : List Bytes) :
    List Exchange → Option (Except SystemError String) → Prop
  | nowhere {t : List Exchange} : (globalPath? block).Yields t none → ReadsGlobal block t none
  | file {path : Bytes} {t₁ t₂ : List Exchange} {content : Except SystemError String} :
      (globalPath? block).Yields t₁ (some path) → (FileAccess.readText path).Yields t₂ content →
      ReadsGlobal block (t₁ ++ t₂) (some content)

/-- What is read of a file that may have been asked for, after a global text. -/
inductive ReadsAsked (global : Option String) :
    Option Bytes → List Exchange → Option (Except SystemError String) → Prop
  | none : ReadsAsked global none [] none
  | file {path : Bytes} {t : List Exchange} {content : Except SystemError String} :
      layerOf Layer.ofText global ≠ none → (FileAccess.readText path).Yields t content →
      ReadsAsked global (some path) t (some content)
  /-- The global text is no layer, and the file is left alone. -/
  | skipped {path : Bytes} : layerOf Layer.ofText global = none →
      ReadsAsked global (some path) [] none

variable {block : List Bytes} {explicit : Option Bytes} {t : List Exchange}
  {r : Except SettingsError Settings}

/-- The text of a file counts if it could be read. -/
def textOf (content : Option (Except SystemError String)) : Option String :=
  content.bind Except.toOption

/-- A place for the global file is found by the environment alone, or by the list of users. -/
theorem yields_globalPath?_iff {file : Option Bytes} :
    (globalPath? block).Yields t file ↔
      match configDirectory (Environment.valueOf "XDG_CONFIG_HOME" block)
          (Environment.valueOf "HOME" block) with
      | some directory => t = [] ∧ file = some (fileIn directory)
      | none => ∃ home, t = [.reply .homeDirectory home] ∧
          file = (configDirectory none home).map fileIn := by
  unfold globalPath?
  cases named : configDirectory (Environment.valueOf "XDG_CONFIG_HOME" block)
      (Environment.valueOf "HOME" block) with
  | none => simp [request]
  | some directory => simp

theorem yields_readGlobal_iff {text : Option String} :
    (readGlobal block).Yields t text ↔
      ∃ content, ReadsGlobal block t content ∧ text = textOf content := by
  constructor
  · intro run
    obtain ⟨t₁, file, t₂, rfl, finds, rest⟩ := yields_bind_iff.1 run
    cases file with
    | none =>
      obtain ⟨rfl, rfl⟩ := yields_done_iff.1 rest
      rw [List.append_nil]
      exact ⟨none, .nowhere finds, rfl⟩
    | some path =>
      obtain ⟨t₂, content, t₃, rfl, reads, last⟩ := yields_bind_iff.1 rest
      obtain ⟨rfl, rfl⟩ := yields_done_iff.1 last
      rw [List.append_nil]
      exact ⟨some content, .file finds reads, rfl⟩
  · rintro ⟨content, finds | ⟨finds, reads⟩, rfl⟩
    · rw [← List.append_nil t]
      exact finds.bind (.done _)
    · have last := reads.bind (f := fun content => .done content.toOption) (.done _)
      rw [List.append_nil] at last
      exact finds.bind last

theorem all_isSome_iff {global : Option String} :
    (global.all fun text => (Layer.ofText text).isSome) = true ↔
      layerOf Layer.ofText global ≠ none := by
  cases global <;> simp [layerOf, Option.isSome_iff_ne_none]

/-- Whatever was asked for, loading fails if the global text is no layer. -/
theorem assemble_of_unusable {global : Option String} (asked : Option (Except SystemError String))
    (unusable : layerOf Layer.ofText global = none) :
    assemble Layer.ofText global asked = .error .malformed := by
  rw [assemble_eq, unusable]

/-- Loading reads the global file and then the file asked for, and nothing else. -/
theorem yields_load_iff :
    (load block explicit).Yields t r ↔
      ∃ t₁ t₂ global asked, t = t₁ ++ t₂ ∧ ReadsGlobal block t₁ global ∧
        ReadsAsked (textOf global) explicit t₂ asked ∧
        r = assemble Layer.ofText (textOf global) asked := by
  constructor
  · intro run
    obtain ⟨t₁, text, t₂, rfl, readsGlobal, rest⟩ := yields_bind_iff.1 run
    obtain ⟨global, reads, rfl⟩ := yields_readGlobal_iff.1 readsGlobal
    refine ⟨t₁, t₂, global, ?_⟩
    split at rest
    next all =>
      have usable := all_isSome_iff.1 all
      cases explicit with
      | none =>
        obtain ⟨rfl, rfl⟩ := yields_done_iff.1 rest
        exact ⟨none, rfl, reads, .none, rfl⟩
      | some path =>
        obtain ⟨t₂, content, t₃, rfl, reads', last⟩ := yields_bind_iff.1 rest
        obtain ⟨rfl, rfl⟩ := yields_done_iff.1 last
        rw [List.append_nil]
        exact ⟨some content, rfl, reads, .file usable reads', rfl⟩
    next some =>
      have unusable := not_not.1 (mt all_isSome_iff.2 some)
      obtain ⟨rfl, rfl⟩ := yields_done_iff.1 rest
      have same := (assemble_of_unusable none unusable).symm
      cases explicit with
      | none => exact ⟨none, rfl, reads, .none, same⟩
      | some path => exact ⟨none, rfl, reads, .skipped unusable, same⟩
  · rintro ⟨t₁, t₂, global, asked, rfl, reads, others, rfl⟩
    refine (yields_readGlobal_iff.2 ⟨global, reads, rfl⟩).bind ?_
    by_cases unusable : layerOf Layer.ofText (textOf global) = none
    · rw [if_neg (mt all_isSome_iff.1 (not_not.2 unusable)), assemble_of_unusable asked unusable]
      cases others with
      | none => exact .done _
      | file usable => exact absurd unusable usable
      | skipped => exact .done _
    · rw [if_pos (all_isSome_iff.2 unusable)]
      cases others with
      | none => exact .done _
      | file _ reads' =>
        rw [← List.append_nil t₂]
        exact reads'.bind (.done _)
      | skipped none => exact absurd none unusable

/-- **Later layers win field by field.** Loading comes to a result just if the global file and the
file asked for are read, in this order and whatever comes of it, though the second is left alone if
the global text is no layer; and the result is then the one that the layers decide, of which there
is exactly one whatever was read.  A global file that cannot be read counts as missing, as does one
that there is no place for. -/
theorem load_layered (block : List Bytes) (explicit : Option Bytes) :
    (∀ t r, (load block explicit).Yields t r ↔
      ∃ t₁ t₂ global asked, t = t₁ ++ t₂ ∧ ReadsGlobal block t₁ global ∧
        ReadsAsked (textOf global) explicit t₂ asked ∧
        Layered Layer.ofText (textOf global) asked r) ∧
    ∀ global asked, ∃! r, Layered Layer.ofText global asked r := by
  simp only [layered_iff]
  exact ⟨fun _ _ => yields_load_iff, fun _ _ => existsUnique_eq⟩

end Settings

end Coprocess
