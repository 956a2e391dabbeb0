import Coprocess.Bytes.Lemmas
import Coprocess.Settings.Exchange
import Mathlib.Tactic.Common

/-!
# Settings that are exchanged

Settings are written in one form and read from several (`Settings.Form`), and a layer is read by a
reader of its own, which passes over everything that it does not know.  That the two readers know
the same fields by the same names, in the same order, is not enforced by anything in their
definitions.  It is what `Settings.Form.layer` says: a form of settings is also read as a layer, and
this layer replaces every field, whatever lies below it.

Main statement:
* `Settings.exchange`: what is written is read back, as settings and as a layer, and whatever is
  read can be written.
-/

namespace Coprocess

/-! ### Fields -/

theorem Json.text?_eq_some_iff {v : Json} {s : String} : v.text? = some s ↔ v = .string s := by
  cases v <;> simp [text?]

/-- A field whose reader takes no `null` is read in the same way where it may be missing. -/
theorem Json.optional_of_read {α : Type} {read : Json → Option α} (noNull : read .null = none)
    {v : Json} {a : α} (h : read v = some a) : optional read (some v) = some (some a) := by
  cases v with
  | null => simp [noNull] at h
  | _ => simp [optional, h]

/-! ### Levels -/

namespace LogLevel

/-- The values that a level is read from. -/
inductive Form (l : LogLevel) : Json → Prop
  | name : Form l (.string l.name)
  | member : Form l (.object [(l.name, .null)])

theorem ofName?_eq_some_iff {s : String} {l : LogLevel} : ofName? s = some l ↔ s = l.name := by
  constructor
  · intro found
    rw [ofName?] at found
    have same := List.find?_some found
    exact (eq_of_beq same).symm
  · rintro rfl
    exact ofName?_name l

theorem ofJson?_eq_some_iff {v : Json} {l : LogLevel} : ofJson? v = some l ↔ Form l v := by
  constructor
  · intro read
    unfold ofJson? at read
    split at read
    · cases ofName?_eq_some_iff.1 read
      exact .name
    · cases ofName?_eq_some_iff.1 read
      exact .member
    · cases read
  · rintro (_ | _) <;> exact ofName?_name l

end LogLevel

/-! ### The settings of the resolver -/

namespace ExecSettings

variable {s : ExecSettings} {v : Json}

/-- The values that settings of the resolver are read from: an object that has the fields and may
have other members, or an array of the fields.  The shell is given as text. -/
inductive Form (s : ExecSettings) : Json → Prop
  | object {members : List (String × Json)} {text : String} :
      s.shell = Bytes.ofText text → Json.member? "shell" members = some (.string text) →
      Json.member? "root_path" members = some (.string s.rootPath) →
      Json.member? "user_path" members = some (.string s.userPath) → Form s (.object members)
  | array {text : String} : s.shell = Bytes.ofText text →
      Form s (.array [.string text, .string s.rootPath, .string s.userPath])

theorem Form.exists_text (form : Form s v) : ∃ text, s.shell = Bytes.ofText text := by
  cases form with
  | object shell | array shell => exact ⟨_, shell⟩

/-- Only texts are read as fields. -/
theorem ofFields?_eq_some_iff {shell rootPath userPath : Json} :
    ofFields? shell rootPath userPath = some s ↔
      ∃ text, s.shell = Bytes.ofText text ∧ shell = .string text ∧
        rootPath = .string s.rootPath ∧ userPath = .string s.userPath := by
  simp only [ofFields?, bind, pure, Option.bind_eq_some_iff, Json.text?_eq_some_iff,
    Option.some.injEq]
  constructor
  · rintro ⟨text, rfl, root, rfl, user, rfl, rfl⟩
    exact ⟨text, rfl, rfl, rfl, rfl⟩
  · rintro ⟨text, shell, rfl, rfl, rfl⟩
    exact ⟨text, rfl, _, rfl, _, rfl, by rw [← shell]⟩

theorem ofJson?_eq_some_iff : ofJson? v = some s ↔ Form s v := by
  constructor
  · intro read
    unfold ofJson? at read
    split at read
    · simp only [bind, Option.bind_eq_some_iff] at read
      obtain ⟨_, hasShell, _, hasRootPath, _, hasUserPath, fields⟩ := read
      obtain ⟨text, shell, rfl, rfl, rfl⟩ := ofFields?_eq_some_iff.1 fields
      exact .object shell hasShell hasRootPath hasUserPath
    · obtain ⟨text, shell, rfl, rfl, rfl⟩ := ofFields?_eq_some_iff.1 read
      exact .array shell
    · cases read
  · rintro (⟨shell, hasShell, hasRootPath, hasUserPath⟩ | shell)
    · rw [ofJson?, hasShell, hasRootPath, hasUserPath]
      exact ofFields?_eq_some_iff.2 ⟨_, shell, rfl, rfl, rfl⟩
    · exact ofFields?_eq_some_iff.2 ⟨_, shell, rfl, rfl, rfl⟩

/-- What is written is a form of what it was written from. -/
theorem form_of_toJson? (written : s.toJson? = some v) : Form s v := by
  simp only [toJson?, bind, pure, Option.bind_eq_some_iff, Option.some.injEq] at written
  obtain ⟨text, isText, rfl⟩ := written
  exact .object (Bytes.eq_ofText_of_text? isText) rfl rfl rfl

theorem exists_toJson?_of_text {text : String} (shell : s.shell = Bytes.ofText text) :
    ∃ v, s.toJson? = some v := by
  simp [toJson?, shell, Bytes.text?_ofText]

/-- A form of these settings is also read as a layer, which replaces all of them. -/
theorem Form.layer (form : Form s v) :
    ∃ layer, ExecLayer.ofJson? v = some layer ∧ ∀ below, layer.over below = s := by
  refine ⟨⟨some s.shell, some s.rootPath, some s.userPath⟩, ?_, fun below => rfl⟩
  cases form with
  | object shell hasShell hasRootPath hasUserPath =>
    rw [ExecLayer.ofJson?, hasShell, hasRootPath, hasUserPath, shell]
    rfl
  | array shell =>
    rw [shell]
    rfl

end ExecSettings

/-! ### All settings -/

namespace Settings

variable {s : Settings} {v : Json}

/-- The values that settings are read from: an object that has the fields and may have other
members, or an array of the fields. -/
inductive Form (s : Settings) : Json → Prop
  | object {members : List (String × Json)} {level exec : Json} :
      Json.member? "log_level" members = some level → s.level.Form level →
      Json.member? "exec" members = some exec → s.exec.Form exec → Form s (.object members)
  | array {level exec : Json} : s.level.Form level → s.exec.Form exec →
      Form s (.array [level, exec])

theorem Form.exists_text (form : Form s v) : ∃ text, s.exec.shell = Bytes.ofText text := by
  cases form with
  | object _ _ _ exec | array _ exec => exact exec.exists_text

theorem ofFields?_eq_some_iff {level exec : Json} :
    ofFields? level exec = some s ↔ s.level.Form level ∧ s.exec.Form exec := by
  simp only [ofFields?, bind, pure, Option.bind_eq_some_iff, Option.some.injEq,
    LogLevel.ofJson?_eq_some_iff, ExecSettings.ofJson?_eq_some_iff]
  constructor
  · rintro ⟨level, levelForm, exec, execForm, rfl⟩
    exact ⟨levelForm, execForm⟩
  · rintro ⟨levelForm, execForm⟩
    exact ⟨_, levelForm, _, execForm, rfl⟩

theorem ofJson?_eq_some_iff : ofJson? v = some s ↔ Form s v := by
  constructor
  · intro read
    unfold ofJson? at read
    split at read
    · simp only [bind, Option.bind_eq_some_iff] at read
      obtain ⟨_, hasLevel, _, hasExec, fields⟩ := read
      obtain ⟨level, exec⟩ := ofFields?_eq_some_iff.1 fields
      exact .object hasLevel level hasExec exec
    · obtain ⟨level, exec⟩ := ofFields?_eq_some_iff.1 read
      exact .array level exec
    · cases read
  · rintro (⟨hasLevel, level, hasExec, exec⟩ | ⟨level, exec⟩)
    · rw [ofJson?, hasLevel, hasExec]
      exact ofFields?_eq_some_iff.2 ⟨level, exec⟩
    · exact ofFields?_eq_some_iff.2 ⟨level, exec⟩

/-- What is written is a form of what it was written from. -/
theorem form_of_toJson? (written : s.toJson? = some v) : Form s v := by
  simp only [toJson?, bind, pure, Option.bind_eq_some_iff, Option.some.injEq] at written
  obtain ⟨exec, writtenExec, rfl⟩ := written
  exact .object rfl .name rfl (ExecSettings.form_of_toJson? writtenExec)

theorem exists_toJson?_of_text {text : String} (shell : s.exec.shell = Bytes.ofText text) :
    ∃ v, s.toJson? = some v := by
  obtain ⟨exec, written⟩ := ExecSettings.exists_toJson?_of_text shell
  simp [toJson?, written]

/-- A form of settings is also read as a layer, and this layer replaces every field: none of those
that the reader of settings knows is passed over by the reader of layers. -/
theorem Form.layer (form : Form s v) :
    ∃ layer, Layer.ofJson? v = some layer ∧ ∀ below, layer.over below = s := by
  -- A layer takes `null` for a field that is left open, but no form of a field is `null`.
  have fields {level exec : Json} (levelForm : s.level.Form level) (execForm : s.exec.Form exec) :
      ∃ layer, Layer.ofFields? (some level) (some exec) = some layer ∧
        ∀ below, layer.over below = s := by
    obtain ⟨execLayer, readLayer, replaces⟩ := execForm.layer
    have readLevel := LogLevel.ofJson?_eq_some_iff.2 levelForm
    refine ⟨⟨some s.level, some execLayer⟩, ?_, fun below => ?_⟩
    · rw [Layer.ofFields?, Json.optional_of_read rfl readLevel,
        Json.optional_of_read rfl readLayer]
      rfl
    · exact congrArg (Settings.mk s.level) (replaces below.exec)
  cases form with
  | object hasLevel level hasExec exec =>
    rw [Layer.ofJson?, hasLevel, hasExec]
    exact fields level exec
  | array level exec => exact fields level exec

/-- **Settings are exchanged without loss.** Settings whose shell is text are written, and what is
written is read back as these settings, and as a layer that gives them over any others.  Settings
are read just from their forms, whatever other members an object has, and whatever they are read
from, they are written and read back again. -/
theorem exchange (s : Settings) :
    (∀ text, s.exec.shell = Bytes.ofText text →
      ∃ v, s.toJson? = some v ∧ ofJson? v = some s ∧
        ∃ layer, Layer.ofJson? v = some layer ∧ ∀ below, layer.over below = s) ∧
    (∀ v, ofJson? v = some s ↔ Form s v) ∧
    ∀ v, ofJson? v = some s → ∃ w, s.toJson? = some w ∧ ofJson? w = some s := by
  refine ⟨fun text shell => ?_, fun v => ofJson?_eq_some_iff, fun v read => ?_⟩
  · obtain ⟨v, written⟩ := exists_toJson?_of_text shell
    have form := form_of_toJson? written
    exact ⟨v, written, ofJson?_eq_some_iff.2 form, form.layer⟩
  · obtain ⟨text, shell⟩ := (ofJson?_eq_some_iff.1 read).exists_text
    obtain ⟨w, written⟩ := exists_toJson?_of_text shell
    exact ⟨w, written, ofJson?_eq_some_iff.2 (form_of_toJson? written)⟩

/-- Settings given by an array, with the level as a member and the resolver's settings among other
members: they are read, written in the usual form, and read again. -/
theorem exchange_of_array :
    ∃ s w, ofJson? (.array [.object [("trace", .null)], .object [("note", .number),
        ("user_path", .string ""), ("root_path", .string ":"), ("shell", .string "/bin/ζ")]]) =
      some s ∧ s.exec.shell = Bytes.ofText "/bin/ζ" ∧ s.toJson? = some w ∧ ofJson? w = some s ∧
      ∃ layer, Layer.ofJson? w = some layer ∧ layer.over {} = s := by
  let s : Settings := ⟨.trace, ⟨Bytes.ofText "/bin/ζ", ":", ""⟩⟩
  have form : Form s (.array [.object [("trace", .null)], .object [("note", .number),
      ("user_path", .string ""), ("root_path", .string ":"), ("shell", .string "/bin/ζ")]]) :=
    .array .member (.object rfl rfl rfl rfl)
  have read := ((exchange s).2.1 _).2 form
  obtain ⟨w, written, layerRead, layer, readLayer, replaces⟩ := (exchange s).1 "/bin/ζ" rfl
  exact ⟨s, w, read, rfl, written, layerRead, layer, readLayer, replaces {}⟩

end Settings

end Coprocess
