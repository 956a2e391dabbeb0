import Coprocess.Host.Call

/-!
# Pseudo-terminals

A pseudo-terminal connects two sides.  Whoever holds the master types and watches the screen; the
processes on the slave side read what was typed and write to the screen.  What lies between the two
is the line discipline: it collects typed characters into lines, lets the line being typed be
edited, shows what is typed, turns certain characters into signals, and adds carriage returns to
line feeds on the way to the screen.  `Modes` says which of this happens.

A line that was typed is one record.  A read takes bytes from one record at most; a record that was
ended by the end-of-file character holds no terminator, so that an empty record is what the end of a
file looks like.
-/

namespace Coprocess.Host

/-- The state of a pseudo-terminal. -/
structure Terminal where
  modes : Modes := {}
  size : WindowSize := {}
  /-- The line being typed, last character first. -/
  line : Bytes := []
  /-- The lines that can be read. -/
  records : List Bytes := []
  /-- What was typed while there was no room for it. -/
  backlog : Bytes := []
  /-- What the screen shows and the master has not read yet. -/
  screen : Bytes := []
  /-- What was typed and is to be shown, but does not show yet. -/
  echoed : Bytes := []
  /-- Where the next character appears on its line of the screen. -/
  column : Nat := 0
  /-- Where the line being typed began. -/
  startColumn : Nat := 0
  /-- The two columns as they were before `echoed`. -/
  shownColumns : Nat × Nat := (0, 0)
  /-- Whether the next typed character is taken as it is. -/
  literal : Bool := false
  /-- Whether output is held back. -/
  held : Bool := false
  /-- The session that the terminal controls. -/
  session : Option Pid := none
  /-- The process group that typed signals go to. -/
  foreground : Option Pid := none
  /-- Whether the slave side was ever open. -/
  used : Bool := false
  /-- Whether the master is gone. -/
  hungUp : Bool := false
deriving Inhabited

namespace Terminal

/-! ### Special characters -/

/-- The character that interrupts, control-C. -/
def interruptChar : UInt8 := 3
/-- The character that ends a line without a terminator, control-D. -/
def endOfFileChar : UInt8 := 4
/-- The character that shows the line anew, control-R. -/
def reprintChar : UInt8 := 18
/-- The character that lets output go on, control-Q. -/
def startChar : UInt8 := 17
/-- The character that holds output back, control-S. -/
def stopChar : UInt8 := 19
/-- The character that erases the line, control-U. -/
def killChar : UInt8 := 21
/-- The character that makes the next one literal, control-V. -/
def literalChar : UInt8 := 22
/-- The character that erases a word, control-W. -/
def wordEraseChar : UInt8 := 23
/-- The character that suspends, control-Z. -/
def suspendChar : UInt8 := 26
/-- The character that quits, control-backslash. -/
def quitChar : UInt8 := 28
/-- The character that erases a character, delete. -/
def eraseChar : UInt8 := 127

/-- The signal that a typed character sends. -/
def signalOf (c : UInt8) : Option Signal :=
  if c == interruptChar then some 2
  else if c == quitChar then some 3
  else if c == suspendChar then some 20
  else none

/-- Whether a character is a control character. -/
def isControl (c : UInt8) : Bool := c < 32 || c == 127

/-! ### Output -/

/-- The bytes that output becomes, with the column after each. -/
def rendered (modes : Modes) (data : Bytes) : Bytes :=
  if modes.postprocess && modes.newlineOut then
    data.flatMap fun c => if c == 10 then [13, 10] else [c]
  else data

/-- The column after a piece of output. -/
def columnAfter (modes : Modes) (column : Nat) (data : Bytes) : Nat :=
  if !modes.postprocess then column
  else data.foldl (fun column c =>
    if c == 10 then (if modes.newlineOut then 0 else column)
    else if c == 13 then 0
    else if c == 9 then column + 8 - column % 8
    else if c == 8 then column - 1
    else if isControl c then column else column + 1) column

/-- How much the screen holds before writers have to wait. -/
def screenLimit : Nat := 65536

/-- Output of the slave side. -/
def output (t : Terminal) (data : Bytes) : Terminal :=
  let column := columnAfter t.modes t.column data
  { t with screen := t.screen ++ rendered t.modes data, column, startColumn := column,
           shownColumns := (column, column) }

/-! ### Echo -/

/-- Has a character shown, processed as the modes say. -/
def put (t : Terminal) (c : UInt8) : Terminal :=
  if !t.modes.postprocess then { t with echoed := t.echoed ++ [c] }
  else if c == 10 then
    if t.modes.newlineOut then
      { t with echoed := t.echoed ++ [13, 10], column := 0, startColumn := 0 }
    else { t with echoed := t.echoed ++ [10] }
  else if c == 13 then { t with echoed := t.echoed ++ [13], column := 0, startColumn := 0 }
  else if c == 9 then { t with echoed := t.echoed ++ [9], column := t.column + 8 - t.column % 8 }
  else if c == 8 then { t with echoed := t.echoed ++ [8], column := t.column - 1 }
  else
    { t with echoed := t.echoed ++ [c], column := if isControl c then t.column else t.column + 1 }

/-- Shows what was typed, unless output is held back. -/
def showEchoed (t : Terminal) : Terminal :=
  if t.held then t
  else
    { t with screen := t.screen ++ t.echoed, echoed := [],
             shownColumns := (t.column, t.startColumn) }

/-- Forgets what was typed and does not show yet. -/
def dropEchoed (t : Terminal) : Terminal :=
  { t with echoed := [], column := t.shownColumns.1, startColumn := t.shownColumns.2 }

/-- Shows a typed character; control characters are shown as a circumflex and a letter. -/
def echo (t : Terminal) (c : UInt8) : Terminal :=
  if !t.modes.echo then t
  else if isControl c && c != 9 then (t.put 0x5E).put (c ^^^ 64)
  else t.put c

/-- The column after showing a typed character at a column. -/
def shownColumn (column : Nat) (c : UInt8) : Nat :=
  if c == 9 then column + 8 - column % 8
  else if isControl c then column + 2 else column + 1

/-- Takes the last character of the line being typed off the screen. -/
def unecho (t : Terminal) (c : UInt8) (rest : Bytes) : Terminal :=
  if !t.modes.echo then t
  else if c == 9 then
    -- A tab is as wide as what is left of it, so the column is counted anew.
    let before := rest.foldr (fun c column => shownColumn column c) t.startColumn
    (List.replicate (t.column - before) 8).foldl put t
  else
    let once (t : Terminal) : Terminal := ((t.put 8).put 0x20).put 8
    -- A control character shows as two.
    if isControl c then once (once t) else once t

/-! ### Input -/

/-- How many characters are kept for reading. -/
def inputLimit : Nat := 4095

/-- How many characters are kept for reading now. -/
def pending (t : Terminal) : Nat := t.records.flatten.length + t.line.length

/-- Makes the line being typed a record, ended by the given bytes. -/
def endLine (t : Terminal) (terminator : Bytes) : Terminal :=
  { t with records := t.records ++ [t.line.reverse ++ terminator], line := [] }

/-- Erases the last character of the line being typed. -/
def erase (t : Terminal) : Terminal :=
  match t.line with
  | [] => t
  | c :: rest => unecho { t with line := rest } c rest

/-- Erases the last characters as long as a test holds, at most `count`. -/
def eraseWhile (test : UInt8 → Bool) : Nat → Terminal → Terminal
  | 0, t => t
  | count + 1, t =>
    match t.line with
    | [] => t
    | c :: _ => if test c then eraseWhile test count t.erase else t

/-- Whether a character is part of a word. -/
def isWordChar (c : UInt8) : Bool :=
  (48 ≤ c && c ≤ 57) || (65 ≤ c && c ≤ 90) || (97 ≤ c && c ≤ 122) || c == 95

/-- Adds a character to the line being typed and shows it. -/
def add (t : Terminal) (c : UInt8) : Terminal :=
  let t := if t.line.isEmpty then { t with startColumn := t.column } else t
  ({ t with line := c :: t.line }).echo c

/-- A typed character that is to be edited into a line. -/
def edit (t : Terminal) (c : UInt8) : Terminal :=
  if c == eraseChar then t.erase
  else if c == killChar then eraseWhile (fun _ => true) t.line.length t
  else if c == wordEraseChar then
    -- First what stands behind the last word, then the word.
    let t := eraseWhile (!isWordChar ·) t.line.length t
    eraseWhile isWordChar t.line.length t
  else if c == literalChar then
    let t := { t with literal := true }
    if t.modes.echo then (t.put 0x5E).put 8 else t
  else if c == reprintChar && t.modes.echo then
    t.line.reverse.foldl echo ((t.echo c).put 10)
  else if c == 10 then (if t.modes.echo then t.put 10 else t).endLine [10]
  else if c == endOfFileChar then t.endLine []
  else t.add c

/-- A typed character, and the signal it sends. -/
def receive (t : Terminal) (c : UInt8) : Terminal × Option Signal :=
  if t.literal then (({ t with literal := false }).add c, none)
  else
    let returned := c == 13 && t.modes.returnIn
    let c := if returned then 10 else c
    if c == startChar then ({ t with held := false }, none)
    else if c == stopChar then ({ t with held := true }, none)
    else
      match (if t.modes.signals then signalOf c else none) with
      | some signal =>
        -- A signal discards all that was typed and not read.
        (({ t.dropEchoed with line := [], records := [], backlog := [], held := false }).echo c,
          some signal)
      | none =>
        if t.modes.canonical then (t.edit c, none)
        else if returned && t.modes.echo then ({ t.put c with line := c :: t.line }, none)
        else (t.add c, none)

/-- Whether a typed character is dealt with now: complete lines have to be read before more is taken
in than is kept, but a line that is too long goes on. -/
def hasRoom (t : Terminal) : Bool :=
  t.pending < inputLimit || (t.modes.canonical && t.records.isEmpty)

/-- A line that is too long gives its last character up for the next one. -/
def makeRoom (t : Terminal) : Terminal :=
  if t.pending ≤ inputLimit then t else { t with line := t.line.drop 1 }

/-- Types characters as long as there is room for them, and collects the signals they send. -/
def typeAll (t : Terminal) (signals : List Signal) : Bytes → Terminal × List Signal
  | [] => (t, signals)
  | c :: rest =>
    if t.hasRoom then
      let (t, signal) := t.makeRoom.receive c
      typeAll t (signals ++ signal.toList) rest
    else ({ t with backlog := c :: rest }, signals)

/-- What the master writes, behind what had no room so far.  It shows when all of it was dealt with,
so that a signal takes back what was written together with it. -/
def type (t : Terminal) (data : Bytes) : Terminal × List Signal :=
  let (t, signals) := typeAll { t with backlog := [] } [] (t.backlog ++ data)
  (t.showEchoed, signals)

/-! ### Reading -/

/-- Whether the slave side has something to read. -/
def isReadable (t : Terminal) : Bool :=
  !t.records.isEmpty || (!t.modes.canonical && !t.line.isEmpty)

/-- Takes at most `count` bytes off what can be read. -/
def take (t : Terminal) (count : Nat) : Bytes × Terminal :=
  if t.modes.canonical then
    match t.records with
    | [] => ([], t)
    | record :: rest =>
      (record.take count,
        { t with records := if record.length ≤ count then rest else record.drop count :: rest })
  else
    let all := t.records.flatten ++ t.line.reverse
    (all.take count, { t with records := [], line := (all.drop count).reverse })

/-- Reads on the slave side, which makes room for what was typed meanwhile. -/
def read (t : Terminal) (count : Nat) : Bytes × Terminal × List Signal :=
  let (data, t) := t.take count
  (data, t.type [])

/-- Changes the modes.  What was typed into an unfinished line can be read at once if lines are no
longer collected. -/
def setModes (t : Terminal) (modes : Modes) : Terminal := { t with modes }

end Terminal

end Coprocess.Host
