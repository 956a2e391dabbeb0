import Coprocess.Tools.Printing
import Coprocess.Tools.Tool

/-!
# Tools for streams

The tools that hand on streams as they come: `cat`, `tee`, `yes` and `dd`.
-/

namespace Coprocess.Tools

open Host Shell

/-- How much is read at once. -/
def chunk : Nat := 131072

/-- Hands on what comes from a descriptor until its end; yields what went wrong. -/
def relayFrom (fd : Fd) : Program (Except (Bool × Errno) Unit) :=
  Program.iterate ([] : Bytes) fun left => do
    match left with
    | [] =>
      match ← Program.request (.read fd chunk) with
      | .ok [] => return .inr (.ok ())
      | .ok data => return .inl data
      | .error reason =>
        if reason == .EINTR then return .inl [] else return .inr (.error (false, reason))
    | left =>
      match ← Program.request (.write 1 left) with
      | .ok n => return .inl (left.drop n)
      | .error reason =>
        if reason == .EINTR then return .inl left else return .inr (.error (true, reason))

/-- Hands on several inputs. -/
def catAll (argv : List Bytes) (status : Nat) : List Bytes → Program Nat
  | [] => return status
  | name :: rest => do
    match ← Tool.openInput name with
    | .error reason =>
      let status ← Tool.complains argv (name ++ raw (": " ++ reason.wording))
      catAll argv status rest
    | .ok fd =>
      let ended ← relayFrom fd
      Tool.closeInput fd
      match ended with
      | .ok () => catAll argv status rest
      | .error (false, reason) =>
        let status ← Tool.complains argv (name ++ raw (": " ++ reason.wording))
        catAll argv status rest
      | .error (true, reason) => Tool.complains argv (raw ("write error: " ++ reason.wording))

/-- A filter that numbers lines; an end of line between two inputs is none of its own. -/
def numbering : Filter (Nat × Bytes) :=
  Filter.ofLines 1 (fun n line =>
    (n + 1, fill false false 6 [] (digits n) ++ [9] ++ line, false)) fun _ => []

/-- Prints its inputs. -/
def cat : Tool := fun argv _ => do
  let (letters, names) := options (argv.drop 1)
  let inputs := Tool.inputsOf names
  let status ←
    if letters.contains 0x6E then Tool.filter argv id names numbering else catAll argv 0 inputs
  if inputs.contains (raw "-") then
    match ← Program.request (.close 0) with
    | .ok () => return status
    | .error reason => Tool.complains argv (raw ("closing standard input: " ++ reason.wording))
  else return status

/-- Prints its input, and writes it to files. -/
def tee : Tool := fun argv _ => do
  let (letters, names) := options (argv.drop 1)
  let mode : OpenMode :=
    { write := true, create := true, truncate := !letters.contains 0x61,
      append := letters.contains 0x61 }
  let rec openAll : List Bytes → Program (Nat × List Fd)
    | [] => return (0, [])
    | name :: rest => do
      match ← Program.request (.openFile name mode) with
      | .ok fd =>
        let (status, fds) ← openAll rest
        return (status, fd :: fds)
      | .error reason =>
        let _ ← Tool.complains argv (name ++ raw (": " ++ reason.wording))
        let (_, fds) ← openAll rest
        return (1, fds)
  let rec writeEach (data : Bytes) : List Fd → Program Unit
    | [] => return ()
    | fd :: rest => do
      let _ ← writeAll fd data
      writeEach data rest
  let (status, fds) ← openAll names
  Program.iterate () fun _ => do
    match ← Program.request (.read 0 chunk) with
    | .ok [] => return .inr status
    | .ok data =>
      writeEach data (1 :: fds)
      return .inl ()
    | .error reason => if reason == .EINTR then return .inl () else return .inr 1

/-- Prints a line without end. -/
def yes : Tool := fun argv _ =>
  let line := (if argv.length ≤ 1 then raw "y" else joined (argv.drop 1)) ++ [10]
  let block := (List.replicate (8192 / line.length + 1) line).flatten
  Program.iterate block fun left => do
    match ← Program.request (.write 1 left) with
    | .ok n => return .inl (if n < left.length then left.drop n else block)
    | .error reason =>
      if reason == .EINTR then return .inl left
      else return .inr (← Tool.complains argv (raw ("standard output: " ++ reason.wording)))

/-! ### Copying by blocks -/

/-- The number of bytes that a size such as `512` or `4k` stands for. -/
def sizeOf? (text : Bytes) : Option Nat :=
  let ds := text.takeWhile isDigit
  let factor := match text.drop ds.length with
    | [] | [0x63] => some 1
    | [0x6B] | [0x4B] => some 1024
    | [0x4D] => some (1024 * 1024)
    | _ => none
  if ds.isEmpty then none else factor.map (decimal ds * ·)

/-- How many blocks were full, and how many were not. -/
structure BlockCount where
  full : Nat := 0
  partly : Nat := 0
  bytes : Nat := 0

/-- Copies blocks, at most so many. -/
def copyBlocks (argv : List Bytes) (source target : Fd) (size : Nat) (limit : Option Nat) :
    Program (Nat × BlockCount) :=
  Program.iterate ({} : BlockCount) fun count => do
    if limit == some (count.full + count.partly) then return .inr (0, count)
    else
      match ← Program.request (.read source size) with
      | .ok [] => return .inr (0, count)
      | .error reason =>
        if reason == .EINTR then return .inl count
        else
          return .inr (← Tool.complains argv
            (raw ("error reading 'standard input': " ++ reason.wording)), count)
      | .ok data =>
        if ← writeAll target data then
          return .inl { count with
            full := if data.length == size then count.full + 1 else count.full
            partly := if data.length == size then count.partly else count.partly + 1
            bytes := count.bytes + data.length }
        else return .inr (← Tool.complains argv (raw "error writing 'standard output'"), count)

/-- Copies blocks from an input to an output, and says how many there were. -/
def dd : Tool := fun argv _ => do
  let args := argv.drop 1
  let value (name : String) : Option Bytes :=
    (args.find? fun a => Bytes.beginsWith a (raw name)).map (List.drop name.length)
  let size := ((value "bs=").bind sizeOf?).getD 512
  let limit := (value "count=").bind sizeOf?
  let source ← match value "if=" with
    | none => pure (Except.ok 0)
    | some path => Program.request (.openFile path { read := true })
  let target ← match value "of=" with
    | none => pure (Except.ok 1)
    | some path =>
      Program.request (.openFile path { write := true, create := true, truncate := true })
  match source, target with
  | .error reason, _ =>
    Tool.complains argv (raw "failed to open '" ++ (value "if=").getD [] ++
      raw ("': " ++ reason.wording))
  | _, .error reason =>
    Tool.complains argv (raw "failed to open '" ++ (value "of=").getD [] ++
      raw ("': " ++ reason.wording))
  | .ok source, .ok target =>
    let (status, count) ← copyBlocks argv source target size limit
    if value "status=" != some (raw "none") then
      let records := toString count.full ++ "+" ++ toString count.partly ++ " records "
      let _ ← writeAll 2 (raw (records ++ "in\n" ++ records ++ "out\n"))
    return status

end Coprocess.Tools
