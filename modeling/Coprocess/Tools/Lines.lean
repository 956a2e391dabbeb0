import Coprocess.Shell.Pattern
import Coprocess.Tools.Printing
import Coprocess.Tools.Signals
import Coprocess.Tools.Tool

/-!
# Tools for lines

The tools that order, select, count and number lines.
-/

namespace Coprocess.Tools

open Host Shell

/-! ### Order -/

/-- The number at the front of a text, in units of its ninth decimal place. -/
def leadingNumber (text : Bytes) : Int :=
  let (negative, body) := match text.dropWhile (fun c => c == 32 || c == 9) with
    | 0x2D :: rest => (true, rest)
    | rest => (false, rest)
  let whole := body.takeWhile isDigit
  let part := match body.drop whole.length with
    | 0x2E :: rest => rest.takeWhile isDigit
    | _ => []
  let n : Int := decimal (whole ++ (part ++ List.replicate 9 48).take 9)
  if negative then -n else n

/-- How lines are ordered. -/
structure LineOrder where
  numeric : Bool := false
  backwards : Bool := false
  unique : Bool := false
  /-- Case does not count. -/
  folded : Bool := false
  /-- What separates fields; without it they begin with blanks. -/
  separator : Option UInt8 := none
  /-- The first and the last field that count. -/
  key : Option (Nat × Option Nat) := none

/-- Fields that begin with blanks, given what is left of the one at hand. -/
def blankFields (current : Bytes) (inWord : Bool) : Bytes → List Bytes
  | [] => [current.reverse]
  | c :: rest =>
    let blank := c == 32 || c == 9
    if blank && inWord then current.reverse :: blankFields [c] false rest
    else blankFields (c :: current) (inWord || !blank) rest

namespace LineOrder

/-- The part of a line that counts. -/
def keyOf (o : LineOrder) (line : Bytes) : Bytes :=
  let body := line.takeWhile (· != 10)
  let part := match o.key with
    | none => body
    | some (first, last) =>
      let fields := match o.separator with
        | some c => Bytes.splitOn c body
        | none => blankFields [] false body
      let upTo := match last with
        | some n => fields.take n
        | none => fields
      match o.separator with
      | some c => Bytes.joinWith c (upTo.drop (first - 1))
      | none => (upTo.drop (first - 1)).flatten
  if o.folded then part.map upper else part

/-- Whether two lines count as equal. -/
def same (o : LineOrder) (x y : Bytes) : Bool :=
  if o.numeric then leadingNumber (o.keyOf x) == leadingNumber (o.keyOf y)
  else o.keyOf x == o.keyOf y

/-- Whether a line comes before another, or counts as equal. -/
def ordered (o : LineOrder) (x y : Bytes) : Bool :=
  let (x, y) := if o.backwards then (y, x) else (x, y)
  if o.same x y then o.unique || precedes x y
  else if o.numeric then leadingNumber (o.keyOf x) < leadingNumber (o.keyOf y)
  else precedes (o.keyOf x) (o.keyOf y)

/-- The first of each run of lines that count as equal. -/
def distinct (o : LineOrder) : List Bytes → List Bytes
  | [] => []
  | [x] => [x]
  | x :: y :: rest => if o.same x y then (distinct o (x :: rest)) else x :: distinct o (y :: rest)
termination_by lines => lines.length

/-- The order with an option letter taken in. -/
def takeLetter (o : LineOrder) (c : UInt8) : LineOrder :=
  if c == 0x6E then { o with numeric := true } else if c == 0x72 then { o with backwards := true }
  else if c == 0x75 then { o with unique := true }
  else if c == 0x66 then { o with folded := true }
  else o

/-- The order with a key such as `2`, `2,3` or `2n` taken in. -/
def takeKey (o : LineOrder) (text : Bytes) : LineOrder :=
  let numbers := (Bytes.splitOn 0x2C text).map fun t => decimal (t.takeWhile isDigit)
  (text.filter fun c => !isDigit c).foldl takeLetter
    { o with key := some (numbers.headD 1, numbers[1]?) }

/-- The order that options state, and the inputs. -/
def ofOptions (o : LineOrder) (inputs : List Bytes) : Nat → List Bytes → LineOrder × List Bytes
  | 0, _ | _, [] => (o, inputs.reverse)
  | fuel + 1, arg :: rest =>
    match arg with
    | 0x2D :: 0x74 :: text =>
      if text.isEmpty then
        ofOptions { o with separator := (rest.headD []).head? } inputs fuel (rest.drop 1)
      else ofOptions { o with separator := text.head? } inputs fuel rest
    | 0x2D :: 0x6B :: text =>
      if text.isEmpty then ofOptions (o.takeKey (rest.headD [])) inputs fuel (rest.drop 1)
      else ofOptions (o.takeKey text) inputs fuel rest
    | 0x2D :: c :: letters => ofOptions ((c :: letters).foldl takeLetter o) inputs fuel rest
    | name => ofOptions o (name :: inputs) fuel rest

end LineOrder

/-- Prints the lines of its inputs in order. -/
def sort : Tool := fun argv _ => do
  let (order, inputs) := LineOrder.ofOptions {} [] argv.length (argv.drop 1)
  let status ← Tool.summary argv (raw "cannot read: " ++ ·) inputs fun texts =>
    let sorted := (texts.flatMap fun text => linesOf (completed text)).mergeSort order.ordered
    (if order.unique then order.distinct sorted else sorted).flatten
  return if status == 0 then 0 else 2

/-- Prints lines from the last to the first. -/
def tac : Tool := fun argv _ =>
  let absent (name : Bytes) : Bytes := raw "failed to open '" ++ name ++ raw "' for reading"
  Tool.summary argv absent (options (argv.drop 1)).2 fun texts =>
    texts.flatMap fun text => (linesOf text).reverse.flatten

/-! ### One line at a time -/

/-- Which of the runs of equal lines are printed, and how. -/
def uniqFilter (counted repeated single : Bool) : Filter (Option (Bytes × Nat) × Bytes) :=
  let atEnd : Option (Bytes × Nat) → Bytes
    | none => []
    | some (line, n) =>
      if counted then fill false false 7 [] (digits n) ++ [32] ++ line
      else if repeated then (if 1 < n then line else [])
      else if single then (if n == 1 then line else [])
      else []
  let atStart (line : Bytes) : Bytes := if counted || repeated || single then [] else line
  Filter.ofLines none (fun run line =>
    let line := completed line
    match run with
    | some (before, n) =>
      if before == line then (some (before, n + 1), [], false)
      else (some (line, 1), atEnd run ++ atStart line, false)
    | none => (some (line, 1), atStart line, false)) atEnd

/-- Prints the first of each run of equal lines. -/
def uniq : Tool := fun argv _ =>
  let (letters, inputs) := options (argv.drop 1)
  Tool.filter argv id inputs
    (uniqFilter (letters.contains 0x63) (letters.contains 0x64) (letters.contains 0x75))

/-- A filter that changes each line, but not its end. -/
def lineMap (f : Bytes → Bytes) : Filter (Unit × Bytes) :=
  Filter.ofLines () (fun _ line =>
    let body := line.takeWhile (· != 10)
    ((), f body ++ line.drop body.length, false)) fun _ => []

/-- Prints each line backwards. -/
def rev : Tool := fun argv _ =>
  Tool.filter argv (raw "cannot open " ++ ·) (options (argv.drop 1)).2 (lineMap List.reverse)

/-- Numbers the lines that are not empty, or all. -/
def nl : Tool := fun argv _ =>
  let (letters, inputs) := options (argv.drop 1)
  let all := letters.contains 0x61
  Tool.filter argv id inputs (Filter.ofLines 1 (fun n line =>
    let line := completed line
    if all || line != [10] then (n + 1, fill false false 6 [] (digits n) ++ [9] ++ line, false)
    else (n, List.replicate 7 32 ++ line, false)) fun _ => [])

/-- The fields or bytes that a list of ranges selects. -/
def selected (list : Bytes) (n : Nat) : Bool :=
  (Bytes.splitOn 0x2C list).any fun range =>
    match Bytes.splitOn 0x2D range with
    | [x] => decimal x == n
    | [x, y] => (if x.isEmpty then 1 else decimal x) ≤ n && (y.isEmpty || n ≤ decimal y)
    | _ => false

/-- Prints parts of each line. -/
def cut : Tool := fun argv _ =>
  let rec read (kind : UInt8) (list : Bytes) (delimiter : UInt8) (fuel : Nat) (args : List Bytes) :
      UInt8 × Bytes × UInt8 × List Bytes :=
    match fuel, args with
    | fuel + 1, (0x2D :: c :: text) :: rest =>
      let (value, rest) := if text.isEmpty then (rest.headD [], rest.drop 1) else (text, rest)
      if c == 0x64 then read kind list (value.headD 9) fuel rest
      else read c value delimiter fuel rest
    | _, rest => (kind, list, delimiter, rest)
  let (kind, list, delimiter, inputs) := read 0x66 [] 9 (argv.length + 1) (argv.drop 1)
  let pick {α : Type} (items : List α) : List α :=
    (items.zipIdx.filter fun (_, n) => selected list (n + 1)).map (·.1)
  Tool.filter argv id inputs (Filter.ofLines () (fun _ line =>
    let body := line.takeWhile (· != 10)
    let out := if kind == 0x66 then
        let fields := Bytes.splitOn delimiter body
        if fields.length ≤ 1 then body else Bytes.joinWith delimiter (pick fields)
      else pick body
    ((), out ++ [10], false)) fun _ => [])

/-! ### First and last lines -/

/-- The count that options give, as `-n 3`, `-n3` or `-3`, whether it counts bytes, and the
inputs. -/
def countOptions (count : Bytes) (bytes : Bool) : List Bytes → Bytes × Bool × List Bytes
  | [] => (count, bytes, [])
  | arg :: rest =>
    if arg == raw "-n" || arg == raw "-c" then
      match rest with
      | n :: rest => countOptions n (arg == raw "-c") rest
      | [] => (count, bytes, [])
    else if Bytes.beginsWith arg (raw "-n") then countOptions (arg.drop 2) false rest
    else if Bytes.beginsWith arg (raw "-c") then countOptions (arg.drop 2) true rest
    else match arg with
      | 0x2D :: c :: more =>
        if isDigit c then countOptions (c :: more) false rest else countOptions count bytes rest
      | _ => (count, bytes, arg :: rest)

/-- A filter that prints the first lines. -/
def firstLines (n : Nat) : Filter (Nat × Bytes) :=
  Filter.ofLines n (fun n line => (n - 1, line, n ≤ 1)) fun _ => []

/-- A filter that prints the first bytes. -/
def firstBytes (n : Nat) : Filter Nat :=
  ⟨n, fun n data => (n - data.length, data.take n, n ≤ data.length), fun _ => []⟩

/-- Prints something for each input, under the name of the input if there are several. -/
def eachTitled (argv : List Bytes) (several first : Bool) (status : Nat) (f : Fd → Program Nat) :
    List Bytes → Program Nat
  | [] => return status
  | name :: rest => do
    match ← Tool.openInput name with
    | .error reason =>
      let status ←
        Tool.complains argv (raw "cannot open '" ++ name ++
          raw ("' for reading: " ++ reason.wording))
      eachTitled argv several first status f rest
    | .ok fd =>
      let shown := if name == raw "-" then raw "standard input" else name
      let title := (if first then [] else [10]) ++ raw "==> " ++ shown ++ raw " <==\n"
      let told ← if several then Tool.prints argv title else pure 0
      let done ← f fd
      Tool.closeInput fd
      eachTitled argv several false (max status (max told done)) f rest

/-- Prints what becomes of all that an input holds. -/
def printsWhole (argv : List Bytes) (fd : Fd) (f : Bytes → Bytes) : Program Nat := do
  match ← Tool.readAll fd with
  | .ok text => Tool.prints argv (f text)
  | .error reason =>
    Tool.complains argv (raw ("error reading 'standard input': " ++ reason.wording))

/-- Prints the first lines or bytes of its inputs, or all but the last. -/
def head : Tool := fun argv _ =>
  let (count, bytes, names) := countOptions (raw "10") false (argv.drop 1)
  let n := decimal (count.filter isDigit)
  let inputs := Tool.inputsOf names
  eachTitled argv (1 < inputs.length) true 0 (fun fd =>
    if count.head? == some 0x2D then
      printsWhole argv fd fun text =>
        if bytes then text.take (text.length - n)
        else ((linesOf text).take ((linesOf text).length - n)).flatten
    else if n == 0 then return 0
    else do
      let live := (← Program.request (.getModes 1)).isOk
      let finish (kept : Bytes) (ended : FilterEnd) : Program Nat := do
        match ended with
        | .unreadable reason =>
          Tool.complains argv (raw ("error reading 'standard input': " ++ reason.wording))
        | .unwritable status => return status
        | _ => Tool.prints argv kept
      if bytes then
        let (_, kept, ended) ← Tool.filterFrom argv (firstBytes n) live fd n []
        finish kept ended
      else
        let f := firstLines n
        let (s, kept, ended) ← Tool.filterFrom argv f live fd f.start []
        finish (kept ++ f.finish s) ended) inputs

/-- Prints the last lines or bytes of its inputs, or those from a certain one on. -/
def tail : Tool := fun argv _ =>
  let (count, bytes, names) := countOptions (raw "10") false (argv.drop 1)
  let n := decimal (count.filter isDigit)
  let fromStart := count.head? == some 0x2B
  let inputs := Tool.inputsOf names
  eachTitled argv (1 < inputs.length) true 0 (fun fd => printsWhole argv fd fun text =>
    let cut {α : Type} (items : List α) : List α :=
      if fromStart then items.drop (n - 1) else items.drop (items.length - n)
    if bytes then cut text else (cut (linesOf text)).flatten) inputs

/-! ### Counting -/

/-- The number of words in a text. -/
def wordCount (text : Bytes) : Nat :=
  (text.foldl (fun (n, inside) c =>
    let blank := c == 32 || (9 ≤ c && c ≤ 13)
    (if !blank && !inside then n + 1 else n, !blank)) (0, false)).1

/-- Counts lines, words and bytes. -/
def wc : Tool := fun argv _ => do
  let (letters, inputs) := options (argv.drop 1)
  let (status, found) ← Tool.contents argv id 0 [] (Tool.inputsOf inputs)
  let all := letters.isEmpty
  let counts (text : Bytes) : List Nat :=
    (if all || letters.contains 0x6C then [text.count 10] else []) ++
    (if all || letters.contains 0x77 then [wordCount text] else []) ++
    (if all || letters.contains 0x63 || letters.contains 0x6D then [text.length] else [])
  let total := found.foldl (fun total (_, t) => total + t.length) 0
  let width := if (counts []).length == 1 && inputs.length ≤ 1 then 1
    else if inputs.isEmpty then 7 else (digits total).length
  let row (name : Bytes) (ns : List Nat) : Bytes :=
    Bytes.joinWith 32 (ns.map fun n => fill false false width [] (digits n)) ++
      (if inputs.isEmpty then [] else 32 :: name) ++ [10]
  let rows := found.map fun (name, text) => row name (counts text)
  let sums := if 1 < inputs.length then [row (raw "total") (found.foldl (fun sums (_, text) =>
    List.zipWith (· + ·) sums (counts text)) ((counts []).map fun _ => 0))] else []
  let printed ← Tool.prints argv (rows ++ sums).flatten
  return max status printed

/-- Prints a sequence of numbers. -/
def seq : Tool := fun argv _ =>
  let (separator, args) := match argv.drop 1 with
    | dash :: separator :: rest => if dash == raw "-s" then (separator, rest) else match dash with
      | 0x2D :: 0x73 :: text => (text, separator :: rest)
      | _ => ([10], dash :: separator :: rest)
    | args => ([10], args)
  let numbers := args.map fun a => (numberOf a).getD 0
  let (first, step, last) := match numbers with
    | [last] => ((1 : Int), (1 : Int), last)
    | [first, last] => (first, 1, last)
    | [first, step, last] => (first, step, last)
    | _ => (1, 1, 0)
  let count := if step == 0 then 0 else ((last - first) / step + 1).toNat
  let count := if (0 < step && last < first) || (step < 0 && first < last) then 0 else count
  let texts := (List.range count).map fun (n : Nat) => raw (toString (first + step * (n : Int)))
  Tool.prints argv (separator.intercalate texts ++ if texts.isEmpty then [] else [10])

end Coprocess.Tools
