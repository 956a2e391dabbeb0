import Coprocess.Shell.Builtin

/-!
# Builtins for directories and permissions

A shell knows by which path it stands at its directory; going to another follows that path by its
text, so that the parent of a linked directory is where the link is.
-/

namespace Coprocess.Shell

open Host Tools

namespace Builtin

/-- A path with `.` and `..` taken out as far as it goes by text alone. -/
def logical (current path : Bytes) : Bytes :=
  let whole := if path.head? == some 0x2F then path else current ++ [0x2F] ++ path
  let pieces := (Bytes.splitOn 0x2F whole).foldl (fun done piece =>
    if piece.isEmpty || piece == raw "." then done
    else if piece == raw ".." then done.drop 1
    else piece :: done) []
  if pieces.isEmpty then raw "/" else pieces.reverse.flatMap fun p => 0x2F :: p

/-- Whether an argument is an option about symbolic links in paths. -/
def isPathOption (arg : Bytes) : Bool := ["-P", "-L"].any fun o => raw o == arg

/-- Stands at another directory; paths are followed by their text unless they are to be physical. -/
def cd : Builtin := fun s args => do
  let flags := args.takeWhile isPathOption
  let args := args.drop flags.length
  let args := if args.head? == some (raw "--") then args.drop 1 else args
  let physical := flags.getLast? == some (raw "-P")
  let back := args.head? == some (raw "-")
  let wanted := match args with
    | [] => s.value? (raw "HOME")
    | arg :: _ => if back then s.value? (raw "OLDPWD") else some arg
  let wanted := wanted.getD []
  let wanted := if wanted.isEmpty then raw "." else wanted
  let goal := if physical || s.place.isEmpty then wanted else logical s.place wanted
  match ← Program.request (.changeDirectory goal) with
  | .error _ => refuses s 2 (raw "can't cd to " ++ wanted)
  | .ok () =>
    let place ← if physical || s.place.isEmpty then Program.request .workingDirectory else pure goal
    let s := (s.handOn (raw "OLDPWD") s.place).standingAt place
    if back then prints s (place ++ [10]) else return ends s 0

/-- Prints where the shell stands. -/
def pwd : Builtin := fun s args => do
  if args.getLast? == some (raw "-P") then prints s ((← Program.request .workingDirectory) ++ [10])
  else prints s (s.place ++ [10])


/-- The letters of the permissions that a mask leaves, as for `u=rwx`. -/
def maskLetters (mask : Nat) : Bytes :=
  let group (who : String) (bits : Nat) : String :=
    who ++ "=" ++ (if bits &&& 4 == 0 then "r" else "") ++ (if bits &&& 2 == 0 then "w" else "") ++
      if bits &&& 1 == 0 then "x" else ""
  raw (group "u" (mask / 64) ++ "," ++ group "g" (mask / 8 % 8) ++ "," ++ group "o" (mask % 8))

/-- Prints the permissions that new files do not have, or notes others. -/
def umask : Builtin := fun s args =>
  match args with
  | [] => prints s (fill false true 4 [] (inBase 8 false s.mask) ++ [10])
  | arg :: _ =>
    if arg == raw "-S" then prints s (maskLetters s.mask ++ [10])
    else if arg.all isDigit then
      if arg.all fun c => c < 56 then
        return ends { s with mask := arg.foldl (fun n c => n * 8 + (c.toNat - 48)) 0 % 512 } 0
      else refuses s 2 (raw "Illegal number: " ++ arg)
    else refuses s 2 (raw "Illegal mode: " ++ arg)

end Builtin

end Coprocess.Shell
