import BarTemplate.Command.Run

/-!
# The program

Carries out a run on the real file system: reads the files that the command line names, lets the run decide, and prints
and writes what it leaves behind.
-/

namespace BarTemplate.Program

/-- The fault with the number that the system gives it. Some calls give the number with its sign changed. -/
def faultOf (number : UInt32) (description : String) : DiskFault :=
  let n := if number < 0x80000000 then number.toNat else (-number).toNat
  match n with
  | 2 => .notFound
  | 20 => .notDirectory
  | 21 => .isDirectory
  | 36 => .nameTooLong
  | n => .other n description.toList

/-- The fault behind an error of the file system. -/
def diskFault : IO.Error → DiskFault
  | .noFileOrDirectory _ number details => faultOf number details
  | .inappropriateType _ number details | .resourceExhausted _ number details | .invalidArgument _ number details =>
    faultOf number details
  | .permissionDenied _ number _ => faultOf number "Permission denied"
  | e => faultOf 5 e.toString

/-- The content of a file. -/
def contentOf (p : Path) : IO (Except DiskFault (List UInt8)) := do
  if p.shown.contains '\x00' then return .error .nullByte
  try
    return .ok (← IO.FS.readBinFile (String.ofList p.shown)).toList
  catch e => return .error (diskFault e)

/-- What a run with arguments can see of the disk. A pipe or a device is taken for a file. -/
def visibleDisk (a : Command.Arguments) : IO Disk := do
  let paths := Command.configPath a :: (Command.path? a.input).toList
  let contents ← paths.mapM fun p => return (p, ← contentOf p)
  return {
    read := fun p => ((contents.find? (·.1 = p)).map (·.2)).getD (.error .notFound)
    writeFault := fun p => if p.shown.contains '\x00' then some .nullByte else none }

/-- Writes the file of a report. A report whose file cannot be written ends in that error. -/
def deliver (r : Command.Report) : IO Command.Report := do
  match r.written with
  | none => return r
  | some (p, t) =>
    try
      IO.FS.writeFile (String.ofList p.shown) (String.ofList t)
      return r
    catch e => return { r with ending := .escaped (.file (.unreadable p (diskFault e))), stdout := [] }

/-- The stack frames that a run has. -/
def availableFrames : Int := 1000

end BarTemplate.Program

open BarTemplate in
/-- Runs the program with the words of a command line. -/
def main (arguments : List String) : IO UInt32 := do
  let words := arguments.map String.toList
  let report ← match Command.Arguments.ofWords words with
    | .error stop => pure stop.report
    | .ok a => do
      let stdin ← if Command.path? a.input = some Command.standardInput then (← IO.getStdin).readToEnd else pure ""
      Program.deliver (a.run (← Program.visibleDisk a) stdin.toList Program.availableFrames)
  IO.eprint (String.ofList report.stderr)
  IO.print (String.ofList report.stdout)
  match report.ending with
  | .returned code | .exited code => return code.toUInt32
  | .escaped e =>
    IO.eprintln (String.ofList e.message)
    return 1
