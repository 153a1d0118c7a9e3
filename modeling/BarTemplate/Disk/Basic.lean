import BarTemplate.Disk.Path
import BarTemplate.Text.Quoted
import BarTemplate.Text.Utf8

/-!
# The disk

What a program sees of the file system: the content of the file that a path names, and whether a file can be written
there.
-/

namespace BarTemplate

/-- Why a path cannot be used as a file. The other faults have another number than the ones that are named. -/
inductive DiskFault where
  | notFound
  | notDirectory
  | isDirectory
  | nameTooLong
  | nullByte
  | other (number : Nat) (description : Text)
  deriving DecidableEq, Repr

/-- A fault on a path, in words. -/
def DiskFault.message (f : DiskFault) (p : Path) : Text :=
  let numbered (number : Nat) (description : Text) : Text :=
    "[Errno " ++ Text.ofNat number ++ "] " ++ description ++ ": " ++ Quoted.encode p.shown
  match f with
  | .notFound => numbered 2 "No such file or directory"
  | .notDirectory => numbered 20 "Not a directory"
  | .isDirectory => numbered 21 "Is a directory"
  | .nameTooLong => numbered 36 "File name too long"
  | .nullByte => "embedded null byte"
  | .other number description => numbered number description

/-- The number of the fault that a file descriptor is bad. -/
def DiskFault.badDescriptor : Nat := 9

/-- The number of the fault that there are too many symbolic links on a path. -/
def DiskFault.tooManyLinks : Nat := 40

/-- The path names no file, which is no fault where a file may be absent. -/
def DiskFault.isAbsence : DiskFault → Bool
  | .notFound | .notDirectory | .isDirectory | .nullByte => true
  | .nameTooLong => false
  | .other number _ => number = badDescriptor || number = tooManyLinks

/-- What is seen of the file system: what can be read under every path, and the fault of writing a file where that is
impossible. A pipe, a socket or a device is special: something may be read from it, but it is no file. -/
structure Disk where
  read : Path → Except DiskFault (List UInt8)
  writeFault : Path → Option DiskFault
  special : Path → Bool := fun _ => false

/-- Why the text of a file cannot be had. -/
inductive ReadError where
  | unreadable (path : Path) (fault : DiskFault)
  | undecodable (fault : Utf8.Fault)
  deriving DecidableEq, Repr

/-- The error in words. -/
def ReadError.message : ReadError → Text
  | .unreadable path fault => fault.message path
  | .undecodable fault => fault.message

namespace Disk

/-- The text of a file. -/
def readText (d : Disk) (p : Path) : Except ReadError Text :=
  match d.read p with
  | .error f => .error (.unreadable p f)
  | .ok bytes =>
    match Utf8.decode bytes with
    | .error f => .error (.undecodable f)
    | .ok t => .ok t

/-- The text of a file that may be absent. It is absent, too, where there is something that is no file. -/
def readText? (d : Disk) (p : Path) : Except ReadError (Option Text) :=
  if d.special p then .ok none
  else
    match d.readText p with
    | .ok t => .ok (some t)
    | .error (.unreadable q f) => if f.isAbsence then .ok none else .error (.unreadable q f)
    | .error e => .error e

end Disk

end BarTemplate
