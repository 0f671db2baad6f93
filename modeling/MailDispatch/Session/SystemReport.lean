import MailDispatch.Session.Fault
import MailDispatch.Value.Basic

/-!
# Reports of the operating system

A fault of the operating system is raised with a number, a reason and up to two files. The number
stands in for the name where the name says nothing, and a fault of waiting may say in place of the
files how much was written before.
-/

namespace MailDispatch

namespace Fault

/-- Whether an integer fits a signed word of 64 bits. -/
def fitsWord (n : Int) : Bool := -0x8000000000000000 ≤ n && n < 0x8000000000000000

/-- The name of the operating system's fault with a given number. -/
def systemName : Int → String
  | 1 => "PermissionError"
  | 2 => "FileNotFoundError"
  | 3 => "ProcessLookupError"
  | 4 => "InterruptedError"
  | 10 => "ChildProcessError"
  | 11 => "BlockingIOError"
  | 13 => "PermissionError"
  | 17 => "FileExistsError"
  | 20 => "NotADirectoryError"
  | 21 => "IsADirectoryError"
  | 32 => "BrokenPipeError"
  | 103 => "ConnectionAbortedError"
  | 104 => "ConnectionResetError"
  | 108 => "BrokenPipeError"
  | 110 => "TimeoutError"
  | 111 => "ConnectionRefusedError"
  | 114 => "BlockingIOError"
  | 115 => "BlockingIOError"
  | _ => "OSError"

/-- The fault of arguments of the wrong number or kind. -/
def unsuitable : Fault := ⟨"TypeError", "unsuitable arguments", .other⟩

end Fault

/-- What a fault of the operating system says: a number, a reason and up to two files. -/
structure SystemReport where
  number : Value
  reason : Value
  file : Option Value := none
  /-- The second file, as of a renaming; there is none without a first. -/
  target : Option Value := none

namespace SystemReport

/-- The report in two to five arguments. The fourth of them means nothing, and fewer or more
arguments are no report. -/
def ofArguments? : List Value → Option SystemReport
  | [number, reason] => some { number, reason }
  | [number, reason, file] => some { number, reason, file := file.toOption }
  | [number, reason, file, _] => some { number, reason, file := file.toOption }
  | [number, reason, file, _, target] =>
    some { number, reason, file := file.toOption,
           target := file.toOption.bind fun _ ↦ target.toOption }
  | _ => none

/-- The report of a fault of waiting, which may say in place of the file how much was written: a
whole number then, and no files. -/
def ofBlocked (r : SystemReport) : Except Fault SystemReport :=
  match r.file with
  | some (.bool _) => .ok { r with file := none, target := none }
  | some (.int n) =>
    if Fault.fitsWord n then .ok { r with file := none, target := none }
    else .error ⟨"ValueError", "cannot fit 'int' into an index-sized integer", .other⟩
  | some (.float _) => .error .unsuitable
  | _ => .ok r

/-- The files of a report, each as a literal. -/
def fileWords (r : SystemReport) : Option String :=
  match r.file with
  | none => some ""
  | some file => file.literal?.bind fun shown ↦ match r.target with
    | none => some (": " ++ shown)
    | some target => target.literal?.map fun other ↦ ": " ++ shown ++ " -> " ++ other

/-- A report in words. -/
def words (r : SystemReport) : Option String :=
  r.number.text?.bind fun number ↦ r.reason.text?.bind fun reason ↦
    r.fileWords.map fun files ↦ "[Errno " ++ number ++ "] " ++ reason ++ files

/-- The name of the operating system's fault that a report is about. A flag counts as a number. -/
def systemName (r : SystemReport) : String :=
  match r.number with
  | .int n => Fault.systemName n
  | .bool b => Fault.systemName (if b then 1 else 0)
  | _ => "OSError"

/-- The arguments as the report leaves them: files are taken out of them. -/
def remaining (r : SystemReport) (arguments : List Value) : List Value :=
  if r.file.isSome then arguments.take 2 else arguments

end SystemReport

end MailDispatch
