import Lexis.Source.LexError

/-!
# Failures of a run

The reasons why a run ends without success, with the wording that people see. Every reason belongs
to one of six groups, and the wording begins with the name of the group where it has one.
-/

namespace Lexis

/-- What is wrong with the configuration. -/
inductive ConfigFault where
  /-- There is no file at the path. -/
  | notFound (path : String)
  /-- The file is not a configuration, for the given reason. -/
  | malformed (reason : String)
  /-- Something else, in words. -/
  | stated (text : String)
deriving DecidableEq, Repr

/-- What is wrong with the input that was asked for. -/
inductive InputFault where
  /-- Both a file and a text were given. -/
  | fileAndText
  /-- Neither a file nor a text was given. -/
  | nothingGiven
  /-- There is no file to check. -/
  | noFiles
  /-- There is nothing at the path. -/
  | missing (path : String)
  /-- What lies at the path is not a file. -/
  | notFile (path : String)
  /-- Something else, in words. -/
  | stated (text : String)
deriving DecidableEq, Repr

/-- What went wrong while reading or writing. -/
inductive DeviceFault where
  /-- The bytes are not UTF-8. -/
  | notText
  /-- A directory cannot be read like a file. -/
  | isDirectory
  /-- The writer takes no more bytes. -/
  | sinkFull
  /-- Something else, in words. -/
  | stated (text : String)
deriving DecidableEq, Repr

/-- Why a run ends without success. -/
inductive Failure where
  /-- The configuration is not usable. -/
  | configuration (fault : ConfigFault)
  /-- A source, named by its label, cannot be cut into tokens. -/
  | scan (label : String) (error : LexError)
  /-- Some of the checked files cannot be cut into tokens. -/
  | check (failed total : Nat)
  /-- The input is not usable. -/
  | input (fault : InputFault)
  /-- Reading or writing failed. -/
  | device (fault : DeviceFault)
  /-- Writing JSON failed. -/
  | json (fault : DeviceFault)
deriving DecidableEq, Repr

/-- The wording of a fault of the configuration. -/
def ConfigFault.message : ConfigFault → String
  | notFound path => s!"Configuration file not found: {path}"
  | malformed reason => s!"Failed to parse configuration: {reason}"
  | stated text => text

/-- The wording of a fault of the input. -/
def InputFault.message : InputFault → String
  | fileAndText => "Pass either a file or --expr, not both"
  | nothingGiven => "No input specified: pass a file, '-' for stdin, or --expr"
  | noFiles => "No input files specified"
  | missing path => s!"Input path does not exist: {path}"
  | notFile path => s!"Input path is not a file: {path}"
  | stated text => text

/-- The wording of a fault of reading or writing. -/
def DeviceFault.message : DeviceFault → String
  | notText => "stream did not contain valid UTF-8"
  | isDirectory => "Is a directory (os error 21)"
  | sinkFull => "sink is full"
  | stated text => text

/-- The wording of a failure. -/
def Failure.message : Failure → String
  | configuration fault => s!"Configuration error: {fault.message}"
  | scan label error => s!"{label}: {error}"
  | check failed total => s!"{failed} of {total} file(s) failed to scan"
  | input fault => s!"Validation error: {fault.message}"
  | device fault => s!"IO error: {fault.message}"
  | json fault => s!"JSON error: {fault.message}"

end Lexis
