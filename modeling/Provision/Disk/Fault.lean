namespace Provision

/-!
# Why a file system call fails

Most failures are refusals of the operating system, which have a number and a fixed wording.  The
others arise before or after the call: a path or a content that cannot be used.
-/

/-- The refusals of the operating system that can occur here. -/
inductive Errno where
  | notPermitted
  | noEntry
  | notExecutable
  | badDescriptor
  | permission
  | busy
  | exists
  | notDirectory
  | isDirectory
  | invalidArgument
  | noSpace
  | nameTooLong
  | notEmpty
  | tooManyLinks
  deriving Repr, DecidableEq

namespace Errno

/-- The number of a refusal. -/
def number : Errno → Nat
  | .notPermitted => 1
  | .noEntry => 2
  | .notExecutable => 8
  | .badDescriptor => 9
  | .permission => 13
  | .busy => 16
  | .exists => 17
  | .notDirectory => 20
  | .isDirectory => 21
  | .invalidArgument => 22
  | .noSpace => 28
  | .nameTooLong => 36
  | .notEmpty => 39
  | .tooManyLinks => 40

/-- The wording of a refusal. -/
def wording : Errno → String
  | .notPermitted => "Operation not permitted"
  | .notExecutable => "Exec format error"
  | .badDescriptor => "Bad file descriptor"
  | .noEntry => "No such file or directory"
  | .permission => "Permission denied"
  | .busy => "Device or resource busy"
  | .exists => "File exists"
  | .notDirectory => "Not a directory"
  | .isDirectory => "Is a directory"
  | .invalidArgument => "Invalid argument"
  | .noSpace => "No space left on device"
  | .nameTooLong => "File name too long"
  | .notEmpty => "Directory not empty"
  | .tooManyLinks => "Too many levels of symbolic links"

end Errno

/-- Why a file system call fails. -/
inductive DiskFault where
  | refused (errno : Errno)
  | notText
  | zeroInPath
  | notRegular
  | damaged (reason : String)
  deriving Repr, DecidableEq

namespace DiskFault

/-- The wording of a failure. -/
def message : DiskFault → String
  | .refused errno => s!"{errno.wording} (os error {errno.number})"
  | .notText => "stream did not contain valid UTF-8"
  | .zeroInPath => "file name contained an unexpected NUL byte"
  | .notRegular => "the source path is neither a regular file nor a symlink to a regular file"
  | .damaged reason => reason

/-- Whether a failure says that something is missing. -/
def isMissing : DiskFault → Bool
  | .refused .noEntry => true
  | _ => false

end DiskFault

end Provision
