import PipelineShell.Text.Basic

/-!
# System errors

The errors of the system calls, with number and message.
-/

namespace PipelineShell

/-- Why the system refuses a request. -/
inductive SystemError
  | notPermitted
  | notFound
  | noDevice
  | argumentsTooLong
  | notRunnable
  | badDescriptor
  | accessDenied
  | busy
  | exists
  | notDirectory
  | isDirectory
  | invalid
  | tooManyFiles
  | textBusy
  | fileTooLarge
  | noSpace
  | brokenPipe
  | nameTooLong
  | notEmpty
  | linkLoop
  deriving DecidableEq, Repr

namespace SystemError

def number : SystemError → Nat
  | .notPermitted => 1
  | .notFound => 2
  | .noDevice => 6
  | .argumentsTooLong => 7
  | .notRunnable => 8
  | .badDescriptor => 9
  | .accessDenied => 13
  | .busy => 16
  | .exists => 17
  | .notDirectory => 20
  | .isDirectory => 21
  | .invalid => 22
  | .tooManyFiles => 24
  | .textBusy => 26
  | .fileTooLarge => 27
  | .noSpace => 28
  | .brokenPipe => 32
  | .nameTooLong => 36
  | .notEmpty => 39
  | .linkLoop => 40

def message : SystemError → Text
  | .notPermitted => "Operation not permitted".runes
  | .notFound => "No such file or directory".runes
  | .noDevice => "No such device or address".runes
  | .argumentsTooLong => "Argument list too long".runes
  | .notRunnable => "Exec format error".runes
  | .badDescriptor => "Bad file descriptor".runes
  | .accessDenied => "Permission denied".runes
  | .busy => "Device or resource busy".runes
  | .exists => "File exists".runes
  | .notDirectory => "Not a directory".runes
  | .isDirectory => "Is a directory".runes
  | .invalid => "Invalid argument".runes
  | .tooManyFiles => "Too many open files".runes
  | .textBusy => "Text file busy".runes
  | .fileTooLarge => "File too large".runes
  | .noSpace => "No space left on device".runes
  | .brokenPipe => "Broken pipe".runes
  | .nameTooLong => "File name too long".runes
  | .notEmpty => "Directory not empty".runes
  | .linkLoop => "Too many levels of symbolic links".runes

def wording (e : SystemError) : Chars := Text.chars e.message

end SystemError
end PipelineShell
