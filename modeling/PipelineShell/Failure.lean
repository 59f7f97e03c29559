import PipelineShell.FileSystem.Error
import PipelineShell.Text.Numeral
import PipelineShell.Text.Quoted
import PipelineShell.Text.System

/-!
# Failures

The exceptions that leave `execute_line`, each by its cause, and the messages they are reported
with.
-/

namespace PipelineShell

/-- An exception that leaves `run_pipeline`, by its cause. -/
inductive Failure
  | redirectTarget (path : Text) (cause : SystemError)
  | closedChannel
  | embeddedNul
  | illegalVariableName
  | numeral (text : Text) (cause : Text.Numeral.Error)
  | missingOperand
  | noStage
  | unreadable (path : Text) (cause : SystemError)
  | unwritable (cause : SystemError)
  | notUtf8 (cause : Utf8.Error)
  | unencodable (cause : Utf8.Unencodable)
  | unknownLevel (chosen : Text)
  | interrupted
  | exit (status : Int)
  deriving DecidableEq, Repr

def Utf8.Fault.message : Utf8.Fault → Text
  | .start => "invalid start byte".runes
  | .continuation => "invalid continuation byte".runes
  | .ending => "unexpected end of data".runes

/-- The fault, its bytes and its position in words. A single byte is shown. -/
def Utf8.Error.message (e : Utf8.Error) : Text :=
  let place :=
    match e.bytes with
    | [b] => "byte 0x".runes ++ Text.hex 2 b.toNat ++ " in position ".runes ++
        Text.ofNat e.position
    | bytes => "bytes in position ".runes ++ Text.ofNat e.position ++ .char '-' ::
        Text.ofNat (e.position + bytes.length - 1)
  "'utf-8' codec can't decode ".runes ++ place ++ ": ".runes ++ e.fault.message

/-- What has no encoding, and its position in words. A single one is shown. -/
def Utf8.Unencodable.message (e : Utf8.Unencodable) : Text :=
  let place :=
    if e.count = 1 then
      "character ".runes ++ Text.quoted [.lone e.first] ++ " in position ".runes ++
        Text.ofNat e.position
    else
      "characters in position ".runes ++ Text.ofNat e.position ++ .char '-' ::
        Text.ofNat (e.position + e.count - 1)
  "'utf-8' codec can't encode ".runes ++ place ++ ": surrogates not allowed".runes

def Failure.shownNumeral : Nat := 200

def Text.Numeral.Error.message (text : Text) : Text.Numeral.Error → Text
  | .malformed => "invalid literal for int() with base 10: ".runes ++
      (Text.quoted text).take Failure.shownNumeral
  | .tooLong digits => "Exceeds the limit (".runes ++ Text.ofNat Text.Numeral.maxDigits ++
      " digits) for integer string conversion: value has ".runes ++ Text.ofNat digits ++
      " digits; use sys.set_int_max_str_digits() to increase the limit".runes

def SystemError.numbered (cause : SystemError) : Text :=
  "[Errno ".runes ++ Text.ofNat cause.number ++ "] ".runes ++ cause.message

def Failure.message : Failure → Text
  | .redirectTarget path cause => path ++ ": ".runes ++ cause.message
  | .closedChannel => "write to closed channel".runes
  | .embeddedNul => "embedded null byte".runes
  | .illegalVariableName => "illegal environment variable name".runes
  | .numeral text cause => cause.message text
  | .missingOperand | .noStage => "list index out of range".runes
  | .unreadable path cause => cause.numbered ++ ": ".runes ++ Text.quoted path
  | .unwritable cause => cause.numbered
  | .notUtf8 cause => cause.message
  | .unencodable cause => cause.message
  | .unknownLevel chosen => "Unknown level: ".runes ++ Text.quoted chosen
  | .interrupted => []
  | .exit status => Text.ofInt status

def Text.unfit? (t : Text) : Option Failure :=
  match Utf8.unencodable? Surrogate.isByte 0 t with
  | some e => some (.unencodable e)
  | none => if t.contains '\x00' then some .embeddedNul else none

end PipelineShell
