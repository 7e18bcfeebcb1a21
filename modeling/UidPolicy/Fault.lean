/-!
# Faults

The ways an operation of a controller can fail.  A fault is a cause; the words shown to the
operator are in one function.  An operation on a kernel resource fails with a number, and a rule
is refused for what is wrong with its terms; either becomes a fault of the operation that it stops.

* `Errno` — a system error number.
* `Errno.describe` — the text of a number, without the number itself.
* `Errno.message` — the text followed by the number, as error messages show it.
* `Fault` — the cause, `Fault.message` its text, and `Fault.errno?` the number that it carries.
* `RuleError` — what can be wrong with a chain, an interface index or a user id that a rule
  names, and `RuleError.message` its text.
* `RuleError.toFault` — the fault of an operation that such an error stops.
-/

namespace UidPolicy

/-! ## System error numbers -/

/-- A system error number.  Numbers without a name are possible, so it is not an enumeration. -/
abbrev Errno := Int

namespace Errno

def noEntry : Errno := 2

/-- The device failed; also the number of a failure that carries none. -/
def inputOutput : Errno := 5

/-- The index or the number of entries is out of bounds. -/
def tooBig : Errno := 7

def notDirectory : Errno := 20

def isDirectory : Errno := 21

def invalid : Errno := 22

def nameTooLong : Errno := 36

/-- What a lock protects may be half-written. -/
def notRecoverable : Errno := 131

def texts : List String :=
  [
"Success",
   "Operation not permitted",
   "No such file or directory",
   "No such process",
   "Interrupted system call",
   "Input/output error",
   "No such device or address",
   "Argument list too long",
   "Exec format error",
   "Bad file descriptor",
   "No child processes",
   "Resource temporarily unavailable",
   "Cannot allocate memory",
   "Permission denied",
   "Bad address",
   "Block device required",
   "Device or resource busy",
   "File exists",
   "Invalid cross-device link",
   "No such device",
   "Not a directory",
   "Is a directory",
   "Invalid argument",
   "Too many open files in system",
   "Too many open files",
   "Inappropriate ioctl for device",
   "Text file busy",
   "File too large",
   "No space left on device",
   "Illegal seek",
   "Read-only file system",
   "Too many links",
   "Broken pipe",
   "Numerical argument out of domain",
   "Numerical result out of range",
   "Resource deadlock avoided",
   "File name too long",
   "No locks available",
   "Function not implemented",
   "Directory not empty",
   "Too many levels of symbolic links",
   "Unknown error 41",
   "No message of desired type",
   "Identifier removed",
   "Channel number out of range",
   "Level 2 not synchronized",
   "Level 3 halted",
   "Level 3 reset",
   "Link number out of range",
   "Protocol driver not attached",
   "No CSI structure available",
   "Level 2 halted",
   "Invalid exchange",
   "Invalid request descriptor",
   "Exchange full",
   "No anode",
   "Invalid request code",
   "Invalid slot",
   "Unknown error 58",
   "Bad font file format",
   "Device not a stream",
   "No data available",
   "Timer expired",
   "Out of streams resources",
   "Machine is not on the network",
   "Package not installed",
   "Object is remote",
   "Link has been severed",
   "Advertise error",
   "Srmount error",
   "Communication error on send",
   "Protocol error",
   "Multihop attempted",
   "RFS specific error",
   "Bad message",
   "Value too large for defined data type",
   "Name not unique on network",
   "File descriptor in bad state",
   "Remote address changed",
   "Can not access a needed shared library",
   "Accessing a corrupted shared library",
   ".lib section in a.out corrupted",
   "Attempting to link in too many shared libraries",
   "Cannot exec a shared library directly",
   "Invalid or incomplete multibyte or wide character",
   "Interrupted system call should be restarted",
   "Streams pipe error",
   "Too many users",
   "Socket operation on non-socket",
   "Destination address required",
   "Message too long",
   "Protocol wrong type for socket",
   "Protocol not available",
   "Protocol not supported",
   "Socket type not supported",
   "Operation not supported",
   "Protocol family not supported",
   "Address family not supported by protocol",
   "Address already in use",
   "Cannot assign requested address",
   "Network is down",
   "Network is unreachable",
   "Network dropped connection on reset",
   "Software caused connection abort",
   "Connection reset by peer",
   "No buffer space available",
   "Transport endpoint is already connected",
   "Transport endpoint is not connected",
   "Cannot send after transport endpoint shutdown",
   "Too many references: cannot splice",
   "Connection timed out",
   "Connection refused",
   "Host is down",
   "No route to host",
   "Operation already in progress",
   "Operation now in progress",
   "Stale file handle",
   "Structure needs cleaning",
   "Not a XENIX named type file",
   "No XENIX semaphores available",
   "Is a named type file",
   "Remote I/O error",
   "Disk quota exceeded",
   "No medium found",
   "Wrong medium type",
   "Operation canceled",
   "Required key not available",
   "Key has expired",
   "Key has been revoked",
   "Key was rejected by service",
   "Owner died",
   "State not recoverable",
   "Operation not possible due to RF-kill",
   "Memory page has hardware error"
  ]

/-- The text of a number; numbers without a text of their own are named by value, as the system does
it. -/
def describe (n : Errno) : String :=
  if n < 0 then s!"Unknown error {n}"
  else (texts[n.toNat]?).getD s!"Unknown error {n}"

/-- The text of a number, followed by the number. -/
def message (n : Errno) : String :=
  s!"{describe n} (os error {n})"

end Errno

/-! ## Faults of operations -/

/-- Why an operation of a controller failed.  It is the one error type above the maps: whatever went
wrong below is one of these. -/
inductive Fault where
  | notFound (what : String)
  /-- The arguments, or a stored value, are outside what the operation accepts. -/
  | invalidArgument (reason : String)
  /-- A kernel resource refused the operation. -/
  | resource (context : String) (errno : Errno)
  | unsupported (what : String)
  | initFailed (reason : String)
  deriving DecidableEq, Repr, Inhabited

namespace Fault

def message : Fault → String
  | notFound what => s!"not found: {what}"
  | invalidArgument reason => s!"invalid argument: {reason}"
  | resource context errno => s!"{context}: {errno.message}"
  | unsupported what => s!"unsupported operation: {what}"
  | initFailed reason => s!"initialization failed: {reason}"

/-- The system error number that a fault carries. -/
def errno? : Fault → Option Errno
  | resource _ errno => some errno
  | _ => none

end Fault

/-! ## Errors of the rule vocabulary -/

/-- What is wrong with the terms of a rule.  These are found before or without a call, and become
faults when they leave the rules. -/
inductive RuleError where
  | unknownChain (id : Int)
  | unknownChainName (text : String)
  /-- An interface index comes with matches other than the interface match alone. -/
  | indexWithoutIif (iif : UInt32) (matchNames : String)
  /-- The user id has no record. -/
  | noEntry (uid : UInt32)
  /-- The chain is not of the polarity that was asked for. -/
  | wrongPolarity (chain expected : String)
  deriving DecidableEq, Repr, Inhabited

namespace RuleError

def message : RuleError → String
  | unknownChain id => s!"unknown firewall chain id: {id}"
  | unknownChainName text => s!"unknown firewall chain name: {text}"
  | indexWithoutIif iif matchNames =>
    s!"interface index {iif} is only valid with the IIF match, got {matchNames}"
  | noEntry uid => s!"uid {uid} has no firewall entry"
  | wrongPolarity chain expected => s!"chain {chain} is not an {expected} chain"

/-- The fault of an operation that the error stops: a missing record is not found, and
everything else is a bad argument. -/
def toFault : RuleError → Fault
  | noEntry uid => .notFound s!"uid {uid}"
  | e => .invalidArgument e.message

end RuleError

end UidPolicy
