/-!
# Failures of the operating system

Operating system calls fail with a number. `describe` is the platform's description of a number,
and `SystemError.text` the description as an error message ends with it, the number in brackets
behind.
-/

namespace MacroTrace

/-- The descriptions of the error numbers from zero on; a number without one has an empty text. -/
def errorDescriptions : List String :=
  ["Success", "Operation not permitted", "No such file or directory", "No such process",
   "Interrupted system call", "Input/output error", "No such device or address",
   "Argument list too long", "Exec format error", "Bad file descriptor", "No child processes",
   "Resource temporarily unavailable", "Cannot allocate memory", "Permission denied", "Bad address",
   "Block device required", "Device or resource busy", "File exists", "Invalid cross-device link",
   "No such device", "Not a directory", "Is a directory", "Invalid argument",
   "Too many open files in system", "Too many open files", "Inappropriate ioctl for device",
   "Text file busy", "File too large", "No space left on device", "Illegal seek",
   "Read-only file system", "Too many links", "Broken pipe", "Numerical argument out of domain",
   "Numerical result out of range", "Resource deadlock avoided", "File name too long",
   "No locks available", "Function not implemented", "Directory not empty",
   "Too many levels of symbolic links", "", "No message of desired type", "Identifier removed",
   "Channel number out of range", "Level 2 not synchronized", "Level 3 halted", "Level 3 reset",
   "Link number out of range", "Protocol driver not attached", "No CSI structure available",
   "Level 2 halted", "Invalid exchange", "Invalid request descriptor", "Exchange full", "No anode",
   "Invalid request code", "Invalid slot", "", "Bad font file format", "Device not a stream",
   "No data available", "Timer expired", "Out of streams resources",
   "Machine is not on the network", "Package not installed", "Object is remote",
   "Link has been severed", "Advertise error", "Srmount error", "Communication error on send",
   "Protocol error", "Multihop attempted", "RFS specific error", "Bad message",
   "Value too large for defined data type", "Name not unique on network",
   "File descriptor in bad state", "Remote address changed",
   "Can not access a needed shared library", "Accessing a corrupted shared library",
   ".lib section in a.out corrupted", "Attempting to link in too many shared libraries",
   "Cannot exec a shared library directly", "Invalid or incomplete multibyte or wide character",
   "Interrupted system call should be restarted", "Streams pipe error", "Too many users",
   "Socket operation on non-socket", "Destination address required", "Message too long",
   "Protocol wrong type for socket", "Protocol not available", "Protocol not supported",
   "Socket type not supported", "Operation not supported", "Protocol family not supported",
   "Address family not supported by protocol", "Address already in use",
   "Cannot assign requested address", "Network is down", "Network is unreachable",
   "Network dropped connection on reset", "Software caused connection abort",
   "Connection reset by peer", "No buffer space available",
   "Transport endpoint is already connected", "Transport endpoint is not connected",
   "Cannot send after transport endpoint shutdown", "Too many references: cannot splice",
   "Connection timed out", "Connection refused", "Host is down", "No route to host",
   "Operation already in progress", "Operation now in progress", "Stale file handle",
   "Structure needs cleaning", "Not a XENIX named type file", "No XENIX semaphores available",
   "Is a named type file", "Remote I/O error", "Disk quota exceeded", "No medium found",
   "Wrong medium type", "Operation canceled", "Required key not available", "Key has expired",
   "Key has been revoked", "Key was rejected by service", "Owner died", "State not recoverable",
   "Operation not possible due to RF-kill", "Memory page has hardware error"]

/-- The platform's description of an error number. -/
def describe (number : Int32) : String :=
  let unknown := s!"Unknown error {number.toInt}"
  if number < 0 then unknown
  else match errorDescriptions[number.toInt.toNat]? with
    | none => unknown
    | some text => if text.isEmpty then unknown else text

/-- Why a file or a stream refused an operation. -/
inductive SystemError
  /-- The operating system's error of this number. -/
  | os (number : Int32)
  /-- A file name with a NUL character in it. -/
  | nulInName
  /-- A file that was to be read as text and is not UTF-8. -/
  | notText
  /-- Any other failure, with its description. -/
  | other (text : String)
deriving DecidableEq, Repr

namespace SystemError

/-- The error as a message ends with it. -/
def text : SystemError → String
  | os number => s!"{describe number} (os error {number.toInt})"
  | nulInName => "file name contained an unexpected NUL byte"
  | notText => "stream did not contain valid UTF-8"
  | other text => text

/-- The operating system's number of the error, if it has one. -/
def number? : SystemError → Option Int32
  | os number => some number
  | _ => none

/-- No file or directory of that name. -/
def noEntry : SystemError := os 2

/-- A component of a path that is not the last one is no directory. -/
def notDirectory : SystemError := os 20

/-- The path leads to a directory, and the operation needs a file. -/
def isDirectory : SystemError := os 21

/-- The device has no room left. -/
def noSpace : SystemError := os 28

/-- A path, or a component of one, is longer than the system allows. -/
def nameTooLong : SystemError := os 36

/-- A path leads through more symbolic links than the system follows. -/
def tooManyLinks : SystemError := os 40

end SystemError

end MacroTrace
