/-!
# Failures that the operating system reports
-/

namespace UsbBridge

inductive OsError where
  | notFound
  | noDevice
  | badDescriptor
  | denied
  | busy
  | alreadyExists
  | notADirectory
  | isADirectory
  | invalidArgument
  | tooManyDescriptors
  | brokenPipe
  | tooManyLinks
  | wrongSocketType
  | noBufferSpace
  | addressInUse
  | connectionRefused
  deriving DecidableEq, Repr, Inhabited

namespace OsError

def number : OsError → Nat
  | .notFound => 2
  | .noDevice => 6
  | .badDescriptor => 9
  | .denied => 13
  | .busy => 16
  | .alreadyExists => 17
  | .notADirectory => 20
  | .isADirectory => 21
  | .invalidArgument => 22
  | .tooManyDescriptors => 24
  | .brokenPipe => 32
  | .tooManyLinks => 40
  | .wrongSocketType => 91
  | .addressInUse => 98
  | .noBufferSpace => 105
  | .connectionRefused => 111

def phrase : OsError → String
  | .notFound => "No such file or directory"
  | .noDevice => "No such device or address"
  | .badDescriptor => "Bad file descriptor"
  | .denied => "Permission denied"
  | .busy => "Device or resource busy"
  | .alreadyExists => "File exists"
  | .notADirectory => "Not a directory"
  | .isADirectory => "Is a directory"
  | .invalidArgument => "Invalid argument"
  | .tooManyDescriptors => "Too many open files"
  | .brokenPipe => "Broken pipe"
  | .tooManyLinks => "Too many levels of symbolic links"
  | .wrongSocketType => "Protocol wrong type for socket"
  | .addressInUse => "Address already in use"
  | .noBufferSpace => "No buffer space available"
  | .connectionRefused => "Connection refused"

def message (e : OsError) : String := s!"{e.phrase} (os error {e.number})"

end OsError

end UsbBridge
