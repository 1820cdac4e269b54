import Mathlib

/-!
# Exceptions of the communication library

The exception numbers of `comm::ExceptionType` and the record
`comm::Exception` that `THROW_EXCEPTION` builds.  The source file and line an
exception carries are left out: no function of the model reads them except to
copy them.
-/

namespace Comm

/-- `comm::ExceptionType`. -/
inductive ExceptionType
  | fatalInternalError
  | writeFail
  | readFail
  | bindFail
  | socketFail
  | listentFail
  | serverAddError
  | portError
  | connectionError
  | connectionShutDown
  | protocolError
  | tlsError
  | authenticationError
  | invalidMessageSize
  | undefined
  deriving DecidableEq, Repr

namespace ExceptionType

/-- The number of an exception. -/
def num : ExceptionType → ℤ
  | fatalInternalError => 0
  | writeFail => 1
  | readFail => 2
  | bindFail => 3
  | socketFail => 4
  | listentFail => 5
  | serverAddError => 6
  | portError => 7
  | connectionError => 8
  | connectionShutDown => 9
  | protocolError => 10
  | tlsError => 11
  | authenticationError => 12
  | invalidMessageSize => 13
  | undefined => 100

/-- The name `THROW_EXCEPTION` records, `#name` of its argument. -/
def name : ExceptionType → String
  | fatalInternalError => "FATAL_Internal_Error"
  | writeFail => "WriteFail"
  | readFail => "ReadFail"
  | bindFail => "BindFail"
  | socketFail => "SocketFail"
  | listentFail => "ListentFail"
  | serverAddError => "ServerAddError"
  | portError => "PortError"
  | connectionError => "ConnectionError"
  | connectionShutDown => "ConnectionShutDown"
  | protocolError => "ProtocolError"
  | tlsError => "TLSError"
  | authenticationError => "AuthenticationError"
  | invalidMessageSize => "InvalidMessageSize"
  | undefined => "Undefined"

end ExceptionType

/-- `comm::Exception`. -/
structure Exception where
  num : ℤ
  name : String
  msg : String
  errnoVal : ℤ
  sslErrCode : ℤ
  deriving DecidableEq, Repr

/-- `THROW_EXCEPTION(name, msg)`; the message is empty when none is given. -/
def exception (type : ExceptionType) (msg : String) : Exception :=
  ⟨type.num, type.name, msg, 0, 0⟩

/-- `THROW_EXCEPTION(name, errno_val, msg, ssl_err_code)`. -/
def systemException (type : ExceptionType) (errnoVal : ℤ) (msg : String) (sslErrCode : ℤ) :
    Exception :=
  ⟨type.num, type.name, msg, errnoVal, sslErrCode⟩

end Comm
