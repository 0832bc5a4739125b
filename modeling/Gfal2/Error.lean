import Gfal2.Base.CString

/-! Errors as the library reports them: a domain, a code that is an `errno` value, and a message. A
function hands back its value together with the error it set in the caller's slot, which the caller
has cleared before. The log level is below DEBUG, where propagation adds no function names. -/

namespace Gfal2

open Base

/-- A quark is known by its string. -/
abbrev GQuark := CString

structure GError where
  domain : GQuark
  code : Int
  message : CString
  deriving DecidableEq

abbrev EPERM : Int := 1
abbrev ENOENT : Int := 2
abbrev EINTR : Int := 4
abbrev EIO : Int := 5
abbrev ENOEXEC : Int := 8
abbrev EBADF : Int := 9
abbrev EAGAIN : Int := 11
abbrev ENOMEM : Int := 12
abbrev EACCES : Int := 13
abbrev EFAULT : Int := 14
abbrev EEXIST : Int := 17
abbrev ENOTDIR : Int := 20
abbrev EISDIR : Int := 21
abbrev EINVAL : Int := 22
abbrev EMFILE : Int := 24
abbrev ENOSPC : Int := 28
abbrev ESPIPE : Int := 29
abbrev EDOM : Int := 33
abbrev ENOSYS : Int := 38
abbrev ENOTEMPTY : Int := 39
abbrev ELOOP : Int := 40
abbrev ENOMSG : Int := 42
abbrev EIDRM : Int := 43
abbrev ECHRNG : Int := 44
abbrev ENODATA : Int := 61
abbrev ENOSR : Int := 63
abbrev ECOMM : Int := 70
abbrev EPROTO : Int := 71
abbrev EBADMSG : Int := 74
abbrev EILSEQ : Int := 84
abbrev ENOTSOCK : Int := 88
abbrev EPROTONOSUPPORT : Int := 93
abbrev ENOTSUP : Int := 95
abbrev EOPNOTSUPP : Int := 95
abbrev ENETRESET : Int := 102
abbrev ECONNABORTED : Int := 103
abbrev ECONNRESET : Int := 104
abbrev ENOTCONN : Int := 107
abbrev ETIMEDOUT : Int := 110
abbrev ECONNREFUSED : Int := 111
abbrev EHOSTDOWN : Int := 112
abbrev EHOSTUNREACH : Int := 113
abbrev EINPROGRESS : Int := 115
abbrev ESTALE : Int := 116
abbrev ECANCELED : Int := 125

abbrev gfal2GetCoreQuark : GQuark := lit "GFAL2::CORE"
abbrev gfal2GetPluginsQuark : GQuark := lit "GFAL2::PLUGINS"
abbrev gfalCancelQuark : GQuark := lit "[gfal2_cancel]"

/-- The value a call returns and the error it leaves in the caller's slot. -/
structure Ret (α : Type) where
  val : α
  err : Option GError
  deriving DecidableEq

/-- `gfal2_set_error` formats into 512 bytes, the last of them for the terminating NUL. -/
def gfal2SetError (domain : GQuark) (code : Int) (message : CString) : GError :=
  ⟨domain, code, message.take 511⟩

/-- `gfal2_propagate_prefixed_error_extended` with a text to put before the message. -/
def propagatePrefixedErrorExtended (src : GError) (text : CString) : GError :=
  { src with message := text ++ src.message }

/-- Reasons for which the program does not go on: undefined behaviour of C, or a loop that runs longer than
the model was asked to follow it. -/
inductive Fault where
  /-- A call through a null function pointer. -/
  | nullCallback
  /-- A field read through a null pointer. -/
  | nullDereference
  /-- An access outside an array. -/
  | arrayBounds
  /-- A `std::string` made of a null pointer. -/
  | nullString
  /-- A position outside a `std::string`. -/
  | outOfRange
  /-- An assertion of a library that does not hold. -/
  | assertion
  /-- More passes of a loop than its bound. -/
  | outOfFuel
  deriving DecidableEq

end Gfal2
