import Gfal2.Error

/-! The parameters of a transfer, as far as a copy made by the library itself reads them, the setters of
their checksum part, and what a copy tells its caller while it runs. The parameters live in one object that the setters change in place;
here a setter returns the object it leaves behind. -/

namespace Gfal2

open Base

/-- `gfalt_checksum_mode_t`, whose values are the unions of a source and a target bit. -/
inductive ChecksumMode where
  | none | source | target | both
  deriving DecidableEq

/-- `mode & GFALT_CHECKSUM_SOURCE`. -/
def ChecksumMode.hasSource : ChecksumMode → Bool
  | .source | .both => true
  | .none | .target => false

/-- `mode & GFALT_CHECKSUM_TARGET`. -/
def ChecksumMode.hasTarget : ChecksumMode → Bool
  | .target | .both => true
  | .none | .source => false

/-- `mode & ~GFALT_CHECKSUM_SOURCE`. -/
def ChecksumMode.withoutSource : ChecksumMode → ChecksumMode
  | .none => .none
  | .source => .none
  | .target => .target
  | .both => .target

/-- The checksum part of the parameters. Either string may be a null pointer. -/
structure ChecksumSettings where
  mode : ChecksumMode := .none
  type : Option CString := none
  value : Option CString := none
  deriving DecidableEq

/-- `struct _gfalt_params_t` with the values `gfalt_params_handle_init` gives it. -/
structure GfaltParams where
  timeout : UInt64 := 3600
  replaceExisting : Bool := false
  strictMode : Bool := false
  localTransfers : Bool := true
  parentDirCreate : Bool := false
  transferCleanup : Bool := true
  evict : Bool := false
  checksum : ChecksumSettings := {}
  deriving DecidableEq

/-- `gfalt_set_checksum`. The value is always replaced, the type only by a given one. -/
def gfaltSetChecksum (params : GfaltParams) (mode : ChecksumMode) (type checksum : Option CString) :
    Ret Int × GfaltParams :=
  if (mode = .source ∨ mode = .target) ∧ (checksum = none ∨ checksum = some []) then
    (⟨-1, some (gfal2SetError gfal2GetCoreQuark EINVAL
      (lit "Checksum value required if mode is not end to end"))⟩, params)
  else
    (⟨0, none⟩, { params with checksum := ⟨mode, type.or params.checksum.type, checksum⟩ })

/-- `gfalt_get_checksum` into buffers of the given sizes; a null pointer reads as the empty string. -/
def gfaltGetChecksum (params : GfaltParams) (typeBuffLen checksumBuffLen : Nat) :
    ChecksumMode × CString × CString :=
  (params.checksum.mode, (params.checksum.type.getD []).take (typeBuffLen - 1),
    (params.checksum.value.getD []).take (checksumBuffLen - 1))

/-- `gfal_event_side_t`. -/
inductive GfalEventSide where
  | source | destination | none
  deriving DecidableEq

/-- `struct _gfalt_event` without its time stamp. -/
structure GfaltEvent where
  domain : GQuark
  side : GfalEventSide
  stage : CString
  description : CString
  deriving DecidableEq

/-- `struct _gfalt_transfer_status`, as far as a copy fills it. -/
structure GfaltTransferStatus where
  averageBaudrate : Nat
  instantBaudrate : Nat
  transferTime : Int
  bytesTransfered : Nat
  deriving DecidableEq

end Gfal2
