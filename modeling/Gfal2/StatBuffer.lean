import Gfal2.Error

/-! `struct stat`, as far as the plugins fill it, and the types of files in its mode. -/

namespace Gfal2

abbrev ModeT := BitVec 32

abbrev sIfmt : ModeT := 0o170000
abbrev sIfdir : ModeT := 0o040000
abbrev sIfreg : ModeT := 0o100000
abbrev sIflnk : ModeT := 0o120000

def sIsdir (mode : ModeT) : Bool := mode &&& sIfmt == sIfdir

def sIsreg (mode : ModeT) : Bool := mode &&& sIfmt == sIfreg

def sIslnk (mode : ModeT) : Bool := mode &&& sIfmt == sIflnk

structure StatBuffer where
  stMode : ModeT := 0
  stUid : Nat := 0
  stGid : Nat := 0
  stSize : Int := 0
  stAtime : Int := 0
  stMtime : Int := 0
  stCtime : Int := 0
  deriving DecidableEq

end Gfal2
