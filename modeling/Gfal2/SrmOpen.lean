import Gfal2.SrmCopy

/-! Files opened by the SRM plugin: a file is opened at the TURL that is granted for it, and the request for the TURL is
finished when the file is closed. -/

namespace Gfal2

open Base

abbrev oCreat : Nat := 64

/-- `struct _gfal_srm_handle_open`. -/
structure GfalSrmHandleOpen where
  internalHandle : GfalFileHandle
  surl : CString
  reqType : SrmReqType
  reqtoken : Option CString

variable (servers : SrmServers)

def gfalSrmFileHandleCreate (fh : GfalFileHandle) (surl : CString) (reqtoken : Option CString) (reqType : SrmReqType) :
    GfalSrmHandleOpen :=
  ⟨fh, surl.take 2047, reqType, reqtoken⟩

/-- Without the hack a stat goes before the file is opened over GridFTP. -/
def castorOpenHack (path : CString) : Srm Unit := do
  if (← isCastorEndpoint servers path) ≠ 0 then
    castorGridftpSessionHack.disableSessionReuse

/-- `gfal_plugin_openG` at a TURL. -/
def openTurl (turl : CString) (flag mode : Nat) : SrmThrowing GfalFileHandle :=
  ExceptT.mk (exchange (servers.openUrl turl flag mode) (.openUrl turl flag mode))

/-- `gfal_srm_openG`. Of a request whose TURL cannot be opened nothing is kept. -/
def gfalSrmOpenG (path : CString) (flag mode : Nat) : SrmThrowing GfalSrmHandleOpen := do
  castorOpenHack servers path
  let reqType := if flag &&& oCreat ≠ 0 then SrmReqType.put else .get
  let (turl, reqtoken) ← turls reqType
  let fh ← openTurl servers turl flag mode
  return gfalSrmFileHandleCreate fh path reqtoken reqType
where
  turls : SrmReqType → SrmThrowing (CString × Option CString)
    | .put => gfalSrmPutTurlsPlugin servers path 2048
    | .get => gfalSrmGetTurlsPlugin servers path 2048

/-- `gfal_srm_closeG`, and what is left of the handle. -/
def gfalSrmCloseG (sh : GfalSrmHandleOpen) : Srm (Ret Int × Option GfalSrmHandleOpen) := do
  let closed ← exchange (servers.closeHandle sh.internalHandle) (.closeHandle sh.internalHandle)
  if closed.val = 0 then
    let finished ← finish sh.reqType
    return (⟨finished.val, closed.err <|> finished.err⟩, none)
  else
    return (closed, some sh)
where
  finish : SrmReqType → Srm (Ret Int)
    | .put => do
        match ← (gfalSrmPutdone servers sh.surl sh.reqtoken).run with
        | .ok () => return ⟨0, none⟩
        | .error e => return ⟨-1, some e⟩
    | .get => gfalSrmv2ReleaseFileG servers sh.surl sh.reqtoken

end Gfal2
