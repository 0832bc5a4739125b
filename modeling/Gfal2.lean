import Gfal2.Base.CString
import Gfal2.Base.Exec
import Gfal2.Base.GList
import Gfal2.Base.Runs
import Gfal2.Base.PathTree
import Gfal2.Base.Pieces
import Gfal2.Base.PosixRegex
import Gfal2.Error
import Gfal2.TransferParams
import Gfal2.PluginInterface
import Gfal2.CredMapping
import Gfal2.PluginRegistry
import Gfal2.RegistrySoundness
import Gfal2.PluginDispatch
import Gfal2.DispatchContract
import Gfal2.MkdirRec
import Gfal2.BulkStaging
import Gfal2.LocalCopy
import Gfal2.Checksums
import Gfal2.LocalCopyChecksums
import Gfal2.StreamedCopy
import Gfal2.FileCopy
import Gfal2.CopyInvariants
import Gfal2.BulkFallback
import Gfal2.CancelScope
import Gfal2.FileDescriptors
import Gfal2.DescriptorCalls
import Gfal2.DescriptorTable
import Gfal2.HttpCopyMode
import Gfal2.HttpCopy
import Gfal2.HttpInvariants
import Gfal2.HttpFallback
import Gfal2.Uri
import Gfal2.UriParsing
import Gfal2.UriAuthority
import Gfal2.UriRoundTrip
import Gfal2.HttpHistory
import Gfal2.HttpChecksums
import Gfal2.HttpDestination
import Gfal2.Base.Json
import Gfal2.TapeRestApi
import Gfal2.TapePolling
import Gfal2.TapeRobustness
import Gfal2.Base.JsonReads
import Gfal2.TapeBodies
import Gfal2.HttpTokens
import Gfal2.GridFtpSession
import Gfal2.Base.Throwing
import Gfal2.GridFtpCopy
import Gfal2.GridFtpDestination
import Gfal2.SrmContext
import Gfal2.SrmCredentials
import Gfal2.SrmServices
import Gfal2.SrmStaging
import Gfal2.SrmNamespace
import Gfal2.SrmTurls
import Gfal2.SrmCopy
import Gfal2.SrmRequests
import Gfal2.SrmDestination
import Gfal2.SrmFailures
import Gfal2.Base.Ledger
import Gfal2.SrmOpen
import Gfal2.SrmGrants
import Gfal2.SrmCopyGrants
import Gfal2.SrmSessions
import Gfal2.SrmLocks
import Gfal2.SrmAttribution
import Gfal2.SrmCopyChecksums
import Gfal2.Xrootd
import Gfal2.XrootdPolling
import Gfal2.XrootdCopy
import Gfal2.XrootdJobs
import Gfal2.XrootdBulk
import Gfal2.Sftp
import Gfal2.SftpUsers
import Gfal2.HttpTpcCredentials
import Gfal2.Lfc
import Gfal2.LfcOperations
import Gfal2.LfcCalls
import Gfal2.LfcEnvironment
import Gfal2.LfcHosts
import Gfal2.LfcCache
import Gfal2.LfcCatalogue
import Gfal2.LfcRegister
import Gfal2.CredCalls
import Gfal2.ChecksumFormat
import Gfal2.ClientInfo
import Gfal2.FileIo
import Gfal2.FileIoResults
import Gfal2.PositionalIo
import Gfal2.FileChecksum
import Gfal2.ProgressReports
import Gfal2.TransferCallbacks
import Gfal2.XrootdPrepared
import Gfal2.GridFtpCache
import Gfal2.Base.Utf8
import Gfal2.Utf8Escape
import Gfal2.SftpIo
import Gfal2.SrmEndpoint
import Gfal2.Base.Buffer
import Gfal2.SpaceReports
import Gfal2.SrmReaddir
import Gfal2.GridFtpChecksums
import Gfal2.XrootdErrors
import Gfal2.SlashCollapsing
import Gfal2.HttpAwsKeys
import Gfal2.GridFtpStream
import Gfal2.LfcBuffers
import Gfal2.GridFtpParsing
import Gfal2.GridFtpLines
import Gfal2.GridFtpTimes
import Gfal2.GridFtpDirReaders
import Gfal2.GridFtpNames
import Gfal2.GridFtpBodies
import Gfal2.GridFtpListing
import Gfal2.HttpQos
import Gfal2.HttpTokenRetrieval
import Gfal2.HttpTokenRobustness
import Gfal2.MdsDiscovery
import Gfal2.MdsTypes
import Gfal2.GridFtpPasv
import Gfal2.MdsLdapUri
import Gfal2.GridFtpPasvReplies
import Gfal2.BulkChecksums
import Gfal2.GridFtpFacts
import Gfal2.GridFtpIo
import Gfal2.GridFtpBulk
import Gfal2.GridFtpBulkAccounts
import Gfal2.Base.BlockHash
import Gfal2.Md5
import Gfal2.Md5Digest
import Gfal2.GridFtpRequests
import Gfal2.GridFtpRequestSafety
import Gfal2.GridFtpRequestLifetime
import Gfal2.GridFtpTimer
