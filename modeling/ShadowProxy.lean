import ShadowProxy.WordBytes
import ShadowProxy.EventHistory
import ShadowProxy.NetConn
import ShadowProxy.CheckedSlice
import ShadowProxy.MySQLPacket
import ShadowProxy.MySQLPacketReader
import ShadowProxy.Dialogue
import ShadowProxy.MySQLResponse
import ShadowProxy.MySQLLenenc
import ShadowProxy.MySQLReplyStream
import ShadowProxy.MySQLReply
import ShadowProxy.MySQLPrepare
import ShadowProxy.MySQLAuth
import ShadowProxy.MySQLHandshake
import ShadowProxy.MySQLNegotiation
import ShadowProxy.MySQLAuthExchange
import ShadowProxy.ShadowFilter
import ShadowProxy.MySQLProxyLoop
import ShadowProxy.MySQLSpecialReplies
import ShadowProxy.MySQLSegmentation
import ShadowProxy.MySQLLastChunk
import ShadowProxy.WorkQueue
import ShadowProxy.QueryLog
import ShadowProxy.SliceBuffer
import ShadowProxy.LogFlush
import ShadowProxy.MySQLShadowWorker
import ShadowProxy.MySQLQueryText
import ShadowProxy.MySQLShadowLogin
import ShadowProxy.MySQLMirrorSession
import ShadowProxy.MySQLMirrorServe
import ShadowProxy.MySQLLocalInfile
import ShadowProxy.MySQLMirrorDelivery
import ShadowProxy.MySQLMirrorAccounts
import ShadowProxy.PgProtocol
import ShadowProxy.PgFields
import ShadowProxy.PgMirror
import ShadowProxy.PgStickyBound
import ShadowProxy.PgSession
import ShadowProxy.PgQueryLoop
import ShadowProxy.PgPrimary
import ShadowProxy.PgShadowWorker
import ShadowProxy.StreamCopy
import ShadowProxy.PgMirrorSession
import ShadowProxy.PgMirrorAccounts
import ShadowProxy.PgMetricParity
import ShadowProxy.Noninterference
import ShadowProxy.ShadowIsolation
import ShadowProxy.FrameCode
import ShadowProxy.PgStartup
import ShadowProxy.PgConnection
import ShadowProxy.PgShadowStart
import ShadowProxy.MySQLSessionContext
import ShadowProxy.WordFields
import ShadowProxy.SqlWords
import ShadowProxy.SqlTrim
import ShadowProxy.QuotedText
import ShadowProxy.SqlSplit
import ShadowProxy.SqlDialect
import ShadowProxy.ForLoop
import ShadowProxy.SqlStrip
import ShadowProxy.SqlStripLoops
import ShadowProxy.SqlComment
import ShadowProxy.SqlCommentLimits
import ShadowProxy.SqlKeyword
import ShadowProxy.JsonText
import ShadowProxy.LogFormat
import ShadowProxy.LogStore
import ShadowProxy.QueueProgress
import ShadowProxy.Fleet
import ShadowProxy.MySQLConnection
import ShadowProxy.MySQLServer
import ShadowProxy.PgServer
import ShadowProxy.FilterConfig
import ShadowProxy.FilteredTraffic
import ShadowProxy.LogPipeline
import ShadowProxy.LogShutdown
import ShadowProxy.Startup
import ShadowProxy.Teardown
