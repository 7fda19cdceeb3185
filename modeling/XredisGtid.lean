import XredisGtid.Memory
import XredisGtid.IntervalList
import XredisGtid.KeyedIntervals
import XredisGtid.Gno
import XredisGtid.SkipList
import XredisGtid.SkipListLinks
import XredisGtid.SkipListRep
import XredisGtid.SkipListAdd
import XredisGtid.SkipListRemove
import XredisGtid.SkipListDup
import XredisGtid.SkipListOps
import XredisGtid.SkipListRun
import XredisGtid.SkipListLimit
import XredisGtid.GtidSet
import XredisGtid.GtidSetLinks
import XredisGtid.GtidSetRep
import XredisGtid.GtidSetOps
import XredisGtid.GtidSetRun
import XredisGtid.Buffer
import XredisGtid.Decimal
import XredisGtid.GtidUtil
import XredisGtid.GtidCodec
import XredisGtid.GtidEncode
import XredisGtid.GtidDecode
import XredisGtid.GtidText
import XredisGtid.GtidAccept
import XredisGtid.GtidReadPast
import XredisGtid.GtidSpelling
import XredisGtid.GtidSetStat
import XredisGtid.GtidSetPointers
import XredisGtid.GtidSetCurrent
import XredisGtid.Server
import XredisGtid.ServerRun
import XredisGtid.ServerNextGno
import XredisGtid.ServerMutators
import XredisGtid.Command
import XredisGtid.CommandSpec
import XredisGtid.CommandNested
import XredisGtid.KeyCommand
import XredisGtid.Aof
import XredisGtid.OffsetLog
import XredisGtid.GtidSeq
import XredisGtid.GtidSeqLinks
import XredisGtid.GtidSeqRep
import XredisGtid.GtidSeqSearch
import XredisGtid.GtidSeqRun
import XredisGtid.GtidSeqBook
import XredisGtid.GtidSeqEncode
import XredisGtid.ReplStream
import XredisGtid.Sync
import XredisGtid.ReplStreamSpec
import XredisGtid.ReplStreamRun
import XredisGtid.ReplStreamAllocate
import XredisGtid.SyncSpec
import XredisGtid.ReplStreamUpdate
import XredisGtid.SyncRun
import XredisGtid.SyncSwitch
import XredisGtid.SyncCatchUp
import XredisGtid.SyncConverge
import XredisGtid.RingBuffer
import XredisGtid.Backlog
import XredisGtid.SeqLocate
import XredisGtid.Rdb
import XredisGtid.SyncReply
import XredisGtid.SyncReplyText
import XredisGtid.SyncReplyOptions
import XredisGtid.SyncReplyRead
import XredisGtid.Propagate
import XredisGtid.PropagateRun
import XredisGtid.Replication
import XredisGtid.SyncRequest
import XredisGtid.SyncWire
import XredisGtid.Reconnect
import XredisGtid.Gtidx
import XredisGtid.ForceFullresync
import XredisGtid.FullResync
import XredisGtid.LongReply
import XredisGtid.AofReplay
import XredisGtid.ModeSwitch
