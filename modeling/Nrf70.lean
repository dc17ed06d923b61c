import Nrf70.Lib.Machine
import Nrf70.Lib.ListHead
import Nrf70.Lib.ByteMemory
import Nrf70.Lib.Numeral
import Nrf70.Netdev.Vif
import Nrf70.Netdev.TxPipeline
import Nrf70.Cfg80211.ChgVif
import Nrf70.Netdev.Framing
import Nrf70.Netdev.FlowControl
import Nrf70.Netdev.Teardown
import Nrf70.Cfg80211.Scan
import Nrf70.Cfg80211.MgmtTx
import Nrf70.Cfg80211.Responses
import Nrf70.Shim.Llist
import Nrf70.Spi.SpiIf
import Nrf70.Spi.RpuMemory
import Nrf70.Spi.Transfers
import Nrf70.Debugfs.RadioTest
import Nrf70.Debugfs.RadioConf
import Nrf70.Debugfs.RadioHandlers
import Nrf70.Debugfs.RadioLatch
import Nrf70.Debugfs.RadioExclusion
import Nrf70.Debugfs.RadioRanges
import Nrf70.Debugfs.RadioTxStart
import Nrf70.Debugfs.RadioStores
import Nrf70.Debugfs.RadioRates
import Nrf70.Netdev.LinkMode
import Nrf70.Netdev.QueueStop
import Nrf70.Cfg80211.ChgVifCall
import Nrf70.Cfg80211.Assoc
import Nrf70.Lib.Ledger
import Nrf70.Netdev.AddVif
import Nrf70.Netdev.DevInit
import Nrf70.Shim.SpiBus
import Nrf70.Lib.WorkStruct
import Nrf70.Lib.Radiotap
import Nrf70.Netdev.SnifferRx
import Nrf70.Netdev.MonitorTx
import Nrf70.Shim.Deferred
import Nrf70.Debugfs.RadioCapture
import Nrf70.Debugfs.FmacConf
import Nrf70.Debugfs.ConfDispatch
import Nrf70.Debugfs.ConfResult
import Nrf70.Debugfs.Twt
import Nrf70.Debugfs.ConfText
import Nrf70.Debugfs.TwtCommands
import Nrf70.Debugfs.TwtText
import Nrf70.Spi.Wakeup
import Nrf70.Cfg80211.ScanSsids
import Nrf70.Cfg80211.Auth
import Nrf70.Cfg80211.Copies
import Nrf70.Cfg80211.Roc
import Nrf70.Cfg80211.StationRates
import Nrf70.Netdev.PacketRam
import Nrf70.Debugfs.TwtRetry
import Nrf70.Lib.Hex
import Nrf70.Shim.LinuxUtil
import Nrf70.Netdev.Delivery
import Nrf70.Netdev.RawCounters
import Nrf70.Netdev.Reinject
import Nrf70.Netdev.VifTable
import Nrf70.Lib.PacketBuffer
import Nrf70.Shim.Nbuf
import Nrf70.Netdev.SkBuff
import Nrf70.Debugfs.ConfShow
import Nrf70.Debugfs.RadioTypes
import Nrf70.Debugfs.RadioShow
