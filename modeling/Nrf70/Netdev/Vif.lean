import Mathlib.Data.Int.Notation
import Mathlib.Data.List.Basic

/-!
# The interface context and its TX handlers

The data one virtual interface carries through `netdev.c`, and the three TX handlers as the
functions their bodies compute: `nrf_wifi_netdev_start_xmit`, `nrf_cfg80211_data_tx_routine` and
`nrf_cfg80211_queue_monitor_routine`. The configuration is that of the STA build, where
`CONFIG_NRF700X_DATA_TX` and `CONFIG_NRF700X_RAW_DATA_TX` are both set.

## What is outside the repository

The queue behind `data_txq` is nrfxlib's. It is a list here, filled at the tail and emptied at the
head; an enqueue may fail, and then leaves the queue as it was. FMAC's two transmit calls are
outcomes handed to the handler, and a successful one adds `1` to `host_stats.total_tx_pkts`. The
peer entry that the raw path fills in `tx_config` is left out: nothing in the driver reads it.

## Main definitions

* `VifCtx`, `DevCtx` — the interface context and the counters it shares with its device
* `nrfWifiNetdevSetIftype` — the link-layer attributes of an interface type
* `nrfWifiNetdevStartXmit`, `nrfCfg80211DataTxRoutine`, `nrfCfg80211QueueMonitorRoutine`
-/

namespace Nrf70

/-! ### Interface types and link-layer attributes -/

/-- `enum nl80211_iftype`. -/
inductive IfType
  | unspecified | adhoc | station | ap | apVlan | wds | monitor | meshPoint | p2pClient | p2pGo
  | p2pDevice | ocb | nan
  deriving DecidableEq, Repr

/-- FMAC's own interface type: an `nl80211` type, or `NRF_WIFI_MONITOR_TX_INJECTOR`. -/
inductive FmacIfType
  | nl (iftype : IfType)
  | monitorTxInjector
  deriving DecidableEq, Repr

/-- The part of `struct nrf_wifi_fmac_vif_ctx` this driver writes. -/
structure FmacVif where
  ifType : FmacIfType
  txinjectionMode : Bool
  deriving DecidableEq, Repr

/-- `ARPHRD_ETHER` and `ARPHRD_IEEE80211_RADIOTAP`. -/
inductive LinkType
  | ether
  | ieee80211Radiotap
  deriving DecidableEq, Repr

/-- The header operations a network device can point to. -/
inductive HeaderOps
  | ethHeaderOps
  deriving DecidableEq, Repr

/-- `ETH_HLEN`. -/
def ethHlen : ℕ := 14

/-- `ETH_ALEN`. -/
def ethAlen : ℕ := 6

/-- The fields of `struct net_device` the driver reads or writes. `noarp` is the `IFF_NOARP` bit
of `flags`, and `queueStopped` the stop bit of the TX queue. -/
structure Netdev where
  type : LinkType
  hardHeaderLen : ℕ
  addrLen : ℕ
  headerOps : Option HeaderOps
  noarp : Bool
  carrier : Bool
  queueStopped : Bool
  deriving DecidableEq, Repr

/-- `alloc_etherdev`. -/
def allocEtherdev : Netdev where
  type := .ether
  hardHeaderLen := ethHlen
  addrLen := ethAlen
  headerOps := some .ethHeaderOps
  noarp := false
  carrier := true
  queueStopped := false

/-! ### The contexts -/

/-- `struct nrf_wifi_fmac_vif_ctx_lnx`, with the interface type `wdev` points to (`none` for a
NULL `wdev`) and FMAC's own context of the interface. The two work items are their pending bits;
where a run of one has got to is the state of a worker and not of the context. -/
structure VifCtx (F : Type) where
  wdev : Option IfType
  netdev : Netdev
  savedHeaderOps : Option HeaderOps
  fmacVif : Option FmacVif
  eventSetIf : Bool
  statusSetIf : ℤ
  dataTxq : List F
  wsDataTx : Bool
  wsQueueMonitor : Bool
  numTxPkt : UInt64
  deriving DecidableEq, Repr

/-- The counters of `struct nrf_wifi_fmac_dev_ctx_def` on the TX path, shared by every interface
of the device. -/
structure DevCtx where
  totalTxPkts : UInt64
  rawTxDequeuedPkts : UInt64
  rawTxPrepFailPkts : UInt64
  rawTxSentOkPkts : UInt64
  rawTxSentFailPkts : UInt64
  deriving DecidableEq, Repr

/-- A device context as it is allocated. -/
def DevCtx.zero : DevCtx := ⟨0, 0, 0, 0, 0⟩

variable {F : Type}

/-- The test the TX path makes on `wdev`, NULL check included. -/
def VifCtx.isMonitor (v : VifCtx F) : Bool := v.wdev == some .monitor

/-- `nrf_wifi_netdev_set_iftype`. -/
def nrfWifiNetdevSetIftype (v : VifCtx F) (iftype : IfType) : VifCtx F :=
  if iftype = .monitor then
    { v with netdev := { v.netdev with
        type := .ieee80211Radiotap
        hardHeaderLen := 0
        addrLen := ethAlen
        headerOps := none
        noarp := true } }
  else
    { v with netdev := { v.netdev with
        type := .ether
        hardHeaderLen := ethHlen
        addrLen := ethAlen
        headerOps := v.savedHeaderOps
        noarp := false } }

/-- The context `nrf_wifi_netdev_add_vif` builds when every step of it succeeds, with the `wdev`
its caller then stores. -/
def nrfWifiNetdevAddVif (F : Type) (iftype : IfType) (fmacVif : Option FmacVif) : VifCtx F :=
  nrfWifiNetdevSetIftype
    { wdev := some iftype
      netdev := allocEtherdev
      savedHeaderOps := allocEtherdev.headerOps
      fmacVif := fmacVif
      eventSetIf := false
      statusSetIf := 0
      dataTxq := []
      wsDataTx := false
      wsQueueMonitor := false
      numTxPkt := 0 } iftype

/-! ### Flow control -/

/-- `CONFIG_NRF700X_MAX_TX_PENDING_QLEN`. -/
def maxTxPendingQlen : UInt64 := 48

/-- The unsigned difference both flow-control tests evaluate. -/
def VifCtx.backlog (dev : DevCtx) (v : VifCtx F) : UInt64 := v.numTxPkt - dev.totalTxPkts

/-- The flow-control test of `nrf_wifi_netdev_start_xmit`. -/
def VifCtx.flowCheck (dev : DevCtx) (v : VifCtx F) : VifCtx F :=
  if maxTxPendingQlen ≤ v.backlog dev then
    { v with netdev := { v.netdev with queueStopped := true }, wsQueueMonitor := true }
  else v

/-- `nrf_cfg80211_queue_monitor_routine`, a run of the pending `ws_queue_monitor`. -/
def nrfCfg80211QueueMonitorRoutine (dev : DevCtx) (v : VifCtx F) : VifCtx F :=
  -- the pending bit is cleared before the function runs
  let v := { v with wsQueueMonitor := false }
  if v.backlog dev ≤ maxTxPendingQlen / 2 then
    { v with netdev := { v.netdev with queueStopped := false } }
  else
    { v with wsQueueMonitor := true }

/-! ### What the TX path makes visible -/

/-- What happens to a frame. `accepted` records whether the interface was a monitor when the
frame was put on the queue; the two transmit calls record what FMAC answered. -/
inductive TxEvent (F : Type)
  | accepted (skb : F) (monitor : Bool)
  | dequeued (netbuf : F)
  | prepFailed (netbuf : F)
  | rawpktXmit (netbuf : F) (ok : Bool)
  | startXmit (netbuf : F) (ok : Bool)
  deriving DecidableEq, Repr

/-! ### `nrf_wifi_netdev_start_xmit` -/

/-- `NETDEV_TX_OK` and `NETDEV_TX_BUSY`. -/
inductive NetdevTx
  | ok
  | busy
  deriving DecidableEq, Repr

/-- `nrf_wifi_utils_q_enqueue`, when it succeeds. -/
def VifCtx.enqueue (v : VifCtx F) (skb : F) : VifCtx F :=
  { v with dataTxq := v.dataTxq ++ [skb] }

/-- `nrf_wifi_netdev_start_xmit`. `sameDev` is the test `skb->dev == netdev`, `enq` the outcome of
the enqueue. -/
def nrfWifiNetdevStartXmit (dev : DevCtx) (v : VifCtx F) (skb : F) (sameDev enq : Bool) :
    VifCtx F × NetdevTx × List (TxEvent F) :=
  if !sameDev then (v, .ok, [])
  else
    let v := v.flowCheck dev
    if !enq then (v, .busy, [])
    else
      ({ v.enqueue skb with numTxPkt := v.numTxPkt + 1, wsDataTx := true }, .ok,
        [.accepted skb v.isMonitor])

/-! ### `nrf_cfg80211_data_tx_routine` -/

/-- A transmit call of FMAC: a success is counted in `host_stats.total_tx_pkts`. -/
def DevCtx.fmacXmit (dev : DevCtx) (ok : Bool) : DevCtx :=
  if ok then { dev with totalTxPkts := dev.totalTxPkts + 1 } else dev

/-- The first test on the interface type, which only counts. -/
def DevCtx.tally (dev : DevCtx) (monitor : Bool) : DevCtx :=
  if monitor then { dev with rawTxDequeuedPkts := dev.rawTxDequeuedPkts + 1 } else dev

/-- The raw path re-asserts the injector state of an existing FMAC context. -/
def VifCtx.assertInjector (v : VifCtx F) : VifCtx F :=
  { v with fmacVif := v.fmacVif.map fun _ => ⟨.monitorTxInjector, true⟩ }

/-- A frame `nrf_wifi_prepare_monitor_tx_skb` refused. -/
def DevCtx.rawPrepFail (dev : DevCtx) : DevCtx :=
  { dev with rawTxPrepFailPkts := dev.rawTxPrepFailPkts + 1 }

/-- `nrf_wifi_fmac_start_rawpkt_xmit` and the counters kept around it. -/
def DevCtx.rawpktXmit (dev : DevCtx) (ok : Bool) : DevCtx :=
  let dev := dev.fmacXmit ok
  if ok then { dev with rawTxSentOkPkts := dev.rawTxSentOkPkts + 1 }
  else { dev with rawTxSentFailPkts := dev.rawTxSentFailPkts + 1 }

/-- The `resched` label: the length test and the `schedule_work` it guards. -/
def VifCtx.resched (v : VifCtx F) : VifCtx F :=
  if v.dataTxq.length > 0 then { v with wsDataTx := true } else v

/-- `nrf_cfg80211_data_tx_routine`, a run of the pending `ws_data_tx`. `prep` is the outcome of
`nrf_wifi_prepare_monitor_tx_skb` and `xmit` that of the FMAC call the frame is handed to. -/
def nrfCfg80211DataTxRoutine (dev : DevCtx) (v : VifCtx F) (prep xmit : Bool) :
    DevCtx × VifCtx F × List (TxEvent F) :=
  -- the pending bit is cleared before the function runs
  let v := { v with wsDataTx := false }
  match v.dataTxq with
  | [] => (dev, v, [])
  | netbuf :: rest =>
    let v := { v with dataTxq := rest }
    let dev := dev.tally v.isMonitor
    if v.isMonitor then
      let v := v.assertInjector
      if !prep then
        (dev.rawPrepFail, v.resched, [.dequeued netbuf, .prepFailed netbuf])
      else
        (dev.rawpktXmit xmit, v.resched, [.dequeued netbuf, .rawpktXmit netbuf xmit])
    else
      (dev.fmacXmit xmit, v.resched, [.dequeued netbuf, .startXmit netbuf xmit])

/-! ### What the parts of a handler leave alone -/

section Frame

variable (dev : DevCtx) (v : VifCtx F) (skb : F)

@[simp] theorem setIftype_dataTxq (iftype : IfType) :
    (nrfWifiNetdevSetIftype v iftype).dataTxq = v.dataTxq := by
  rw [nrfWifiNetdevSetIftype]
  split <;> rfl

@[simp] theorem setIftype_numTxPkt (iftype : IfType) :
    (nrfWifiNetdevSetIftype v iftype).numTxPkt = v.numTxPkt := by
  rw [nrfWifiNetdevSetIftype]
  split <;> rfl

@[simp] theorem setIftype_wdev (iftype : IfType) :
    (nrfWifiNetdevSetIftype v iftype).wdev = v.wdev := by
  rw [nrfWifiNetdevSetIftype]
  split <;> rfl

@[simp] theorem addVif_dataTxq (iftype : IfType) (fmacVif : Option FmacVif) :
    (nrfWifiNetdevAddVif F iftype fmacVif).dataTxq = [] := setIftype_dataTxq ..

@[simp] theorem addVif_numTxPkt (iftype : IfType) (fmacVif : Option FmacVif) :
    (nrfWifiNetdevAddVif F iftype fmacVif).numTxPkt = 0 := setIftype_numTxPkt ..

@[simp] theorem flowCheck_dataTxq : (v.flowCheck dev).dataTxq = v.dataTxq := by
  rw [VifCtx.flowCheck]
  split <;> rfl

@[simp] theorem flowCheck_wsDataTx : (v.flowCheck dev).wsDataTx = v.wsDataTx := by
  rw [VifCtx.flowCheck]
  split <;> rfl

@[simp] theorem flowCheck_numTxPkt : (v.flowCheck dev).numTxPkt = v.numTxPkt := by
  rw [VifCtx.flowCheck]
  split <;> rfl

@[simp] theorem flowCheck_wdev : (v.flowCheck dev).wdev = v.wdev := by
  rw [VifCtx.flowCheck]
  split <;> rfl

@[simp] theorem queueMonitor_dataTxq :
    (nrfCfg80211QueueMonitorRoutine dev v).dataTxq = v.dataTxq := by
  rw [nrfCfg80211QueueMonitorRoutine]
  dsimp only
  split <;> rfl

@[simp] theorem queueMonitor_wsDataTx :
    (nrfCfg80211QueueMonitorRoutine dev v).wsDataTx = v.wsDataTx := by
  rw [nrfCfg80211QueueMonitorRoutine]
  dsimp only
  split <;> rfl

@[simp] theorem queueMonitor_numTxPkt :
    (nrfCfg80211QueueMonitorRoutine dev v).numTxPkt = v.numTxPkt := by
  rw [nrfCfg80211QueueMonitorRoutine]
  dsimp only
  split <;> rfl

@[simp] theorem queueMonitor_wdev : (nrfCfg80211QueueMonitorRoutine dev v).wdev = v.wdev := by
  rw [nrfCfg80211QueueMonitorRoutine]
  dsimp only
  split <;> rfl

@[simp] theorem resched_dataTxq : v.resched.dataTxq = v.dataTxq := by
  rw [VifCtx.resched]
  split <;> rfl

@[simp] theorem resched_numTxPkt : v.resched.numTxPkt = v.numTxPkt := by
  rw [VifCtx.resched]
  split <;> rfl

@[simp] theorem resched_wdev : v.resched.wdev = v.wdev := by
  rw [VifCtx.resched]
  split <;> rfl

theorem resched_wsDataTx_of_ne_nil {v : VifCtx F} (h : v.dataTxq ≠ []) :
    v.resched.wsDataTx = true := by
  rw [VifCtx.resched, if_pos (List.length_pos_iff.mpr h)]

@[simp] theorem assertInjector_dataTxq : v.assertInjector.dataTxq = v.dataTxq := rfl

@[simp] theorem assertInjector_wsDataTx : v.assertInjector.wsDataTx = v.wsDataTx := rfl

@[simp] theorem assertInjector_numTxPkt : v.assertInjector.numTxPkt = v.numTxPkt := rfl

@[simp] theorem assertInjector_wdev : v.assertInjector.wdev = v.wdev := rfl

@[simp] theorem enqueue_dataTxq : (v.enqueue skb).dataTxq = v.dataTxq ++ [skb] := rfl

@[simp] theorem enqueue_wsDataTx : (v.enqueue skb).wsDataTx = v.wsDataTx := rfl

@[simp] theorem enqueue_wdev : (v.enqueue skb).wdev = v.wdev := rfl

end Frame

/-! ### Reading a trace -/

/-- The frames put on the queue, in order, each with the mode it was queued under. -/
def TxEvent.acceptedIn : List (TxEvent F) → List (F × Bool)
  | [] => []
  | .accepted skb m :: t => (skb, m) :: acceptedIn t
  | _ :: t => acceptedIn t

/-- The frames taken off the queue, in order. -/
def TxEvent.dequeuedIn : List (TxEvent F) → List F
  | [] => []
  | .dequeued f :: t => f :: dequeuedIn t
  | _ :: t => dequeuedIn t

/-- How the TX routine disposed of a frame. -/
inductive Disposal
  | prepFailed
  | rawpktXmit (ok : Bool)
  | startXmit (ok : Bool)
  deriving DecidableEq, Repr

/-- The frames handed to FMAC or dropped, in order, each with its fate. -/
def TxEvent.disposedIn : List (TxEvent F) → List (F × Disposal)
  | [] => []
  | .prepFailed f :: t => (f, .prepFailed) :: disposedIn t
  | .rawpktXmit f ok :: t => (f, .rawpktXmit ok) :: disposedIn t
  | .startXmit f ok :: t => (f, .startXmit ok) :: disposedIn t
  | _ :: t => disposedIn t

theorem TxEvent.acceptedIn_append (t u : List (TxEvent F)) :
    acceptedIn (t ++ u) = acceptedIn t ++ acceptedIn u := by
  induction t with
  | nil => rfl
  | cons e t ih => cases e <;> simp [acceptedIn, ih]

theorem TxEvent.dequeuedIn_append (t u : List (TxEvent F)) :
    dequeuedIn (t ++ u) = dequeuedIn t ++ dequeuedIn u := by
  induction t with
  | nil => rfl
  | cons e t ih => cases e <;> simp [dequeuedIn, ih]

theorem TxEvent.disposedIn_append (t u : List (TxEvent F)) :
    disposedIn (t ++ u) = disposedIn t ++ disposedIn u := by
  induction t with
  | nil => rfl
  | cons e t ih => cases e <;> simp [disposedIn, ih]

end Nrf70
