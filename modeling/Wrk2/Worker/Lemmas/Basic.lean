import Wrk2.Worker.System

/-!
# 視点 `Ctx` の操作の基本の補題

`Ctx` の書き換えが、どの欄を変えどの欄を変えないか。以後の証明は、コールバックを開いたあとこれらの
`simp` 補題で欄を読む。
-/

namespace Wrk2

namespace Ctx

variable (x : Ctx) (i j : Nat)

@[simp] theorem conn_modifyConn (f : Connection → Connection) :
    (x.modifyConn i f).conn j = if j = i then f (x.conn i) else x.conn j := by
  simp only [modifyConn, conn, setAt_apply]

@[simp] theorem modifyConn_now (f : Connection → Connection) : (x.modifyConn i f).now = x.now := rfl
@[simp] theorem modifyConn_os (f : Connection → Connection) : (x.modifyConn i f).os = x.os := rfl
@[simp] theorem modifyConn_g (f : Connection → Connection) : (x.modifyConn i f).g = x.g := rfl
@[simp] theorem modifyConn_dials (f : Connection → Connection) :
    (x.modifyConn i f).dials = x.dials := rfl
@[simp] theorem modifyConn_loop (f : Connection → Connection) :
    (x.modifyConn i f).th.loop = x.th.loop := rfl
@[simp] theorem modifyConn_phase (f : Connection → Connection) :
    (x.modifyConn i f).th.phase = x.th.phase := rfl
@[simp] theorem modifyConn_errors (f : Connection → Connection) :
    (x.modifyConn i f).th.errors = x.th.errors := rfl
@[simp] theorem modifyConn_stopAt (f : Connection → Connection) :
    (x.modifyConn i f).th.stopAt = x.th.stopAt := rfl
@[simp] theorem modifyConn_latencyHistogram (f : Connection → Connection) :
    (x.modifyConn i f).th.latencyHistogram = x.th.latencyHistogram := rfl
@[simp] theorem modifyConn_uLatencyHistogram (f : Connection → Connection) :
    (x.modifyConn i f).th.uLatencyHistogram = x.th.uLatencyHistogram := rfl
@[simp] theorem modifyConn_start (f : Connection → Connection) : (x.modifyConn i f).th.start = x.th.start := rfl
@[simp] theorem modifyConn_interval (f : Connection → Connection) :
    (x.modifyConn i f).th.interval = x.th.interval := rfl
@[simp] theorem modifyConn_phaseNormalStart (f : Connection → Connection) :
    (x.modifyConn i f).th.phaseNormalStart = x.th.phaseNormalStart := rfl

@[simp] theorem conn_modifyLoop (f : Loop → Loop) : (x.modifyLoop f).conn j = x.conn j := rfl
@[simp] theorem modifyLoop_now (f : Loop → Loop) : (x.modifyLoop f).now = x.now := rfl
@[simp] theorem modifyLoop_os (f : Loop → Loop) : (x.modifyLoop f).os = x.os := rfl
@[simp] theorem modifyLoop_g (f : Loop → Loop) : (x.modifyLoop f).g = x.g := rfl
@[simp] theorem modifyLoop_dials (f : Loop → Loop) : (x.modifyLoop f).dials = x.dials := rfl
@[simp] theorem modifyLoop_loop (f : Loop → Loop) : (x.modifyLoop f).th.loop = f x.th.loop := rfl
@[simp] theorem modifyLoop_phase (f : Loop → Loop) : (x.modifyLoop f).th.phase = x.th.phase := rfl
@[simp] theorem modifyLoop_errors (f : Loop → Loop) : (x.modifyLoop f).th.errors = x.th.errors := rfl
@[simp] theorem modifyLoop_stopAt (f : Loop → Loop) : (x.modifyLoop f).th.stopAt = x.th.stopAt := rfl
@[simp] theorem modifyLoop_latencyHistogram (f : Loop → Loop) :
    (x.modifyLoop f).th.latencyHistogram = x.th.latencyHistogram := rfl
@[simp] theorem modifyLoop_uLatencyHistogram (f : Loop → Loop) :
    (x.modifyLoop f).th.uLatencyHistogram = x.th.uLatencyHistogram := rfl
@[simp] theorem modifyLoop_start (f : Loop → Loop) : (x.modifyLoop f).th.start = x.th.start := rfl
@[simp] theorem modifyLoop_interval (f : Loop → Loop) :
    (x.modifyLoop f).th.interval = x.th.interval := rfl
@[simp] theorem modifyLoop_phaseNormalStart (f : Loop → Loop) :
    (x.modifyLoop f).th.phaseNormalStart = x.th.phaseNormalStart := rfl

@[simp] theorem conn_modifyErrors (f : Errors → Errors) : (x.modifyErrors f).conn j = x.conn j := rfl
@[simp] theorem modifyErrors_now (f : Errors → Errors) : (x.modifyErrors f).now = x.now := rfl
@[simp] theorem modifyErrors_os (f : Errors → Errors) : (x.modifyErrors f).os = x.os := rfl
@[simp] theorem modifyErrors_g (f : Errors → Errors) : (x.modifyErrors f).g = x.g := rfl
@[simp] theorem modifyErrors_dials (f : Errors → Errors) : (x.modifyErrors f).dials = x.dials := rfl
@[simp] theorem modifyErrors_loop (f : Errors → Errors) : (x.modifyErrors f).th.loop = x.th.loop := rfl
@[simp] theorem modifyErrors_phase (f : Errors → Errors) :
    (x.modifyErrors f).th.phase = x.th.phase := rfl
@[simp] theorem modifyErrors_errors (f : Errors → Errors) :
    (x.modifyErrors f).th.errors = f x.th.errors := rfl
@[simp] theorem modifyErrors_stopAt (f : Errors → Errors) :
    (x.modifyErrors f).th.stopAt = x.th.stopAt := rfl
@[simp] theorem modifyErrors_latencyHistogram (f : Errors → Errors) :
    (x.modifyErrors f).th.latencyHistogram = x.th.latencyHistogram := rfl
@[simp] theorem modifyErrors_uLatencyHistogram (f : Errors → Errors) :
    (x.modifyErrors f).th.uLatencyHistogram = x.th.uLatencyHistogram := rfl
@[simp] theorem modifyErrors_start (f : Errors → Errors) : (x.modifyErrors f).th.start = x.th.start := rfl
@[simp] theorem modifyErrors_interval (f : Errors → Errors) :
    (x.modifyErrors f).th.interval = x.th.interval := rfl

@[simp] theorem conn_modifyThread (f : Thread → Thread) : (x.modifyThread f).conn j = (f x.th).cs j :=
  rfl
@[simp] theorem modifyThread_now (f : Thread → Thread) : (x.modifyThread f).now = x.now := rfl
@[simp] theorem modifyThread_os (f : Thread → Thread) : (x.modifyThread f).os = x.os := rfl
@[simp] theorem modifyThread_g (f : Thread → Thread) : (x.modifyThread f).g = x.g := rfl
@[simp] theorem modifyThread_dials (f : Thread → Thread) : (x.modifyThread f).dials = x.dials := rfl
@[simp] theorem modifyThread_th (f : Thread → Thread) : (x.modifyThread f).th = f x.th := rfl

@[simp] theorem conn_modifyOs (f : Os → Os) : (x.modifyOs f).conn j = x.conn j := rfl
@[simp] theorem modifyOs_now (f : Os → Os) : (x.modifyOs f).now = x.now := rfl
@[simp] theorem modifyOs_os (f : Os → Os) : (x.modifyOs f).os = f x.os := rfl
@[simp] theorem modifyOs_g (f : Os → Os) : (x.modifyOs f).g = x.g := rfl
@[simp] theorem modifyOs_dials (f : Os → Os) : (x.modifyOs f).dials = x.dials := rfl
@[simp] theorem modifyOs_th (f : Os → Os) : (x.modifyOs f).th = x.th := rfl

@[simp] theorem conn_modifyShared (f : Shared → Shared) : (x.modifyShared f).conn j = x.conn j := rfl
@[simp] theorem modifyShared_now (f : Shared → Shared) : (x.modifyShared f).now = x.now := rfl
@[simp] theorem modifyShared_os (f : Shared → Shared) : (x.modifyShared f).os = x.os := rfl
@[simp] theorem modifyShared_g (f : Shared → Shared) : (x.modifyShared f).g = f x.g := rfl
@[simp] theorem modifyShared_th (f : Shared → Shared) : (x.modifyShared f).th = x.th := rfl

@[simp] theorem conn_dropDial : x.dropDial.conn j = x.conn j := rfl
@[simp] theorem dropDial_now : x.dropDial.now = x.now := rfl
@[simp] theorem dropDial_os : x.dropDial.os = x.os := rfl
@[simp] theorem dropDial_g : x.dropDial.g = x.g := rfl
@[simp] theorem dropDial_th : x.dropDial.th = x.th := rfl

end Ctx

end Wrk2
