import Wrk2.Worker.Connection

/-!
# ワーカー、カーネル、共有の状態

`thread` 構造体、プロセスの記述子表、スレッドの間で共有する大域変数、設定。コールバックは
ワーカー一つの視点 `Ctx` の上の関数として書く。`Ctx` はそのワーカーの状態に、プロセスの記述子表、
共有の変数、時計、`connect()` の結果の列を添えたものである。
-/

namespace Wrk2

/-- `struct config` のうち、コアが読む欄。証明の欄は `parse_args` と `script_verify_request` が
保証すること（スレッドは 1 以上で接続の数以下、`--rate` は 0 でない、パイプラインの深さは 1 以上）。 -/
structure Config where
  threads : Nat
  connections : Nat
  duration : Nat
  pipeline : Nat
  rate : Nat
  warmup : Bool
  warmupTimeout : Nat
  dynamic : Bool
  recordAllResponses : Bool
  wantResponse : Bool
  request : Bytes
  threads_pos : 0 < threads
  threads_le : threads ≤ connections
  rate_pos : 0 < rate
  pipeline_pos : 0 < pipeline

namespace Config

/-- 各スレッドの接続の数（`thread->connections`）。 -/
def perThread (cfg : Config) : Nat := cfg.connections / cfg.threads

/-- 接続一つの目標速度 `(rate / threads / 10^6) / connections`（要求 / µs）。 -/
def throughput (cfg : Config) : Rate :=
  ⟨cfg.rate, cfg.threads * 1000000 * cfg.perThread, cfg.rate_pos⟩

/-- `thread_main` が決めるウォームアップの制限時間（ミリ秒）。 -/
def warmupTimeoutMs (cfg : Config) : Nat :=
  if cfg.warmupTimeout ≠ 0 then cfg.warmupTimeout
  else max (cfg.connections * 600000 / 350000) 1000

/-- `thread_main` が各接続に入れる要求。動的なスクリプトでは空（`NULL`、長さ 0）。 -/
def initRequest (cfg : Config) : Bytes := if cfg.dynamic then [] else cfg.request

end Config

/-- `CALIBRATE_DELAY_MS`。 -/
def calibrateDelayMs : Nat := 10000

/-- `STOP_CHECK_INTERNAL_MS`。 -/
def stopCheckInternalMs : Nat := 2000

/-- `THREAD_SYNC_INTERVAL_MS`。 -/
def threadSyncIntervalMs : Nat := 1000

/-- `RECVBUF`。 -/
def recvbuf : Nat := 8192

/-- `MAX_LATENCY`（µs）。 -/
def maxLatency : Nat := 24 * 60 * 60 * 1000000

/-- ワーカーの段階（`PHASE_INIT`、`PHASE_WARMUP`、`PHASE_NORMAL`）。 -/
inductive Phase
  | init
  | warmup
  | normal
  deriving DecidableEq, Repr

/-- 段階の番号（列挙の値）。 -/
def Phase.rank : Phase → Nat
  | .init => 0
  | .warmup => 1
  | .normal => 2

/-- `errors` 構造体。 -/
structure Errors where
  connect : Nat
  read : Nat
  write : Nat
  timeout : Nat
  status : Nat
  established : Nat
  reconnect : Nat
  deriving DecidableEq, Repr

/-- `thread` 構造体。接続は番号で引く。`delivered` はスレッドの台本が `response` で受け取った
応答（状態コード、ヘッダー、本文）の列で、新しいものが先にある。 -/
structure Thread where
  loop : Loop
  stopAt : Nat
  phase : Phase
  phaseNormalStart : Nat
  interval : Nat
  complete : Nat
  requests : Nat
  bytes : Nat
  start : Nat
  mean : Nat
  latencyHistogram : List Int
  uLatencyHistogram : List Int
  errors : Errors
  cs : Nat → Connection
  delivered : List (Nat × Bytes × Bytes)

/-- `main` が作り `thread_main` がまだ始まっていないスレッド。 -/
def Thread.create (stopAt : Nat) : Thread :=
  ⟨Loop.empty, stopAt, .init, 0, 0, 0, 0, 0, 0, 0, [], [], ⟨0, 0, 0, 0, 0, 0, 0⟩,
    fun _ => Connection.init [], []⟩

/-! ## 記述子表 -/

/-- `n` から数えて `used` にない最初の数。`fuel` は調べる数の個数。 -/
def firstFree (used : List Nat) : Nat → Nat → Nat
  | 0, n => n
  | fuel + 1, n => if n ∈ used then firstFree used fuel (n + 1) else n

/-- プロセスの記述子表と、各ソケットに書かれたバイト。 -/
structure Os where
  openFds : List Nat
  sent : Nat → Bytes

/-- 標準入出力の 0、1、2 だけが開いている表。 -/
def Os.init : Os := ⟨[0, 1, 2], fun _ => []⟩

/-- `socket()` が返す記述子（開いていない最小の番号）。 -/
def Os.lowestFree (o : Os) : Nat := firstFree o.openFds o.openFds.length 0

/-- `socket()`。新しい記述子を開く。 -/
def Os.socket (o : Os) : Os :=
  ⟨o.lowestFree :: o.openFds, setAt o.sent o.lowestFree []⟩

/-- `close()`。開いていない記述子なら何もしない（`EBADF`）。 -/
def Os.close (o : Os) (fd : Nat) : Os := { o with openFds := o.openFds.erase fd }

/-- `write()`。ソケットにバイトを書く。 -/
def Os.send (o : Os) (fd : Nat) (b : Bytes) : Os :=
  { o with sent := setAt o.sent fd (o.sent fd ++ b) }

/-! ## 共有の変数とコールバックの視点 -/

/-- スレッドの間で共有する変数（`g_ready_threads`、`g_is_ready`、`stop`、`statistics.requests`）。 -/
structure Shared where
  readyThreads : Nat
  isReady : Bool
  stop : Bool
  samples : List Nat

/-- `connect_socket` の中で環境が決める結果（`connect()` と `aeCreateFileEvent` の成否）。 -/
structure SocketOutcome where
  connectOk : Bool
  registered : Bool
  deriving DecidableEq, Repr

/-- コールバック一つが見る状態。 -/
structure Ctx where
  th : Thread
  os : Os
  g : Shared
  now : Nat
  dials : List SocketOutcome

namespace Ctx

/-- 接続 `i`。 -/
def conn (x : Ctx) (i : Nat) : Connection := x.th.cs i

/-- 接続 `i` を書き換える。 -/
def modifyConn (x : Ctx) (i : Nat) (f : Connection → Connection) : Ctx :=
  { x with th := { x.th with cs := setAt x.th.cs i (f (x.th.cs i)) } }

/-- スレッドの、接続以外の欄を書き換える。 -/
def modifyThread (x : Ctx) (f : Thread → Thread) : Ctx := { x with th := f x.th }

/-- イベントループを書き換える。 -/
def modifyLoop (x : Ctx) (f : Loop → Loop) : Ctx := { x with th := { x.th with loop := f x.th.loop } }

/-- 誤りの数を書き換える。 -/
def modifyErrors (x : Ctx) (f : Errors → Errors) : Ctx :=
  { x with th := { x.th with errors := f x.th.errors } }

/-- 記述子表を書き換える。 -/
def modifyOs (x : Ctx) (f : Os → Os) : Ctx := { x with os := f x.os }

/-- 共有の変数を書き換える。 -/
def modifyShared (x : Ctx) (f : Shared → Shared) : Ctx := { x with g := f x.g }

/-- 次の `connect()` の結果。列が尽きていれば成功とする。 -/
def dial (x : Ctx) : SocketOutcome := x.dials.headD ⟨true, true⟩

/-- 次の `connect()` の結果を使い終える。 -/
def dropDial (x : Ctx) : Ctx := { x with dials := x.dials.tail }

end Ctx

end Wrk2
