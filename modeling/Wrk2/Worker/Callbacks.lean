import Wrk2.Worker.Thread
import Mathlib.Data.List.Sort

/-!
# wrk.c のコールバック

ワーカーのイベントループが呼ぶ関数を、`Ctx` の上の関数として wrk.c の順に写す。コールバックの中の
`time_us()` はすべて同じ値 `x.now` を返す。トランスポート（`sock.connect`、`sock.read`、
`sock.write`、`sock.readable`）、HTTP パーサー、台本の `request` は環境が決める値として引数で受け取る。
デバッグ用の `latest_*` の欄、`printf`、TLS のセッション、パーサーの内部状態は持たない。
-/

namespace Wrk2

variable (cfg : Config)

/-! ## 接続 -/

/-- `connect_socket` の `error:`。誤りを数え、開いた記述子を閉じる。`c->fd` は書き換えない。 -/
def connectError (fd : Nat) (x : Ctx) : Ctx :=
  (x.modifyErrors fun e => { e with connect := e.connect + 1 }).modifyOs (·.close fd)

/-- `connect_socket` の、`socket()` が記述子 `fd` を返したあと。`o` は `connect()` と購読の成否。 -/
def connectFd (i fd : Nat) (o : SocketOutcome) (x : Ctx) : Ctx :=
  if o.connectOk then
    if o.registered then
      ((x.modifyConn i fun c => { c with connectMask := aeReadWrite }).modifyLoop
        (·.createFileEvent fd aeReadWrite .socketConnected i)).modifyConn i fun c => { c with fd := fd }
    else connectError fd (x.modifyConn i fun c => { c with connectMask := aeReadWrite })
  else connectError fd x

/-- `connect_socket`。新しい記述子で `socket_connected` を読み書きの両方で購読する。 -/
def connectSocket (i : Nat) (x : Ctx) : Ctx :=
  connectFd i x.os.lowestFree x.dial
    ((x.modifyConn i fun c => { c with isConnected := false }).dropDial.modifyOs Os.socket)

/-- `reconnect_socket`。購読を外し、記述子を閉じ、数えてからつなぎ直す。 -/
def reconnectSocket (i : Nat) (x : Ctx) : Ctx :=
  connectSocket i ((((x.modifyLoop (·.deleteFileEvent (x.conn i).fd aeReadWrite)).modifyOs
    (·.close (x.conn i).fd)).modifyErrors fun e => { e with reconnect := e.reconnect + 1 }))

/-- `delayed_initial_connect`。予定の起点 `thread_start` を決めてからつなぐ。 -/
def delayedInitialConnect (i : Nat) (x : Ctx) : Ctx × Option Nat :=
  (connectSocket i (x.modifyConn i fun c => { c with threadStart := x.now }), none)

/-- `sock.connect` の結果。`RETRY` は `E_WANT_READ` と `E_WANT_WRITE` を持つ。 -/
inductive ConnectStatus
  | ok
  | error
  | retry (wantRead wantWrite : Bool)
  deriving DecidableEq, Repr

/-- `socket_connected` の `RETRY` で、求められていない向き `del` の購読を外す。 -/
def retryDelete (i : Nat) (del : Mask) (x : Ctx) : Ctx :=
  if del ≠ aeNone then
    (x.modifyLoop (·.deleteFileEvent (x.conn i).fd del)).modifyConn i
      fun c => { c with connectMask := c.connectMask.andNot del }
  else x

/-- `socket_connected` の `RETRY` で、求められた向き `add` を購読する。 -/
def retryAdd (i : Nat) (add : Mask) (x : Ctx) : Ctx :=
  if add ≠ aeNone then
    (x.modifyLoop (·.createFileEvent (x.conn i).fd add .socketConnected i)).modifyConn i
      fun c => { c with connectMask := c.connectMask.or add }
  else x

/-- `socket_connected` の `RETRY`。加える向きと外す向きは、もとの `connect_mask` から決める。 -/
def connectRetry (i : Nat) (want : Mask) (x : Ctx) : Ctx :=
  retryAdd i (want.andNot (x.conn i).connectMask)
    (retryDelete i ((x.conn i).connectMask.andNot want) x)

/-- `NORMAL` のときだけ、確立した記述子で `socket_readable` と `socket_writeable` を購読する。 -/
def subscribeIfNormal (fd i : Nat) (x : Ctx) : Ctx :=
  if x.th.phase = .normal then
    (x.modifyLoop (·.createFileEvent fd aeReadable .socketReadable i)).modifyLoop
      (·.createFileEvent fd aeWritable .socketWriteable i)
  else x

/-- ウォームアップでスレッドのすべての接続が確立したら、`inter_thread_sync` を置いて数える。 -/
def reportReady (x : Ctx) : Ctx :=
  if cfg.warmup ∧ x.th.errors.established = cfg.perThread then
    (x.modifyLoop (·.createTimeEvent x.now threadSyncIntervalMs .interThreadSync)).modifyShared
      fun g => { g with
        readyThreads := g.readyThreads + 1
        isReady := if g.readyThreads + 1 = cfg.threads then true else g.isReady }
  else x

/-- `socket_connected` の、接続が確立したときの処理（`is_connected` が偽のとき）。 -/
def connectEstablished (fd i : Nat) (x : Ctx) : Ctx :=
  reportReady cfg <| subscribeIfNormal fd i <|
    (x.modifyConn i fun c => { c with written := 0, isConnected := true }).modifyErrors
      fun e => { e with established := e.established + 1 }

/-- `socket_connected`。 -/
def socketConnected (fd i : Nat) (st : ConnectStatus) (x : Ctx) : Ctx :=
  match st with
  | .ok => if (x.conn i).isConnected then x else connectEstablished cfg fd i x
  | .error => reconnectSocket i (x.modifyErrors fun e => { e with connect := e.connect + 1 })
  | .retry r w => connectRetry i ⟨r, w⟩ x

/-! ## 段階 -/

/-- `phase_move` の繰り返しの一回。つながった接続の記述子で読み書きを購読する。 -/
def subscribeConn (cs : Nat → Connection) (el : Loop) (i : Nat) : Loop :=
  if (cs i).isConnected then
    (el.createFileEvent (cs i).fd aeReadable .socketReadable i).createFileEvent (cs i).fd aeWritable
      .socketWriteable i
  else el

/-- `phase_move`。`WARMUP` から `NORMAL` へ移るときだけ、購読、`calibrate`、`start` の設定をする。 -/
def phaseMove (phase : Phase) (x : Ctx) : Ctx :=
  if x.th.phase = .warmup ∧ phase = .normal then
    let el := (List.range cfg.perThread).foldl (subscribeConn x.th.cs) x.th.loop
    { x with th := { x.th with
        loop := el.createTimeEvent x.now calibrateDelayMs .calibrate
        start := x.now
        phaseNormalStart := x.now
        phase := phase } }
  else { x with th := { x.th with phase := phase } }

/-- `warmup_timed_out`。 -/
def warmupTimedOut (x : Ctx) : Ctx × Option Nat := (phaseMove cfg .normal x, none)

/-- `inter_thread_sync`。 -/
def interThreadSync (x : Ctx) : Ctx × Option Nat :=
  let y := if x.g.isReady then phaseMove cfg .normal x else x
  (y, if y.th.phase = .normal then none else some threadSyncIntervalMs)

/-! ## 較正、停止、標本 -/

/-- Modelled from the spec: HDR ヒストグラムが数える値。範囲 `[0, MAX_LATENCY]` の外の値は記録されない。 -/
def hdrValues (h : List Int) : List Nat :=
  h.filterMap fun v => if 0 ≤ v ∧ v ≤ (maxLatency : Int) then some v.toNat else none

/-- Modelled from the spec: `hdr_mean` を切り捨てた自然数（記録がなければ 0）。C の `hdr_mean` は `double` の
平均を返し、記録がなければ `0.0 / 0` の NaN になる。`calibrate` の `mean == 0` は NaN でも 1 未満の正の平均でも
偽なので、C はそこで較正を進めるが、このモデルは平均 0 としてやり直す。 -/
def hdrMean (h : List Int) : Nat :=
  if (hdrValues h).length = 0 then 0 else (hdrValues h).sum / (hdrValues h).length

/-- Modelled from the spec: `hdr_value_at_percentile`。小さい方から `⌊p·n/100 + 1/2⌋` 番目（1 以上）。 -/
def hdrValueAtPercentile (h : List Int) (p : Nat) : Nat :=
  let v := (hdrValues h).insertionSort (· ≤ ·)
  v.getD (max ((2 * p * v.length + 100) / 200) 1 - 1) 0

/-- `calibrate`。記録がなければ 10 秒後にやり直し、あれば標本の間隔を決めて `sample_rate` を始める。 -/
def calibrate (x : Ctx) : Ctx × Option Nat :=
  let mean := hdrMean x.th.latencyHistogram
  let interval := max (hdrValueAtPercentile x.th.latencyHistogram 90 * 2 / 1000) 10
  if mean = 0 then (x, some calibrateDelayMs)
  else
    ({ x with th := { x.th with
        mean := mean
        latencyHistogram := []
        uLatencyHistogram := []
        start := x.now
        interval := interval
        requests := 0
        loop := x.th.loop.createTimeEvent x.now interval .sampleRate } }, none)

/-- `close_all_conn` の繰り返しの一回。 -/
def closeConn (x : Ctx) (i : Nat) : Ctx :=
  let fd := (x.conn i).fd
  (x.modifyLoop (·.deleteFileEvent fd aeReadWrite)).modifyOs (·.close fd)

/-- `close_all_conn`。 -/
def closeAllConn (x : Ctx) : Ctx := (List.range cfg.perThread).foldl closeConn x

/-- `check_stop`。 -/
def checkStop (x : Ctx) : Ctx × Option Nat :=
  if x.g.stop ∨ x.th.stopAt ≤ x.now then
    ((closeAllConn cfg x).modifyLoop Loop.aeStop, some stopCheckInternalMs)
  else (x, some stopCheckInternalMs)

/-- `sample_rate`。`elapsed_ms` が 0 のときの `double` の割り算は、ここでは 0 とする。 -/
def sampleRate (x : Ctx) : Ctx × Option Nat :=
  let elapsedMs := subU64 x.now x.th.start / 1000
  let requests := x.th.requests * 1000 / elapsedMs
  ({ x with
      g := { x.g with samples := requests :: x.g.samples }
      th := { x.th with requests := 0, start := x.now } }, some x.th.interval)

/-! ## 応答 -/

/-- `header_field`。値のあとなら区切りの `'\0'` を書いて `FIELD` に戻る。 -/
def headerField (i : Nat) (data : Bytes) (x : Ctx) : Ctx :=
  x.modifyConn i fun c =>
    { c with
      headers := (if c.state = .value then c.headers.append [0] else c.headers).append data
      state := .field }

/-- `header_value`。名前のあとなら区切りの `'\0'` を書いて `VALUE` に移る。 -/
def headerValue (i : Nat) (data : Bytes) (x : Ctx) : Ctx :=
  x.modifyConn i fun c =>
    { c with
      headers := (if c.state = .field then c.headers.append [0] else c.headers).append data
      state := .value }

/-- `response_body`。 -/
def responseBody (i : Nat) (data : Bytes) (x : Ctx) : Ctx :=
  x.modifyConn i fun c => { c with body := c.body.append data }

/-- Modelled from the spec: 台本の `response(status, headers, body)`。応答を台本に渡したあと、
二つのバッファを `buffer_reset` で空にする。 -/
def scriptResponse (i status : Nat) (x : Ctx) : Ctx :=
  (x.modifyThread fun th => { th with
    delivered := (status, (x.conn i).headers.getD [], (x.conn i).body.getD []) :: th.delivered })
  |>.modifyConn i fun c => { c with headers := c.headers.reset, body := c.body.reset }

/-- `response_complete` の、スレッドの数え上げ。 -/
def countResponse (status : Nat) (x : Ctx) : Ctx :=
  x.modifyThread fun th => { th with
    complete := th.complete + 1
    requests := th.requests + 1
    errors := if 399 < status then { th.errors with status := th.errors.status + 1 } else th.errors }

/-- `response_complete` の、ヘッダーのバッファがあれば終端を書いて台本に渡す部分。 -/
def deliverResponse (i status : Nat) (x : Ctx) : Ctx :=
  if (x.conn i).headers.isSome then
    (scriptResponse i status (x.modifyConn i fun c => { c with headers := c.headers.append [0] }))
      |>.modifyConn i fun c => { c with state := .field }
  else x

/-- `response_complete` の `--c->pending`。0 になればバッチを終え、書き込みを購読する。 -/
def countDown (i : Nat) (x : Ctx) : Ctx :=
  let x := x.modifyConn i fun c =>
    { c with
      pending := subU64 c.pending 1
      hasPending := if subU64 c.pending 1 = 0 then false else c.hasPending }
  if (x.conn i).pending = 0 then
    x.modifyLoop (·.createFileEvent (x.conn i).fd aeWritable .socketWriteable i)
  else x

/-- `response_complete` の、遅れを二つのヒストグラムに記録する部分。 -/
def recordLatency (i : Nat) (timing uTiming : Int) (x : Ctx) : Ctx :=
  if cfg.recordAllResponses || !(x.conn i).hasPending then
    x.modifyThread fun th => { th with
      latencyHistogram := timing :: th.latencyHistogram
      uLatencyHistogram := uTiming :: th.uLatencyHistogram }
  else x

/-- 補正した遅れ `now - (thread_start + complete_at_last_batch_start / throughput)`。 -/
def expectedLatencyTiming (c : Connection) (now : Nat) : Int :=
  now - (c.threadStart + cfg.throughput.usec c.completeAtLastBatchStart)

/-- `response_complete` の、`stop_at` の前に応答を数えて記録する部分。 -/
def recordResponse (i : Nat) (x : Ctx) : Ctx :=
  let x := x.modifyConn i fun c => { c with complete := c.complete + 1 }
  recordLatency cfg i (expectedLatencyTiming cfg (x.conn i) x.now)
    (x.now - (x.conn i).actualLatencyStart) (countDown i x)

/-- `response_complete`。`keepAlive` は `http_should_keep_alive` の値。 -/
def responseComplete (i status : Nat) (keepAlive : Bool) (x : Ctx) : Ctx :=
  let x := deliverResponse i status (countResponse status x)
  if x.th.stopAt ≤ x.now then x.modifyLoop Loop.aeStop
  else if keepAlive then recordResponse cfg i x
  else reconnectSocket i (recordResponse cfg i x)

/-! ## 送信 -/

/-- `sock.write` の結果。`OK` は書けたバイト数を持つ。 -/
inductive WriteResult
  | ok (n : Nat)
  | error
  | retry
  deriving DecidableEq, Repr

/-- `socket_writeable` の、要求の最初のバイトを書く前の処理（`!c->written` のとき）。動的な台本なら
要求を取り替え、応答を待つバッチがなければ起点を取り、`pending` をパイプラインの深さにする。 -/
def beginRequest (i : Nat) (request : Bytes) (x : Ctx) : Ctx :=
  x.modifyConn i fun c =>
    { c with
      request := if cfg.dynamic then request else c.request
      start := x.now
      actualLatencyStart := if c.hasPending then c.actualLatencyStart else x.now
      completeAtLastBatchStart := if c.hasPending then c.completeAtLastBatchStart else c.complete
      hasPending := true
      pending := cfg.pipeline }

/-- `sock.write` が `n` バイトを受け取ったとき。書けるのは残りの長さまでである。 -/
def sendBytes (i n : Nat) (x : Ctx) : Ctx :=
  let c := x.conn i
  let n := min n (subU64 c.request.length c.written)
  (x.modifyOs (·.send c.fd ((c.request.drop c.written).take n))).modifyConn i
    fun c => { c with written := c.written + n }

/-- 要求を書き終えたら `written` を 0 に戻し、書き込みの購読を外す。 -/
def finishWrite (fd i : Nat) (x : Ctx) : Ctx :=
  if (x.conn i).written = (x.conn i).request.length then
    (x.modifyConn i fun c => { c with written := 0 }).modifyLoop (·.deleteFileEvent fd aeWritable)
  else x

/-- `socket_writeable` の、`sock.write` とその結果の処理。 -/
def writeRequest (fd i : Nat) (w : WriteResult) (x : Ctx) : Ctx :=
  match w with
  | .ok n => finishWrite fd i (sendBytes i n x)
  | .error => reconnectSocket i (x.modifyErrors fun e => { e with write := e.write + 1 })
  | .retry => x

/-- ペーサーが待てと言ったとき。書き込みの購読を外し、`delay_request` を置く。 -/
def delayWrite (fd i wait : Nat) (x : Ctx) : Ctx :=
  x.modifyLoop fun el =>
    (el.deleteFileEvent fd aeWritable).createTimeEvent x.now (wait / 1000 + 1) (.delayRequest i)

/-- `socket_writeable`。要求の途中でなければペーサーに聞き、早ければ `delay_request` に任せる。 -/
def socketWriteable (fd i : Nat) (request : Bytes) (w : WriteResult) (x : Ctx) : Ctx :=
  if (x.conn i).written = 0 then
    let r := usecToNextSend cfg.throughput (x.conn i) x.now
    if r.1 ≠ 0 then delayWrite fd i r.1 (x.modifyConn i fun _ => r.2)
    else writeRequest fd i w (beginRequest cfg i request (x.modifyConn i fun _ => r.2))
  else writeRequest fd i w x

/-- `delay_request`。まだ早ければ待ち直し、そうでなければ書き込みを購読する。 -/
def delayRequest (i : Nat) (x : Ctx) : Ctx × Option Nat :=
  let r := usecToNextSend cfg.throughput (x.conn i) x.now
  let x := x.modifyConn i fun _ => r.2
  if r.1 ≠ 0 then (x, some (r.1 / 1000 + 1))
  else (x.modifyLoop (·.createFileEvent (x.conn i).fd aeWritable .socketWriteable i), none)

/-! ## 受信 -/

/-- `http_parser_execute` が呼ぶコールバック一つ。 -/
inductive ParserEvent
  | headerField (data : Bytes)
  | headerValue (data : Bytes)
  | body (data : Bytes)
  | messageComplete (status : Nat) (keepAlive : Bool)
  deriving DecidableEq, Repr

/-- `sock.read` の結果。`OK` は読めたバイト数を持つ。 -/
inductive ReadResult
  | ok (n : Nat)
  | error
  | retry
  deriving DecidableEq, Repr

/-- `socket_readable` の繰り返しの一回に環境が決めること。`sock.read` の結果、読んだバイトに対して
パーサーが呼ぶコールバック、`http_parser_execute` の戻り値、続く `sock.readable` の値。 -/
structure Chunk where
  read : ReadResult
  events : List ParserEvent
  parsed : Nat
  readable : Nat
  deriving DecidableEq, Repr

/-- パーサーのコールバック一つを呼ぶ。ヘッダーと本文のコールバックは台本が応答を求めるときだけ登録される。 -/
def parserCallback (i : Nat) (x : Ctx) : ParserEvent → Ctx
  | .headerField d => if cfg.wantResponse then headerField i d x else x
  | .headerValue d => if cfg.wantResponse then headerValue i d x else x
  | .body d => if cfg.wantResponse then responseBody i d x else x
  | .messageComplete st ka => responseComplete cfg i st ka x

/-- `socket_readable` の `error:`。 -/
def readError (i : Nat) (x : Ctx) : Ctx :=
  reconnectSocket i (x.modifyErrors fun e => { e with read := e.read + 1 })

/-- `socket_readable`。最後に読んだ量が `RECVBUF` で、まだ読めるバイトがある間は読み続ける。 -/
def socketReadable (i : Nat) : List Chunk → Ctx → Ctx
  | [], x => x
  | ch :: rest, x =>
    match ch.read with
    | .retry => x
    | .error => readError i x
    | .ok n =>
      let x := ch.events.foldl (parserCallback cfg i) x
      if ch.parsed ≠ n then readError i x
      else
        let x := x.modifyThread fun th => { th with bytes := th.bytes + n }
        if n = recvbuf ∧ 0 < ch.readable then socketReadable i rest x else x

/-! ## スレッドの始まり -/

/-- `thread_main` の繰り返しの一回。接続 `i` の最初の接続を `5 i` ミリ秒後に置く。 -/
def armInitialConnect (now : Nat) (el : Loop) (i : Nat) : Loop :=
  el.createTimeEvent now (i * 5) (.delayedInitialConnect i)

/-- `thread_main` の、ウォームアップがあれば `warmup_timed_out` を置く部分。 -/
def armWarmupTimeout (now : Nat) (el : Loop) : Loop :=
  if cfg.warmup then el.createTimeEvent now cfg.warmupTimeoutMs .warmupTimedOut else el

/-- `thread_main` の、`aeMain` に入るまで。 -/
def threadMain (x : Ctx) : Ctx :=
  let el := (List.range cfg.perThread).foldl (armInitialConnect x.now) x.th.loop
  { x with th := { x.th with
      cs := fun _ => Connection.init cfg.initRequest
      loop := armWarmupTimeout cfg x.now (el.createTimeEvent x.now stopCheckInternalMs .checkStop)
      latencyHistogram := []
      uLatencyHistogram := []
      start := x.now
      phase := if cfg.warmup then .warmup else .normal } }

end Wrk2
