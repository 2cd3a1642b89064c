import Wrk2.Worker.Lemmas.Counters
import Wrk2.Worker.Lemmas.Established
import Wrk2.Worker.Lemmas.Sample
import Wrk2.Worker.Lemmas.Owned
import Wrk2.Worker.Lemmas.Window
import Wrk2.Worker.Lemmas.Barrier
import Wrk2.Worker.Lemmas.Fds
import Wrk2.Worker.Lemmas.Warmup
import Wrk2.Worker.Lemmas.Script
import Wrk2.Worker.Lemmas.CatchUp
import Wrk2.Worker.Lemmas.Armed

/-!
# ワーカーの定理

到達できるすべての状態について言える性質と、wrk.c が仕様と違う振る舞いをする具体的な実行。

一般の定理は、`Lemmas/` の `dispatch` 一回についての補題を `Reachable.thread_inv_wf` と `step_threads` で
実行全体に持ち上げて示す。一歩で接続の値がいつ変わるかは、`dispatch` 一回の `if` の形の補題を
`Reachable.conn_ite` で一歩に持ち上げる。遅れが負にならないことは `Thread.LatencyOk.of_dispatch`、待つ応答の数は
`Thread.Wf.dispatch_pendingOk`、バッチの記録は `Thread.Wf.dispatch_snapshot`、追いつきの記録は
`Thread.Wf.dispatch_catchUp`、段階は
`Thread.Wf.dispatch_phase`、標本の時計は `Thread.SampleOk.of_dispatch`、購読の持ち主は
`Thread.Owned.of_dispatch`、測る窓は `Thread.Wf.dispatch_window`、ウォームアップのバリアは
`Ctx.Barrier.of_dispatch`、共有の記述子表は `Thread.Wf.dispatch_fdOk`、停止の時間イベントは
`Thread.Wf.dispatch_stopTimer`、ウォームアップの時間イベントは `Thread.Wf.dispatch_warmupTimer` と
`Thread.Wf.dispatch_syncTimer`、`NORMAL` の前に何も数えないことは `Thread.Wf.dispatch_unmeasured`、予定より
早いバッチがないことは `Thread.Wf.dispatch_onSchedule` による。時間イベントと購読についての結果は形の
不変条件 `Thread.Wf` から読む。

具体的な実行は、1 スレッド 1 接続の設定で `run` をラベルの列に適用し、`decide` で評価する。記述子
0、1、2 は開いているので、接続の最初のソケットは 3 になる。時間イベントの番号は `thread_main` が置いた順に
0（`delayed_initial_connect`）、1（`check_stop`）、ウォームアップがあれば 2（`warmup_timed_out`）で、
そのあとに置かれたものが続く。
-/

namespace Wrk2

/-! ## 試す設定と実行 -/

/-- 1 スレッド 1 接続、毎秒 1000 要求（予定は 1000 µs ごと）、1 秒、パイプラインの深さ 1、
静的な要求 `[1, 2, 3]`。 -/
def oneConn : Config where
  threads := 1
  connections := 1
  duration := 1
  pipeline := 1
  rate := 1000
  warmup := false
  warmupTimeout := 0
  dynamic := false
  recordAllResponses := false
  wantResponse := false
  request := [1, 2, 3]
  threads_pos := by decide
  threads_le := by decide
  rate_pos := by decide
  pipeline_pos := by decide

/-- 環境の決めることの既定。`connect()` と購読は成功し、`sock.connect` は `OK`、`sock.write` は
`RETRY` を返す。 -/
def io₀ : Io := ⟨[], .ok, .retry, [], []⟩

/-- `sock.write` が `n` バイトを受け取る。 -/
def wrote (n : Nat) : Io := { io₀ with write := .ok n }

/-- 一度の `sock.read` で `n` バイトを読み、パーサーがそれに `events` を呼ぶ。 -/
def reads (n : Nat) (events : List ParserEvent) : Io := { io₀ with chunks := [⟨.ok n, events, n, 0⟩] }

/-- `sock.read` が `ERROR` を返す。 -/
def readFails : Io := { io₀ with chunks := [⟨.error, [], 0, 0⟩] }

/-- 状態 200 の、接続を保つ応答一つ。 -/
def okResponse : List ParserEvent := [.messageComplete 200 true]

/-- 時刻 0 に `thread_main`、接続 0 の最初の接続、記述子 3 が書き込み可能になって接続が完了する。 -/
def connected : List Label :=
  [.run 0 0 .threadMain io₀, .run 0 0 (.time 0) io₀, .run 0 0 (.file 3 .writable) io₀]

/-- 接続のあと、時刻 0 に要求 3 バイトを書いて最初のバッチを送る。 -/
def firstBatch : List Label := connected ++ [.run 0 0 (.file 3 .writable) (wrote 3)]

/-- 最初のバッチの応答が時刻 500 に届く。 -/
def firstResponse : List Label := firstBatch ++ [.run 0 500 (.file 3 .readable) (reads 10 okResponse)]

/-! ## 遅れは負にならない -/

/-- 到達できるすべての状態で、記録した補正つきと補正なしの遅れはどれも負でない。どの接続でも、補正つきの
遅れ `now - (thread_start + complete_at_last_batch_start / throughput)` は負でなく、`actual_latency_start`
は時計を越えない。 -/
theorem recorded_latency_nonneg {cfg : Config} {s : System} (hr : Reachable cfg s) (w : Nat) :
    (∀ v ∈ (s.threads w).latencyHistogram, 0 ≤ v) ∧ (∀ v ∈ (s.threads w).uLatencyHistogram, 0 ≤ v) ∧
    ∀ i, 0 ≤ expectedLatencyTiming cfg ((s.threads w).cs i) s.now ∧
      ((s.threads w).cs i).actualLatencyStart ≤ s.now := by
  obtain ⟨ha, hh, hu⟩ := hr.thread_inv_wf (fun th n => th.LatencyOk cfg.throughput n)
    (fun st n => .create _ st n) (fun _ _ _ ho h => ho.mono h) (fun _ _ _ _ hw h ho => ho.of_dispatch hw h) w
  exact ⟨hh, hu, fun i => ⟨(ha i).timing_nonneg, (ha i).2⟩⟩

theorem recorded_latency_nonneg_firstResponse :
    ∃ s, run oneConn (System.init oneConn 0) firstResponse = some s ∧
      (s.threads 0).latencyHistogram = [500] ∧
      (∀ v ∈ (s.threads 0).latencyHistogram, 0 ≤ v) ∧ (∀ v ∈ (s.threads 0).uLatencyHistogram, 0 ≤ v) ∧
      ∀ i, 0 ≤ expectedLatencyTiming oneConn ((s.threads 0).cs i) s.now ∧
        ((s.threads 0).cs i).actualLatencyStart ≤ s.now := by
  have h : run oneConn (System.init oneConn 0) firstResponse = some _ := rfl
  exact ⟨_, h, by decide, recorded_latency_nonneg (Reachable.run oneConn (.init 0) h) 0⟩

/-! ## 待つ応答の数 -/

/-- 到達できるすべての状態で、応答を待つバッチのある接続は 0 でない数の応答を待つ。 -/
theorem hasPending_pending_pos {cfg : Config} {s : System} (hr : Reachable cfg s) (w i : Nat)
    (h : ((s.threads w).cs i).hasPending = true) : 0 < ((s.threads w).cs i).pending :=
  hr.thread_inv_wf (fun th _ => ∀ i, (th.cs i).PendingOk) (fun _ _ _ h => by cases h) (fun _ _ _ h _ => h)
    (fun _ _ _ _ hw h hp => hw.dispatch_pendingOk h hp) w i h

theorem hasPending_pending_pos_firstBatch :
    ∃ s, run oneConn (System.init oneConn 0) firstBatch = some s ∧
      ((s.threads 0).cs 0).hasPending = true ∧ 0 < ((s.threads 0).cs 0).pending := by
  have h : run oneConn (System.init oneConn 0) firstBatch = some _ := rfl
  exact ⟨_, h, by decide, hasPending_pending_pos (Reachable.run oneConn (.init 0) h) 0 0 (by decide)⟩

/-- 要求を送る前に応答が届く。 -/
def unsolicitedRun : List Label := connected ++ [.run 0 100 (.file 3 .readable) (reads 10 okResponse)]

/-- 要求に答えない応答で `--c->pending` が 0 から引かれ、`pending` は `2^64 - 1` になるが
`has_pending` は偽のままである。 -/
theorem unsolicited_response_wraps_pending :
    (run oneConn (System.init oneConn 0) unsolicitedRun).map
      (fun s => (((s.threads 0).cs 0).pending, ((s.threads 0).cs 0).hasPending)) =
    some (2 ^ 64 - 1, false) := by decide

/-! ## バッチの記録 -/

/-- 到達できる状態からの一歩で、どのワーカーのどの接続のバッチの記録（`complete_at_last_batch_start` と
`actual_latency_start`）も、その接続の `socket_writeable` が、要求の途中でなく、ペーサーが今送れと言い、応答を
待つバッチがないときに呼ばれる一歩でだけ、その時の `complete` と時計に取り直され、ほかのどの一歩でも変わらない。
取り直すのは `sock.write` の前なので、`sock.write` が `RETRY` を返して何も書かれなくても取り直す。 -/
theorem batch_snapshot_retaken_only_by_socket_writeable {cfg : Config} {s s' : System} (hr : Reachable cfg s)
    {l : Label} (hs : step cfg s l = some s') (w i : Nat) :
    ((s'.threads w).cs i).snapshot =
      if l.fires s w (Ctx.takesSnapshot cfg · i) then (((s.threads w).cs i).complete, s'.now)
      else ((s.threads w).cs i).snapshot :=
  hr.conn_ite hs Connection.snapshot _ (fun c n => (c.complete, n)) i (fun hw hy => hw.dispatch_snapshot hy i) w

/-- 最初の応答のあと、時刻 1000 に書けるようになるが、`sock.write` は `RETRY` を返す。 -/
def retryBatch : Label := .run 0 1000 (.file 3 .writable) io₀

/-- 何も書かれないが、二つめのバッチの記録は `complete = 1` と時刻 1000 に取り直される。 -/
theorem batch_snapshot_retaken_only_by_socket_writeable_retry :
    ∃ s s', run oneConn (System.init oneConn 0) firstResponse = some s ∧ step oneConn s retryBatch = some s' ∧
      ((s.threads 0).cs 0).snapshot = (0, 0) ∧ ((s'.threads 0).cs 0).snapshot = (1, 1000) ∧
      ((s'.threads 0).cs 0).written = 0 ∧
      ((s'.threads 0).cs 0).snapshot =
        if retryBatch.fires s 0 (Ctx.takesSnapshot oneConn · 0) then (((s.threads 0).cs 0).complete, s'.now)
        else ((s.threads 0).cs 0).snapshot := by
  obtain ⟨s, h, s', h', hp⟩ : ∃ s, run oneConn (System.init oneConn 0) firstResponse = some s ∧
      ∃ s', step oneConn s retryBatch = some s' ∧ ((s.threads 0).cs 0).snapshot = (0, 0) ∧
        ((s'.threads 0).cs 0).snapshot = (1, 1000) ∧ ((s'.threads 0).cs 0).written = 0 :=
    ⟨_, rfl, _, rfl, by decide⟩
  exact ⟨s, s', h, h', hp.1, hp.2.1, hp.2.2,
    batch_snapshot_retaken_only_by_socket_writeable (Reachable.run oneConn (.init 0) h) h' 0 0⟩

/-- 最初のバッチを送ったあと、時刻 100 に読み出しの誤りでつなぎ直し、時刻 200 に新しいソケットの
接続が完了し、時刻 300 に次のバッチを送り、その応答が時刻 400 に届く。 -/
def abandonedBatchRun : List Label :=
  firstBatch ++ [.run 0 100 (.file 3 .readable) readFails, .run 0 200 (.file 3 .writable) io₀,
    .run 0 300 (.file 3 .writable) (wrote 3), .run 0 400 (.file 3 .readable) (reads 10 okResponse)]

/-- つなぎ直しで捨てられたバッチの `has_pending` が残るので、時刻 300 に始まった最新のバッチの応答の
遅れは、捨てられたバッチの始まり（時刻 0）から測られて 400 になる。 -/
theorem abandoned_batch_keeps_snapshot :
    (run oneConn (System.init oneConn 0) abandonedBatchRun).map
      (fun s => (((s.threads 0).cs 0).start, (s.threads 0).latencyHistogram,
        (s.threads 0).uLatencyHistogram)) =
    some (300, [400], [400]) := by decide

/-! ## つなぎ直しのあとに残る `delay_request` -/

/-- 最初の応答のあと、時刻 500 のペーサーが 1000 µs まで待てと言い、`delay_request` を置く。時刻 600 に
読み出しの誤りでつなぎ直し、時刻 1500 に残った `delay_request` が起こる。 -/
def staleDelayRun : List Label :=
  firstResponse ++ [.run 0 500 (.file 3 .writable) io₀, .run 0 600 (.file 3 .readable) readFails,
    .run 0 1500 (.time 2) io₀]

/-- `reconnect_socket` は `delay_request` を消さないので、新しいソケットの接続が終わる前に、その記述子の
書き込みが `socket_connected` から `socket_writeable` に置き換わる。 -/
theorem stale_delay_subscribes_unconnected :
    (run oneConn (System.init oneConn 0) staleDelayRun).map
      (fun s => (((s.threads 0).cs 0).isConnected, ((s.threads 0).cs 0).fd, (s.threads 0).loop.events 3)) =
    some (false, 3, ⟨some .socketConnected, some .socketWriteable, 0⟩) := by decide

/-- 残った購読で `socket_writeable` が要求の 1 バイトを書き、そのあと `socket_connected` が接続を終えて
`written` を 0 に戻し、要求をはじめから書き直す。 -/
def restartRun : List Label :=
  staleDelayRun ++ [.run 0 1500 (.file 3 .writable) (wrote 1), .run 0 1500 (.file 3 .readable) io₀,
    .run 0 1500 (.file 3 .writable) (wrote 3)]

/-- 記述子 3 の新しいソケットに書かれたバイトは `[1, 1, 2, 3]` で、要求 `[1, 2, 3]` の並びでも、
そのあとに接頭辞一つが続くものでもない。 -/
theorem restart_resends_request :
    (run oneConn (System.init oneConn 0) restartRun).map (fun s => s.os.sent 3) = some [1, 1, 2, 3] := by
  decide

/-- 残った引き金にはつなぎ直しが要る。到達できるすべての状態で、まだ一度もつなぎ直していないワーカーでは、
`socket_connected` でない購読の持ち主の接続と、`delay_request` の時間イベントの接続は、どれも確立している。 -/
theorem no_stale_trigger_without_reconnect {cfg : Config} {s : System} (hr : Reachable cfg s) (w : Nat)
    (h0 : (s.threads w).errors.reconnect = 0) :
    (∀ fd dir p, ((s.threads w).loop.events fd).proc dir = some p → p ≠ .socketConnected →
      ((s.threads w).cs ((s.threads w).loop.events fd).clientData).isConnected = true) ∧
    ∀ id te j, (s.threads w).loop.timeEvents id = some te → te.timeProc = .delayRequest j →
      ((s.threads w).cs j).isConnected = true :=
  ⟨fun fd dir p hp hq => hr.safe w h0 _ (.inl ⟨fd, dir, p, hp, hq, rfl⟩),
    fun id te j hte e => hr.safe w h0 j (.inr ⟨id, te, hte, e⟩)⟩

theorem no_stale_trigger_without_reconnect_connected :
    ∃ s, run oneConn (System.init oneConn 0) connected = some s ∧ (s.threads 0).errors.reconnect = 0 ∧
      ((s.threads 0).loop.events 3).proc .readable = some .socketReadable ∧
      (∀ fd dir p, ((s.threads 0).loop.events fd).proc dir = some p → p ≠ .socketConnected →
        ((s.threads 0).cs ((s.threads 0).loop.events fd).clientData).isConnected = true) ∧
      ∀ id te j, (s.threads 0).loop.timeEvents id = some te → te.timeProc = .delayRequest j →
        ((s.threads 0).cs j).isConnected = true := by
  have h : run oneConn (System.init oneConn 0) connected = some _ := rfl
  exact ⟨_, h, by decide, by decide,
    no_stale_trigger_without_reconnect (Reachable.run oneConn (.init 0) h) 0 (by decide)⟩

/-! ## 切れた応答のヘッダー -/

/-- 台本が応答を求める設定。 -/
def scripted : Config := { oneConn with wantResponse := true }

/-- 最初のバッチの応答のヘッダー名 `[7]` を読んだところで読み出しの誤りでつなぎ直し、新しいソケットの
バッチの応答がヘッダー `[8]: [9]` を持つ。 -/
def cutHeaderRun : List Label :=
  firstBatch ++ [.run 0 100 (.file 3 .readable) (reads 5 [.headerField [7]]),
    .run 0 200 (.file 3 .readable) readFails, .run 0 300 (.file 3 .writable) io₀,
    .run 0 300 (.file 3 .writable) (wrote 3),
    .run 0 400 (.file 3 .readable) (reads 9 [.headerField [8], .headerValue [9], .messageComplete 200 true])]

/-- `reconnect_socket` はヘッダーのバッファと `state` を戻さないので、台本に渡るヘッダーは切れた応答の
`[7]` で始まる。 -/
theorem cut_header_reaches_script :
    (run scripted (System.init scripted 0) cutHeaderRun).map (fun s => (s.threads 0).delivered) =
    some [(200, [7, 8, 0, 9, 0], [])] := by decide

/-- 台本が応答を求めるとき、読み位置が `FIELD` で二つのバッファが空の接続について、パーサーが応答を
いくつ続けて報告しても、台本はそれぞれの状態、名前と値を `'\0'` で区切ったヘッダー、本文を順に受け取り、
接続はまた空の `FIELD` に戻る。ヘッダーのバッファがまだなければ、どの応答もヘッダーを持つとする。 -/
theorem script_receives_each_response {cfg : Config} (hw : cfg.wantResponse = true) (x : Ctx) (i : Nat)
    (rs : List Response) (hf : (x.channel i).Fresh) (hd : (x.conn i).headers.isSome ∨ ∀ r ∈ rs, r.headers ≠ []) :
    ((rs.flatMap Response.events).foldl (parserCallback cfg i) x).th.delivered =
        (rs.map Response.script).reverse ++ x.th.delivered ∧
      (((rs.flatMap Response.events).foldl (parserCallback cfg i) x).channel i).Fresh := by
  obtain ⟨h₁, h₂⟩ := Channel.foldl_feed_responses rs hf hd
  rw [← channel_foldl_parserCallback hw] at h₁ h₂
  exact ⟨h₁, h₂⟩

/-- 名前 `[1]`、値 `[2]`、本文 `[3]` の応答。 -/
def oneHeaderResponse : Response :=
  ⟨[(⟨[[1]], List.cons_ne_nil _ _⟩, ⟨[[2]], List.cons_ne_nil _ _⟩)], [[3]], 200, true⟩

theorem script_receives_each_response_oneHeader :
    (((System.init scripted 0).ctx 0 0 []).channel 0).Fresh ∧
      ((((System.init scripted 0).ctx 0 0 []).conn 0).headers.isSome ∨
        ∀ r ∈ [oneHeaderResponse], r.headers ≠ []) ∧
      (([oneHeaderResponse].flatMap Response.events).foldl (parserCallback scripted 0)
        ((System.init scripted 0).ctx 0 0 [])).th.delivered = [(200, [1, 0, 2, 0], [3])] := by
  have hf : (((System.init scripted 0).ctx 0 0 []).channel 0).Fresh := by decide
  have hd : ∀ r ∈ [oneHeaderResponse], r.headers ≠ [] := by simp [oneHeaderResponse]
  exact ⟨hf, .inr hd, (script_receives_each_response rfl _ 0 _ hf (.inr hd)).1.trans (by decide)⟩

/-! ## 持っていない記述子を閉じる -/

/-- 最初の接続の `connect()` が失敗し、時刻 2 秒の `check_stop` で終わる。 -/
def failedConnectRun : List Label :=
  [.run 0 0 .threadMain io₀, .run 0 0 (.time 0) { io₀ with dials := [⟨false, true⟩] },
    .run 0 2000000 (.time 1) io₀]

/-- `connect_socket` の `error:` は `c->fd` を書かないので、接続は `zcalloc` の 0 を持ち続け、
`close_all_conn` が標準入力の記述子 0 を閉じる。 -/
theorem failed_connect_closes_stdin :
    (run oneConn (System.init oneConn 0) failedConnectRun).map
      (fun s => (((s.threads 0).cs 0).fd, s.os.openFds)) =
    some (0, [1, 2]) := by decide

/-! ## 較正 -/

/-- ウォームアップがなければ、到達できるどの状態のどのワーカーにも `calibrate` と `sample_rate` の
時間イベントはない。 -/
theorem no_calibrate_without_warmup {cfg : Config} (hw : cfg.warmup = false) {s : System}
    (hr : Reachable cfg s) (w id : Nat) (te : TimeEvent) (h : (s.threads w).loop.timeEvents id = some te) :
    te.timeProc ≠ .calibrate ∧ te.timeProc ≠ .sampleRate := by
  have hp := (hr.wf w).noPhase hw id te h
  exact ⟨fun e => by simp [e, TimeProc.phaseWork] at hp, fun e => by simp [e, TimeProc.phaseWork] at hp⟩

theorem no_calibrate_without_warmup_threadMain :
    ∃ s, run oneConn (System.init oneConn 0) [.run 0 0 .threadMain io₀] = some s ∧
      (s.threads 0).phase = .normal ∧ (s.threads 0).loop.timeEvents 1 = some ⟨2000000, .checkStop⟩ ∧
      TimeProc.checkStop ≠ .calibrate ∧ TimeProc.checkStop ≠ .sampleRate := by
  have h : run oneConn (System.init oneConn 0) [.run 0 0 .threadMain io₀] = some _ := rfl
  exact ⟨_, h, by decide, by decide,
    no_calibrate_without_warmup rfl (Reachable.run oneConn (.init 0) h) 0 1 ⟨2000000, .checkStop⟩ (by decide)⟩

/-! ## 段階 -/

/-- 到達できる状態からの一歩で、どのワーカーの段階も戻らない。段階は `INIT → WARMUP → NORMAL` か
`INIT → NORMAL` と進み、`NORMAL` から `WARMUP` に戻ることはない。 -/
theorem phase_never_goes_back {cfg : Config} {s s' : System} (hr : Reachable cfg s) {l : Label}
    (hs : step cfg s l = some s') (w : Nat) : (s.threads w).phase.rank ≤ (s'.threads w).phase.rank := by
  rcases step_threads cfg hs w with e | ⟨t, ev, io, y, -, hy, -, e⟩
  · rw [e]
  · rw [e]; exact (hr.wf w).dispatch_phase hy

theorem phase_never_goes_back_threadMain :
    ∃ s', step oneConn (System.init oneConn 0) (.run 0 0 .threadMain io₀) = some s' ∧
      (s'.threads 0).phase = .normal ∧
      (((System.init oneConn 0).threads 0).phase).rank ≤ (s'.threads 0).phase.rank := by
  have h : step oneConn (System.init oneConn 0) (.run 0 0 .threadMain io₀) = some _ := rfl
  exact ⟨_, h, by decide, phase_never_goes_back (.init 0) h 0⟩

/-! ## ウォームアップ -/

/-- ウォームアップが 1000 ms で終わる設定。長さは 10 秒。 -/
def warmupConn : Config := { oneConn with warmup := true, warmupTimeout := 1000, duration := 10 }

/-- ウォームアップ中に接続が完了しても、`socket_connected` の読み書きの購読は残る。 -/
theorem held_keeps_connect_subscriptions :
    (run warmupConn (System.init warmupConn 0) connected).map
      (fun s => ((s.threads 0).phase, ((s.threads 0).cs 0).isConnected, (s.threads 0).loop.events 3)) =
    some (.warmup, true, ⟨some .socketConnected, some .socketConnected, 0⟩) := by decide

/-- 到達できるすべての状態で、`NORMAL` にないワーカーの購読はどれも `socket_connected` で、
`delay_request` の時間イベントもない。だから `NORMAL` に入るまで `socket_writeable` は呼ばれない。 -/
theorem held_worker_only_connects {cfg : Config} {s : System} (hr : Reachable cfg s) (w : Nat)
    (hn : (s.threads w).phase ≠ .normal) :
    (∀ fd dir p, ((s.threads w).loop.events fd).proc dir = some p → p = .socketConnected) ∧
    ∀ id te i, (s.threads w).loop.timeEvents id = some te → te.timeProc ≠ .delayRequest i := by
  obtain ⟨ho, hd⟩ := (hr.wf w).quiet hn
  exact ⟨ho, fun id te i h => hd i id te h⟩

theorem held_worker_only_connects_connected :
    ∃ s, run warmupConn (System.init warmupConn 0) connected = some s ∧ (s.threads 0).phase = .warmup ∧
      (∀ fd dir p, ((s.threads 0).loop.events fd).proc dir = some p → p = .socketConnected) ∧
      ∀ id te i, (s.threads 0).loop.timeEvents id = some te → te.timeProc ≠ .delayRequest i := by
  have h : run warmupConn (System.init warmupConn 0) connected = some _ := rfl
  exact ⟨_, h, by decide, held_worker_only_connects (Reachable.run warmupConn (.init 0) h) 0 (by decide)⟩

/-- 時刻 1 秒に `warmup_timed_out` で `NORMAL` に移り、すぐに最初のバッチを送り、その応答が 500 µs 後に届く。 -/
def warmupRun : List Label :=
  connected ++ [.run 0 1000000 (.time 2) io₀, .run 0 1000000 (.file 3 .writable) (wrote 3),
    .run 0 1000500 (.file 3 .readable) (reads 10 okResponse)]

/-- `thread_start` はウォームアップ中の最初の接続の時刻 0 のままなので、接続は遅れて `NORMAL` に入って
追いつき（`caught_up` が偽）、最初の応答の補正つきの遅れにウォームアップの 1 秒が入る。 -/
theorem warmup_counts_in_latency :
    (run warmupConn (System.init warmupConn 0) warmupRun).map
      (fun s => ((s.threads 0).phaseNormalStart, ((s.threads 0).cs 0).threadStart,
        ((s.threads 0).cs 0).caughtUp, (s.threads 0).latencyHistogram)) =
    some (1000000, 0, false, [1000500]) := by decide

/-! ## 接続の数 -/

/-- 到達できるすべての状態のすべての接続で、`complete` は一歩で減らず、`complete_at_catch_up_start` と
`complete_at_last_batch_start` は `complete` を、`written` は要求の長さを越えない。そのため
`socket_writeable` の `length - written` と `usec_to_next_send` の `complete - complete_at_catch_up_start`
は桁あふれせず、`usec_to_next_send` の戻り値は 0 か、時計より後の予定時刻までの差である。 -/
theorem connection_counters_never_wrap {cfg : Config} {s : System} (hr : Reachable cfg s) (w i : Nat) :
    let c := (s.threads w).cs i
    (∀ l s', step cfg s l = some s' → c.complete ≤ ((s'.threads w).cs i).complete) ∧
    c.completeAtCatchUpStart ≤ c.complete ∧ c.completeAtLastBatchStart ≤ c.complete ∧
    c.written ≤ c.request.length ∧ subU64 c.request.length c.written = c.request.length - c.written ∧
    ∀ now, let r := usecToNextSend cfg.throughput c now
      subU64 r.2.complete r.2.completeAtCatchUpStart = r.2.complete - r.2.completeAtCatchUpStart ∧
      (r.1 = 0 ∨ ∃ next, now < next ∧ r.1 = next - now ∧
        (next = c.threadStart + cfg.throughput.usec c.complete ∨
          next = r.2.catchUpStartTime + cfg.throughput.twice.usec (r.2.complete - r.2.completeAtCatchUpStart))) := by
  have hc : ((s.threads w).cs i).CountsOk :=
    hr.thread_inv_wf (fun th _ => ∀ i, (th.cs i).CountsOk) (fun _ _ _ => Connection.init_countsOk _)
      (fun _ _ _ h _ => h) (fun _ _ _ _ hw h hc j => hw.dispatch_countsOk h (hc j)) w i
  refine ⟨fun l s' hs => ?_, hc.1, hc.2.1, hc.2.2, subU64_of_le hc.2.2, fun now => ?_⟩
  · rcases step_threads cfg hs w with e | ⟨t, ev, io, y, -, hy, -, e⟩
    · rw [e]
    · rw [e]; exact (hr.wf w).dispatch_complete_le hy i
  · have e := subU64_of_le (hc.usecToNextSend cfg.throughput now).1
    exact ⟨e, e ▸ usecToNextSend_wait cfg.throughput _ now⟩

theorem connection_counters_never_wrap_firstResponse :
    ∃ s, run oneConn (System.init oneConn 0) firstResponse = some s ∧ ((s.threads 0).cs 0).complete = 1 ∧
      let c := (s.threads 0).cs 0
      (∀ l s', step oneConn s l = some s' → c.complete ≤ ((s'.threads 0).cs 0).complete) ∧
      c.completeAtCatchUpStart ≤ c.complete ∧ c.completeAtLastBatchStart ≤ c.complete ∧
      c.written ≤ c.request.length ∧ subU64 c.request.length c.written = c.request.length - c.written ∧
      ∀ now, let r := usecToNextSend oneConn.throughput c now
        subU64 r.2.complete r.2.completeAtCatchUpStart = r.2.complete - r.2.completeAtCatchUpStart ∧
        (r.1 = 0 ∨ ∃ next, now < next ∧ r.1 = next - now ∧
          (next = c.threadStart + oneConn.throughput.usec c.complete ∨
            next = r.2.catchUpStartTime + oneConn.throughput.twice.usec
              (r.2.complete - r.2.completeAtCatchUpStart))) := by
  have h : run oneConn (System.init oneConn 0) firstResponse = some _ := rfl
  exact ⟨_, h, by decide, connection_counters_never_wrap (Reachable.run oneConn (.init 0) h) 0 0⟩

/-! ## 追いつきの起点 -/

/-- 到達できる状態からの一歩で、どのワーカーのどの接続の追いつきの記録（`caught_up`、`catch_up_start_time`、
`complete_at_catch_up_start`）も、ペーサー `usec_to_next_send` を呼ぶ一歩（その接続の、要求の途中でない
`socket_writeable` か `delay_request`）でだけ変わり、ほかのどの一歩でも変わらない。ペーサーは、予定
`thread_start + complete / throughput` より早ければ `caught_up` を真に、遅れていれば偽にし、追いついていた
接続が遅れたときにだけ、起点をその時の時計と `complete` に取り直す。だから追いつきの予定は、接続が遅れ始めた
時から測られる。 -/
theorem catch_up_start_moves_only_on_falling_behind {cfg : Config} {s s' : System} (hr : Reachable cfg s)
    {l : Label} (hs : step cfg s l = some s') (w i : Nat) :
    let c := (s.threads w).cs i
    let next := c.threadStart + cfg.throughput.usec c.complete
    ((s'.threads w).cs i).catchUp =
      if l.fires s w (Ctx.callsPacer · i) then
        (decide (s'.now < next),
          if c.caughtUp = true ∧ next ≤ s'.now then (s'.now, c.complete)
          else (c.catchUpStartTime, c.completeAtCatchUpStart))
      else c.catchUp :=
  hr.conn_ite hs Connection.catchUp _
    (fun c n => (decide (n < c.threadStart + cfg.throughput.usec c.complete),
      if c.caughtUp = true ∧ c.threadStart + cfg.throughput.usec c.complete ≤ n then (n, c.complete)
      else (c.catchUpStartTime, c.completeAtCatchUpStart))) i
    (fun hw hy => (hw.dispatch_catchUp hy i).trans (by rw [usecToNextSend_catchUp])) w

/-- 最初の応答のあと、時刻 500 に書ける。次の予定（1000）より早いので、ペーサーは追いついたとして
`delay_request` を置く。 -/
def caughtUpRun : List Label := firstResponse ++ [.run 0 500 (.file 3 .writable) io₀]

/-- 時刻 3000 の `delay_request` で接続は遅れており、`caught_up` を偽にして起点を時刻 3000 と `complete = 1`
に取り直す。 -/
theorem catch_up_start_moves_only_on_falling_behind_late :
    ∃ s s', run oneConn (System.init oneConn 0) caughtUpRun = some s ∧
      step oneConn s (.run 0 3000 (.time 2) io₀) = some s' ∧
      ((s.threads 0).cs 0).caughtUp = true ∧ ((s'.threads 0).cs 0).catchUp = (false, 3000, 1) ∧
      let c := (s.threads 0).cs 0
      let next := c.threadStart + oneConn.throughput.usec c.complete
      ((s'.threads 0).cs 0).catchUp =
        if (Label.run 0 3000 (.time 2) io₀).fires s 0 (Ctx.callsPacer · 0) then
          (decide (s'.now < next),
            if c.caughtUp = true ∧ next ≤ s'.now then (s'.now, c.complete)
            else (c.catchUpStartTime, c.completeAtCatchUpStart))
        else c.catchUp := by
  obtain ⟨s, h, s', h', hp⟩ : ∃ s, run oneConn (System.init oneConn 0) caughtUpRun = some s ∧
      ∃ s', step oneConn s (.run 0 3000 (.time 2) io₀) = some s' ∧
        ((s.threads 0).cs 0).caughtUp = true ∧ ((s'.threads 0).cs 0).catchUp = (false, 3000, 1) :=
    ⟨_, rfl, _, rfl, by decide⟩
  exact ⟨s, s', h, h', hp.1, hp.2,
    catch_up_start_moves_only_on_falling_behind (Reachable.run oneConn (.init 0) h) h' 0 0⟩

/-! ## 接続の変わり方 -/

/-- 到達できるどの状態からの一歩でも、どのワーカーのどの接続も、`ConnStep` の基本の書き換えを重ねたもの
だけを受けるか、`thread_main` で作り直される。バッチを始める書き換え `begin` が入りうるのは、その一歩がその
接続の `socket_writeable` を呼ぶときだけである。`complete` は一つずつしか増えず、`thread_start` は
`thread_main` が作ったままの接続でだけ決まり、バッチはペーサーが許し要求の途中でないときにだけ始まり、
`written` は要求の残りの長さまでしか進まない。 -/
theorem connections_change_by_conn_steps {cfg : Config} {s s' : System} (hr : Reachable cfg s) {l : Label}
    (h : step cfg s l = some s') (w i : Nat) :
    (∃ ks, .begin ∉ ks ∧
      Relation.ReflTransGen (ConnStep.In cfg s'.now ks) ((s.threads w).cs i) ((s'.threads w).cs i)) ∨
    (l.fires s w (Ctx.writeableFor · i) = true ∧
      Relation.ReflTransGen (ConnStep.In cfg s'.now Writes.writeable.kinds) ((s.threads w).cs i)
        ((s'.threads w).cs i)) ∨
    ((s.threads w).cs i = Connection.init [] ∧ (s'.threads w).cs i = Connection.init cfg.initRequest) := by
  rcases step_threads cfg h w with e | ⟨t, ev, io, y, rfl, hy, hn, e⟩
  · exact .inl ⟨[], by decide, e ▸ .refl⟩
  · rw [e, hn, Label.fires_run_self]; exact (hr.wf w).dispatch_connSteps hy i

theorem connections_change_by_conn_steps_firstBatch :
    ∃ s s', run oneConn (System.init oneConn 0) connected = some s ∧
      step oneConn s (.run 0 0 (.file 3 .writable) (wrote 3)) = some s' ∧ ((s'.threads 0).cs 0).hasPending = true ∧
      (Label.run 0 0 (.file 3 .writable) (wrote 3)).fires s 0 (Ctx.writeableFor · 0) = true ∧
      ((∃ ks, .begin ∉ ks ∧
        Relation.ReflTransGen (ConnStep.In oneConn s'.now ks) ((s.threads 0).cs 0) ((s'.threads 0).cs 0)) ∨
      ((Label.run 0 0 (.file 3 .writable) (wrote 3)).fires s 0 (Ctx.writeableFor · 0) = true ∧
        Relation.ReflTransGen (ConnStep.In oneConn s'.now Writes.writeable.kinds) ((s.threads 0).cs 0)
          ((s'.threads 0).cs 0)) ∨
      ((s.threads 0).cs 0 = Connection.init [] ∧ (s'.threads 0).cs 0 = Connection.init oneConn.initRequest)) := by
  obtain ⟨s, h, s', h', hp⟩ : ∃ s, run oneConn (System.init oneConn 0) connected = some s ∧
      ∃ s', step oneConn s (.run 0 0 (.file 3 .writable) (wrote 3)) = some s' ∧
        ((s'.threads 0).cs 0).hasPending = true ∧
        (Label.run 0 0 (.file 3 .writable) (wrote 3)).fires s 0 (Ctx.writeableFor · 0) = true :=
    ⟨_, rfl, _, rfl, by decide⟩
  exact ⟨s, s', h, h', hp.1, hp.2, connections_change_by_conn_steps (Reachable.run oneConn (.init 0) h) h' 0 0⟩

/-! ## 予定より早いバッチはない -/

/-- 到達できるすべての状態で、応答を待つバッチのある接続は、そのバッチを予定の時刻
`thread_start + complete_at_last_batch_start / throughput` より前に始めていない。だからそのバッチの応答に
`response_complete` が記録する補正つきの遅れは、いつ届いても補正なしの遅れ `now - actual_latency_start` を
下回らない。補正は遅れを足すだけである。 -/
theorem batch_never_ahead_of_schedule {cfg : Config} {s : System} (hr : Reachable cfg s) (w i : Nat)
    (h : ((s.threads w).cs i).hasPending = true) :
    let c := (s.threads w).cs i
    c.threadStart + cfg.throughput.usec c.completeAtLastBatchStart ≤ c.actualLatencyStart ∧
      ∀ now : Nat, (now - c.actualLatencyStart : Int) ≤ expectedLatencyTiming cfg c now := by
  have ho : ((s.threads w).cs i).OnSchedule cfg.throughput :=
    hr.thread_inv_wf (fun th _ => ∀ i, (th.cs i).OnSchedule cfg.throughput) (fun _ _ _ h => by cases h)
      (fun _ _ _ h _ => h) (fun _ _ _ _ hw h ho => hw.dispatch_onSchedule h ho) w i
  exact ⟨ho h, fun now => by have := ho h; unfold expectedLatencyTiming; omega⟩

theorem batch_never_ahead_of_schedule_lateBatch :
    ∃ s, run warmupConn (System.init warmupConn 0) (warmupRun.take 5) = some s ∧
      ((s.threads 0).cs 0).hasPending = true ∧ ((s.threads 0).cs 0).actualLatencyStart = 1000000 ∧
      let c := (s.threads 0).cs 0
      c.threadStart + warmupConn.throughput.usec c.completeAtLastBatchStart ≤ c.actualLatencyStart ∧
        ∀ now : Nat, (now - c.actualLatencyStart : Int) ≤ expectedLatencyTiming warmupConn c now := by
  have h : run warmupConn (System.init warmupConn 0) (warmupRun.take 5) = some _ := rfl
  exact ⟨_, h, by decide, by decide,
    batch_never_ahead_of_schedule (Reachable.run warmupConn (.init 0) h) 0 0 (by decide)⟩

/-! ## 接続を保たない応答のあとのバイト -/

/-- 最初のバッチの応答が、接続を保たない応答として時刻 500 に届く。一度の `sock.read` の 20 バイトのうち、
パーサーは応答の 10 バイトを読んで `response_complete` を呼び、11 バイト目を受け付けないので
`http_parser_execute` は 10 を返す。 -/
def closeThenBytesRun : List Label :=
  firstBatch ++
    [.run 0 500 (.file 3 .readable) { io₀ with chunks := [⟨.ok 20, [.messageComplete 200 false], 10, 0⟩] }]

/-- `response_complete` が `reconnect_socket` で新しいソケットに替えたあとも、`socket_readable` は同じ
読み出しの残りをパーサーに渡し、その誤りを `errors.read` に数えてもう一度つなぎ直す。 -/
theorem closed_response_charges_read_error :
    (run oneConn (System.init oneConn 0) closeThenBytesRun).map
      (fun s => ((s.threads 0).errors.reconnect, (s.threads 0).errors.read, (s.threads 0).complete)) =
    some (2, 1, 1) := by decide

/-! ## 読み残し -/

/-- 2 スレッド、スレッドごとに 2 接続、ウォームアップあり（1000 ms で打ち切り）。 -/
def barrierConn : Config := { oneConn with
  threads := 2
  connections := 4
  duration := 10
  warmup := true
  warmupTimeout := 1000
  threads_pos := by decide
  threads_le := by decide }

/-- ワーカー 0 の接続 0 は時刻 0 に確立し、接続 1 は時刻 5000 に `connect()` が失敗して二度とつながらない。
ワーカー 1 の二つの接続は確立して `g_ready_threads` を 1 にする。ワーカー 0 はウォームアップを打ち切られて
`NORMAL` に入り、接続 0 が読み出しの誤りでつなぎ直して記述子 3 で再び確立する。ワーカー 1 の
`inter_thread_sync` が時刻 1005000 に起こる。 -/
def earlyBarrierRun : List Label :=
  [.run 0 0 .threadMain io₀, .run 1 0 .threadMain io₀,
    .run 0 0 (.time 0) io₀, .run 0 0 (.file 3 .writable) io₀,
    .run 1 0 (.time 0) io₀, .run 1 0 (.file 4 .writable) io₀,
    .run 0 5000 (.time 1) { io₀ with dials := [⟨false, true⟩] },
    .run 1 5000 (.time 1) io₀, .run 1 5000 (.file 5 .writable) io₀,
    .run 0 1000000 (.time 3) io₀, .run 0 1000000 (.file 3 .readable) readFails,
    .run 0 1000000 (.file 3 .writable) io₀,
    .run 1 1005000 (.time 4) io₀]

/-- `errors.established` はつなぎ直しの確立も数えるので、ワーカー 0 は接続 1 がつながらないまま
`established == connections` に達して `g_ready_threads` を 2 にし、`g_is_ready` が立つ。ワーカー 1 は
バリアを通って `NORMAL` に入るが、ワーカー 0 の接続 1 は一度も確立していない。 -/
theorem barrier_counts_reestablished :
    (run barrierConn (System.init barrierConn 0) earlyBarrierRun).map
      (fun s => (s.g.readyThreads, s.g.isReady, (s.threads 0).errors.established,
        ((s.threads 0).cs 1).isConnected, (s.threads 0).errors.connect, (s.threads 1).phase)) =
    some (2, true, 2, false, 1, .normal) := by decide

/-! ## 確立の数 -/

/-- 到達できるすべての状態のすべてのワーカーで、`errors.established` とつながっていない接続の数の和は
`connections + errors.reconnect` を越えない。つながっていない接続一つ一つに、まだ確立を数えていない接続の
試みが残っている。そのため `errors.established ≤ connections + errors.reconnect` である。 -/
theorem established_le_connections_add_reconnect {cfg : Config} {s : System} (hr : Reachable cfg s) (w : Nat) :
    (s.threads w).errors.established + (s.threads w).unconnected cfg ≤
      cfg.perThread + (s.threads w).errors.reconnect ∧
    (s.threads w).errors.established ≤ cfg.perThread + (s.threads w).errors.reconnect :=
  have h := hr.established_add_unconnected_le w
  ⟨h, by omega⟩

theorem established_le_connections_add_reconnect_earlyBarrier :
    ∃ s, run barrierConn (System.init barrierConn 0) earlyBarrierRun = some s ∧
      (s.threads 0).errors.established = 2 ∧
      (s.threads 0).errors.established + (s.threads 0).unconnected barrierConn ≤
        barrierConn.perThread + (s.threads 0).errors.reconnect ∧
      (s.threads 0).errors.established ≤ barrierConn.perThread + (s.threads 0).errors.reconnect := by
  have h : run barrierConn (System.init barrierConn 0) earlyBarrierRun = some _ := rfl
  exact ⟨_, h, by decide, established_le_connections_add_reconnect (Reachable.run barrierConn (.init 0) h) 0⟩

/-! ## 標本の時計 -/

/-- 到達できるすべての状態で、ワーカーの標本の時間イベントが期限の来た時刻 `t` に呼ばれれば、
`sample_rate` の `elapsed_ms = (t - start) / 1000` は 0 でなく、`requests / elapsed_ms` は 0 で割らない。
`interval` は 10 以上で `int` に収まる。 -/
theorem sample_rate_elapsed_pos {cfg : Config} {s : System} (hr : Reachable cfg s) (w id : Nat) {te : TimeEvent}
    {t : Nat} (he : (s.threads w).loop.timeEvents id = some te) (hp : te.timeProc = .sampleRate)
    (ht : te.when ≤ t) :
    0 < subU64 t (s.threads w).start / 1000 ∧ 10 ≤ (s.threads w).interval ∧ (s.threads w).interval < 2 ^ 31 := by
  obtain ⟨h₁, h₂, h₃⟩ := (hr.sampleOk w).sample id te he hp
  rw [subU64_of_le (by omega)]
  exact ⟨Nat.div_pos (by omega) (by decide), h₁, h₂⟩

/-- ウォームアップのあと、時刻 11 秒の `calibrate` が記録した遅れ 1000500 µs の P90 から間隔 2001 ms を
決め、時間イベント 5 に標本を置く。 -/
def calibratedRun : List Label := warmupRun ++ [.run 0 11000000 (.time 4) io₀]

theorem sample_rate_elapsed_pos_calibrated :
    ∃ s, run warmupConn (System.init warmupConn 0) calibratedRun = some s ∧
      (s.threads 0).loop.timeEvents 5 = some ⟨13001000, .sampleRate⟩ ∧
      0 < subU64 13001000 (s.threads 0).start / 1000 ∧ 10 ≤ (s.threads 0).interval ∧
      (s.threads 0).interval < 2 ^ 31 := by
  have h : run warmupConn (System.init warmupConn 0) calibratedRun = some _ := rfl
  exact ⟨_, h, by decide, sample_rate_elapsed_pos (Reachable.run warmupConn (.init 0) h) 0 5 rfl rfl le_rfl⟩

/-! ## 購読の持ち主と停止 -/

/-- 到達できるすべての状態で、ワーカーの購読はどれも、ワーカーの接続の一つ（番号が `connections` より
小さい）のもので、その記述子はその接続の `c->fd` である。だから `socket_connected`、`socket_readable`、
`socket_writeable` が受け取る `fd` と `c->fd` はいつも一致する。 -/
theorem subscription_belongs_to_connection {cfg : Config} {s : System} (hr : Reachable cfg s) (w fd : Nat)
    (dir : Dir) {p : FileProc} (hp : ((s.threads w).loop.events fd).proc dir = some p) :
    ((s.threads w).loop.events fd).clientData < cfg.perThread ∧
      ((s.threads w).cs ((s.threads w).loop.events fd).clientData).fd = fd :=
  ⟨Nat.lt_of_not_le fun hge => ((hr.wf w).outside _ hge).1 fd dir p hp rfl, hr.owned w fd dir p hp⟩

theorem subscription_belongs_to_connection_connected :
    ∃ s, run oneConn (System.init oneConn 0) connected = some s ∧
      ((s.threads 0).loop.events 3).proc .readable = some .socketReadable ∧
      ((s.threads 0).loop.events 3).clientData < oneConn.perThread ∧
      ((s.threads 0).cs ((s.threads 0).loop.events 3).clientData).fd = 3 := by
  have h : run oneConn (System.init oneConn 0) connected = some _ := rfl
  exact ⟨_, h, rfl,
    subscription_belongs_to_connection (Reachable.run oneConn (.init 0) h) 0 3 .readable (p := .socketReadable) rfl⟩

/-- 到達できる状態で、ワーカー `w` の `check_stop` が `SIGINT` のあとか `stop_at` を過ぎてから起こると、
そのワーカーのループは止まり（`aeStop`）、読み書きの購読は一つも残らない。`close_all_conn` が閉じるのは
各接続の今の `c->fd` だけだが、購読はどれもそのどれかの上にある。 -/
theorem check_stop_unsubscribes_all {cfg : Config} {s s' : System} (hr : Reachable cfg s) (w t id : Nat) {io : Io}
    {te : TimeEvent} (he : (s.threads w).loop.timeEvents id = some te) (hp : te.timeProc = .checkStop)
    (hs : s.g.stop = true ∨ (s.threads w).stopAt ≤ t) (h : step cfg s (.run w t (.time id) io) = some s') :
    (s'.threads w).loop.stop = true ∧ ∀ fd dir, ((s'.threads w).loop.events fd).proc dir = none := by
  simp only [step] at h
  split_ifs at h
  obtain ⟨y, hy, rfl⟩ := Option.map_eq_some'.mp h
  rcases dispatch_eq_some cfg hy with ⟨e, -⟩ | ⟨id', te', e, hte, -, rfl⟩ | ⟨_, _, _, e, -⟩
  · cases e
  · cases e
    obtain rfl : te' = te := Option.some.inj (hte.symm.trans he)
    obtain ⟨h₁, h₂⟩ := checkStop_unsubscribes (x := s.ctx w t io.dials) (hr.wf w) (hr.owned w) hs
    simp only [System.put, setAt_apply, if_true, Ctx.modifyLoop_loop, Loop.rearm_stop, Loop.rearm_events, hp,
      timeProc]
    exact ⟨h₁, h₂⟩
  · cases e

/-- 接続のあとに `SIGINT` が来て、時刻 2 秒に `check_stop` が起こる。 -/
def stoppedRun : List Label := connected ++ [.sigint]

theorem check_stop_unsubscribes_all_sigint :
    ∃ s s', run oneConn (System.init oneConn 0) stoppedRun = some s ∧
      step oneConn s (.run 0 2000000 (.time 1) io₀) = some s' ∧
      (s.threads 0).loop.timeEvents 1 = some ⟨2000000, .checkStop⟩ ∧ s.g.stop = true ∧
      (s'.threads 0).loop.stop = true ∧ ∀ fd dir, ((s'.threads 0).loop.events fd).proc dir = none := by
  have h : run oneConn (System.init oneConn 0) stoppedRun = some _ := rfl
  exact ⟨_, _, h, rfl, rfl, rfl,
    check_stop_unsubscribes_all (Reachable.run oneConn (.init 0) h) 0 2000000 1 rfl rfl (.inl rfl) rfl⟩

/-! ## 測る窓 -/

/-- 到達できる状態 `s` で時計がワーカー `w` の `stop_at` を過ぎていれば、そこからのどの実行のあとでも、
ワーカーは何も記録していない。どの接続の `complete` も `s` のときのままで、二つのヒストグラムは `s` のときの
ままか空である。`stop_at` を過ぎて届いた応答は、スレッドの `complete` には数えられるが、遅れとしては
記録されない。 -/
theorem nothing_recorded_after_stop_at {cfg : Config} {s s' : System} (hr : Reachable cfg s) {ls : List Label}
    (h : run cfg s ls = some s') (w : Nat) (hs : (s.threads w).stopAt ≤ s.now) :
    (s.threads w).Unrecorded (s'.threads w) := by
  induction ls generalizing s with
  | nil => cases h; exact .refl _
  | cons l ls ih =>
    simp only [run, Option.bind_eq_some] at h
    obtain ⟨s₁, h₁, h⟩ := h
    obtain ⟨hn, hst, hu⟩ := hr.step_window h₁ w
    exact (hu hs).trans (ih (hr.step l h₁) h (hst.trans_le (hs.trans hn)))

/-- 最初のバッチのあと、時刻 1 秒（`stop_at`）に記述子 3 が読むものなしで読み込み可能になる。 -/
def atStopAt : List Label := firstBatch ++ [.run 0 1000000 (.file 3 .readable) io₀]

/-- 最初のバッチの応答が時刻 1000500 に届く。 -/
def lateResponse : List Label := [.run 0 1000500 (.file 3 .readable) (reads 10 okResponse)]

theorem nothing_recorded_after_stop_at_lateResponse :
    ∃ s s', run oneConn (System.init oneConn 0) atStopAt = some s ∧ run oneConn s lateResponse = some s' ∧
      (s.threads 0).stopAt ≤ s.now ∧ (s'.threads 0).complete = (s.threads 0).complete + 1 ∧
      (s.threads 0).Unrecorded (s'.threads 0) := by
  have h : run oneConn (System.init oneConn 0) atStopAt = some _ := rfl
  exact ⟨_, _, h, rfl, by decide, by decide,
    @nothing_recorded_after_stop_at _ _ _ (Reachable.run oneConn (.init 0) h) lateResponse rfl 0 (by decide)⟩

/-! ## バリアの数 -/

/-- 到達できるすべての状態で、どのインターリーブでも、`g_ready_threads` は、ウォームアップで確立の数が
接続の数に達したワーカーの数に等しい。ワーカーを二度数えることはなく、`g_ready_threads` は `threads` を
越えない。`g_is_ready` が立っているのは、すべてのワーカーが達したときであり、そのときに限る。 -/
theorem barrier_counts_each_worker_once {cfg : Config} {s : System} (hr : Reachable cfg s) :
    s.g.readyThreads = s.readyCount cfg ∧ s.g.readyThreads ≤ cfg.threads ∧
      (s.g.isReady = true ↔
        ∀ w < cfg.threads, cfg.warmup = true ∧ cfg.perThread ≤ (s.threads w).errors.established) := by
  obtain ⟨hc, hi⟩ := hr.barrier
  have hall : s.readyCount cfg = cfg.threads ↔ ∀ w ∈ List.range cfg.threads, (s.threads w).ready cfg = true := by
    conv_rhs => rw [← List.countP_eq_length, List.length_range]
    rfl
  refine ⟨hc, hc ▸ (List.countP_le_length _).trans_eq (List.length_range _), ?_⟩
  rw [hi, hc, hall]
  simp [List.mem_range, Thread.ready]

theorem barrier_counts_each_worker_once_earlyBarrier :
    ∃ s, run barrierConn (System.init barrierConn 0) earlyBarrierRun = some s ∧ s.g.isReady = true ∧
      s.g.readyThreads = s.readyCount barrierConn ∧ s.g.readyThreads ≤ barrierConn.threads ∧
      (s.g.isReady = true ↔ ∀ w < barrierConn.threads,
        barrierConn.warmup = true ∧ barrierConn.perThread ≤ (s.threads w).errors.established) := by
  have h : run barrierConn (System.init barrierConn 0) earlyBarrierRun = some _ := rfl
  exact ⟨_, h, by decide, barrier_counts_each_worker_once (Reachable.run barrierConn (.init 0) h)⟩

/-! ## 記述子 -/

/-- 到達できるどの状態でも、どのインターリーブでも、`thread_main` を終え、ループがまだ止まっていないワーカーは
`check_stop` の時間イベントを持ち、その期限は時計から `STOP_CHECK_INTERNAL_MS`（2 秒）以内である。時計がその
期限と `stop_at` を過ぎたどの時刻にも、その時間イベントは起こせて、起こればワーカーのループは止まり（`aeStop`）、
購読は一つも残らない。動いているワーカーが止まれなくなる状態はない。 -/
theorem worker_always_stoppable {cfg : Config} {s : System} (hr : Reachable cfg s) (w : Nat)
    (hw : w < cfg.threads) (hp : (s.threads w).phase ≠ .init) (hs : (s.threads w).loop.stop = false) :
    ∃ id when, (s.threads w).loop.timeEvents id = some ⟨when, .checkStop⟩ ∧
      when ≤ s.now + stopCheckInternalMs * 1000 ∧
      ∀ t io, s.now ≤ t → when ≤ t → (s.threads w).stopAt ≤ t →
        ∃ s', step cfg s (.run w t (.time id) io) = some s' ∧ (s'.threads w).loop.stop = true ∧
          ∀ fd dir, ((s'.threads w).loop.events fd).proc dir = none := by
  obtain ⟨id, -, when, hte, hwhen⟩ := hr.stopTimer w hp
  refine ⟨id, when, hte, hwhen, fun t io ht hwt hst => ⟨_, step_time io hw ht hs hte hwt, ?_⟩⟩
  obtain ⟨h₁, h₂⟩ := checkStop_unsubscribes (x := s.ctx w t io.dials) (hr.wf w) (hr.owned w) (.inr hst)
  simp only [System.put, setAt_apply, if_true, Ctx.modifyLoop_loop, Loop.rearm_stop, Loop.rearm_events, timeProc]
  exact ⟨h₁, h₂⟩

theorem worker_always_stoppable_connected :
    ∃ s, run oneConn (System.init oneConn 0) connected = some s ∧ (s.threads 0).phase ≠ .init ∧
      (s.threads 0).loop.stop = false ∧
      ∃ id when, (s.threads 0).loop.timeEvents id = some ⟨when, .checkStop⟩ ∧
        when ≤ s.now + stopCheckInternalMs * 1000 ∧
        ∀ t io, s.now ≤ t → when ≤ t → (s.threads 0).stopAt ≤ t →
          ∃ s', step oneConn s (.run 0 t (.time id) io) = some s' ∧ (s'.threads 0).loop.stop = true ∧
            ∀ fd dir, ((s'.threads 0).loop.events fd).proc dir = none := by
  have h : run oneConn (System.init oneConn 0) connected = some _ := rfl
  exact ⟨_, h, by decide, by decide,
    worker_always_stoppable (Reachable.run oneConn (.init 0) h) 0 (by decide) (by decide) (by decide)⟩

/-! ## ウォームアップは終わる -/

/-- 到達できるどの状態でも、どのインターリーブでも、ループが止まっていない `WARMUP` のワーカーは
`warmup_timed_out` の時間イベントを持ち、その期限は `thread_main` が取った `start` から `warmup_timeout`
ミリ秒後である。時計がその期限を過ぎたどの時刻にも、その時間イベントは起こせて、起こればワーカーはその時刻に
`NORMAL` に入る。ほかのワーカーの接続が揃わなくても、動いているワーカーのウォームアップは `warmup_timeout`
より長くは続かない。 -/
theorem warmup_always_ends {cfg : Config} {s : System} (hr : Reachable cfg s) (w : Nat) (hw : w < cfg.threads)
    (hp : (s.threads w).phase = .warmup) (hs : (s.threads w).loop.stop = false) :
    ∃ id, (s.threads w).loop.timeEvents id =
        some ⟨(s.threads w).start + cfg.warmupTimeoutMs * 1000, .warmupTimedOut⟩ ∧
      ∀ t io, s.now ≤ t → (s.threads w).start + cfg.warmupTimeoutMs * 1000 ≤ t →
        ∃ s', step cfg s (.run w t (.time id) io) = some s' ∧ (s'.threads w).phase = .normal ∧
          (s'.threads w).phaseNormalStart = t := by
  obtain ⟨id, -, hte⟩ := hr.warmupTimer w hp
  refine ⟨id, hte, fun t io ht hwt => ⟨_, step_time io hw ht hs hte hwt, ?_⟩⟩
  simp [System.put, timeProc, warmupTimedOut, phaseMove, System.ctx, hp]

theorem warmup_always_ends_connected :
    ∃ s, run warmupConn (System.init warmupConn 0) connected = some s ∧ (s.threads 0).phase = .warmup ∧
      (s.threads 0).loop.stop = false ∧
      ∃ id, (s.threads 0).loop.timeEvents id =
          some ⟨(s.threads 0).start + warmupConn.warmupTimeoutMs * 1000, .warmupTimedOut⟩ ∧
        ∀ t io, s.now ≤ t → (s.threads 0).start + warmupConn.warmupTimeoutMs * 1000 ≤ t →
          ∃ s', step warmupConn s (.run 0 t (.time id) io) = some s' ∧ (s'.threads 0).phase = .normal ∧
            (s'.threads 0).phaseNormalStart = t := by
  have h : run warmupConn (System.init warmupConn 0) connected = some _ := rfl
  exact ⟨_, h, by decide, by decide,
    warmup_always_ends (Reachable.run warmupConn (.init 0) h) 0 (by decide) (by decide) (by decide)⟩

/-! ## ウォームアップは数えない -/

/-- 到達できるすべての状態で、どのインターリーブでも、`NORMAL` に入っていないワーカーは、応答を一つも数えず
（`complete` と `requests` は 0）、一バイトも読まず（`bytes` は 0）、遅れを一つも記録していない。ウォームアップ
の間の接続の確立は、`main` が集計する数とヒストグラムに入らない。 -/
theorem nothing_measured_before_normal {cfg : Config} {s : System} (hr : Reachable cfg s) (w : Nat)
    (hp : (s.threads w).phase ≠ .normal) :
    (s.threads w).complete = 0 ∧ (s.threads w).requests = 0 ∧ (s.threads w).bytes = 0 ∧
      (s.threads w).latencyHistogram = [] ∧ (s.threads w).uLatencyHistogram = [] := by
  simpa only [Thread.measured, Prod.mk.injEq] using hr.unmeasured w hp

theorem nothing_measured_before_normal_connected :
    ∃ s, run warmupConn (System.init warmupConn 0) connected = some s ∧ (s.threads 0).phase = .warmup ∧
      ((s.threads 0).cs 0).isConnected = true ∧
      (s.threads 0).complete = 0 ∧ (s.threads 0).requests = 0 ∧ (s.threads 0).bytes = 0 ∧
        (s.threads 0).latencyHistogram = [] ∧ (s.threads 0).uLatencyHistogram = [] := by
  have h : run warmupConn (System.init warmupConn 0) connected = some _ := rfl
  exact ⟨_, h, by decide, by decide,
    nothing_measured_before_normal (Reachable.run warmupConn (.init 0) h) 0 (by decide)⟩

/-! ## バリアのあとのウォームアップ -/

/-- 到達できるどの状態でも、どのインターリーブでも、`g_is_ready` が立ったあと、ループが止まらずに `WARMUP` に
いるワーカーは `inter_thread_sync` の時間イベントを持ち、その期限は時計から `THREAD_SYNC_INTERVAL_MS`（1 秒）
以内である。期限を過ぎたどの時刻にもその時間イベントは起こせて、起こればワーカーはその時刻に `NORMAL` に入る。
すべてのワーカーが数えられたあと、動いているどのワーカーも 1 秒以内にウォームアップを抜けられる。 -/
theorem ready_workers_leave_warmup {cfg : Config} {s : System} (hr : Reachable cfg s) (hg : s.g.isReady = true)
    (w : Nat) (hw : w < cfg.threads) (hp : (s.threads w).phase = .warmup) (hs : (s.threads w).loop.stop = false) :
    ∃ id when, (s.threads w).loop.timeEvents id = some ⟨when, .interThreadSync⟩ ∧
      when ≤ s.now + threadSyncIntervalMs * 1000 ∧
      ∀ t io, s.now ≤ t → when ≤ t →
        ∃ s', step cfg s (.run w t (.time id) io) = some s' ∧ (s'.threads w).phase = .normal ∧
          (s'.threads w).phaseNormalStart = t := by
  have he : cfg.warmup = true ∧ cfg.perThread ≤ (s.threads w).errors.established := by
    simpa [Thread.ready] using hr.ready_of_isReady hg hw
  obtain ⟨id, -, when, hte, hwhen⟩ := hr.syncTimer w hp he.2
  refine ⟨id, when, hte, hwhen, fun t io ht hwt => ⟨_, step_time io hw ht hs hte hwt, ?_⟩⟩
  simp [System.put, timeProc, interThreadSync, phaseMove, System.ctx, hp, hg]

theorem ready_workers_leave_warmup_earlyBarrier :
    ∃ s, run barrierConn (System.init barrierConn 0) earlyBarrierRun.dropLast = some s ∧ s.g.isReady = true ∧
      (s.threads 1).phase = .warmup ∧ (s.threads 1).loop.stop = false ∧
      ∃ id when, (s.threads 1).loop.timeEvents id = some ⟨when, .interThreadSync⟩ ∧
        when ≤ s.now + threadSyncIntervalMs * 1000 ∧
        ∀ t io, s.now ≤ t → when ≤ t →
          ∃ s', step barrierConn s (.run 1 t (.time id) io) = some s' ∧ (s'.threads 1).phase = .normal ∧
            (s'.threads 1).phaseNormalStart = t := by
  have h : run barrierConn (System.init barrierConn 0) earlyBarrierRun.dropLast = some _ := rfl
  exact ⟨_, h, by decide, by decide, by decide,
    ready_workers_leave_warmup (Reachable.run barrierConn (.init 0) h) (by decide) 1 (by decide) (by decide)
      (by decide)⟩

end Wrk2
