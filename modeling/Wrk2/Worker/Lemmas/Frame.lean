import Wrk2.Worker.Lemmas.Acts

/-!
# 各コールバックの範囲

接続 `i` のためのコールバックは接続 `i` だけを変え、`clientData = i` の購読と決まった時間イベントだけを
加える。どの種類の購読と時間イベントを加えうるかを、コールバックごとに仮定として書く。
-/

namespace Wrk2

open Ctx

variable {cfg : Config} {ω : Writes} {pc : Nat → Prop} {pf : FileProc → Prop} {pd : Nat → Prop}
  {pt : TimeProc → Prop} {x : Ctx} {i fd : Nat}

/-! ## 書きうるもの -/

namespace Writes

/-- `connect_socket` の、`socket()` が記述子を返したあと: `connect_mask`、新しい記述子と、記述子表。 -/
def dial : Writes := ⟨[.mask, .fd], [.fds]⟩

/-- `connect_socket`: 接続を切ったしるし、`connect_mask`、新しい記述子と、記述子表。 -/
def connect : Writes := ⟨[.disconnect, .mask, .fd], [.fds]⟩

/-- `reconnect_socket`: `connect_socket` のものに、つなぎ直しの数。 -/
def reconnect : Writes := ⟨[.disconnect, .mask, .fd], [.fds, .reconnect]⟩

/-- `socket_connected` の確立: `written` と確立のしるし、確立の数、`g_ready_threads` と `g_is_ready`。 -/
def established : Writes := ⟨[.establish], [.established, .ready]⟩

/-- `socket_connected`: 確立か、つなぎ直しか、`connect_mask` の変更。 -/
def connected : Writes := ⟨[.disconnect, .mask, .fd, .establish], [.fds, .reconnect, .established, .ready]⟩

/-- `response_complete` の前半: スレッドの数え上げと、スクリプトに渡すヘッダと本文。 -/
def deliver : Writes := ⟨[.parse], [.counts, .delivered]⟩

/-- `response_complete` の、`stop_at` の前の記録: 接続の `complete` と `pending`、二つのヒストグラム。 -/
def record : Writes := ⟨[.complete, .countDown], [.hist]⟩

/-- `response_complete` と `socket_readable`: パーサーのバッファ、応答の数え上げと記録、台本に渡した応答、
つなぎ直し。 -/
def readable : Writes :=
  ⟨[.parse, .countDown, .complete, .disconnect, .mask, .fd], [.counts, .hist, .delivered, .fds, .reconnect]⟩

/-- `sock.write` とその結果の処理: 書いた長さ、つなぎ直し。 -/
def write : Writes := ⟨[.send, .finish, .disconnect, .mask, .fd], [.fds, .reconnect]⟩

/-- `socket_writeable`: ペーサー、バッチの始まり、書いた長さ、つなぎ直し。 -/
def writeable : Writes := ⟨[.pacer, .begin, .send, .finish, .disconnect, .mask, .fd], [.fds, .reconnect]⟩

/-- `delay_request`: ペーサーだけ。 -/
def delay : Writes := ⟨[.pacer], []⟩

/-- `delayed_initial_connect`: 予定の起点と、`connect_socket` のもの。 -/
def initial : Writes := ⟨[.anchor, .disconnect, .mask, .fd], [.fds]⟩

/-- `check_stop`: 閉じる記述子だけ。 -/
def stop : Writes := ⟨[], [.fds]⟩

/-- `calibrate`: 標本の時計、`requests`、二つのヒストグラム。 -/
def calibrate : Writes := ⟨[], [.clock, .counts, .hist]⟩

/-- `sample_rate`: 標本の時計と `requests`。 -/
def sample : Writes := ⟨[], [.clock, .counts]⟩

end Writes

/-- 購読のコールバックが書きうるもの。 -/
def FileProc.writes : FileProc → Writes
  | .socketConnected => Writes.connected
  | .socketReadable => Writes.readable
  | .socketWriteable => Writes.writeable

/-- 時間イベントのコールバックが書きうるもの。段階を動かす `phase_move` は接続の外の欄を書くので、
別に扱う。 -/
def TimeProc.writes : TimeProc → Writes
  | .delayedInitialConnect _ => Writes.initial
  | .delayRequest _ => Writes.delay
  | .checkStop => Writes.stop
  | .calibrate => Writes.calibrate
  | .sampleRate => Writes.sample
  | .warmupTimedOut | .interThreadSync => ⟨[], []⟩

/-- 時間イベントのコールバックが書きうるものを合わせた範囲。確立、つなぎ直し、応答、バッチには触れない。 -/
def Writes.timer : Writes := ⟨[.anchor, .disconnect, .mask, .fd, .pacer], [.fds, .clock, .counts, .hist]⟩

theorem TimeProc.writes_le (p : TimeProc) : p.writes.Le Writes.timer := by
  cases p <;> exact of_decide_eq_true rfl

/-! ## 接続 -/

theorem acts_connectError (hω : .fds ∈ ω.parts) : Acts cfg ω pc pf pd pt x (connectError fd x) :=
  (acts_modifyErrors _ rfl rfl).trans (acts_openFds _ hω)

/-- `connect_socket` の、`socket()` が記述子を返したあと。 -/
theorem acts_connectFd (hω : Writes.dial.Le ω) (hi : pc i) (hf : pf .socketConnected) (hd : pd i) (fd : Nat)
    (o : SocketOutcome) : Acts cfg ω pc pf pd pt x (connectFd i fd o x) := by
  unfold connectFd; split_ifs
  · exact ((acts_modifyConn i _ hi (hω.kind (by decide)) (.mask _)).trans (acts_createFileEvent _ _ _ _ hf hd)).trans
      (acts_modifyConn i _ hi (hω.kind (by decide)) (.fd _))
  · exact (acts_modifyConn i _ hi (hω.kind (by decide)) (.mask _)).trans (acts_connectError (hω.part (by decide)))
  · exact acts_connectError (hω.part (by decide))

theorem acts_connectSocket (hω : Writes.connect.Le ω) (hi : pc i) (hf : pf .socketConnected) (hd : pd i) :
    Acts cfg ω pc pf pd pt x (connectSocket i x) :=
  (((acts_modifyConn i _ hi (hω.kind (by decide)) .disconnect).trans acts_dropDial).trans
    (acts_openFds _ (hω.part (by decide)))).trans (acts_connectFd (hω.sub (by decide)) hi hf hd _ _)

theorem acts_reconnectSocket (hω : Writes.reconnect.Le ω) (hi : pc i) (hf : pf .socketConnected) (hd : pd i) :
    Acts cfg ω pc pf pd pt x (reconnectSocket i x) :=
  (((acts_deleteFileEvent _ _).trans (acts_openFds _ (hω.part (by decide)))).trans
    (acts_countReconnect (hω.part (by decide)))).trans (acts_connectSocket (hω.sub (by decide)) hi hf hd)

theorem acts_connectRetry (hk : .mask ∈ ω.kinds) (hi : pc i) (hf : pf .socketConnected) (hd : pd i)
    (want : Mask) : Acts cfg ω pc pf pd pt x (connectRetry i want x) := by
  have hdel : ∀ (y : Ctx) del, Acts cfg ω pc pf pd pt y (retryDelete i del y) := by
    intro y del; unfold retryDelete; split_ifs
    · exact (acts_deleteFileEvent _ _).trans (acts_modifyConn i _ hi hk (.mask _))
    · exact .refl _
  have hadd : ∀ (y : Ctx) add, Acts cfg ω pc pf pd pt y (retryAdd i add y) := by
    intro y add; unfold retryAdd; split_ifs
    · exact (acts_createFileEvent _ _ _ _ hf hd).trans (acts_modifyConn i _ hi hk (.mask _))
    · exact .refl _
  exact (hdel _ _).trans (hadd _ _)

theorem acts_subscribeIfNormal (hr : x.th.phase = .normal → pf .socketReadable)
    (hw : x.th.phase = .normal → pf .socketWriteable) (hd : pd i) :
    Acts cfg ω pc pf pd pt x (subscribeIfNormal fd i x) := by
  unfold subscribeIfNormal; split_ifs with hn
  · exact (acts_createFileEvent _ _ _ _ (hr hn) hd).trans (acts_createFileEvent _ _ _ _ (hw hn) hd)
  · exact .refl _

theorem acts_reportReady (hω : .ready ∈ ω.parts) (ht : cfg.warmup → pt .interThreadSync) :
    Acts cfg ω pc pf pd pt x (reportReady cfg x) := by
  unfold reportReady; split_ifs with hw
  · exact (acts_createTimeEvent _ _ _ (ht hw.1)).trans (acts_modifyShared _ hω)
  · exact .refl _

theorem acts_connectEstablished (hω : Writes.established.Le ω) (hi : pc i)
    (hr : x.th.phase = .normal → pf .socketReadable) (hw : x.th.phase = .normal → pf .socketWriteable)
    (hd : pd i) (ht : cfg.warmup → pt .interThreadSync) :
    Acts cfg ω pc pf pd pt x (connectEstablished cfg fd i x) :=
  ((acts_modifyConn i _ hi (hω.kind (by decide)) .establish).trans (acts_countEstablished (hω.part (by decide)))).trans
    ((acts_subscribeIfNormal (by exact hr) (by exact hw) hd).trans (acts_reportReady (hω.part (by decide)) ht))

theorem acts_socketConnected (st : ConnectStatus) (hω : Writes.connected.Le ω) (hi : pc i)
    (hc : pf .socketConnected) (hr : x.th.phase = .normal → pf .socketReadable)
    (hw : x.th.phase = .normal → pf .socketWriteable) (hd : pd i) (ht : cfg.warmup → pt .interThreadSync) :
    Acts cfg ω pc pf pd pt x (socketConnected cfg fd i st x) := by
  unfold socketConnected
  split
  · split_ifs
    · exact .refl _
    · exact acts_connectEstablished (hω.sub (by decide)) hi hr hw hd ht
  · exact (acts_modifyErrors _ rfl rfl).trans (acts_reconnectSocket (hω.sub (by decide)) hi hc hd)
  · exact acts_connectRetry (hω.kind (by decide)) hi hc hd _

/-! ## 受信 -/

theorem acts_countResponse (hω : .counts ∈ ω.parts) (st : Nat) : Acts cfg ω pc pf pd pt x (countResponse st x) :=
  .of_eq rfl rfl rfl rfl rfl rfl rfl rfl fun p hp => by
    cases p <;> first | rfl | exact absurd hω hp | (show (ite _ _ _ : Errors).reconnect = _; split <;> rfl) |
      (show (ite _ _ _ : Errors).established = _; split <;> rfl)

theorem acts_scriptResponse (hi : pc i) (hk : .parse ∈ ω.kinds) (hω : .delivered ∈ ω.parts) (st : Nat) :
    Acts cfg ω pc pf pd pt x (scriptResponse i st x) := by
  unfold scriptResponse
  refine (Acts.of_eq ?_ ?_ ?_ ?_ ?_ ?_ ?_ ?_ fun p hp => ?_).trans (acts_modifyConn i _ hi hk (.parse _ _ _))
  all_goals first | rfl | (cases p <;> first | rfl | exact absurd hω hp)

theorem acts_deliverResponse (hi : pc i) (hk : .parse ∈ ω.kinds) (hω : .delivered ∈ ω.parts) (st : Nat) :
    Acts cfg ω pc pf pd pt x (deliverResponse i st x) := by
  unfold deliverResponse; split_ifs
  · exact ((acts_modifyConn i _ hi hk (.parse _ _ _)).trans (acts_scriptResponse hi hk hω st)).trans
      (acts_modifyConn i _ hi hk (.parse _ _ _))
  · exact .refl _

theorem acts_countDown (hi : pc i) (hk : .countDown ∈ ω.kinds) (hw : pf .socketWriteable) (hd : pd i) :
    Acts cfg ω pc pf pd pt x (countDown i x) := by
  unfold countDown; dsimp only; split_ifs
  · exact (acts_modifyConn i _ hi hk .countDown).trans (acts_createFileEvent _ _ _ _ hw hd)
  · exact acts_modifyConn i _ hi hk .countDown

theorem acts_recordResponse (hω : Writes.record.Le ω) (hi : pc i) (hw : pf .socketWriteable) (hd : pd i) :
    Acts cfg ω pc pf pd pt x (recordResponse cfg i x) := by
  have h₁ : Acts cfg ω pc pf pd pt x (x.modifyConn i fun c => { c with complete := c.complete + 1 }) :=
    acts_modifyConn i _ hi (hω.kind (by decide)) .complete
  exact (h₁.trans (acts_countDown hi (hω.kind (by decide)) hw hd)).record (hω.part (by decide)) (h₁.step i) _ _
    rfl rfl

/-- `response_complete` の前半。応答を数え、スクリプトに渡す。 -/
theorem acts_deliver (hω : Writes.deliver.Le ω) (hi : pc i) (st : Nat) :
    Acts cfg ω pc pf pd pt x (deliverResponse i st (countResponse st x)) :=
  (acts_countResponse (hω.part (by decide)) st).trans
    (acts_deliverResponse hi (hω.kind (by decide)) (hω.part (by decide)) st)

theorem acts_responseComplete (hω : Writes.readable.Le ω) (hi : pc i) (hc : pf .socketConnected)
    (hw : pf .socketWriteable) (hd : pd i) (st : Nat) (ka : Bool) :
    Acts cfg ω pc pf pd pt x (responseComplete cfg i st ka x) := by
  have h₀ : Acts cfg ω pc pf pd pt x (deliverResponse i st (countResponse st x)) :=
    acts_deliver (hω.sub (by decide)) hi st
  unfold responseComplete; dsimp only; split_ifs
  · exact h₀.trans acts_aeStop
  · exact h₀.trans (acts_recordResponse (hω.sub (by decide)) hi hw hd)
  · exact h₀.trans ((acts_recordResponse (hω.sub (by decide)) hi hw hd).trans
      (acts_reconnectSocket (hω.sub (by decide)) hi hc hd))

theorem acts_readError (hω : Writes.reconnect.Le ω) (hi : pc i) (hc : pf .socketConnected) (hd : pd i) :
    Acts cfg ω pc pf pd pt x (readError i x) :=
  (acts_modifyErrors _ rfl rfl).trans (acts_reconnectSocket hω hi hc hd)

theorem acts_parserCallback (hω : Writes.readable.Le ω) (hi : pc i) (hc : pf .socketConnected)
    (hw : pf .socketWriteable) (hd : pd i) : ∀ ev, Acts cfg ω pc pf pd pt x (parserCallback cfg i x ev)
  | .headerField _ | .headerValue _ | .body _ => by
    unfold parserCallback headerField headerValue responseBody; split_ifs
    · exact acts_modifyConn i _ hi (hω.kind (by decide)) (.parse _ _ _)
    · exact .refl _
  | .messageComplete st ka => acts_responseComplete hω hi hc hw hd st ka

/-- `socket_readable` の中の書き換えは、パーサーのコールバック、読み出しの誤り、`bytes` の加算を順に重ねたもの
である。反射的で推移的な関係がこの三つで保たれれば、`socket_readable` でも保たれる。 -/
theorem socketReadable_rel (R : Ctx → Ctx → Prop) (hr : ∀ x, R x x) (ht : ∀ {x y z}, R x y → R y z → R x z)
    (hp : ∀ x ev, R x (parserCallback cfg i x ev)) (he : ∀ x, R x (readError i x))
    (hb : ∀ (x : Ctx) n, R x (x.modifyThread fun th => { th with bytes := th.bytes + n })) :
    ∀ (chs : List Chunk) (x : Ctx), R x (socketReadable cfg i chs x)
  | [], x => hr x
  | ch :: rest, x => by
    have hf : ∀ (evs : List ParserEvent) (x : Ctx), R x (evs.foldl (parserCallback cfg i) x) := fun evs => by
      induction evs with
      | nil => exact hr
      | cons ev evs ih => exact fun x => ht (hp x ev) (ih _)
    unfold socketReadable
    split
    · exact hr x
    · exact he x
    · refine ht (hf ch.events x) ?_
      dsimp only; split_ifs
      · exact he _
      · exact ht (hb _ _) (socketReadable_rel R hr ht hp he hb rest _)
      · exact hb _ _

theorem acts_socketReadable (chs : List Chunk) (hω : Writes.readable.Le ω) (hi : pc i) (hc : pf .socketConnected)
    (hw : pf .socketWriteable) (hd : pd i) : Acts cfg ω pc pf pd pt x (socketReadable cfg i chs x) :=
  socketReadable_rel (Acts cfg ω pc pf pd pt) Acts.refl Acts.trans
    (fun _ => acts_parserCallback hω hi hc hw hd) (fun _ => acts_readError (hω.sub (by decide)) hi hc hd)
    (fun _ _ => .of_eq rfl rfl rfl rfl rfl rfl rfl rfl fun p hp => by
      cases p <;> first | rfl | exact absurd (hω.part (by decide)) hp) chs x

/-! ## 送信 -/

theorem acts_beginRequest (request : Bytes) (hi : pc i) (hk : .begin ∈ ω.kinds)
    (hs : (x.conn i).threadStart + cfg.throughput.usec (x.conn i).complete ≤ x.now) (hw : (x.conn i).written = 0) :
    Acts cfg ω pc pf pd pt x (beginRequest cfg i request x) :=
  acts_modifyConn' i _ hi hk (.begin _ hs hw request)

theorem acts_sendBytes (hi : pc i) (hk : .send ∈ ω.kinds) (n : Nat) : Acts cfg ω pc pf pd pt x (sendBytes i n x) := by
  unfold sendBytes
  exact (acts_modifyOs _ rfl).trans (acts_modifyConn' i _ hi hk (.send _ _ (Nat.min_le_right _ _)))

theorem acts_finishWrite (hi : pc i) (hk : .finish ∈ ω.kinds) : Acts cfg ω pc pf pd pt x (finishWrite fd i x) := by
  unfold finishWrite; split_ifs
  · exact (acts_modifyConn i _ hi hk .finish).trans (acts_deleteFileEvent _ _)
  · exact .refl _

theorem acts_writeRequest (hω : Writes.write.Le ω) (hi : pc i) (hc : pf .socketConnected) (hd : pd i) :
    ∀ w, Acts cfg ω pc pf pd pt x (writeRequest fd i w x)
  | .ok n => (acts_sendBytes hi (hω.kind (by decide)) n).trans (acts_finishWrite hi (hω.kind (by decide)))
  | .error => (acts_modifyErrors _ rfl rfl).trans (acts_reconnectSocket (hω.sub (by decide)) hi hc hd)
  | .retry => .refl _

theorem acts_delayWrite (ht : pt (.delayRequest i)) (wait : Nat) :
    Acts cfg ω pc pf pd pt x (delayWrite fd i wait x) :=
  (acts_deleteFileEvent fd aeWritable).trans (acts_createTimeEvent _ _ _ ht)

/-- ペーサーに聞いたあとの接続。 -/
theorem acts_pacer (hi : pc i) (hk : .pacer ∈ ω.kinds) :
    Acts cfg ω pc pf pd pt x (x.modifyConn i fun _ => (usecToNextSend cfg.throughput (x.conn i) x.now).2) :=
  acts_modifyConn' i _ hi hk (.pacer _)

theorem acts_socketWriteable (request : Bytes) (w : WriteResult) (hω : Writes.writeable.Le ω) (hi : pc i)
    (hc : pf .socketConnected) (hd : pd i) (ht : pt (.delayRequest i)) :
    Acts cfg ω pc pf pd pt x (socketWriteable cfg fd i request w x) := by
  unfold socketWriteable; dsimp only; split_ifs with h₀ h₁
  · exact (acts_pacer hi (hω.kind (by decide))).trans (acts_delayWrite ht _)
  · obtain ⟨u, t, k, -, e⟩ := usecToNextSend_snd cfg.throughput (x.conn i) x.now
    have hs := usecToNextSend_sched_le (not_not.mp h₁)
    exact ((acts_pacer hi (hω.kind (by decide))).trans (acts_beginRequest request hi (hω.kind (by decide))
      (by simpa [e] using hs) (by simpa [e] using h₀))).trans (acts_writeRequest (hω.sub (by decide)) hi hc hd w)
  · exact acts_writeRequest (hω.sub (by decide)) hi hc hd w

theorem acts_delayRequest (hk : .pacer ∈ ω.kinds) (hi : pc i) (hw : pf .socketWriteable) (hd : pd i) :
    Acts cfg ω pc pf pd pt x (delayRequest cfg i x).1 := by
  unfold delayRequest; dsimp only; split_ifs <;> dsimp only
  · exact acts_pacer hi hk
  · exact (acts_pacer hi hk).trans (acts_createFileEvent _ _ _ _ hw hd)

theorem acts_delayedInitialConnect (hω : Writes.initial.Le ω) (hi : pc i) (hc : pf .socketConnected) (hd : pd i)
    (hz : x.conn i = Connection.init (x.conn i).request) :
    Acts cfg ω pc pf pd pt x (delayedInitialConnect i x).1 :=
  (acts_modifyConn' i _ hi (hω.kind (by decide)) (.anchor _ hz)).trans
    (acts_connectSocket (hω.sub (by decide)) hi hc hd)

/-! ## スレッドのコールバック

スレッドのコールバックは接続を変えない。段階を変えるのは `phase_move` だけである。 -/

theorem acts_closeConn (hω : .fds ∈ ω.parts) (i : Nat) : Acts cfg ω pc pf pd pt x (closeConn x i) := by
  unfold closeConn; exact (acts_deleteFileEvent _ _).trans (acts_openFds _ hω)

theorem acts_closeAllConn (hω : .fds ∈ ω.parts) :
    ∀ (l : List Nat) (x : Ctx), Acts cfg ω pc pf pd pt x (l.foldl closeConn x)
  | [], _ => .refl _
  | i :: l, _ => (acts_closeConn hω i).trans (acts_closeAllConn hω l _)

theorem acts_checkStop (hω : .fds ∈ ω.parts) : Acts cfg ω pc pf pd pt x (checkStop cfg x).1 := by
  unfold checkStop; split_ifs <;> dsimp only
  · exact (acts_closeAllConn hω _ _).trans acts_aeStop
  · exact .refl _

theorem acts_calibrate (hω : Writes.calibrate.Le ω) (ht : pt .sampleRate) :
    Acts cfg ω pc pf pd pt x (calibrate x).1 := by
  unfold calibrate; dsimp only; split_ifs
  · exact .refl _
  · exact ⟨fun _ _ => rfl, fun _ => .refl, (Loop.adds_createTimeEvent _ _ _).mono (fun _ h => h) (fun _ h => h)
      (fun _ e => e ▸ ht), Loop.keeps_createTimeEvent _ _ _, rfl, rfl, rfl, rfl,
      fun p hp => by cases p <;> first | rfl | exact absurd (hω.part (by decide)) hp,
      fun _ h => (by cases h), fun _ h => (by cases h)⟩

theorem acts_sampleRate (hω : Writes.sample.Le ω) : Acts cfg ω pc pf pd pt x (sampleRate x).1 :=
  .of_eq rfl rfl rfl rfl rfl rfl rfl rfl fun p hp => by
    cases p <;> first | rfl | exact absurd (hω.part (by decide)) hp

section PhaseMove

variable (p : Phase)

@[simp] theorem phaseMove_conn (j : Nat) : (phaseMove cfg p x).conn j = x.conn j := by
  unfold phaseMove; split_ifs <;> rfl

@[simp] theorem phaseMove_now : (phaseMove cfg p x).now = x.now := by
  unfold phaseMove; split_ifs <;> rfl

@[simp] theorem phaseMove_phase : (phaseMove cfg p x).th.phase = p := by
  unfold phaseMove; split_ifs <;> rfl

@[simp] theorem phaseMove_latencyHistogram :
    (phaseMove cfg p x).th.latencyHistogram = x.th.latencyHistogram := by
  unfold phaseMove; split_ifs <;> rfl

@[simp] theorem phaseMove_uLatencyHistogram :
    (phaseMove cfg p x).th.uLatencyHistogram = x.th.uLatencyHistogram := by
  unfold phaseMove; split_ifs <;> rfl

theorem subscribeConn_adds (cs : Nat → Connection) :
    ∀ (l : List Nat) (el : Loop), Loop.Adds (fun q => q = .socketReadable ∨ q = .socketWriteable)
      (fun d => d ∈ l ∧ (cs d).isConnected) pt el (l.foldl (subscribeConn cs) el)
  | [], _ => .refl _
  | i :: l, el => by
    refine .trans ?_ ((subscribeConn_adds cs l _).mono (fun _ h => h)
      (fun _ h => ⟨List.mem_cons_of_mem _ h.1, h.2⟩) (fun _ h => h))
    unfold subscribeConn; split_ifs with hc
    · have hd : ∀ d, d = i → d ∈ i :: l ∧ (cs d).isConnected := by rintro _ rfl; exact ⟨.head _, hc⟩
      exact ((Loop.adds_createFileEvent _ _ _ _).mono (fun _ e => .inl e) hd (fun _ h => h)).trans
        ((Loop.adds_createFileEvent _ _ _ _).mono (fun _ e => .inr e) hd (fun _ h => h))
    · exact .refl _

/-- `phase_move` が加えるのは、ワーカーのつながった接続の読み書きの購読と `calibrate` だけである。 -/
theorem phaseMove_adds : Loop.Adds (fun q => q = .socketReadable ∨ q = .socketWriteable)
    (fun d => d < cfg.perThread ∧ (x.conn d).isConnected) (· = .calibrate) x.th.loop
    (phaseMove cfg p x).th.loop := by
  unfold phaseMove; split_ifs
  · exact ((subscribeConn_adds x.th.cs _ _).mono (fun _ h => h) (fun _ h => ⟨List.mem_range.mp h.1, h.2⟩)
      (fun _ h => h)).trans ((Loop.adds_createTimeEvent _ _ _).mono (fun _ h => h) (fun _ h => h) (fun _ h => h))
  · exact .refl _

theorem subscribeConn_foldl_timers (cs : Nat → Connection) :
    ∀ (l : List Nat) (el : Loop), (l.foldl (subscribeConn cs) el).timeEventNextId = el.timeEventNextId ∧
      (l.foldl (subscribeConn cs) el).timeEvents = el.timeEvents
  | [], _ => ⟨rfl, rfl⟩
  | i :: l, el => by
    have e : (subscribeConn cs el i).timeEventNextId = el.timeEventNextId ∧
        (subscribeConn cs el i).timeEvents = el.timeEvents := by
      unfold subscribeConn; split_ifs <;> exact ⟨rfl, rfl⟩
    obtain ⟨h₁, h₂⟩ := subscribeConn_foldl_timers cs l (subscribeConn cs el i)
    exact ⟨h₁.trans e.1, h₂.trans e.2⟩

/-- `phase_move` は較正を次の番号に置くだけで、すでにある時間イベントを残す。 -/
theorem phaseMove_keeps : Loop.Keeps x.th.loop (phaseMove cfg p x).th.loop := by
  unfold phaseMove; split_ifs
  · obtain ⟨h₁, h₂⟩ := subscribeConn_foldl_timers x.th.cs (List.range cfg.perThread) x.th.loop
    exact (Loop.Keeps.of_eq h₁ h₂).trans (Loop.keeps_createTimeEvent _ _ _)
  · exact .refl _

theorem phaseMove_loop_of_ne (h : x.th.phase ≠ .warmup) : (phaseMove cfg p x).th.loop = x.th.loop := by
  unfold phaseMove; rw [if_neg (fun h' => h h'.1)]

theorem interThreadSync_fst :
    (interThreadSync cfg x).1 = if x.g.isReady then phaseMove cfg .normal x else x := rfl

end PhaseMove

/-! ## `thread_main` -/

@[simp] theorem threadMain_cs : (threadMain cfg x).th.cs = fun _ => Connection.init cfg.initRequest :=
  rfl

@[simp] theorem threadMain_now : (threadMain cfg x).now = x.now := rfl

@[simp] theorem threadMain_phase :
    (threadMain cfg x).th.phase = if cfg.warmup then .warmup else .normal := rfl

@[simp] theorem threadMain_events : (threadMain cfg x).th.loop.events = x.th.loop.events := by
  have : ∀ n, ((List.range n).foldl (armInitialConnect x.now) x.th.loop).events = x.th.loop.events := by
    intro n; induction n with
    | zero => rfl
    | succ n ih => simpa [List.range_succ, armInitialConnect] using ih
  simp only [threadMain, armWarmupTimeout]; split_ifs <;> simpa using this _

theorem armInitialConnect_foldl_nextId (now : Nat) (el : Loop) (n : Nat) :
    ((List.range n).foldl (armInitialConnect now) el).timeEventNextId = el.timeEventNextId + n := by
  induction n with
  | zero => rfl
  | succ n ih => simp [List.range_succ, armInitialConnect, Loop.createTimeEvent, ih]; omega

/-- 接続の最初の接続の時間イベントは、`thread_main` の前の次の番号から順に並ぶ。 -/
theorem armInitialConnect_foldl_timer (now : Nat) (el : Loop) (n id : Nat) (te : TimeEvent)
    (h : ((List.range n).foldl (armInitialConnect now) el).timeEvents id = some te) :
    el.timeEvents id = some te ∨
      ∃ i, i < n ∧ id = el.timeEventNextId + i ∧ te.timeProc = .delayedInitialConnect i := by
  induction n generalizing te with
  | zero => exact .inl h
  | succ n ih =>
    simp only [List.range_succ, List.foldl_append, List.foldl_cons, List.foldl_nil, armInitialConnect,
      Loop.createTimeEvent, setAt_apply, armInitialConnect_foldl_nextId] at h
    split_ifs at h with hid
    · cases h; exact .inr ⟨n, n.lt_succ_self, hid, rfl⟩
    · exact (ih te h).imp_right fun ⟨i, hi, e⟩ => ⟨i, Nat.lt_succ_of_lt hi, e⟩

/-- `thread_main` が置く時間イベントは、最初の接続、`check_stop`、`warmup_timed_out` である。 -/
theorem threadMain_timer {id : Nat} {te : TimeEvent}
    (h : (threadMain cfg x).th.loop.timeEvents id = some te) :
    x.th.loop.timeEvents id = some te ∨
      (∃ i, i < cfg.perThread ∧ id = x.th.loop.timeEventNextId + i ∧ te.timeProc = .delayedInitialConnect i) ∨
      te.timeProc = .checkStop ∨ te.timeProc = .warmupTimedOut ∧ cfg.warmup = true := by
  have hc : ∀ {el : Loop} {ms : Nat} {p : TimeProc}, (el.createTimeEvent x.now ms p).timeEvents id = some te →
      el.timeEvents id = some te ∨ te.timeProc = p := by
    intro el ms p h
    simp only [Loop.createTimeEvent, setAt_apply] at h
    split_ifs at h
    · cases h; exact .inr rfl
    · exact .inl h
  simp only [threadMain, armWarmupTimeout] at h
  split_ifs at h with hw
  · rcases hc h with h | h
    · rcases hc h with h | h
      · exact (armInitialConnect_foldl_timer _ _ _ _ _ h).imp_right .inl
      · exact .inr (.inr (.inl h))
    · exact .inr (.inr (.inr ⟨h, hw⟩))
  · rcases hc h with h | h
    · exact (armInitialConnect_foldl_timer _ _ _ _ _ h).imp_right .inl
    · exact .inr (.inr (.inl h))

end Wrk2
