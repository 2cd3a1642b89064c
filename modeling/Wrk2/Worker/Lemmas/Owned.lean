import Wrk2.Worker.Lemmas.Fds

/-!
# 購読の持ち主

ae はファイルイベントのコールバックに記述子 `fd` と、登録のときの `clientData`（接続）を渡す。到達できる
すべての状態で、購読のある記述子の `clientData` は、その記述子を `c->fd` に持つ接続を指す
（`Thread.Owned`）。購読を作るのは接続自身の記述子の上か、`connect_socket` が新しい記述子を `c->fd` に
入れるときだけで、`reconnect_socket` は古い記述子の購読を両方の向きとも外してからつなぎ直す。
`delayed_initial_connect` の前の接続には購読がない（`Thread.Wf.untouched`）。

だから `socket_connected` が受け取る `fd` はいつも `c->fd` であり、`check_stop` が止めるときの
`close_all_conn` はワーカーの購読をすべて外す。
-/

namespace Wrk2

namespace Loop

/-- 購読のある記述子の `clientData` は、接続の表 `cs` でその記述子を持つ接続を指す。 -/
def Owned (cs : Nat → Connection) (el : Loop) : Prop :=
  ∀ fd dir p, (el.events fd).proc dir = some p → (cs (el.events fd).clientData).fd = fd

namespace Owned

variable {cs : Nat → Connection} {el el' : Loop} {c : Connection} {fd i : Nat} {m : Mask} {p : FileProc}

theorem of_events (h : el.Owned cs) (he : el'.events = el.events) : el'.Owned cs := by
  unfold Owned; rw [he]; exact h

/-- 接続 `i` の記述子の上に `i` の購読を作っても保たれる。 -/
theorem createFileEvent (h : el.Owned cs) (hd : (cs i).fd = fd) : (el.createFileEvent fd m p i).Owned cs := by
  intro fd' dir q hq
  rw [createFileEvent_events] at hq ⊢
  split_ifs at hq ⊢ with e
  · exact e ▸ hd
  · exact h fd' dir q hq

theorem deleteFileEvent (h : el.Owned cs) : (el.deleteFileEvent fd m).Owned cs := by
  intro fd' dir q hq
  rw [deleteFileEvent_events] at hq ⊢
  split_ifs at hq ⊢ with e
  · subst e; rw [FileEvent.del_proc] at hq; split_ifs at hq; exact h fd' dir q hq
  · exact h fd' dir q hq

/-- 記述子を変えない接続の書き換えで保たれる。 -/
theorem setConn (h : el.Owned cs) (hc : c.fd = (cs i).fd) : el.Owned (Wrk2.setAt cs i c) := by
  intro fd dir q hq
  rw [setAt_apply]; split_ifs with e
  · rw [hc, ← e]; exact h fd dir q hq
  · exact h fd dir q hq

/-- `connect_socket` の成功。新しい記述子に `i` の購読を作り、それを `c->fd` に入れる。 -/
theorem attach (h : el.Owned cs) (hn : el.NoSubs i) (hc : c.fd = fd) :
    (el.createFileEvent fd m p i).Owned (Wrk2.setAt cs i c) := by
  intro fd' dir q hq
  rw [createFileEvent_events] at hq ⊢
  split_ifs at hq ⊢ with e
  · simp only [FileEvent.add, setAt_apply, if_true, hc, e]
  · rw [setAt_apply, if_neg (hn fd' dir q hq)]; exact h fd' dir q hq

/-- 接続 `i` の記述子の購読を両方の向きとも外せば、`i` の購読は残らない。 -/
theorem noSubs_deleteFileEvent (h : el.Owned cs) : (el.deleteFileEvent (cs i).fd aeReadWrite).NoSubs i := by
  intro fd dir q hq e
  rw [deleteFileEvent_events] at hq e
  split_ifs at hq e with hfd
  · cases dir <;> simp [aeReadWrite] at hq
  · exact hfd (e ▸ h fd dir q hq).symm

theorem foldl_subscribeConn : ∀ (l : List Nat) {el : Loop}, el.Owned cs → (l.foldl (subscribeConn cs) el).Owned cs
  | [], _, h => h
  | i :: l, el, h => by
    have h' : (subscribeConn cs el i).Owned cs := by
      unfold subscribeConn; split_ifs
      · exact (h.createFileEvent rfl).createFileEvent rfl
      · exact h
    exact foldl_subscribeConn l h'

end Owned

end Loop

/-- ワーカーの購読はすべて、その記述子を持つ接続のものである。 -/
def Thread.Owned (th : Thread) : Prop := th.loop.Owned th.cs

namespace Thread.Owned

variable {x y : Ctx} {i d fd : Nat} {m : Mask} {p : FileProc}

theorem create (st : Nat) : (Thread.create st).Owned := fun _ dir _ h => by cases dir <;> cases h

theorem of_eq (h : x.th.Owned) (hc : y.th.cs = x.th.cs) (he : y.th.loop.events = x.th.loop.events) :
    y.th.Owned := by
  unfold Thread.Owned; rw [hc]; exact h.of_events he

theorem modifyConn (h : x.th.Owned) {f : Connection → Connection} (hf : (f (x.conn i)).fd = (x.conn i).fd) :
    (x.modifyConn i f).th.Owned :=
  Loop.Owned.setConn h hf

theorem createFileEvent (h : x.th.Owned) (hd : (x.conn d).fd = fd) :
    (x.modifyLoop (·.createFileEvent fd m p d)).th.Owned :=
  Loop.Owned.createFileEvent h hd

theorem deleteFileEvent (h : x.th.Owned) : (x.modifyLoop (·.deleteFileEvent fd m)).th.Owned :=
  Loop.Owned.deleteFileEvent h

/-- 時間イベントだけを変えるループの書き換え。 -/
theorem modifyTimers (h : x.th.Owned) {f : Loop → Loop} (he : (f x.th.loop).events = x.th.loop.events) :
    (x.modifyLoop f).th.Owned :=
  Loop.Owned.of_events h he

theorem modifyThread (h : x.th.Owned) {f : Thread → Thread} (hc : (f x.th).cs = x.th.cs)
    (hl : (f x.th).loop = x.th.loop) : (x.modifyThread f).th.Owned := by
  unfold Thread.Owned; rw [Ctx.modifyThread, hc, hl]; exact h

theorem modifyErrors (h : x.th.Owned) {f : Errors → Errors} : (x.modifyErrors f).th.Owned := h

theorem modifyOs (h : x.th.Owned) {f : Os → Os} : (x.modifyOs f).th.Owned := h

theorem modifyShared (h : x.th.Owned) {f : Shared → Shared} : (x.modifyShared f).th.Owned := h

theorem dropDial (h : x.th.Owned) : x.dropDial.th.Owned := h

end Thread.Owned

/-- 購読を加えず、`c->fd` を書かない書き換えは、購読の持ち主を保つ。 -/
theorem Ctx.Acts.owned {cfg : Config} {ω : Writes} {pc : Nat → Prop} {pt : TimeProc → Prop} {x y : Ctx}
    (h : Ctx.Acts cfg ω pc (fun _ => False) (fun _ => False) pt x y) (hk : .fd ∉ ω.kinds) (ho : x.th.Owned) :
    y.th.Owned := by
  intro fd dir p hp
  obtain hx | ⟨⟨⟩, -⟩ := h.loop.proc fd dir p hp
  rw [(h.loop.data fd).resolve_right id]
  exact (h.conn_keep_of_not_mem Connection.fd ConnStep.fd_eq hk _).trans (ho fd dir p hx)

/-! ## コールバックごとに保たれること -/

section Callbacks

variable (cfg : Config) {x : Ctx} {i fd : Nat}

theorem owned_connectFd (h : x.th.Owned) (hn : x.th.loop.NoSubs i) (o : SocketOutcome) :
    (connectFd i fd o x).th.Owned := by
  unfold connectFd connectError; split_ifs
  · exact Loop.Owned.attach (Loop.Owned.setConn h rfl) hn rfl
  · exact (h.modifyConn rfl).modifyErrors.modifyOs
  · exact h.modifyErrors.modifyOs

theorem owned_connectSocket (h : x.th.Owned) (hn : x.th.loop.NoSubs i) : (connectSocket i x).th.Owned := by
  unfold connectSocket; exact owned_connectFd (h.modifyConn rfl).dropDial.modifyOs hn _

/-- `reconnect_socket` は古い記述子の購読を外すので、`connect_socket` の前に `i` の購読は残らない。 -/
theorem owned_reconnectSocket (h : x.th.Owned) : (reconnectSocket i x).th.Owned := by
  unfold reconnectSocket
  exact owned_connectSocket h.deleteFileEvent.modifyOs.modifyErrors (Loop.Owned.noSubs_deleteFileEvent h)

theorem owned_connectRetry (h : x.th.Owned) (want : Mask) : (connectRetry i want x).th.Owned := by
  have hdel : ∀ {y : Ctx} del, y.th.Owned → (retryDelete i del y).th.Owned := fun _ h => by
    unfold retryDelete; split_ifs
    exacts [h.deleteFileEvent.modifyConn rfl, h]
  have hadd : ∀ {y : Ctx} add, y.th.Owned → (retryAdd i add y).th.Owned := fun _ h => by
    unfold retryAdd; split_ifs
    exacts [(h.createFileEvent rfl).modifyConn rfl, h]
  exact hadd _ (hdel _ h)

theorem owned_subscribeIfNormal (h : x.th.Owned) (hfd : (x.conn i).fd = fd) :
    (subscribeIfNormal fd i x).th.Owned := by
  unfold subscribeIfNormal; split_ifs
  exacts [(h.createFileEvent hfd).createFileEvent hfd, h]

theorem owned_reportReady (h : x.th.Owned) : (reportReady cfg x).th.Owned := by
  unfold reportReady; split_ifs
  exacts [(h.modifyTimers rfl).modifyShared, h]

theorem owned_connectEstablished (h : x.th.Owned) (hfd : (x.conn i).fd = fd) :
    (connectEstablished cfg fd i x).th.Owned := by
  unfold connectEstablished
  exact owned_reportReady cfg (owned_subscribeIfNormal (h.modifyConn rfl).modifyErrors (by simpa using hfd))

/-- `socket_connected` の `fd` が接続の記述子なら保たれる。 -/
theorem owned_socketConnected (h : x.th.Owned) (hfd : (x.conn i).fd = fd) (st : ConnectStatus) :
    (socketConnected cfg fd i st x).th.Owned := by
  cases st with
  | ok => unfold socketConnected; split_ifs; exacts [h, owned_connectEstablished cfg h hfd]
  | error => exact owned_reconnectSocket h.modifyErrors
  | retry r w => exact owned_connectRetry h _

theorem owned_phaseMove (h : x.th.Owned) (ph : Phase) : (phaseMove cfg ph x).th.Owned := by
  unfold phaseMove; split_ifs
  · exact (h.foldl_subscribeConn _).of_events rfl
  · exact h

theorem owned_countDown (h : x.th.Owned) : (countDown i x).th.Owned := by
  unfold countDown; dsimp only; split_ifs
  exacts [(h.modifyConn rfl).createFileEvent rfl, h.modifyConn rfl]

theorem owned_recordResponse (h : x.th.Owned) : (recordResponse cfg i x).th.Owned := by
  unfold recordResponse recordLatency; dsimp only; split_ifs
  exacts [(owned_countDown (h.modifyConn rfl)).modifyThread rfl rfl, owned_countDown (h.modifyConn rfl)]

theorem owned_responseComplete (h : x.th.Owned) (st : Nat) (ka : Bool) :
    (responseComplete cfg i st ka x).th.Owned := by
  have h₁ : (deliverResponse i st (countResponse st x)).th.Owned :=
    ((acts_countResponse (by decide) st).trans (acts_deliverResponse trivial (by decide) (by decide) st) :
      Ctx.Quiet cfg Writes.noFds (fun _ => True) _ _).owned (by decide) h
  unfold responseComplete; dsimp only; split_ifs
  · exact h₁.modifyTimers rfl
  · exact owned_recordResponse cfg h₁
  · exact owned_reconnectSocket (owned_recordResponse cfg h₁)

theorem owned_parserCallback (h : x.th.Owned) (ev : ParserEvent) : (parserCallback cfg i x ev).th.Owned := by
  cases ev <;> dsimp only [parserCallback]
  case messageComplete st ka => exact owned_responseComplete cfg h st ka
  all_goals (split_ifs; exacts [h.modifyConn rfl, h])

theorem owned_parserCallbacks : ∀ (evs : List ParserEvent) {x : Ctx}, x.th.Owned →
    (evs.foldl (parserCallback cfg i) x).th.Owned
  | [], _, h => h
  | ev :: evs, _, h => owned_parserCallbacks evs (owned_parserCallback cfg h ev)

theorem owned_socketReadable : ∀ (chs : List Chunk) {x : Ctx}, x.th.Owned → (socketReadable cfg i chs x).th.Owned
  | [], _, h => h
  | ch :: chs, x, h => by
    unfold socketReadable readError; split
    · exact h
    · exact owned_reconnectSocket h.modifyErrors
    · have h₁ := owned_parserCallbacks cfg (i := i) ch.events h
      split_ifs
      · exact owned_reconnectSocket h₁.modifyErrors
      · exact owned_socketReadable chs (h₁.modifyThread rfl rfl)
      · exact h₁.modifyThread rfl rfl

theorem owned_writeRequest (h : x.th.Owned) (w : WriteResult) : (writeRequest fd i w x).th.Owned := by
  cases w with
  | ok n =>
    have h₁ : (sendBytes i n x).th.Owned := h.modifyOs.modifyConn rfl
    dsimp only [writeRequest, finishWrite]; split_ifs
    exacts [(h₁.modifyConn rfl).deleteFileEvent, h₁]
  | error => exact owned_reconnectSocket h.modifyErrors
  | retry => exact h

/-- ペーサーのあとの接続。 -/
theorem owned_pacer (h : x.th.Owned) :
    (x.modifyConn i fun _ => (usecToNextSend cfg.throughput (x.conn i) x.now).2).th.Owned :=
  (acts_pacer trivial (by decide) : Ctx.Quiet cfg Writes.delay (fun _ => True) _ _).owned (by decide) h

theorem owned_socketWriteable (h : x.th.Owned) (request : Bytes) (w : WriteResult) :
    (socketWriteable cfg fd i request w x).th.Owned := by
  unfold socketWriteable; dsimp only; split_ifs
  · exact (acts_delayWrite trivial _ : Ctx.Quiet cfg Writes.delay (fun _ => True) _ _).owned (by decide)
      (owned_pacer cfg h)
  · exact owned_writeRequest ((owned_pacer cfg h).modifyConn rfl) w
  · exact owned_writeRequest h w

theorem owned_delayRequest (h : x.th.Owned) : (delayRequest cfg i x).1.th.Owned := by
  unfold delayRequest; dsimp only; split_ifs
  exacts [owned_pacer cfg h, (owned_pacer cfg h).createFileEvent rfl]

end Callbacks

/-! ## 一歩ごとに保たれること -/

namespace Thread.Owned

variable {cfg : Config} {io : Io} {x y : Ctx}

theorem of_time (hw : x.th.Wf cfg) (h : x.th.Owned) {id : Nat} {te : TimeEvent}
    (hte : x.th.loop.timeEvents id = some te) :
    ((timeProc cfg x te.timeProc).1.modifyLoop
      (·.rearm id x.now te.timeProc (timeProc cfg x te.timeProc).2)).th.Owned := by
  refine modifyTimers ?_ (Loop.rearm_events _ _ _ _ _)
  obtain ⟨when, p⟩ := te
  cases p with
  | delayedInitialConnect d =>
    exact owned_connectSocket (h.modifyConn rfl) (hw.untouched d ⟨id, _, hte, rfl⟩).2.1
  | delayRequest d => exact owned_delayRequest cfg h
  | checkStop => exact (acts_checkStop (by decide) : Ctx.Quiet cfg Writes.stop (fun _ => True) _ _).owned (by decide) h
  | warmupTimedOut => exact owned_phaseMove cfg h _
  | interThreadSync =>
    show (interThreadSync cfg x).1.th.Owned
    rw [interThreadSync_fst]; split_ifs
    exacts [owned_phaseMove cfg h _, h]
  | calibrate =>
    exact (acts_calibrate (.refl _) trivial : Ctx.Quiet cfg Writes.calibrate (fun _ => True) _ _).owned (by decide) h
  | sampleRate =>
    exact (acts_sampleRate (.refl _) : Ctx.Quiet cfg Writes.sample (fun _ => True) _ _).owned (by decide) h

theorem of_dispatch (hw : x.th.Wf cfg) (h : x.th.Owned) {ev : Event} (hd : dispatch cfg io x ev = some y) :
    y.th.Owned := by
  rcases dispatch_eq_some cfg hd with ⟨-, hp, rfl⟩ | ⟨id, te, -, hte, -, rfl⟩ | ⟨fd, dir, p, -, hp, rfl⟩
  · have hl : x.th.loop = Loop.empty := by rw [hw.fresh hp]; rfl
    intro fd dir p hq
    rw [threadMain_events, hl] at hq; cases dir <;> cases hq
  · exact of_time hw h hte
  · cases p with
    | socketConnected => exact owned_socketConnected cfg h (h fd dir _ hp) _
    | socketReadable => exact owned_socketReadable cfg _ h
    | socketWriteable => exact owned_socketWriteable cfg h _ _

end Thread.Owned

/-- 到達できるすべての状態のすべてのワーカーで、購読はその記述子を持つ接続のものである。 -/
theorem Reachable.owned {cfg : Config} {s : System} (hr : Reachable cfg s) (w : Nat) : (s.threads w).Owned :=
  hr.thread_inv_wf (fun th _ => th.Owned) (fun st _ => .create st) (fun _ _ _ h _ => h)
    (fun _ _ _ _ hw hd h => h.of_dispatch hw hd) w

/-! ## `close_all_conn` -/

/-- `close_all_conn` の繰り返しのあとに残る購読は、前からあり、繰り返しが閉じたどの接続の記述子の上にもない。 -/
theorem proc_foldl_closeConn {fd : Nat} {dir : Dir} {p : FileProc} :
    ∀ (l : List Nat) (x : Ctx), ((l.foldl closeConn x).th.loop.events fd).proc dir = some p →
      (x.th.loop.events fd).proc dir = some p ∧ ∀ i ∈ l, (x.conn i).fd ≠ fd
  | [], _, h => ⟨h, fun _ h => absurd h (List.not_mem_nil _)⟩
  | i :: l, x, h => by
    obtain ⟨h₁, h₂⟩ := proc_foldl_closeConn l (closeConn x i) h
    simp only [closeConn, Ctx.modifyOs, Ctx.modifyLoop, Loop.deleteFileEvent_events] at h₁
    split_ifs at h₁ with hi
    · cases dir <;> simp [aeReadWrite] at h₁
    · exact ⟨h₁, fun j hj => (List.mem_cons.mp hj).elim (· ▸ Ne.symm hi) (h₂ j)⟩

/-- `check_stop` が止めるとき（`SIGINT` のあとか `stop_at` を過ぎたとき）、`close_all_conn` はワーカーの
購読をすべて外す。購読はどれもワーカーの接続のもので、その記述子の上にあるからである。 -/
theorem checkStop_unsubscribes {cfg : Config} {x : Ctx} (hw : x.th.Wf cfg) (h : x.th.Owned)
    (hs : x.g.stop = true ∨ x.th.stopAt ≤ x.now) :
    (checkStop cfg x).1.th.loop.stop = true ∧ ∀ fd dir, ((checkStop cfg x).1.th.loop.events fd).proc dir = none := by
  unfold checkStop; rw [if_pos hs]
  refine ⟨rfl, fun fd dir => Option.eq_none_iff_forall_not_mem.mpr fun p hp => ?_⟩
  obtain ⟨hp₀, hne⟩ := proc_foldl_closeConn _ x hp
  have hd : (x.th.loop.events fd).clientData < cfg.perThread :=
    Nat.lt_of_not_le fun hge => (hw.outside _ hge).1 fd dir p hp₀ rfl
  exact hne _ (List.mem_range.mpr hd) (h fd dir p hp₀)

end Wrk2
