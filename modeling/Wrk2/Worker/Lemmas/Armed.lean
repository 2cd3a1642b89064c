import Wrk2.Worker.Lemmas.Owned
import Wrk2.Worker.Lemmas.Established

/-!
# つなぎ直す前のデータの引き金

接続がデータのために持つ引き金は、`socket_readable` か `socket_writeable` の購読と、`delay_request` の
時間イベントである。これらを作るのは、接続が確立したあとの `socket_connected`（wrk.c 817-831）と
`phase_move`（335-354）、`response_complete` の最後の応答（772-775）、`socket_writeable` が待つとき（858-866）、
`delay_request`（684-692）で、どれも確立した接続か、すでに引き金を持つ接続の上で起こる。`is_connected` を
偽にするのは `connect_socket` だけで、最初の接続のときは引き金がなく、つなぎ直しのときは
`reconnect_socket` が `errors.reconnect` を増やす。`reconnect_socket` は古い記述子の購読を外すが、
`delay_request` を残す。

だから、まだ一度もつなぎ直していないワーカーでは、引き金を持つ接続はみな確立している（`Thread.Safe`）。
コールバックごとに `Ctx.Grows`（つなぎ直しの数は減らず、つなぎ直しがなければ確立した接続は確立したまま
で、新しく引き金を持つ接続は確立している）を一度示し、`dispatch` 一回から実行全体へ持ち上げる。接続を
切らず、購読も `delay_request` も加えない書き換えは、`Ctx.Acts` の枠から `Ctx.Grows` を満たす
（`Ctx.Acts.grows`）。
-/

namespace Wrk2

namespace Loop

/-- 接続 `j` に、`socket_readable` か `socket_writeable` の購読か、`delay_request` の時間イベントがある。 -/
def Armed (el : Loop) (j : Nat) : Prop :=
  (∃ fd dir p, (el.events fd).proc dir = some p ∧ p ≠ .socketConnected ∧ (el.events fd).clientData = j) ∨
  ∃ id te, el.timeEvents id = some te ∧ te.timeProc = .delayRequest j

variable {el : Loop} {j fd d : Nat} {m : Mask}

/-- 購読を作ると、その記述子の購読はみな `d` のものになる。 -/
theorem Armed.of_createFileEvent {p : FileProc} (h : (el.createFileEvent fd m p d).Armed j) : el.Armed j ∨ j = d := by
  rcases h with ⟨fd', dir, q, hq, hc, rfl⟩ | ht
  · rw [createFileEvent_events] at hq ⊢
    split_ifs at hq ⊢ with e
    · exact .inr rfl
    · exact .inl (.inl ⟨fd', dir, q, hq, hc, rfl⟩)
  · exact .inl (.inr ht)

/-- `socket_connected` の購読は、両方の向きを一度に作るか、すでに `d` の記述子に作るなら、引き金を
増やさない。 -/
theorem Armed.of_createFileEvent_connect (hc : m = aeReadWrite ∨ (el.events fd).clientData = d)
    (h : (el.createFileEvent fd m .socketConnected d).Armed j) : el.Armed j := by
  rcases h with ⟨fd', dir, q, hq, hq', rfl⟩ | ht
  · rw [createFileEvent_events] at hq ⊢
    split_ifs at hq ⊢ with e
    · subst e
      rw [FileEvent.add_proc] at hq
      split_ifs at hq with hm
      · cases hq; exact absurd rfl hq'
      · rcases hc with rfl | hc
        · cases dir <;> simp [aeReadWrite] at hm
        · exact .inl ⟨fd', dir, q, hq, hq', hc⟩
    · exact .inl ⟨fd', dir, q, hq, hq', rfl⟩
  · exact .inr ht

theorem Armed.of_deleteFileEvent (h : (el.deleteFileEvent fd m).Armed j) : el.Armed j := by
  rcases h with ⟨fd', dir, q, hq, hq', rfl⟩ | ht
  · rw [deleteFileEvent_events] at hq ⊢
    split_ifs at hq ⊢ with e
    · subst e; rw [FileEvent.del_proc] at hq; split_ifs at hq
      exact .inl ⟨fd', dir, q, hq, hq', rfl⟩
    · exact .inl ⟨fd', dir, q, hq, hq', rfl⟩
  · exact .inr ht

theorem Armed.of_createTimeEvent {now ms : Nat} {p : TimeProc} (h : (el.createTimeEvent now ms p).Armed j) :
    el.Armed j ∨ p = .delayRequest j := by
  rcases h with hf | ⟨id, te, hte, e⟩
  · exact .inl (.inl hf)
  · simp only [createTimeEvent, setAt_apply] at hte
    split_ifs at hte
    · cases hte; exact .inr e
    · exact .inl (.inr ⟨id, te, hte, e⟩)

theorem Armed.of_rearm {id now : Nat} {p : TimeProc} {r : Option Nat} (h : (el.rearm id now p r).Armed j) :
    el.Armed j ∨ p = .delayRequest j := by
  rcases h with ⟨fd', dir, q, hq, hq', e⟩ | ⟨id', te, hte, e⟩
  · exact .inl (.inl ⟨fd', dir, q, by rwa [rearm_events] at hq, hq', by rwa [rearm_events] at e⟩)
  · cases r <;> simp only [rearm, setAt_apply] at hte <;> split_ifs at hte
    · exact .inl (.inr ⟨id', te, hte, e⟩)
    · cases hte; exact .inr e
    · exact .inl (.inr ⟨id', te, hte, e⟩)

end Loop

/-- まだ一度もつなぎ直していないワーカーでは、引き金を持つ接続はみな確立している。 -/
def Thread.Safe (th : Thread) : Prop :=
  th.errors.reconnect = 0 → ∀ j, th.loop.Armed j → (th.cs j).isConnected = true

namespace Ctx

/-- まだつなぎ直していなければ、接続 `i` は確立している。 -/
def Live (x : Ctx) (i : Nat) : Prop := x.th.errors.reconnect = 0 → (x.conn i).isConnected = true

/-- `x` から `y` への書き換えで、つなぎ直しの数は減らない。つなぎ直しがなければ、確立した接続は確立した
ままで、新しく引き金を持つ接続は確立している。 -/
structure Grows (x y : Ctx) : Prop where
  reconnect : x.th.errors.reconnect ≤ y.th.errors.reconnect
  connected : y.th.errors.reconnect = 0 → ∀ j, (x.conn j).isConnected = true → (y.conn j).isConnected = true
  armed : y.th.errors.reconnect = 0 → ∀ j, y.th.loop.Armed j → x.th.loop.Armed j ∨ (y.conn j).isConnected = true

variable {cfg : Config} {x y z : Ctx} {i j fd : Nat}

theorem Grows.refl (x : Ctx) : Grows x x := ⟨le_rfl, fun _ _ h => h, fun _ _ h => .inl h⟩

theorem Grows.trans (h₁ : Grows x y) (h₂ : Grows y z) : Grows x z where
  reconnect := h₁.reconnect.trans h₂.reconnect
  connected h0 j hj := h₂.connected h0 j (h₁.connected (Nat.eq_zero_of_le_zero (h0 ▸ h₂.reconnect)) j hj)
  armed h0 j ha := by
    have h0' := Nat.eq_zero_of_le_zero (h0 ▸ h₂.reconnect)
    rcases h₂.armed h0 j ha with ha | hc
    · exact (h₁.armed h0' j ha).imp_right (h₂.connected h0 j)
    · exact .inr hc

theorem Grows.safe (h : Grows x y) (hs : x.th.Safe) : y.th.Safe := fun h0 j ha => by
  have h0' := Nat.eq_zero_of_le_zero (h0 ▸ h.reconnect)
  rcases h.armed h0 j ha with ha | hc
  · exact h.connected h0 j (hs h0' j ha)
  · exact hc

theorem Grows.live (h : Grows x y) (hl : x.Live i) : y.Live i := fun h0 =>
  h.connected h0 i (hl (Nat.eq_zero_of_le_zero (h0 ▸ h.reconnect)))

/-- 引き金を持つ接続は、まだつなぎ直していなければ確立している。 -/
theorem live_of_armed (hs : x.th.Safe) (ha : x.th.loop.Armed i) : x.Live i := fun h0 => hs h0 i ha

/-- 接続を切らず、購読も `delay_request` も加えず、つなぎ直しを数えない書き換えは `Grows` を満たす。 -/
theorem Acts.grows {ω : Writes} {pc : Nat → Prop} {pt : TimeProc → Prop}
    (h : Acts cfg ω pc (fun _ => False) (fun _ => False) pt x y) (hω : ω.Le Writes.unlinked)
    (ht : ∀ j, ¬ pt (.delayRequest j)) : Grows x y where
  reconnect := (h.frame .reconnect fun hp => absurd (hω.part hp) (by decide)).ge
  connected _ j hj := (h.keepsLinks hω).connected j ▸ hj
  armed _ j ha := by
    rcases ha with ⟨fd, dir, p, hp, hc, rfl⟩ | ⟨id, te, hte, e⟩
    · obtain hx | ⟨⟨⟩, -⟩ := h.loop.proc fd dir p hp
      exact .inl (.inl ⟨fd, dir, p, hx, hc, ((h.loop.data fd).resolve_right id).symm⟩)
    · rcases h.loop.timer id te hte with ⟨te₀, h₀, e₀, -⟩ | hp
      · exact .inl (.inr ⟨id, te₀, h₀, e₀.trans e⟩)
      · exact absurd (e ▸ hp) (ht j)

/-! ## 基本の操作 -/

theorem grows_modifyConn (f : Connection → Connection)
    (hf : x.th.errors.reconnect = 0 → (x.conn i).isConnected = true → (f (x.conn i)).isConnected = true) :
    Grows x (x.modifyConn i f) :=
  ⟨le_rfl, fun h0 j hj => by
    simp only [conn_modifyConn]; split_ifs with e
    · subst e; exact hf h0 hj
    · exact hj, fun _ _ h => .inl h⟩

theorem grows_modifyLoop (f : Loop → Loop)
    (h : x.th.errors.reconnect = 0 → ∀ j, (f x.th.loop).Armed j → x.th.loop.Armed j ∨ (x.conn j).isConnected = true) :
    Grows x (x.modifyLoop f) := ⟨le_rfl, fun _ _ h => h, h⟩

theorem grows_createFileEvent (m : Mask) (p : FileProc) (hd : x.Live i) :
    Grows x (x.modifyLoop (·.createFileEvent fd m p i)) :=
  grows_modifyLoop _ fun h0 j ha => ha.of_createFileEvent.imp_right fun e => by subst e; exact hd h0

theorem grows_connectSubscribe (m : Mask) (hc : m = aeReadWrite ∨ (x.th.loop.events fd).clientData = i) :
    Grows x (x.modifyLoop (·.createFileEvent fd m .socketConnected i)) :=
  grows_modifyLoop _ fun _ _ ha => .inl (ha.of_createFileEvent_connect hc)

theorem grows_deleteFileEvent (m : Mask) : Grows x (x.modifyLoop (·.deleteFileEvent fd m)) :=
  grows_modifyLoop _ fun _ _ ha => .inl ha.of_deleteFileEvent

theorem grows_createTimeEvent (now ms : Nat) (p : TimeProc) (hp : ∀ j, p = .delayRequest j → x.Live j) :
    Grows x (x.modifyLoop (·.createTimeEvent now ms p)) :=
  grows_modifyLoop _ fun h0 j ha => ha.of_createTimeEvent.imp_right fun e => hp j e h0

theorem grows_modifyErrors (f : Errors → Errors) (hf : x.th.errors.reconnect ≤ (f x.th.errors).reconnect) :
    Grows x (x.modifyErrors f) := ⟨hf, fun _ _ h => h, fun _ _ h => .inl h⟩

/-- スレッドに触れない書き換え。 -/
theorem grows_of_th (h : y.th = x.th) : Grows x y where
  reconnect := by rw [h]
  connected _ j hj := by rwa [Ctx.conn, h]
  armed _ _ ha := .inl (h ▸ ha)

theorem grows_modifyOs (f : Os → Os) : Grows x (x.modifyOs f) := grows_of_th rfl

theorem grows_dropDial : Grows x x.dropDial := grows_of_th rfl

theorem grows_modifyThread (f : Thread → Thread) (hc : (f x.th).cs = x.th.cs) (hl : (f x.th).loop = x.th.loop)
    (hr : (f x.th).errors.reconnect = x.th.errors.reconnect) : Grows x (x.modifyThread f) :=
  ⟨hr.ge, fun _ j h => by simpa [hc] using h, fun _ j h => .inl (by simpa [hl] using h)⟩

/-! ## 接続 -/

theorem grows_connectError : Grows x (connectError fd x) :=
  (grows_modifyErrors _ (by simp)).trans (grows_modifyOs _)

/-- `connect_socket`。最初の接続はもとからつながっておらず、つなぎ直しは数を増やしたあとに呼ぶ。 -/
theorem grows_connectSocket (hi : x.th.errors.reconnect = 0 → (x.conn i).isConnected = false) :
    Grows x (connectSocket i x) := by
  have h₀ : Grows x ((x.modifyConn i fun c => { c with isConnected := false }).dropDial.modifyOs Os.socket) :=
    ((grows_modifyConn _ fun h0 h => absurd h (by simp [hi h0])).trans grows_dropDial).trans (grows_modifyOs _)
  refine h₀.trans ?_
  unfold connectSocket connectFd; split_ifs
  · exact ((grows_modifyConn _ fun _ h => h).trans (grows_connectSubscribe _ (.inl rfl))).trans
      (grows_modifyConn _ fun _ h => h)
  · exact (grows_modifyConn _ fun _ h => h).trans grows_connectError
  · exact grows_connectError

theorem grows_reconnectSocket : Grows x (reconnectSocket i x) := by
  have h₁ : Grows x (((x.modifyLoop (·.deleteFileEvent (x.conn i).fd aeReadWrite)).modifyOs
      (·.close (x.conn i).fd)).modifyErrors fun e => { e with reconnect := e.reconnect + 1 }) :=
    ((grows_deleteFileEvent _).trans (grows_modifyOs _)).trans (grows_modifyErrors _ (by simp))
  exact h₁.trans (grows_connectSocket fun h0 => absurd h0 (by simp))

/-- `socket_connected` の `RETRY`。記述子の持ち主は `i` のままで、`socket_connected` の購読だけを変える。 -/
theorem grows_connectRetry (want : Mask) (hc : (x.th.loop.events (x.conn i).fd).clientData = i) :
    Grows x (connectRetry i want x) := by
  have hdel : Grows x (retryDelete i ((x.conn i).connectMask.andNot want) x) ∧
      ((retryDelete i ((x.conn i).connectMask.andNot want) x).th.loop.events
        ((retryDelete i ((x.conn i).connectMask.andNot want) x).conn i).fd).clientData = i := by
    unfold retryDelete; split_ifs
    · refine ⟨(grows_deleteFileEvent _).trans (grows_modifyConn _ fun _ h => h), ?_⟩
      simpa [Loop.deleteFileEvent_events, FileEvent.del] using hc
    · exact ⟨.refl _, hc⟩
  refine hdel.1.trans ?_
  unfold connectRetry retryAdd; split_ifs
  · exact (grows_connectSubscribe _ (.inr hdel.2)).trans (grows_modifyConn _ fun _ h => h)
  · exact .refl _

theorem grows_subscribeIfNormal (hi : x.Live i) : Grows x (subscribeIfNormal fd i x) := by
  unfold subscribeIfNormal; split_ifs
  · exact (grows_createFileEvent _ _ hi).trans (grows_createFileEvent _ _ hi)
  · exact .refl _

theorem grows_reportReady : Grows x (reportReady cfg x) :=
  (acts_reportReady (by decide) fun _ => rfl : Quiet cfg Writes.unlinked (· = .interThreadSync) _ _).grows (.refl _)
    fun _ h => by cases h

/-- 確立の処理。接続を確立してから購読する。 -/
theorem grows_connectEstablished : Grows x (connectEstablished cfg fd i x) := by
  have h₁ : Grows x ((x.modifyConn i fun c => { c with written := 0, isConnected := true }).modifyErrors
      fun e => { e with established := e.established + 1 }) :=
    (grows_modifyConn _ fun _ _ => rfl).trans (grows_modifyErrors _ le_rfl)
  exact (h₁.trans (grows_subscribeIfNormal fun _ => by simp)).trans grows_reportReady

theorem grows_socketConnected (st : ConnectStatus) (hc : (x.th.loop.events (x.conn i).fd).clientData = i) :
    Grows x (socketConnected cfg fd i st x) := by
  cases st with
  | ok => simp only [socketConnected]; split_ifs; exacts [.refl _, grows_connectEstablished]
  | error => exact (grows_modifyErrors _ le_rfl).trans grows_reconnectSocket
  | retry r w => exact grows_connectRetry _ hc

/-! ## 受信 -/

/-- 最後の応答で書き込みを購読する。 -/
theorem grows_countDown (hi : x.Live i) : Grows x (countDown i x) := by
  have h₁ : Grows x (x.modifyConn i fun c =>
      { c with pending := subU64 c.pending 1, hasPending := if subU64 c.pending 1 = 0 then false else c.hasPending }) :=
    grows_modifyConn _ fun _ h => h
  unfold countDown; dsimp only; split_ifs
  · exact h₁.trans (grows_createFileEvent _ _ (h₁.live hi))
  · exact h₁

theorem grows_recordResponse (hi : x.Live i) : Grows x (recordResponse cfg i x) := by
  have h₁ : Grows x (x.modifyConn i fun c => { c with complete := c.complete + 1 }) := grows_modifyConn _ fun _ h => h
  have h₂ := h₁.trans (grows_countDown (h₁.live hi))
  unfold recordResponse recordLatency; dsimp only; split_ifs
  · exact h₂.trans (grows_modifyThread _ rfl rfl rfl)
  · exact h₂

theorem grows_responseComplete (hi : x.Live i) (st : Nat) (ka : Bool) :
    Grows x (responseComplete cfg i st ka x) := by
  have h₀ : Grows x (deliverResponse i st (countResponse st x)) :=
    ((acts_countResponse (by decide) st).trans (acts_deliverResponse trivial (by decide) (by decide) st) :
      Quiet cfg Writes.unlinked (fun _ => False) _ _).grows (.refl _) fun _ h => h
  unfold responseComplete; dsimp only; split_ifs
  · exact h₀.trans (grows_modifyLoop _ fun _ _ ha => .inl ha)
  · exact h₀.trans (grows_recordResponse (h₀.live hi))
  · exact (h₀.trans (grows_recordResponse (h₀.live hi))).trans grows_reconnectSocket

theorem grows_parserCallback (hi : x.Live i) (e : ParserEvent) : Grows x (parserCallback cfg i x e) := by
  cases e with
  | messageComplete st ka => exact grows_responseComplete hi st ka
  | _ => simp only [parserCallback, headerField, headerValue, responseBody]; split_ifs
         exacts [grows_modifyConn _ fun _ h => h, .refl _]

theorem grows_parserCallbacks : ∀ (es : List ParserEvent) (x : Ctx), x.Live i →
    Grows x (es.foldl (parserCallback cfg i) x)
  | [], _, _ => .refl _
  | e :: es, _, hi =>
    (grows_parserCallback hi e).trans (grows_parserCallbacks es _ ((grows_parserCallback hi e).live hi))

theorem grows_addBytes (n : Nat) : Grows x (x.modifyThread fun th => { th with bytes := th.bytes + n }) :=
  grows_modifyThread _ rfl rfl rfl

theorem grows_readError : Grows x (readError i x) := (grows_modifyErrors _ le_rfl).trans grows_reconnectSocket

theorem grows_socketReadable (chs : List Chunk) (hi : x.Live i) : Grows x (socketReadable cfg i chs x) := by
  induction chs generalizing x with
  | nil => exact .refl _
  | cons ch chs ih =>
    have h₁ : Grows x (ch.events.foldl (parserCallback cfg i) x) := grows_parserCallbacks _ x hi
    simp only [socketReadable]
    cases ch.read with
    | retry => exact .refl _
    | error => exact grows_readError
    | ok n =>
      have h₂ := h₁.trans (grows_addBytes n)
      dsimp only; split_ifs
      · exact h₁.trans grows_readError
      · exact h₂.trans (ih (h₂.live hi))
      · exact h₂

/-! ## 送信 -/

theorem grows_writeRequest (w : WriteResult) : Grows x (writeRequest fd i w x) := by
  cases w with
  | ok n =>
    have h₁ : Grows x (sendBytes i n x) := by
      unfold sendBytes; exact (grows_modifyOs _).trans (grows_modifyConn _ fun _ h => h)
    refine h₁.trans ?_
    show Grows _ (finishWrite fd i (sendBytes i n x))
    unfold finishWrite; split_ifs
    · exact (grows_modifyConn _ fun _ h => h).trans (grows_deleteFileEvent _)
    · exact .refl _
  | error => exact (grows_modifyErrors _ le_rfl).trans grows_reconnectSocket
  | retry => exact .refl _

theorem grows_pacer : Grows x (x.modifyConn i fun _ => (usecToNextSend cfg.throughput (x.conn i) x.now).2) :=
  (acts_pacer trivial (by decide) : Quiet cfg Writes.unlinked (fun _ => False) _ _).grows (.refl _) fun _ h => h

/-- `socket_writeable`。待つときは同じ接続の `delay_request` を置く。 -/
theorem grows_socketWriteable (request : Bytes) (w : WriteResult) (hi : x.Live i) :
    Grows x (socketWriteable cfg fd i request w x) := by
  unfold socketWriteable; dsimp only; split_ifs
  · refine grows_pacer.trans (((grows_deleteFileEvent _).trans
      (grows_createTimeEvent _ _ _ fun j e => ?_)) : Grows _ (delayWrite fd i _ _))
    cases e
    exact (grows_pacer.trans (grows_deleteFileEvent aeWritable)).live hi
  · exact (grows_pacer.trans (grows_modifyConn _ fun _ h => h)).trans (grows_writeRequest w)
  · exact grows_writeRequest w

theorem grows_delayRequest (hi : x.Live i) : Grows x (delayRequest cfg i x).1 := by
  unfold delayRequest; dsimp only; split_ifs
  · exact grows_pacer
  · exact grows_pacer.trans (grows_createFileEvent _ _ (grows_pacer.live hi))

/-! ## 停止と段階 -/

/-- `phase_move` の購読は、確立した接続のものだけである。 -/
theorem armed_foldl_subscribeConn (cs : Nat → Connection) :
    ∀ (l : List Nat) (el : Loop), (l.foldl (subscribeConn cs) el).Armed j → el.Armed j ∨ (cs j).isConnected = true
  | [], _, h => .inl h
  | i :: l, el, h => by
    rcases armed_foldl_subscribeConn cs l _ h with h | h
    · unfold subscribeConn at h; split_ifs at h with hc
      · rcases h.of_createFileEvent with h | rfl
        · exact h.of_createFileEvent.imp_right fun e => by subst e; exact hc
        · exact .inr hc
      · exact .inl h
    · exact .inr h

theorem grows_phaseMove (phase : Phase) : Grows x (phaseMove cfg phase x) := by
  unfold phaseMove; split_ifs
  · exact ⟨le_rfl, fun _ _ h => h, fun _ _ ha =>
      armed_foldl_subscribeConn _ _ _ ((Loop.Armed.of_createTimeEvent ha).resolve_right (by simp))⟩
  · exact ⟨le_rfl, fun _ _ h => h, fun _ _ h => .inl h⟩

/-- 時間イベントのコールバック一つ。`delay_request` は引き金を持つ接続に、`delayed_initial_connect` はまだ
つながっていない接続に起こる。 -/
theorem grows_timeProc (p : TimeProc) (hd : ∀ d, p = .delayRequest d → x.Live d)
    (hc : ∀ d, p = .delayedInitialConnect d → (x.conn d).isConnected = false) :
    Grows x (timeProc cfg x p).1 := by
  cases p with
  | delayedInitialConnect d =>
    exact (grows_modifyConn _ fun _ h => h).trans (grows_connectSocket fun _ => by simpa using hc d rfl)
  | delayRequest d => exact grows_delayRequest (hd d rfl)
  | checkStop =>
    exact (acts_checkStop (by decide) : Quiet cfg Writes.unlinked (fun _ => False) _ _).grows (.refl _) fun _ h => h
  | warmupTimedOut => exact grows_phaseMove _
  | interThreadSync =>
    show Grows x (interThreadSync cfg x).1
    rw [interThreadSync_fst]; split_ifs
    exacts [grows_phaseMove _, .refl _]
  | calibrate =>
    exact (acts_calibrate (by decide) rfl : Quiet cfg Writes.unlinked (· = .sampleRate) _ _).grows (.refl _)
      fun _ h => by cases h
  | sampleRate =>
    exact (acts_sampleRate (by decide) : Quiet cfg Writes.unlinked (fun _ => False) _ _).grows (.refl _) fun _ h => h

end Ctx

/-! ## `dispatch` 一回と実行全体 -/

namespace Thread.Safe

variable {cfg : Config} {io : Io} {x y : Ctx}

theorem create (st : Nat) : (Thread.create st).Safe := by
  rintro - j (⟨fd, dir, p, hp, -⟩ | ⟨id, te, hte, -⟩)
  · cases dir <;> cases hp
  · cases hte

/-- 形の不変条件と購読の持ち主の下で、`dispatch` 一回は `Thread.Safe` を保つ。 -/
theorem of_dispatch (hw : x.th.Wf cfg) (ho : x.th.Owned) (hs : x.th.Safe) {ev : Event}
    (h : dispatch cfg io x ev = some y) : y.th.Safe := by
  rcases dispatch_eq_some cfg h with ⟨-, hp, rfl⟩ | ⟨id, te, -, hte, -, rfl⟩ | ⟨fd, dir, p, -, hp, rfl⟩
  · have hl : x.th.loop = Loop.empty := by rw [hw.fresh hp]; rfl
    rintro - j (⟨fd, dir, q, hq, -⟩ | ⟨id, te, hte, e⟩)
    · rw [threadMain_events, hl] at hq; cases dir <;> cases hq
    · rcases threadMain_timer hte with h | ⟨_, _, _, h⟩ | h | ⟨h, -⟩
      · rw [hl] at h; cases h
      all_goals rw [h] at e; cases e
  · have hg : Ctx.Grows x (timeProc cfg x te.timeProc).1 := Ctx.grows_timeProc te.timeProc
      (fun d e => Ctx.live_of_armed hs (.inr ⟨id, te, hte, e⟩))
      (fun d e => by show (x.th.cs d).isConnected = false; rw [(hw.untouched d ⟨id, te, hte, e⟩).1]; rfl)
    refine fun h0 j ha => ?_
    have h0' : (timeProc cfg x te.timeProc).1.th.errors.reconnect = 0 := h0
    rcases Loop.Armed.of_rearm ha with ha | e
    · exact hg.safe hs h0' j ha
    · exact hg.connected h0' j (hs (Nat.eq_zero_of_le_zero (h0' ▸ hg.reconnect)) j (.inr ⟨id, te, hte, e⟩))
  · cases p with
    | socketConnected =>
      exact (Ctx.grows_socketConnected _ (by rw [show (x.conn _).fd = fd from ho fd dir _ hp])).safe hs
    | socketReadable =>
      exact (Ctx.grows_socketReadable _ (fun h0 => hs h0 _ (.inl ⟨fd, dir, _, hp, by simp, rfl⟩))).safe hs
    | socketWriteable =>
      exact (Ctx.grows_socketWriteable _ _ (fun h0 => hs h0 _ (.inl ⟨fd, dir, _, hp, by simp, rfl⟩))).safe hs

end Thread.Safe

/-- 到達できるすべての状態で、まだ一度もつなぎ直していないワーカーの引き金を持つ接続は確立している。 -/
theorem Reachable.safe {cfg : Config} {s : System} (hr : Reachable cfg s) (w : Nat) : (s.threads w).Safe :=
  (hr.thread_inv_wf (fun th _ => th.Owned ∧ th.Safe) (fun st _ => ⟨.create st, .create st⟩) (fun _ _ _ h _ => h)
    (fun _ _ _ _ hw hd h => ⟨h.1.of_dispatch hw hd, h.2.of_dispatch hw h.1 hd⟩) w).2

end Wrk2
