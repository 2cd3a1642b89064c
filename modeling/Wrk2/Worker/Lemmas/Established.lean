import Wrk2.Worker.Lemmas.Wf

/-!
# 確立の数

`errors.established` は `socket_connected` が `is_connected` の偽の接続を確立するときだけ増え、その接続の
`is_connected` を真にする。`is_connected` を偽に戻すのは `connect_socket` だけで、最初の接続のときは
もとから偽であり、つなぎ直しのときは `reconnect_socket` が `errors.reconnect` を増やす。そこで
`established + (つながっていない接続の数) ≤ connections + reconnect` が保たれる。つながっていない接続
一つ一つに、まだ数えていない接続の試みが一つずつ残っている。

つながりと二つの数を書くのは、接続を切る `ConnKind.disconnect`、確立する `ConnKind.establish` と、
`Part.established`、`Part.reconnect` だけである。これらを書かない範囲 `Writes.unlinked` の書き換えは、
`Ctx.Acts` の枠からつながりと二つの数を保つ（`Ctx.Acts.keepsLinks`）。書くのは `connect_socket`、
`reconnect_socket` と確立の処理だけで、それらが数えていない試みを減らさないこと（`Ctx.EstStep`）を一つずつ
示し、`dispatch` 一回に持ち上げる。
-/

namespace Wrk2

/-- ワーカーの接続のうち、つながっていないものの数。 -/
def Thread.unconnected (cfg : Config) (th : Thread) : Nat :=
  (List.range cfg.perThread).countP fun i => !(th.cs i).isConnected

/-- 番号 `i` のほかで述語が変わらなければ、`range n` で数えた数の差は `i` の分だけである。 -/
theorem countP_range_update {p q : Nat → Bool} {i : Nat} (h : ∀ j, j ≠ i → q j = p j) (n : Nat) :
    (List.range n).countP q + (if i < n ∧ p i then 1 else 0) =
      (List.range n).countP p + (if i < n ∧ q i then 1 else 0) := by
  induction n with
  | zero => simp
  | succ n ih =>
    simp only [List.range_succ, List.countP_append, List.countP_singleton]
    by_cases hn : n = i
    · subst hn
      have hlt : ¬ n < n := Nat.lt_irrefl n
      simp only [hlt, false_and, if_false, Nat.add_zero] at ih
      rw [ih]; cases p n <;> cases q n <;> simp
    · rw [h n hn]
      have e : i < n + 1 ↔ i < n := ⟨fun h' => Nat.lt_of_le_of_ne (Nat.le_of_lt_succ h') (Ne.symm hn),
        Nat.lt_succ_of_lt⟩
      simp only [e]; omega

/-- `main` が作ったワーカーでは、どの接続もつながっていない。 -/
theorem Thread.unconnected_create (cfg : Config) (st : Nat) : (Thread.create st).unconnected cfg = cfg.perThread := by
  rw [Thread.unconnected, (List.countP_eq_length (p := fun i => !((Thread.create st).cs i).isConnected)).mpr
    fun _ _ => rfl, List.length_range]

/-- つながりと、確立とつなぎ直しの数のほかを書きうる範囲。 -/
def Writes.unlinked : Writes :=
  ⟨[.fd, .mask, .anchor, .parse, .pacer, .countDown, .complete, .begin, .send, .finish],
    [.clock, .counts, .hist, .delivered, .fds, .ready]⟩

/-- 接続を切るか確立するほかの基本の書き換えは、つながりを変えない。 -/
theorem ConnStep.isConnected_eq {cfg : Config} {now : Nat} {k : ConnKind} {c c' : Connection}
    (h : ConnStep cfg now k c c') (hk : k ∈ Writes.unlinked.kinds) : c'.isConnected = c.isConnected := by
  cases h
  case disconnect | establish => exact absurd hk (by decide)
  case pacer => exact usecToNextSend_snd_of (fun c' => c'.isConnected = c.isConnected) fun _ _ _ => rfl
  all_goals rfl

namespace Ctx

/-- `x` から `y` への書き換えが、接続がつながっているかどうかと、確立とつなぎ直しの数を変えない。 -/
structure KeepsLinks (x y : Ctx) : Prop where
  established : y.th.errors.established = x.th.errors.established
  reconnect : y.th.errors.reconnect = x.th.errors.reconnect
  connected : ∀ j, (y.conn j).isConnected = (x.conn j).isConnected

/-- `x` から `y` への書き換えで、まだ確立を数えていない接続の試みが減らない。 -/
def EstStep (cfg : Config) (x y : Ctx) : Prop :=
  y.th.errors.established + y.th.unconnected cfg + x.th.errors.reconnect ≤
    x.th.errors.established + x.th.unconnected cfg + y.th.errors.reconnect

variable {cfg : Config} {x y z : Ctx} {i fd : Nat}

theorem KeepsLinks.refl (x : Ctx) : KeepsLinks x x := ⟨rfl, rfl, fun _ => rfl⟩

theorem KeepsLinks.trans (h₁ : KeepsLinks x y) (h₂ : KeepsLinks y z) : KeepsLinks x z :=
  ⟨h₂.1.trans h₁.1, h₂.2.trans h₁.2, fun j => (h₂.3 j).trans (h₁.3 j)⟩

theorem KeepsLinks.unconnected (h : KeepsLinks x y) : y.th.unconnected cfg = x.th.unconnected cfg :=
  List.countP_congr fun j _ => by rw [show (y.th.cs j).isConnected = (x.th.cs j).isConnected from h.connected j]

theorem KeepsLinks.estStep (h : KeepsLinks x y) : EstStep cfg x y := by
  unfold EstStep; rw [h.unconnected, h.established, h.reconnect]

theorem EstStep.refl (x : Ctx) : EstStep cfg x x := Nat.le_refl _

theorem EstStep.trans (h₁ : EstStep cfg x y) (h₂ : EstStep cfg y z) : EstStep cfg x z := by
  unfold EstStep at *; omega

/-- つながりも二つの数も書かない範囲の書き換えは、それらを保つ。 -/
theorem Acts.keepsLinks {ω : Writes} {pc pd : Nat → Prop} {pf : FileProc → Prop} {pt : TimeProc → Prop}
    (h : Acts cfg ω pc pf pd pt x y) (hω : ω.Le Writes.unlinked) : KeepsLinks x y :=
  ⟨h.frame .established fun hp => absurd (hω.part hp) (by decide),
    h.frame .reconnect fun hp => absurd (hω.part hp) (by decide),
    h.conn_keep Connection.isConnected fun hk hs => hs.isConnected_eq (hω.kind hk)⟩

theorem Acts.estStep {ω : Writes} {pc pd : Nat → Prop} {pf : FileProc → Prop} {pt : TimeProc → Prop}
    (h : Acts cfg ω pc pf pd pt x y) (hω : ω.Le Writes.unlinked) : EstStep cfg x y :=
  (h.keepsLinks hω).estStep

/-- 接続 `i` だけのつながりを変える書き換えで、つながっていない接続の数は `i` の分だけ変わる。 -/
theorem unconnected_update (cfg : Config) (h : ∀ j, j ≠ i → (y.conn j).isConnected = (x.conn j).isConnected) :
    y.th.unconnected cfg + (if i < cfg.perThread ∧ !(x.conn i).isConnected then 1 else 0) =
      x.th.unconnected cfg + (if i < cfg.perThread ∧ !(y.conn i).isConnected then 1 else 0) :=
  countP_range_update (p := fun j => !(x.conn j).isConnected) (q := fun j => !(y.conn j).isConnected)
    (fun j hj => by simp only [h j hj]) _

theorem keeps_modifyConn (f : Connection → Connection) (hf : (f (x.conn i)).isConnected = (x.conn i).isConnected) :
    KeepsLinks x (x.modifyConn i f) :=
  ⟨rfl, rfl, fun j => by
    simp only [conn_modifyConn]; split_ifs with hj
    · subst hj; exact hf
    · rfl⟩

theorem keeps_modifyLoop (f : Loop → Loop) : KeepsLinks x (x.modifyLoop f) := ⟨rfl, rfl, fun _ => rfl⟩

theorem keeps_modifyErrors (f : Errors → Errors) (he : (f x.th.errors).established = x.th.errors.established)
    (hr : (f x.th.errors).reconnect = x.th.errors.reconnect) : KeepsLinks x (x.modifyErrors f) :=
  ⟨he, hr, fun _ => rfl⟩

theorem keeps_modifyThread (f : Thread → Thread) (hc : (f x.th).cs = x.th.cs)
    (he : (f x.th).errors.established = x.th.errors.established)
    (hr : (f x.th).errors.reconnect = x.th.errors.reconnect) : KeepsLinks x (x.modifyThread f) :=
  ⟨he, hr, fun j => by simp only [conn_modifyThread, hc]; rfl⟩

end Ctx

open Ctx

variable {cfg : Config} {x : Ctx} {i fd : Nat}

/-! ## つながりを書くもの -/

/-- `connect_socket` は、接続 `i` を `is_connected` の偽にしたあと、つながりも二つの数も変えない。 -/
theorem estStep_connectSocket_tail :
    EstStep cfg (x.modifyConn i fun c => { c with isConnected := false }) (connectSocket i x) := by
  unfold connectSocket
  exact ((acts_dropDial.trans (acts_openFds _ (by decide))).trans
    (acts_connectFd (by decide) trivial trivial trivial _ _) : Within cfg Writes.unlinked _ _).estStep (.refl _)

/-- つながっていない接続の `connect_socket` は、数えていない試みを減らさない。 -/
theorem estStep_connectSocket (hc : (x.conn i).isConnected = false) : EstStep cfg x (connectSocket i x) :=
  (keeps_modifyConn _ (by simp [hc])).estStep.trans estStep_connectSocket_tail

/-- `reconnect_socket` は `errors.reconnect` を増やしてから接続 `i` を `is_connected` の偽にする。 -/
theorem estStep_reconnectSocket : EstStep cfg x (reconnectSocket i x) := by
  unfold reconnectSocket
  refine EstStep.trans ?_ estStep_connectSocket_tail
  have hu := unconnected_update cfg (i := i) (x := x)
    (y := (((x.modifyLoop (·.deleteFileEvent (x.conn i).fd aeReadWrite)).modifyOs (·.close (x.conn i).fd)).modifyErrors
      fun e => { e with reconnect := e.reconnect + 1 }).modifyConn i fun c => { c with isConnected := false })
    (fun j hj => by simp [hj])
  unfold EstStep; simp only [modifyConn_errors, modifyErrors_errors, modifyOs_th, modifyLoop_errors] at hu ⊢
  split_ifs at hu <;> omega

/-- ワーカーの接続の確立は、`errors.established` を増やし、つながっていない接続を一つ減らす。 -/
theorem estStep_connectEstablished (hi : i < cfg.perThread) (hc : (x.conn i).isConnected = false) :
    EstStep cfg x (connectEstablished cfg fd i x) := by
  unfold connectEstablished
  refine EstStep.trans ?_ (((acts_subscribeIfNormal (fun _ => trivial) (fun _ => trivial) trivial).trans
    (acts_reportReady (by decide) fun _ => trivial) : Within cfg Writes.unlinked _ _).estStep (.refl _))
  have hu := unconnected_update cfg (i := i) (x := x)
    (y := (x.modifyConn i fun c => { c with written := 0, isConnected := true }).modifyErrors
      fun e => { e with established := e.established + 1 }) (fun j hj => by simp [hj])
  unfold EstStep; simp only [modifyConn_errors, modifyErrors_errors] at hu ⊢
  simp [hc, hi] at hu; omega

/-- ワーカーの接続の `socket_connected` は、数えていない試みを減らさない。`OK` で確立を数えるのは
`is_connected` が偽のときだけである。 -/
theorem estStep_socketConnected (st : ConnectStatus) (hi : i < cfg.perThread) :
    EstStep cfg x (socketConnected cfg fd i st x) := by
  cases st with
  | ok =>
    unfold socketConnected; split_ifs with hc
    · exact .refl _
    · exact estStep_connectEstablished hi (by simpa using hc)
  | error => exact (keeps_modifyErrors _ rfl rfl).estStep.trans estStep_reconnectSocket
  | retry r w =>
    exact (acts_connectRetry (by decide) trivial trivial trivial _ : Within cfg Writes.unlinked _ _).estStep (.refl _)

/-! ## 受信 -/

theorem estStep_readError : EstStep cfg x (readError i x) :=
  (keeps_modifyErrors _ rfl rfl).estStep.trans estStep_reconnectSocket

/-- 応答の終わりは、数えて記録したあとに、`keep-alive` でなければつなぎ直す。 -/
theorem estStep_responseComplete (st : Nat) (ka : Bool) : EstStep cfg x (responseComplete cfg i st ka x) := by
  have hd : Within cfg Writes.unlinked x (deliverResponse i st (countResponse st x)) :=
    (acts_countResponse (by decide) st).trans (acts_deliverResponse trivial (by decide) (by decide) st)
  have hr : ∀ y, Within cfg Writes.unlinked y (recordResponse cfg i y) := fun _ =>
    acts_recordResponse (by decide) trivial trivial trivial
  unfold responseComplete; dsimp only; split_ifs
  · exact (hd.trans acts_aeStop).estStep (.refl _)
  · exact (hd.trans (hr _)).estStep (.refl _)
  · exact ((hd.trans (hr _)).estStep (.refl _)).trans estStep_reconnectSocket

theorem estStep_parserCallback (ev : ParserEvent) : EstStep cfg x (parserCallback cfg i x ev) := by
  cases ev <;> dsimp only [parserCallback]
  case messageComplete st ka => exact estStep_responseComplete st ka
  all_goals split_ifs
  all_goals first | exact .refl _ | exact (keeps_modifyConn _ rfl).estStep

theorem estStep_socketReadable (chs : List Chunk) : EstStep cfg x (socketReadable cfg i chs x) :=
  socketReadable_rel (EstStep cfg) EstStep.refl EstStep.trans (fun _ => estStep_parserCallback)
    (fun _ => estStep_readError) (fun _ _ => (keeps_modifyThread _ rfl rfl rfl).estStep) chs x

/-! ## 送信 -/

theorem estStep_writeRequest : ∀ w, EstStep cfg x (writeRequest fd i w x)
  | .ok n => ((acts_sendBytes trivial (by decide) n).trans (acts_finishWrite trivial (by decide)) :
      Within cfg Writes.unlinked _ _).estStep (.refl _)
  | .error => (keeps_modifyErrors _ rfl rfl).estStep.trans estStep_reconnectSocket
  | .retry => .refl _

theorem estStep_socketWriteable (request : Bytes) (w : WriteResult) :
    EstStep cfg x (socketWriteable cfg fd i request w x) := by
  have hp : ∀ y : Ctx, EstStep cfg y (y.modifyConn i fun _ => (usecToNextSend cfg.throughput (y.conn i) y.now).2) :=
    fun _ => (acts_pacer trivial (by decide) : Within cfg Writes.unlinked _ _).estStep (.refl _)
  unfold socketWriteable; dsimp only; split_ifs
  · exact (hp x).trans (keeps_modifyLoop _).estStep
  · exact ((hp x).trans (keeps_modifyConn (i := i) _ rfl).estStep).trans (estStep_writeRequest w)
  · exact estStep_writeRequest w

/-! ## `dispatch` 一回 -/

theorem keeps_phaseMove (p : Phase) : KeepsLinks x (phaseMove cfg p x) :=
  ⟨by unfold phaseMove; split_ifs <;> rfl, by unfold phaseMove; split_ifs <;> rfl,
    fun j => by rw [phaseMove_conn]⟩

/-- 形の不変条件の下で、ワーカーの `dispatch` 一回は数えていない接続の試みを減らさない。 -/
theorem Thread.Wf.dispatch_estStep {io : Io} {y : Ctx} {ev : Event} (hw : x.th.Wf cfg)
    (h : dispatch cfg io x ev = some y) : EstStep cfg x y := by
  rcases hw.dispatch_writes h with ⟨-, hp, rfl⟩ | ⟨id, te, r, -, -, -, -, rfl⟩ | ⟨id, ⟨when, p⟩, -, hte, -, ha, rfl⟩ |
    ⟨fd, dir, p, -, hp, rfl, -⟩
  · have e : x.th = Thread.create x.th.stopAt := hw.fresh hp
    exact KeepsLinks.estStep ⟨by simp [threadMain], by simp [threadMain],
      fun j => by rw [Ctx.conn, Ctx.conn, threadMain_cs, e]; rfl⟩
  · exact ((keeps_phaseMove _).trans (keeps_modifyLoop _)).estStep
  · refine EstStep.trans ?_ (keeps_modifyLoop _).estStep
    cases p
    case delayedInitialConnect d =>
      have hc : (x.conn d).isConnected = false := by
        rw [Ctx.conn, ((hw.untouched d ⟨id, _, hte, rfl⟩).1)]; rfl
      exact (keeps_modifyConn _ rfl).estStep.trans (estStep_connectSocket (by simpa using hc))
    all_goals exact ha.estStep (of_decide_eq_true rfl)
  · have hi : (x.th.loop.events fd).clientData < cfg.perThread :=
      Nat.lt_of_not_le fun hge => (hw.outside _ hge).1 fd dir p hp rfl
    cases p with
    | socketConnected => exact estStep_socketConnected _ hi
    | socketReadable => exact estStep_socketReadable _
    | socketWriteable => exact estStep_socketWriteable _ _

/-- 到達できるすべての状態のすべてのワーカーで、`errors.established` とつながっていない接続の数の和は、
ワーカーごとの `connections` と `errors.reconnect` の和を越えない。 -/
theorem Reachable.established_add_unconnected_le {s : System} (hr : Reachable cfg s) (w : Nat) :
    (s.threads w).errors.established + (s.threads w).unconnected cfg ≤
      cfg.perThread + (s.threads w).errors.reconnect :=
  hr.thread_inv_wf (fun th _ => th.errors.established + th.unconnected cfg ≤ cfg.perThread + th.errors.reconnect)
    (fun st _ => by dsimp only; rw [Thread.unconnected_create]; exact Nat.le_of_eq (Nat.add_comm _ _))
    (fun _ _ _ h _ => h) (fun _ _ _ _ hw hd h => by have := hw.dispatch_estStep hd; unfold Ctx.EstStep at this; omega) w

end Wrk2
