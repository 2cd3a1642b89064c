import Wrk2.Worker.Lemmas.Wf
import Mathlib.Data.List.Nodup

/-!
# 記述子

プロセスの記述子表はワーカーの間で共有される。ソケットを開くのは `connect_socket` の `socket()` だけで、
開いた記述子は、`aeCreateFileEvent` までうまくいけばその接続の `c->fd` になり、そうでなければその場で
閉じる（wrk.c 475-516）。`reconnect_socket` は古い `c->fd` を閉じてから開き直す（wrk.c 518-524）。ほかの
コールバックは記述子を閉じるだけで、`c->fd` を変えない（`Ctx.FdFrame`）。`c->fd` を書く基本の書き換えは
`ConnKind.fd` だけで、記述子表を書くのは `Part.fds` を書く範囲だけなので、それらを書かない範囲
`Writes.noFds` の書き換えは `Ctx.Acts` の枠から `Ctx.FdFrame` を満たす（`Ctx.Acts.fdFrame`）。

ワーカーのほかの接続の `c->fd` と標準入出力を `O` として、コールバックは不変条件 `Ctx.FdOk` を保つ。そこから、
到達できるどの状態でも、開いた記述子は標準入出力か、どれかのワーカーのどれかの接続の `c->fd` であり、その数は
`3 + connections` を越えないことを導く（`Reachable.fdsOk`）。`socket()` は開いていない最小の番号を返すので、
返す記述子も、どの `c->fd` も、`main` がワーカーのループに与える大きさ `10 + connections * 3`（wrk.c 195）
より小さい。
-/

namespace Wrk2

theorem firstFree_le (used : List Nat) : ∀ fuel n, firstFree used fuel n ≤ n + fuel
  | 0, _ => Nat.le_refl _
  | fuel + 1, n => by
    simp only [firstFree]; split_ifs
    · exact (firstFree_le used fuel (n + 1)).trans (by omega)
    · omega

/-- `firstFree` が開いた記述子を返すのは、`n` から `n + fuel` までがどれも開いているときだけである。 -/
theorem firstFree_mem {used : List Nat} :
    ∀ {fuel n}, firstFree used fuel n ∈ used → ∀ k, n ≤ k → k ≤ n + fuel → k ∈ used
  | 0, n, h, k, h₁, h₂ => (show k = n by omega) ▸ h
  | fuel + 1, n, h, k, h₁, h₂ => by
    simp only [firstFree] at h
    split_ifs at h with hn
    · rcases Nat.eq_or_lt_of_le h₁ with rfl | h₁
      · exact hn
      · exact firstFree_mem h k h₁ (by omega)
    · exact absurd h hn

theorem Os.lowestFree_le (o : Os) : o.lowestFree ≤ o.openFds.length :=
  (firstFree_le _ _ _).trans_eq (Nat.zero_add _)

/-- `socket()` が返す記述子は開いていない。`0` から表の長さまでの数がすべて開いていることはない。 -/
theorem Os.lowestFree_not_mem (o : Os) : o.lowestFree ∉ o.openFds := fun hm => by
  have hs : List.range (o.openFds.length + 1) ⊆ o.openFds := fun k hk =>
    firstFree_mem hm k (Nat.zero_le _) (by simpa [Nat.lt_succ_iff] using List.mem_range.mp hk)
  have := (List.subperm_of_subset (List.nodup_range _) hs).length_le
  simp at this

@[simp] theorem Os.socket_openFds (o : Os) : o.socket.openFds = o.lowestFree :: o.openFds := rfl

@[simp] theorem Os.close_openFds (o : Os) (fd : Nat) : (o.close fd).openFds = o.openFds.erase fd := rfl

@[simp] theorem Os.send_openFds (o : Os) (fd : Nat) (b : Bytes) : (o.send fd b).openFds = o.openFds := rfl

/-- 接続の `c->fd` と記述子表のほかを書きうる範囲。 -/
def Writes.noFds : Writes :=
  ⟨[.mask, .disconnect, .establish, .anchor, .parse, .pacer, .countDown, .complete, .begin, .send, .finish],
    [.clock, .counts, .hist, .delivered, .established, .reconnect, .ready]⟩

namespace Ctx

/-- ワーカーの記述子についての不変条件。`O` はほかのワーカーの接続の `c->fd` と標準入出力の記述子である。
開いた記述子に重なりはなく、どれも `O` にあるか、ワーカーの接続の `c->fd` である。接続の `c->fd` は
どれも、`O` の長さとワーカーの接続の数の和を越えない。 -/
structure FdOk (cfg : Config) (O : List Nat) (x : Ctx) : Prop where
  nodup : x.os.openFds.Nodup
  owned : ∀ fd ∈ x.os.openFds, fd ∈ O ∨ ∃ i < cfg.perThread, (x.conn i).fd = fd
  fdLe : ∀ i, (x.conn i).fd ≤ O.length + cfg.perThread

/-- `x → y` で、記述子は閉じるだけで、接続の `c->fd` は変わらない。 -/
structure FdFrame (x y : Ctx) : Prop where
  sub : y.os.openFds.Sublist x.os.openFds
  fd : ∀ i, (y.conn i).fd = (x.conn i).fd

variable {cfg : Config} {O : List Nat} {x y z : Ctx} {i : Nat}

/-- 開いた記述子の数は、`O` の長さとワーカーの接続の数の和を越えない。 -/
theorem FdOk.length_le (hb : FdOk cfg O x) : x.os.openFds.length ≤ O.length + cfg.perThread := by
  have hs : x.os.openFds ⊆ O ++ (List.range cfg.perThread).map fun i => (x.conn i).fd := fun fd h => by
    rcases hb.owned fd h with h | ⟨i, hi, rfl⟩
    · exact List.mem_append_left _ h
    · exact List.mem_append_right _ (List.mem_map_of_mem _ (List.mem_range.mpr hi))
  simpa using (List.subperm_of_subset hb.nodup hs).length_le

theorem FdFrame.refl (x : Ctx) : FdFrame x x := ⟨.refl _, fun _ => rfl⟩

theorem FdFrame.trans (h₁ : FdFrame x y) (h₂ : FdFrame y z) : FdFrame x z :=
  ⟨h₂.sub.trans h₁.sub, fun i => (h₂.fd i).trans (h₁.fd i)⟩

theorem FdOk.of_frame (hb : FdOk cfg O x) (h : FdFrame x y) : FdOk cfg O y :=
  ⟨hb.nodup.sublist h.sub, fun fd hf => by simpa only [h.fd] using hb.owned fd (h.sub.subset hf),
    fun i => (h.fd i).trans_le (hb.fdLe i)⟩

theorem fdFrame_modifyConn (f : Connection → Connection) (hf : (f (x.conn i)).fd = (x.conn i).fd) :
    FdFrame x (x.modifyConn i f) :=
  ⟨.refl _, fun j => by simp only [conn_modifyConn]; split_ifs with hj
                        · subst hj; exact hf
                        · rfl⟩

theorem fdFrame_modifyLoop (f : Loop → Loop) : FdFrame x (x.modifyLoop f) := ⟨.refl _, fun _ => rfl⟩

theorem fdFrame_modifyErrors (f : Errors → Errors) : FdFrame x (x.modifyErrors f) := ⟨.refl _, fun _ => rfl⟩

theorem fdFrame_modifyThread (f : Thread → Thread) (hc : (f x.th).cs = x.th.cs) : FdFrame x (x.modifyThread f) :=
  ⟨.refl _, fun j => by rw [conn_modifyThread, hc]; rfl⟩

theorem fdFrame_close (fd : Nat) : FdFrame x (x.modifyOs (·.close fd)) := ⟨List.erase_sublist _ _, fun _ => rfl⟩

/-- `c->fd` も記述子表も書かない範囲の書き換えは、`Ctx.FdFrame` を満たす。 -/
theorem Acts.fdFrame {ω : Writes} {pc pd : Nat → Prop} {pf : FileProc → Prop} {pt : TimeProc → Prop}
    (h : Acts cfg ω pc pf pd pt x y) (hω : ω.Le Writes.noFds) : FdFrame x y :=
  ⟨(h.frame .fds fun hp => absurd (hω.part hp) (by decide)) ▸ .refl _,
    h.conn_keep_of_not_mem Connection.fd ConnStep.fd_eq fun hk => absurd (hω.kind hk) (by decide)⟩

end Ctx

open Ctx

variable {cfg : Config} {O : List Nat} {x : Ctx} {i fd : Nat}

/-! ## 接続 -/

/-- `connect_socket` は、`socket()` で開いた記述子を接続の `c->fd` にするか、その場で閉じる。接続の古い
`c->fd` が開いていれば、それは `O` にあるものでなければならない。 -/
theorem Ctx.FdOk.connectSocket (hb : FdOk cfg O x) (hi : i < cfg.perThread)
    (hold : (x.conn i).fd ∈ x.os.openFds → (x.conn i).fd ∈ O) : FdOk cfg O (Wrk2.connectSocket i x) := by
  have hn := Os.lowestFree_not_mem x.os
  have hle := (Os.lowestFree_le x.os).trans hb.length_le
  have herr : ∀ y : Ctx, y.os.openFds = x.os.openFds → (∀ j, (y.conn j).fd = (x.conn j).fd) → FdOk cfg O y :=
    fun y ho hf => hb.of_frame ⟨ho ▸ .refl _, hf⟩
  unfold Wrk2.connectSocket connectFd connectError; split_ifs
  · refine ⟨?_, fun fd h => ?_, fun j => ?_⟩
    · simpa using ⟨hn, hb.nodup⟩
    · simp only [conn_modifyConn, modifyConn_os, modifyLoop_os, modifyOs_os, dropDial_os, Os.socket_openFds,
        List.mem_cons] at h ⊢
      rcases h with rfl | h
      · exact .inr ⟨i, hi, by simp⟩
      · rcases hb.owned fd h with ho | ⟨j, hj, rfl⟩
        · exact .inl ho
        · by_cases hji : j = i
          · subst hji; exact .inl (hold h)
          · exact .inr ⟨j, hj, by simp [hji]⟩
    · by_cases hji : j = i
      · subst hji; simpa using hle
      · simpa [hji] using hb.fdLe j
  · exact herr _ (by simp) fun j => by by_cases hji : j = i <;> simp [hji]
  · exact herr _ (by simp) fun j => by by_cases hji : j = i <;> simp [hji]

/-- `reconnect_socket` は古い `c->fd` を閉じてからつなぎ直す。 -/
theorem Ctx.FdOk.reconnectSocket (hb : FdOk cfg O x) (hi : i < cfg.perThread) :
    FdOk cfg O (Wrk2.reconnectSocket i x) := by
  unfold Wrk2.reconnectSocket
  refine FdOk.connectSocket (hb.of_frame (((fdFrame_modifyLoop _).trans (fdFrame_close _)).trans
    (fdFrame_modifyErrors _))) hi fun h => absurd h ?_
  simpa using hb.nodup.not_mem_erase

theorem Ctx.FdOk.socketConnected (hb : FdOk cfg O x) (hi : i < cfg.perThread) (st : ConnectStatus) :
    FdOk cfg O (Wrk2.socketConnected cfg fd i st x) := by
  cases st with
  | ok =>
    unfold Wrk2.socketConnected; split_ifs
    · exact hb
    · exact hb.of_frame ((acts_connectEstablished (by decide) trivial (fun _ => trivial) (fun _ => trivial) trivial
        fun _ => trivial : Within cfg Writes.noFds _ _).fdFrame (.refl _))
  | error => exact (hb.of_frame (fdFrame_modifyErrors _)).reconnectSocket hi
  | retry r w =>
    exact hb.of_frame ((acts_connectRetry (by decide) trivial trivial trivial _ : Within cfg Writes.noFds _ _).fdFrame
      (.refl _))

/-! ## 受信 -/

theorem Ctx.FdOk.responseComplete (hb : FdOk cfg O x) (hi : i < cfg.perThread) (st : Nat) (ka : Bool) :
    FdOk cfg O (Wrk2.responseComplete cfg i st ka x) := by
  have hd : Within cfg Writes.noFds x (deliverResponse i st (countResponse st x)) :=
    (acts_countResponse (by decide) st).trans (acts_deliverResponse trivial (by decide) (by decide) st)
  have hr : ∀ y, Within cfg Writes.noFds y (recordResponse cfg i y) := fun _ =>
    acts_recordResponse (by decide) trivial trivial trivial
  unfold Wrk2.responseComplete; dsimp only; split_ifs
  · exact hb.of_frame ((hd.trans acts_aeStop).fdFrame (.refl _))
  · exact hb.of_frame ((hd.trans (hr _)).fdFrame (.refl _))
  · exact (hb.of_frame ((hd.trans (hr _)).fdFrame (.refl _))).reconnectSocket hi

theorem Ctx.FdOk.readError (hb : FdOk cfg O x) (hi : i < cfg.perThread) : FdOk cfg O (Wrk2.readError i x) :=
  (hb.of_frame (fdFrame_modifyErrors _)).reconnectSocket hi

theorem Ctx.FdOk.socketReadable (hb : FdOk cfg O x) (hi : i < cfg.perThread) (chs : List Chunk) :
    FdOk cfg O (Wrk2.socketReadable cfg i chs x) := by
  refine socketReadable_rel (fun x y => FdOk cfg O x → FdOk cfg O y) (fun _ => id) (fun h₁ h₂ => h₂ ∘ h₁)
    (fun x ev hb => ?_) (fun _ hb => hb.readError hi) (fun _ _ hb => hb.of_frame (fdFrame_modifyThread _ rfl)) chs x hb
  cases ev <;> dsimp only [parserCallback]
  case messageComplete st ka => exact hb.responseComplete hi st ka
  all_goals split_ifs
  all_goals first | exact hb | exact hb.of_frame (fdFrame_modifyConn _ rfl)

/-! ## 送信 -/

theorem Ctx.FdOk.writeRequest (hb : FdOk cfg O x) (hi : i < cfg.perThread) :
    ∀ w, FdOk cfg O (Wrk2.writeRequest fd i w x)
  | .ok n => hb.of_frame (((acts_sendBytes trivial (by decide) n).trans (acts_finishWrite trivial (by decide)) :
      Within cfg Writes.noFds _ _).fdFrame (.refl _))
  | .error => (hb.of_frame (fdFrame_modifyErrors _)).reconnectSocket hi
  | .retry => hb

theorem Ctx.FdOk.socketWriteable (hb : FdOk cfg O x) (hi : i < cfg.perThread) (request : Bytes)
    (w : WriteResult) : FdOk cfg O (Wrk2.socketWriteable cfg fd i request w x) := by
  have hp : ∀ y : Ctx, FdFrame y (y.modifyConn i fun _ => (usecToNextSend cfg.throughput (y.conn i) y.now).2) :=
    fun _ => (acts_pacer trivial (by decide) : Within cfg Writes.noFds _ _).fdFrame (.refl _)
  unfold Wrk2.socketWriteable; dsimp only; split_ifs
  · exact hb.of_frame ((hp x).trans (fdFrame_modifyLoop _))
  · exact (hb.of_frame ((hp x).trans (fdFrame_modifyConn (i := i) _ rfl))).writeRequest hi w
  · exact hb.writeRequest hi w

/-! ## スレッドのコールバック -/

/-- ワーカーの並び `ws` の接続の `c->fd` を並べたもの。 -/
def System.connFds (cfg : Config) (s : System) (ws : List Nat) : List Nat :=
  ws.flatMap fun w => (List.range cfg.perThread).map fun i => ((s.threads w).cs i).fd

theorem System.length_connFds (s : System) (ws : List Nat) :
    (s.connFds cfg ws).length = ws.length * cfg.perThread := by
  induction ws with
  | nil => simp [System.connFds]
  | cons w ws ih =>
    simp only [System.connFds, List.flatMap_cons, List.length_append, List.length_map, List.length_range,
      List.length_cons] at ih ⊢
    rw [ih, Nat.succ_mul, Nat.add_comm]

theorem System.mem_connFds {s : System} {ws : List Nat} {fd : Nat} :
    fd ∈ s.connFds cfg ws ↔ ∃ w ∈ ws, ∃ i < cfg.perThread, ((s.threads w).cs i).fd = fd := by
  simp [System.connFds]

/-- 到達できる状態の記述子表の不変条件。開いた記述子に重なりはなく、どれも標準入出力か、どれかのワーカーの
どれかの接続の `c->fd` である。どの `c->fd` も、標準入出力とすべての接続の数の和を越えない。 -/
structure System.FdsOk (cfg : Config) (s : System) : Prop where
  nodup : s.os.openFds.Nodup
  owned : ∀ fd ∈ s.os.openFds, fd < 3 ∨ fd ∈ s.connFds cfg (List.range cfg.threads)
  fdLe : ∀ w i, ((s.threads w).cs i).fd ≤ 3 + cfg.threads * cfg.perThread

theorem mem_range_erase {n w v : Nat} : v ∈ (List.range n).erase w ↔ v ≠ w ∧ v < n := by
  rw [(List.nodup_range _).mem_erase_iff, List.mem_range]

/-- ワーカー `w` から見た、ほかのワーカーの接続の `c->fd` と標準入出力の数に、`w` の接続の数を足すと、
標準入出力とすべての接続の数になる。 -/
theorem length_othersFds (s : System) {w : Nat} (hw : w < cfg.threads) :
    ([0, 1, 2] ++ s.connFds cfg ((List.range cfg.threads).erase w)).length + cfg.perThread =
      3 + cfg.threads * cfg.perThread := by
  rw [List.length_append, System.length_connFds, List.length_erase_of_mem (List.mem_range.mpr hw),
    List.length_range]
  obtain ⟨n, hn⟩ : ∃ n, cfg.threads = n + 1 := ⟨cfg.threads - 1, by have := cfg.threads_pos; omega⟩
  rw [hn, Nat.add_sub_cancel, Nat.succ_mul]; simp; omega

/-- ワーカー `w` の視点の不変条件を保ったコールバックの結果を戻すと、記述子表の不変条件が成り立つ。 -/
theorem System.FdsOk.put {s : System} (ih : s.FdsOk cfg) {w : Nat} (hw : w < cfg.threads) {y : Ctx}
    (hy : FdOk cfg ([0, 1, 2] ++ s.connFds cfg ((List.range cfg.threads).erase w)) y) : (s.put w y).FdsOk cfg := by
  refine ⟨hy.nodup, fun fd h => ?_, fun v i => ?_⟩
  · rcases hy.owned fd h with ho | ⟨i, hi, rfl⟩
    · rcases List.mem_append.mp ho with h3 | hc
      · exact .inl (by simp at h3; omega)
      · obtain ⟨v, hv, i, hi, rfl⟩ := System.mem_connFds.mp hc
        have hvw := mem_range_erase.mp hv
        exact .inr (System.mem_connFds.mpr ⟨v, List.mem_range.mpr hvw.2, i, hi, by simp [System.put, hvw.1]⟩)
    · exact .inr (System.mem_connFds.mpr ⟨w, List.mem_range.mpr hw, i, hi, by simp [System.put]; rfl⟩)
  · by_cases hvw : v = w
    · subst hvw; simpa [System.put, ← length_othersFds s hw] using hy.fdLe i
    · simpa [System.put, hvw] using ih.fdLe v i

end Wrk2
