import Wrk2.Worker.Lemmas.Sample
import Wrk2.Worker.Lemmas.Stop
import Wrk2.Worker.Lemmas.Barrier

/-!
# ウォームアップの出口と数え上げ

`thread_main` はウォームアップがあれば `warmup_timed_out` を `warmup_timeout` ミリ秒後の時間イベントとして
置き、`thread->start` をその時刻にする（wrk.c 384-399）。`warmup_timed_out` は `phase_move` でワーカーを
`NORMAL` に移して `AE_NOMORE` を返す（wrk.c 582-589）。`WARMUP` のあいだ、この時間イベントを消せるのは
それ自身だけで（`Thread.Wf.dispatch_timers`）、`start` を書く `phase_move` は `NORMAL` に移し、`calibrate` と
`sample_rate` は `NORMAL` でしか置かれていない（`Thread.SampleOk`）。

ここから、到達できるどの状態でも、`WARMUP` のワーカーは `start` から `warmup_timeout` ミリ秒後を期限とする
`warmup_timed_out` を持つことを導く（`Reachable.warmupTimer`）。

もう一つの出口は `inter_thread_sync` である。`socket_connected` は確立の数が接続の数にちょうど達したとき、
これを `THREAD_SYNC_INTERVAL_MS` 後に置き（wrk.c 833-841）、`inter_thread_sync` は `NORMAL` に入るまで同じ間隔
で自分を置き直す（wrk.c 591-599）。そこで、接続の数だけ確立を数えた `WARMUP` のワーカーは、時計から
`THREAD_SYNC_INTERVAL_MS` 以内の期限でこの時間イベントを持つ（`Reachable.syncTimer`）。

`NORMAL` の前のワーカーは、応答を数えず、バイトを読まず、遅れを記録しない（`Reachable.unmeasured`）。
`WARMUP` の購読は `socket_connected` だけで、数え上げとヒストグラム（`Part.counts` と `Part.hist`）を書く
時間イベントの `calibrate` と `sample_rate` は `NORMAL` でしか置かれていないからである。
-/

namespace Wrk2

/-- `WARMUP` のワーカーは、`start` から `warmup_timeout` ミリ秒後を期限とする `warmup_timed_out` の時間
イベントを、次の番号より小さい番号に持つ。 -/
def Thread.WarmupTimer (cfg : Config) (th : Thread) : Prop :=
  th.phase = .warmup → ∃ id < th.loop.timeEventNextId,
    th.loop.timeEvents id = some ⟨th.start + cfg.warmupTimeoutMs * 1000, .warmupTimedOut⟩

open Ctx

variable {cfg : Config} {x y : Ctx}

/-- `thread_main` は、ウォームアップがあれば `warmup_timed_out` を今から `warmup_timeout` ミリ秒後に置き、
`start` を今にする。 -/
theorem threadMain_warmupTimer : (threadMain cfg x).th.WarmupTimer cfg := by
  intro hp
  cases hw : cfg.warmup
  · simp [threadMain, hw] at hp
  · simp only [threadMain, armWarmupTimeout, hw, if_true]
    exact ⟨_, Nat.lt_succ_self _, by simp [Loop.createTimeEvent]⟩

theorem Phase.eq_warmup {p : Phase} (hi : p ≠ .init) (hn : p ≠ .normal) : p = .warmup := by
  cases p <;> simp_all

/-- 段階は戻らないので、`dispatch` の後に `NORMAL` でなければ、前も `NORMAL` でない。 -/
theorem Thread.Wf.ne_normal_of_dispatch {io : Io} {ev : Event} (hw : x.th.Wf cfg) (h : dispatch cfg io x ev = some y)
    (hy : y.th.phase ≠ .normal) : x.th.phase ≠ .normal := fun hx => hy (by
  have hr := hw.dispatch_phase h
  rw [hx] at hr
  cases hp : y.th.phase with
  | normal => rfl
  | _ => rw [hp] at hr; exact absurd hr (by decide))

/-- `dispatch` の後に `WARMUP` なら、前も `WARMUP` だった。 -/
theorem Thread.Wf.warmup_of_dispatch {io : Io} {ev : Event} (hw : x.th.Wf cfg) (h : dispatch cfg io x ev = some y)
    (hi : x.th.phase ≠ .init) (hy : y.th.phase = .warmup) : x.th.phase = .warmup :=
  Phase.eq_warmup hi (hw.ne_normal_of_dispatch h (by rw [hy]; decide))

/-- 形と標本の時計の不変条件の下で、`dispatch` 一回のあとも `WARMUP` なら、`warmup_timed_out` の時間イベントは
同じ期限で残っている。`start` を書く `phase_move` は `NORMAL` に移し、`calibrate` と `sample_rate` は `NORMAL`
でしか置かれていない。 -/
theorem Thread.Wf.dispatch_warmupTimer {io : Io} {ev : Event} (hw : x.th.Wf cfg) (ho : x.th.SampleOk)
    (h : dispatch cfg io x ev = some y) (hs : x.th.WarmupTimer cfg) : y.th.WarmupTimer cfg := by
  intro hy
  obtain ⟨hn, ht⟩ := hw.dispatch_timers h
  rcases hw.dispatch_writes h with ⟨-, -, rfl⟩ | ⟨id, te, r, -, -, -, -, rfl⟩ | ⟨id, ⟨when, p⟩, rfl, hte, -, ha, rfl⟩ |
    ⟨fd, dir, p, rfl, hp, -, ha⟩
  · exact threadMain_warmupTimer hy
  · simp at hy
  · have hx := hw.warmup_of_dispatch h (hw.phase_ne_init hte) hy
    obtain ⟨k, hk, he⟩ := hs hx
    have hid : k ≠ id := by
      rintro rfl
      obtain ⟨⟩ := Option.some.inj (hte.symm.trans he)
      simp [timeProc, warmupTimedOut] at hy
    have hc : .clock ∉ (TimeProc.writes p).parts := by
      cases p
      case calibrate | sampleRate => exact absurd (ho.normal id _ hte rfl) (by rw [hx]; decide)
      all_goals exact of_decide_eq_true rfl
    refine ⟨k, hk.trans_le hn, ?_⟩
    rw [ht k hk fun e => hid (Event.time.inj e).symm, he, modifyLoop_start, (ha.keepsClock hc).1]
  · have hx := hw.warmup_of_dispatch h (hw.phase_ne_init' hp) hy
    obtain ⟨k, hk, he⟩ := hs hx
    exact ⟨k, hk.trans_le hn, by rw [ht k hk Event.noConfusion, he, (ha.keepsClock (by cases p <;> decide)).1]⟩

/-- 到達できるすべての状態で、`WARMUP` のワーカーは、`start` から `warmup_timeout` ミリ秒後を期限とする
`warmup_timed_out` の時間イベントを持つ。 -/
theorem Reachable.warmupTimer {s : System} (hr : Reachable cfg s) (w : Nat) : (s.threads w).WarmupTimer cfg :=
  (hr.thread_inv_wf (fun th _ => th.SampleOk ∧ th.WarmupTimer cfg) (fun st _ => ⟨.create st, fun h => by cases h⟩)
    (fun _ _ _ h _ => h) (fun _ _ _ _ hw h ⟨ho, hs⟩ => ⟨ho.of_dispatch hw h, hw.dispatch_warmupTimer ho h hs⟩) w).2

/-! ## `inter_thread_sync` -/

/-- ウォームアップで確立の数が接続の数に達したワーカーは、`WARMUP` にいる限り `inter_thread_sync` の時間
イベントを、次の番号より小さい番号に、時刻 `n` から `THREAD_SYNC_INTERVAL_MS` 以内の期限で持つ。 -/
def Thread.SyncTimer (cfg : Config) (th : Thread) (n : Nat) : Prop :=
  th.phase = .warmup → cfg.perThread ≤ th.errors.established → ∃ id < th.loop.timeEventNextId, ∃ when,
    th.loop.timeEvents id = some ⟨when, .interThreadSync⟩ ∧ when ≤ n + threadSyncIntervalMs * 1000

theorem Thread.SyncTimer.mono {th : Thread} {n m : Nat} (h : th.SyncTimer cfg n) (hn : n ≤ m) :
    th.SyncTimer cfg m := fun hp he => by
  obtain ⟨id, hid, when, hte, hw⟩ := h hp he
  exact ⟨id, hid, when, hte, by omega⟩

/-- `WARMUP` のワーカーがあるなら、ウォームアップは設定されている。ウォームアップがなければ段階の時間イベント
`warmup_timed_out` は置かれない。 -/
theorem Thread.Wf.warmup_eq_true {th : Thread} (hw : th.Wf cfg) (hs : th.WarmupTimer cfg) (hp : th.phase = .warmup) :
    cfg.warmup = true := by
  obtain ⟨id, -, hte⟩ := hs hp
  cases h : cfg.warmup
  · cases hw.noPhase h id _ hte
  · rfl

/-- 確立の数を接続の数に届かせた `socket_connected` は、ウォームアップがあれば `inter_thread_sync` を今から
`THREAD_SYNC_INTERVAL_MS` 後に置く。 -/
theorem socketConnected_syncTimer {fd i : Nat} {st : ConnectStatus} (hw : cfg.warmup = true)
    (hx : x.th.errors.established < cfg.perThread)
    (hy : cfg.perThread ≤ (socketConnected cfg fd i st x).th.errors.established) :
    ∃ id < (socketConnected cfg fd i st x).th.loop.timeEventNextId,
      (socketConnected cfg fd i st x).th.loop.timeEvents id =
        some ⟨x.now + threadSyncIntervalMs * 1000, .interThreadSync⟩ := by
  have hk : ∀ {y : Ctx}, KeepsReady x y → cfg.perThread ≤ y.th.errors.established → False :=
    fun h hy => by rw [h.established] at hy; omega
  cases st with
  | ok =>
    simp only [Wrk2.socketConnected] at hy ⊢
    split_ifs at hy ⊢
    · exact (hk (.refl x) hy).elim
    set z := subscribeIfNormal fd i ((x.modifyConn i fun c => { c with written := 0, isConnected := true }).modifyErrors
      fun e => { e with established := e.established + 1 })
    have he : z.th.errors.established = x.th.errors.established + 1 := by
      simp only [z, subscribeIfNormal]; split_ifs <;> rfl
    have hn : z.now = x.now := by simp only [z, subscribeIfNormal]; split_ifs <;> rfl
    change cfg.perThread ≤ (reportReady cfg z).th.errors.established at hy
    show ∃ id < (reportReady cfg z).th.loop.timeEventNextId, (reportReady cfg z).th.loop.timeEvents id = _
    unfold reportReady at hy ⊢
    split_ifs at hy ⊢ with h
    · exact ⟨_, Nat.lt_succ_self _, by simp [Loop.createTimeEvent, hn]⟩
    · exact absurd ⟨hw, by omega⟩ h
  | error => exact (hk (keepsReady_socketConnected_of_ne (by decide)) hy).elim
  | retry r w => exact (hk (keepsReady_socketConnected_of_ne ConnectStatus.noConfusion) hy).elim

/-- 形とウォームアップの時間イベントの不変条件の下で、`dispatch` 一回のあとも、接続の数だけ確立を数えた
`WARMUP` のワーカーの `inter_thread_sync` は、前の期限のまま残るか、その時刻から置き直される。 -/
theorem Thread.Wf.dispatch_syncTimer {io : Io} {ev : Event} (hw : x.th.Wf cfg) (hs : x.th.WarmupTimer cfg)
    (h : dispatch cfg io x ev = some y) (ho : x.th.SyncTimer cfg x.now) : y.th.SyncTimer cfg x.now := by
  intro hy he
  obtain ⟨hn, ht⟩ := hw.dispatch_timers h
  rcases hw.dispatch_writes h with ⟨-, hp, rfl⟩ | ⟨id, te, r, -, -, -, -, rfl⟩ | ⟨id, te, rfl, hte, -, ha, rfl⟩ |
    ⟨fd, dir, p, rfl, hp, rfl, ha⟩
  · have h0 : x.th.errors.established = 0 := by rw [hw.fresh hp]; rfl
    exact absurd (he.trans_eq h0) (Nat.not_le_of_gt cfg.perThread_pos)
  · simp at hy
  · have hx := hw.warmup_of_dispatch h (hw.phase_ne_init hte) hy
    have hkr := ha.keepsReady (fun h => absurd (te.timeProc.writes_le.part h) (by decide))
      fun h => absurd (te.timeProc.writes_le.part h) (by decide)
    obtain ⟨k, hk, when, hke, hwhen⟩ := ho hx (he.trans_eq hkr.established)
    refine ⟨k, hk.trans_le hn, ?_⟩
    by_cases hid : k = id
    · subst hid
      obtain rfl := Option.some.inj (hte.symm.trans hke)
      have hg : x.g.isReady = false := by
        cases hg : x.g.isReady
        · rfl
        · simp [timeProc, interThreadSync_fst, hg] at hy
      refine ⟨x.now + threadSyncIntervalMs * 1000, ?_, le_rfl⟩
      simp [timeProc, interThreadSync, hg, hx, Loop.rearm]
    · exact ⟨when, (ht k hk fun e => hid (Event.time.inj e).symm).trans hke, hwhen⟩
  · have hx := hw.warmup_of_dispatch h (hw.phase_ne_init' hp) hy
    obtain rfl : p = .socketConnected := (hw.quiet (by rw [hx]; decide)).1 fd dir p hp
    by_cases hxe : cfg.perThread ≤ x.th.errors.established
    · obtain ⟨k, hk, when, hke, hwhen⟩ := ho hx hxe
      exact ⟨k, hk.trans_le hn, when, (ht k hk Event.noConfusion).trans hke, hwhen⟩
    · obtain ⟨k, hk, hke⟩ := socketConnected_syncTimer (hw.warmup_eq_true hs hx) (Nat.lt_of_not_le hxe) he
      exact ⟨k, hk, _, hke, le_rfl⟩

/-- 到達できるすべての状態で、接続の数だけ確立を数えた `WARMUP` のワーカーは、`inter_thread_sync` の時間
イベントを時計から `THREAD_SYNC_INTERVAL_MS` 以内の期限で持つ。 -/
theorem Reachable.syncTimer {s : System} (hr : Reachable cfg s) (w : Nat) : (s.threads w).SyncTimer cfg s.now :=
  (hr.thread_inv_wf (fun th n => th.SampleOk ∧ th.WarmupTimer cfg ∧ th.SyncTimer cfg n)
    (fun st _ => ⟨.create st, fun h => (by cases h), fun h => (by cases h)⟩)
    (fun _ _ _ ⟨ho, hs, hy⟩ hn => ⟨ho, hs, hy.mono hn⟩)
    (fun _ _ _ _ hw h ⟨ho, hs, hy⟩ =>
      ⟨ho.of_dispatch hw h, hw.dispatch_warmupTimer ho h hs, hw.dispatch_syncTimer hs h hy⟩) w).2.2

/-! ## ウォームアップは数えない -/

/-- ワーカーの数え上げ（`complete`、`requests`、`bytes`）と二つのヒストグラム。 -/
def Thread.measured (th : Thread) : Nat × Nat × Nat × List Int × List Int :=
  (th.complete, th.requests, th.bytes, th.latencyHistogram, th.uLatencyHistogram)

/-- 数え上げもヒストグラムも書かない書き換えは、それらを変えない。 -/
theorem Ctx.Acts.measured {ω : Writes} {pc pd : Nat → Prop} {pf : FileProc → Prop} {pt : TimeProc → Prop}
    (h : Ctx.Acts cfg ω pc pf pd pt x y) (hc : .counts ∉ ω.parts) (hh : .hist ∉ ω.parts) :
    y.th.measured = x.th.measured := by
  have e₁ := h.frame _ hc
  have e₂ := h.frame _ hh
  simp only [Part.Same, Prod.mk.injEq] at e₁ e₂
  simp only [Thread.measured, e₁, e₂]

/-- 形と標本の時計の不変条件の下で、`dispatch` 一回のあとも `NORMAL` に入っていなければ、ワーカーは何も
数えず何も記録していない。 -/
theorem Thread.Wf.dispatch_unmeasured {io : Io} {ev : Event} (hw : x.th.Wf cfg) (ho : x.th.SampleOk)
    (h : dispatch cfg io x ev = some y) (hs : x.th.phase ≠ .normal → x.th.measured = (0, 0, 0, [], [])) :
    y.th.phase ≠ .normal → y.th.measured = (0, 0, 0, [], []) := by
  intro hy
  have hx := hw.ne_normal_of_dispatch h hy
  rcases hw.dispatch_writes h with ⟨-, hp, rfl⟩ | ⟨id, te, r, -, -, -, -, rfl⟩ | ⟨id, ⟨when, p⟩, -, hte, -, ha, rfl⟩ |
    ⟨fd, dir, p, -, hp, -, ha⟩
  · show (x.th.complete, x.th.requests, x.th.bytes, ([] : List Int), ([] : List Int)) = _
    rw [hw.fresh hp]; rfl
  · simp at hy
  · refine (ha.measured ?_ ?_).trans (hs hx) <;> cases p
    case calibrate | sampleRate => exact absurd (ho.normal id _ hte rfl) hx
    case calibrate | sampleRate => exact absurd (ho.normal id _ hte rfl) hx
    all_goals exact of_decide_eq_true rfl
  · obtain rfl : p = .socketConnected := (hw.quiet hx).1 fd dir p hp
    exact (ha.measured (by decide) (by decide)).trans (hs hx)

/-- 到達できるすべての状態で、`NORMAL` に入っていないワーカーは、応答を数えず、バイトを読まず、遅れを記録
していない。 -/
theorem Reachable.unmeasured {s : System} (hr : Reachable cfg s) (w : Nat) (hp : (s.threads w).phase ≠ .normal) :
    (s.threads w).measured = (0, 0, 0, [], []) :=
  (hr.thread_inv_wf (fun th _ => th.SampleOk ∧ (th.phase ≠ .normal → th.measured = (0, 0, 0, [], [])))
    (fun st _ => ⟨.create st, fun _ => rfl⟩) (fun _ _ _ h _ => h)
    (fun _ _ _ _ hw h ⟨ho, hs⟩ => ⟨ho.of_dispatch hw h, hw.dispatch_unmeasured ho h hs⟩) w).2 hp

end Wrk2
