import Wrk2.Worker.Lemmas.Established

/-!
# ウォームアップのバリア

ウォームアップがあるとき、ワーカーは自分の接続の数だけ確立を数えたところで `g_ready_threads` を一つ増やし、
それが `threads` に達したら `g_is_ready` を立てる（wrk.c 833-841）。どのワーカーも `inter_thread_sync` で
`g_is_ready` を見て `NORMAL` に入る（wrk.c 591-599）。確立の数は減らず、一度に一つずつ増えるので、ワーカーを
数えるのは、確立の数が接続の数にちょうど達したときの一度だけである。

`g_ready_threads` と `g_is_ready` を変えるのは、`socket_connected` で接続が確立したときだけである。ほかの
コールバックは `Part.established` と `Part.ready` を書かないので、`Ctx.Acts` の枠から確立の数とこの二つを
保つ（`Ctx.Acts.keepsReady`）。ワーカーのほかに数えられたワーカーの数を `S` と
して、どのコールバックも不変条件 `Ctx.Barrier` を保つ。そこから、どのインターリーブでも、`g_ready_threads` は
数えられたワーカーの数に等しく、`g_is_ready` はそれが `threads` に達したときにだけ立っていることを導く
（`Reachable.barrier`）。
-/

namespace Wrk2

/-- ワーカーが `g_ready_threads` に数えられていること。ウォームアップがあり、確立の数がワーカーの接続の数
に達している。 -/
def Thread.ready (cfg : Config) (th : Thread) : Bool :=
  cfg.warmup && decide (cfg.perThread ≤ th.errors.established)

/-- 数えられたワーカーの数。 -/
def System.readyCount (cfg : Config) (s : System) : Nat :=
  (List.range cfg.threads).countP fun w => (s.threads w).ready cfg

/-- ワーカーの接続は一つ以上ある（`connections ≥ threads`）。 -/
theorem Config.perThread_pos (cfg : Config) : 0 < cfg.perThread :=
  Nat.div_pos cfg.threads_le cfg.threads_pos

namespace Ctx

/-- `x → y` で、確立の数と `g_ready_threads`、`g_is_ready` が変わらない。 -/
structure KeepsReady (x y : Ctx) : Prop where
  established : y.th.errors.established = x.th.errors.established
  readyThreads : y.g.readyThreads = x.g.readyThreads
  isReady : y.g.isReady = x.g.isReady

/-- ワーカーのほかに数えられたワーカーが `S` のときのバリアの不変条件。`S` は `threads` より小さく、
`g_ready_threads` は `S` にワーカー自身の分を足したもので、`g_is_ready` はそれが `threads` に達したときに
だけ立っている。 -/
structure Barrier (cfg : Config) (S : Nat) (x : Ctx) : Prop where
  others : S < cfg.threads
  count : x.g.readyThreads = S + if x.th.ready cfg then 1 else 0
  isReady : x.g.isReady = true ↔ x.g.readyThreads = cfg.threads

variable {cfg : Config} {S : Nat} {x y z : Ctx} {i fd : Nat}

theorem KeepsReady.refl (x : Ctx) : KeepsReady x x := ⟨rfl, rfl, rfl⟩

theorem KeepsReady.trans (h₁ : KeepsReady x y) (h₂ : KeepsReady y z) : KeepsReady x z :=
  ⟨h₂.1.trans h₁.1, h₂.2.trans h₁.2, h₂.3.trans h₁.3⟩

theorem Barrier.of_keeps (hb : Barrier cfg S x) (h : KeepsReady x y) : Barrier cfg S y := by
  have e : y.th.ready cfg = x.th.ready cfg := by simp only [Thread.ready, h.established]
  exact ⟨hb.others, by rw [h.readyThreads, e, hb.count], by rw [h.isReady, h.readyThreads]; exact hb.isReady⟩

/-- 確立の数も `g_ready_threads` と `g_is_ready` も書かない範囲の書き換えは、それらを保つ。 -/
theorem Acts.keepsReady {ω : Writes} {pc pd : Nat → Prop} {pf : FileProc → Prop} {pt : TimeProc → Prop}
    (h : Acts cfg ω pc pf pd pt x y) (he : .established ∉ ω.parts) (hr : .ready ∉ ω.parts) : KeepsReady x y :=
  have e := Prod.mk.inj_iff.mp (h.frame _ hr)
  ⟨h.frame _ he, e.1, e.2⟩

end Ctx

open Ctx

variable {cfg : Config} {S : Nat} {x : Ctx} {i fd : Nat}

/-! ## 接続の確立 -/

/-- 接続の確立は確立の数を一つ増やし、それがワーカーの接続の数にちょうど達したときにだけ
`g_ready_threads` を数え、`threads` に達したら `g_is_ready` を立てる。 -/
theorem Ctx.Barrier.connectEstablished (hb : Barrier cfg S x) :
    Barrier cfg S (Wrk2.connectEstablished cfg fd i x) := by
  obtain ⟨ho, hc, hi⟩ := hb
  set y := subscribeIfNormal fd i ((x.modifyConn i fun c => { c with written := 0, isConnected := true }).modifyErrors
    fun e => { e with established := e.established + 1 })
  have hg : y.g = x.g := by simp only [y, subscribeIfNormal]; split_ifs <;> rfl
  have he : y.th.errors.established = x.th.errors.established + 1 := by
    simp only [y, subscribeIfNormal]; split_ifs <;> rfl
  show Barrier cfg S (reportReady cfg y)
  unfold reportReady; split_ifs with h
  · have hx : x.th.ready cfg = false := by
      simp only [Thread.ready, h.1, Bool.true_and, decide_eq_false_iff_not, Nat.not_le]; omega
    rw [hx, if_neg Bool.false_ne_true, Nat.add_zero] at hc
    have hn : x.g.isReady = false := Bool.eq_false_iff.mpr fun e => absurd (hi.mp e) (by omega)
    refine ⟨ho, ?_, ?_⟩
    · simp [Thread.ready, hg, hc, h.1, h.2]
    · by_cases hS : S + 1 = cfg.threads <;> simp [hS, hn, hg, hc]
  · have e : y.th.ready cfg = x.th.ready cfg := by
      simp only [Thread.ready, he]; cases hw : cfg.warmup
      · rfl
      · simp only [Bool.true_and, decide_eq_decide]; simp only [hw, true_and] at h; omega
    exact ⟨ho, by rw [e, hg, hc], by rw [hg]; exact hi⟩

/-- `OK` のほかの `socket_connected` は、確立の数も `g_ready_threads` と `g_is_ready` も変えない。 -/
theorem keepsReady_socketConnected_of_ne {st : ConnectStatus} (hs : st ≠ .ok) :
    KeepsReady x (Wrk2.socketConnected cfg fd i st x) := by
  cases st with
  | ok => exact absurd rfl hs
  | error =>
    exact ((acts_modifyErrors _ (by rfl) (by rfl)).trans (acts_reconnectSocket (.refl _) trivial trivial
      trivial) : Within cfg Writes.reconnect _ _).keepsReady (by decide) (by decide)
  | retry r w =>
    exact (acts_connectRetry (by decide) trivial trivial trivial _ : Within cfg Writes.dial _ _).keepsReady
      (by decide) (by decide)

theorem Ctx.Barrier.socketConnected (hb : Barrier cfg S x) (st : ConnectStatus) :
    Barrier cfg S (Wrk2.socketConnected cfg fd i st x) := by
  by_cases hs : st = .ok
  · subst hs
    unfold Wrk2.socketConnected; split_ifs
    · exact hb
    · exact hb.connectEstablished
  · exact hb.of_keeps (keepsReady_socketConnected_of_ne hs)

theorem keepsReady_phaseMove (p : Phase) : KeepsReady x (phaseMove cfg p x) := by
  unfold phaseMove; split_ifs <;> exact ⟨rfl, rfl, rfl⟩

/-- ワーカーの `dispatch` 一回はバリアの不変条件を保つ。 -/
theorem Ctx.Barrier.of_dispatch {io : Io} {y : Ctx} {ev : Event} (hw : x.th.Wf cfg) (hb : Barrier cfg S x)
    (h : dispatch cfg io x ev = some y) : Barrier cfg S y := by
  rcases hw.dispatch_writes h with ⟨-, -, rfl⟩ | ⟨id, te, r, -, -, -, -, rfl⟩ | ⟨id, te, -, -, -, ha, rfl⟩ |
    ⟨fd, dir, p, -, -, rfl, ha⟩
  · exact hb.of_keeps ⟨rfl, rfl, rfl⟩
  · exact hb.of_keeps ((keepsReady_phaseMove _).trans ⟨rfl, rfl, rfl⟩)
  · refine hb.of_keeps ((ha.keepsReady ?_ ?_).trans ⟨rfl, rfl, rfl⟩) <;>
      exact fun h => absurd (te.timeProc.writes_le.part h) (by decide)
  · cases p
    case socketConnected => exact hb.socketConnected _
    all_goals exact hb.of_keeps (ha.keepsReady (by decide) (by decide))

/-! ## 実行全体 -/

/-- ワーカー `w` のほかに数えられたワーカーの数は、全体の数からワーカー `w` の分を引いたもので、
`threads` より小さい。 -/
theorem countP_range_others {p : Nat → Bool} {w n : Nat} (hw : w < n) :
    (List.range n).countP p = (List.range n).countP (fun v => v ≠ w && p v) + (if p w then 1 else 0) ∧
      (List.range n).countP (fun v => v ≠ w && p v) < n := by
  have h₁ := countP_range_update (p := fun v => v ≠ w && p v) (q := p) (i := w)
    (fun v hv => by simp [hv]) n
  have h₂ := countP_range_update (p := fun v => v ≠ w && p v) (q := fun v => v = w || p v) (i := w)
    (fun v hv => by simp [hv]) n
  have h₃ : (List.range n).countP (fun v => v = w || p v) ≤ n :=
    (List.countP_le_length _).trans_eq (List.length_range n)
  simp only [hw, true_and, ne_eq, not_true_eq_false, decide_False, Bool.false_and, Bool.false_eq_true, and_false,
    if_false, Nat.add_zero, decide_True, Bool.true_or, if_true] at h₁ h₂ ⊢
  exact ⟨h₁, by omega⟩

/-- 到達できるすべての状態で、`g_ready_threads` は数えられたワーカーの数に等しく、`g_is_ready` はそれが
`threads` に達したときにだけ立っている。 -/
theorem Reachable.barrier {s : System} (hr : Reachable cfg s) :
    s.g.readyThreads = s.readyCount cfg ∧ (s.g.isReady = true ↔ s.g.readyThreads = cfg.threads) := by
  induction hr with
  | init t0 =>
    have h : (Thread.create (t0 + cfg.duration * 1000000)).ready cfg = false := by
      simp [Thread.ready, Thread.create, Nat.pos_iff_ne_zero.mp cfg.perThread_pos]
    simp [System.init, System.readyCount, h, Nat.ne_of_lt cfg.threads_pos]
  | @step s _ _ hs hl ih =>
    rcases step_eq_some cfg hl with rfl | ⟨w, t, ev, io, y, hw, -, hy, -, rfl⟩
    · exact ih
    obtain ⟨hc, hi⟩ := ih
    obtain ⟨e, ho⟩ := countP_range_others (p := fun v => (s.threads v).ready cfg) hw
    have hb : Barrier cfg _ (s.ctx w t io.dials) := ⟨ho, by rw [System.ctx, hc, System.readyCount, e], hi⟩
    obtain ⟨-, hc', hi'⟩ := hb.of_dispatch (hs.wf w) hy
    obtain ⟨e', -⟩ := countP_range_others (p := fun v => ((s.put w y).threads v).ready cfg) hw
    have hsame : (List.range cfg.threads).countP (fun v => v ≠ w && ((s.put w y).threads v).ready cfg) =
        (List.range cfg.threads).countP (fun v => v ≠ w && (s.threads v).ready cfg) :=
      List.countP_congr fun v _ => by by_cases hv : v = w <;> simp [System.put, hv]
    refine ⟨?_, hi'⟩
    show y.g.readyThreads = System.readyCount cfg (s.put w y)
    rw [hc', System.readyCount, e', hsame]
    simp [System.put]

/-- `g_is_ready` が立っていれば、どのワーカーも数えられている。 -/
theorem Reachable.ready_of_isReady {s : System} (hr : Reachable cfg s) (hg : s.g.isReady = true) {w : Nat}
    (hw : w < cfg.threads) : (s.threads w).ready cfg = true := by
  obtain ⟨hc, hi⟩ := hr.barrier
  have hl : (List.range cfg.threads).countP (fun v => (s.threads v).ready cfg) = (List.range cfg.threads).length := by
    rw [List.length_range]; exact hc.symm.trans (hi.mp hg)
  exact List.countP_eq_length.mp hl w (List.mem_range.mpr hw)

end Wrk2
