import Wrk2.Worker.Lemmas.Wf

/-!
# 停止の時間イベント

`thread_main` は `check_stop` を `STOP_CHECK_INTERNAL_MS` ごとの時間イベントとして置き（wrk.c 356-411）、
`check_stop` はいつも `STOP_CHECK_INTERNAL_MS` を返して自分を延ばす（wrk.c 570-580）。時間イベントを消すのは、
`AE_NOMORE` を返したその時間イベント自身だけで、新しい時間イベントは次の番号に置かれる。そこで、`dispatch`
一回は、起こした時間イベントのほかの、すでにある番号の時間イベントを変えない（`Thread.Wf.dispatch_timers`）。

ここから、到達できるどの状態でも、`thread_main` を終えたワーカーは `check_stop` の時間イベントを持ち、その
期限は時計から `STOP_CHECK_INTERNAL_MS` 以内であることを導く（`Reachable.stopTimer`）。
-/

namespace Wrk2

/-- ワーカーの `check_stop` の時間イベント。次の番号より小さい番号にあり、期限は時刻 `n` から
`STOP_CHECK_INTERNAL_MS` 以内である。 -/
def Loop.StopTimer (el : Loop) (n : Nat) : Prop :=
  ∃ id < el.timeEventNextId, ∃ when, el.timeEvents id = some ⟨when, .checkStop⟩ ∧
    when ≤ n + stopCheckInternalMs * 1000

theorem Loop.StopTimer.mono {el : Loop} {n m : Nat} (h : el.StopTimer n) (hn : n ≤ m) : el.StopTimer m := by
  obtain ⟨id, hid, when, he, hw⟩ := h
  exact ⟨id, hid, when, he, by omega⟩

/-- 新しい時間イベントは次の番号に置かれ、それより小さい番号の時間イベントは変わらない。 -/
theorem Loop.createTimeEvent_timeEvents_of_lt (el : Loop) (now ms : Nat) (p : TimeProc) {id : Nat}
    (hid : id < el.timeEventNextId) : (el.createTimeEvent now ms p).timeEvents id = el.timeEvents id := by
  simp [Loop.createTimeEvent, Nat.ne_of_lt hid]

variable {cfg : Config} {x : Ctx}

theorem checkStop_snd : (checkStop cfg x).2 = some stopCheckInternalMs := by
  unfold checkStop; split_ifs <;> rfl

/-- `thread_main` は `check_stop` を、今から `STOP_CHECK_INTERNAL_MS` 後の期限で置く。 -/
theorem threadMain_stopTimer : (threadMain cfg x).th.loop.StopTimer x.now := by
  set el := (List.range cfg.perThread).foldl (armInitialConnect x.now) x.th.loop
  have h₁ : el.timeEventNextId < (el.createTimeEvent x.now stopCheckInternalMs .checkStop).timeEventNextId :=
    Nat.lt_succ_self _
  have h₂ : (el.createTimeEvent x.now stopCheckInternalMs .checkStop).timeEvents el.timeEventNextId =
      some ⟨x.now + stopCheckInternalMs * 1000, .checkStop⟩ := by simp [Loop.createTimeEvent]
  simp only [threadMain, armWarmupTimeout]; split_ifs
  · exact ⟨_, h₁.trans (Nat.lt_succ_self _), _, (Loop.createTimeEvent_timeEvents_of_lt _ _ _ _ h₁).trans h₂, le_rfl⟩
  · exact ⟨_, h₁, _, h₂, le_rfl⟩

/-- ワーカーの `dispatch` 一回のあとも `check_stop` の時間イベントは残り、期限は時計から
`STOP_CHECK_INTERNAL_MS` 以内である。`check_stop` が起これば、その時刻から延びる。 -/
theorem Thread.Wf.dispatch_stopTimer {io : Io} {y : Ctx} {ev : Event} (hw : x.th.Wf cfg)
    (h : dispatch cfg io x ev = some y) (hs : x.th.phase ≠ .init → x.th.loop.StopTimer x.now) :
    y.th.loop.StopTimer x.now := by
  obtain ⟨hn, ht⟩ := hw.dispatch_timers h
  rcases dispatch_eq_some cfg h with ⟨-, -, rfl⟩ | ⟨id, te, rfl, hte, -, rfl⟩ | ⟨fd, dir, p, rfl, hp, -⟩
  · exact threadMain_stopTimer
  · obtain ⟨k, hk, when, he, hwhen⟩ := hs (hw.phase_ne_init hte)
    refine ⟨k, hk.trans_le hn, ?_⟩
    by_cases hid : k = id
    · subst hid
      obtain rfl : te = ⟨when, .checkStop⟩ := Option.some.inj (hte.symm.trans he)
      refine ⟨_, ?_, le_rfl⟩
      simp only [Ctx.modifyLoop_loop]
      rw [show (timeProc cfg x .checkStop).2 = some stopCheckInternalMs from checkStop_snd]
      simp [Loop.rearm]
    · exact ⟨when, (ht k hk fun e => hid (Event.time.inj e).symm).trans he, hwhen⟩
  · obtain ⟨k, hk, when, he, hwhen⟩ := hs (hw.phase_ne_init' hp)
    exact ⟨k, hk.trans_le hn, when, (ht k hk Event.noConfusion).trans he, hwhen⟩

/-- ループが止まっていないワーカーの時間イベントは、時計とその期限を過ぎたどの時刻にも起こせる。 -/
theorem step_time {s : System} {w t id : Nat} {te : TimeEvent} (io : Io) (hw : w < cfg.threads) (ht : s.now ≤ t)
    (hs : (s.threads w).loop.stop = false) (hte : (s.threads w).loop.timeEvents id = some te) (hwt : te.when ≤ t) :
    Wrk2.step cfg s (.run w t (.time id) io) = some (s.put w
      ((timeProc cfg (s.ctx w t io.dials) te.timeProc).1.modifyLoop
        (·.rearm id t te.timeProc (timeProc cfg (s.ctx w t io.dials) te.timeProc).2))) := by
  simp only [Wrk2.step, hw, ht, hs, and_self, if_true, dispatch, System.ctx, hte, hwt, Option.map_some', timeProc_now]

/-- 到達できるすべての状態で、`thread_main` を終えたワーカーは `check_stop` の時間イベントを持ち、その期限は
時計から `STOP_CHECK_INTERNAL_MS` 以内である。 -/
theorem Reachable.stopTimer {s : System} (hr : Reachable cfg s) (w : Nat) (hp : (s.threads w).phase ≠ .init) :
    (s.threads w).loop.StopTimer s.now :=
  hr.thread_inv_wf (fun th n => th.phase ≠ .init → th.loop.StopTimer n) (fun _ _ h => absurd rfl h)
    (fun _ _ _ h hn hp => (h hp).mono hn) (fun _ _ _ _ hw hd h _ => hw.dispatch_stopTimer hd h) w hp

end Wrk2
