import Wrk2.Worker.Lemmas.Wf

/-!
# 追いつきの起点

`usec_to_next_send` は、接続が予定 `thread_start + complete / throughput` より早ければ追いついた
（`caught_up`）とし、遅れていれば追いついていないとする。追いついていた接続が遅れたときに限って、追いつきの
起点 `catch_up_start_time` と `complete_at_catch_up_start` をその時の時計と `complete` に取り直す
（wrk.c 643-682）。ほかに三つの欄を書く関数はない。

三つの欄の値を `Connection.catchUp` とする。これを書く基本の書き換えはペーサー（`ConnKind.pacer`）だけ
なので、ペーサーを書かないコールバックは `Ctx.Acts` の範囲からこれを保つ（`Ctx.Acts.catchUp`）。
ペーサーを呼ぶのは、要求の途中でない `socket_writeable` と `delay_request` だけで、どちらもはじめに一回だけ
呼ぶ。`dispatch` 一回の値は、その出来事（`Ctx.callsPacer`）でだけペーサーの結果になり、ほかでは変わらない
（`Thread.Wf.dispatch_catchUp`）。
-/

namespace Wrk2

/-- 接続の追いつきの記録: `caught_up`、`catch_up_start_time`、`complete_at_catch_up_start`。 -/
def Connection.catchUp (c : Connection) : Bool × Nat × Nat :=
  (c.caughtUp, c.catchUpStartTime, c.completeAtCatchUpStart)

variable {cfg : Config} {x : Ctx} {i j : Nat}

/-- ペーサー一回の追いつきの記録。予定より早ければ追いついたとし、遅れていれば追いついていないとする。
追いついていた接続が遅れたときだけ、起点をその時の時計と `complete` に取り直す。 -/
theorem usecToNextSend_catchUp (ρ : Rate) (c : Connection) (now : Nat) :
    (usecToNextSend ρ c now).2.catchUp =
      (decide (now < c.threadStart + ρ.usec c.complete),
        if c.caughtUp = true ∧ c.threadStart + ρ.usec c.complete ≤ now then (now, c.complete)
        else (c.catchUpStartTime, c.completeAtCatchUpStart)) := by
  unfold usecToNextSend; dsimp only
  by_cases h : now < c.threadStart + ρ.usec c.complete
  · simp [Connection.catchUp, h, Nat.not_le.mpr h]
  · rw [if_neg h, apply_ite Prod.snd, ite_self]
    cases hc : c.caughtUp <;> simp [Connection.catchUp, h, Nat.le_of_not_lt h, hc]

/-! ## 記録を保つ書き換え -/

/-- ペーサーのほかの基本の書き換えは、追いつきの記録を変えない。 -/
theorem ConnStep.catchUp_eq {now : Nat} {k : ConnKind} {c c' : Connection} (h : ConnStep cfg now k c c')
    (hk : k ≠ .pacer) : c'.catchUp = c.catchUp := by
  cases h
  case pacer => exact absurd rfl hk
  all_goals rfl

/-- ペーサーを書かない書き換えは、追いつきの記録を変えない。 -/
theorem Ctx.Acts.catchUp {ω : Writes} {pc pd : Nat → Prop} {pf : FileProc → Prop} {pt : TimeProc → Prop}
    {y : Ctx} (h : Ctx.Acts cfg ω pc pf pd pt x y) (hp : .pacer ∉ ω.kinds) (j : Nat) :
    (y.conn j).catchUp = (x.conn j).catchUp :=
  h.conn_keep_of_not_mem _ ConnStep.catchUp_eq hp j

/-! ## ペーサーを呼ぶコールバック -/

/-- 接続 `i` にペーサーの結果を書いたときの、接続 `j` の記録。 -/
theorem pacer_catchUp (ρ : Rate) :
    ((x.modifyConn i fun _ => (usecToNextSend ρ (x.conn i) x.now).2).conn j).catchUp =
      if j = i then (usecToNextSend ρ (x.conn i) x.now).2.catchUp else (x.conn j).catchUp := by
  by_cases h : j = i <;> simp [h]

/-- `socket_writeable` は、要求の途中でなければペーサーを呼び、その結果を書く。そのあとの `sock.write` と
バッチの始まりは記録を変えない。 -/
theorem socketWriteable_catchUp (fd : Nat) (request : Bytes) (w : WriteResult) :
    ((socketWriteable cfg fd i request w x).conn j).catchUp =
      if j = i ∧ (x.conn i).written = 0 then (usecToNextSend cfg.throughput (x.conn i) x.now).2.catchUp
      else (x.conn j).catchUp := by
  have hw : ∀ y : Ctx, ((writeRequest fd i w y).conn j).catchUp = (y.conn j).catchUp := fun _ =>
    (acts_writeRequest (.refl _) trivial trivial trivial w : Ctx.Within cfg Writes.write _ _).catchUp (by decide) j
  have hb : ∀ y : Ctx, ((beginRequest cfg i request y).conn j).catchUp = (y.conn j).catchUp := fun _ => by
    by_cases h : j = i <;> simp [beginRequest, Connection.catchUp, h]
  unfold socketWriteable; dsimp only
  by_cases h₀ : (x.conn i).written = 0
  · rw [if_pos h₀]; simp only [h₀, and_true]
    by_cases h₁ : (usecToNextSend cfg.throughput (x.conn i) x.now).1 = 0
    · rw [if_neg (not_not.mpr h₁), hw, hb, pacer_catchUp]
    · rw [if_pos h₁, delayWrite, Ctx.conn_modifyLoop, pacer_catchUp]
  · rw [if_neg h₀, hw, if_neg fun h => h₀ h.2]

/-- `delay_request` はペーサーを呼び、その結果を書く。 -/
theorem delayRequest_catchUp :
    ((delayRequest cfg i x).1.conn j).catchUp =
      if j = i then (usecToNextSend cfg.throughput (x.conn i) x.now).2.catchUp else (x.conn j).catchUp := by
  unfold delayRequest; dsimp only
  by_cases h : (usecToNextSend cfg.throughput (x.conn i) x.now).1 = 0
  · rw [if_neg (not_not.mpr h)]; exact pacer_catchUp _
  · rw [if_pos h]; exact pacer_catchUp _

/-! ## `dispatch` 一回 -/

/-- 出来事 `ev` が接続 `j` についてペーサー `usec_to_next_send` を呼ぶこと: `j` の `socket_writeable` が
要求の途中でないときに呼ばれるか、`j` の `delay_request` が起こる。 -/
def Ctx.callsPacer (x : Ctx) (j : Nat) : Event → Bool
  | .file fd dir => x.writeableFor j (.file fd dir) && (x.conn j).written == 0
  | .time id => (x.th.loop.timeEvents id).map TimeEvent.timeProc = some (.delayRequest j)
  | .threadMain => false

/-- 形の不変条件の下での `dispatch` 一回で、接続 `j` の追いつきの記録は、ペーサーを呼ぶ出来事でだけその結果に
なり、ほかのどのコールバックでも変わらない。 -/
theorem Thread.Wf.dispatch_catchUp {io : Io} {y : Ctx} {ev : Event} (hw : x.th.Wf cfg)
    (h : dispatch cfg io x ev = some y) (j : Nat) :
    (y.conn j).catchUp =
      if x.callsPacer j ev then (usecToNextSend cfg.throughput (x.conn j) x.now).2.catchUp
      else (x.conn j).catchUp := by
  rcases hw.dispatch_writes h with ⟨rfl, hp, rfl⟩ | ⟨id, te, r, rfl, hte, -, hph, rfl⟩ |
    ⟨id, ⟨when, p⟩, rfl, hte, -, ha, rfl⟩ | ⟨fd, dir, p, rfl, hp, rfl, ha⟩
  · rw [if_neg (by simp [Ctx.callsPacer]), hw.conn_of_init hp]; rfl
  · rw [if_neg (by rcases hph with e | e <;> simp [Ctx.callsPacer, hte, e]), Ctx.conn_modifyLoop, phaseMove_conn]
  · rw [Ctx.conn_modifyLoop]
    cases p
    case delayRequest d =>
      rw [timeProc, delayRequest_catchUp]
      by_cases hj : j = d
      · subst hj; simp [Ctx.callsPacer, hte]
      · simp [Ctx.callsPacer, hte, hj, Ne.symm hj]
    all_goals
      rw [if_neg (by simp [Ctx.callsPacer, hte])]
      exact ha.catchUp (of_decide_eq_true rfl) j
  · cases p
    case socketWriteable =>
      rw [fileProc, socketWriteable_catchUp]
      by_cases hj : j = (x.th.loop.events fd).clientData
      · subst hj; simp [Ctx.callsPacer, Ctx.writeableFor, hp]
      · simp [Ctx.callsPacer, Ctx.writeableFor, hj, Ne.symm hj]
    all_goals
      rw [if_neg (by simp [Ctx.callsPacer, Ctx.writeableFor, hp])]
      exact ha.catchUp (by decide) j

end Wrk2
