import Wrk2.Worker.Lemmas.Wf

/-!
# バッチの記録

バッチの始まりに `socket_writeable` が取る記録（`complete_at_last_batch_start`、`actual_latency_start`、
`pending`、`has_pending`）について、`ConnStep` の基本の書き換えごとに保たれることを示し、
`Thread.Wf.dispatch_conn` で `dispatch` 一回の補題にする。実行全体へは `Theorems.lean` で持ち上げる。

記録を取り直すのは、応答を待つバッチのないときにバッチを始める `socket_writeable` だけで、`sock.write` の前に
取る（`socketWriteable_snapshot`）。ほかのコールバックは書き込みの範囲に `begin` がないので記録を変えない
（`Ctx.Acts.snapshot`）。`dispatch` 一回では、記録はその出来事（`Ctx.takesSnapshot`）でだけ取り直される
（`Thread.Wf.dispatch_snapshot`）。

予定の起点 `thread_start + complete_at_last_batch_start / throughput` が時計を越えないのは、バッチが
ペーサーの許したとき（`thread_start + complete / throughput` が時計を越えないとき）にだけ始まり、
`thread_start` が決まるのがまだバッチのない接続の最初の接続のときだけだからである。同じ理由で、応答を
待つバッチの起点 `actual_latency_start` は予定の時刻より前に来ない（`Connection.OnSchedule`）。
-/

namespace Wrk2

/-- 接続の二つの起点が時刻 `now` を越えない。 -/
def Connection.Anchored (ρ : Rate) (now : Nat) (c : Connection) : Prop :=
  c.threadStart + ρ.usec c.completeAtLastBatchStart ≤ now ∧ c.actualLatencyStart ≤ now

/-- 応答を待つバッチがあれば、待つ応答の数は 0 でない。 -/
def Connection.PendingOk (c : Connection) : Prop := c.hasPending = true → 0 < c.pending

/-- 応答を待つバッチは、予定の時刻 `thread_start + complete_at_last_batch_start / throughput` より前に
始まっていない。 -/
def Connection.OnSchedule (ρ : Rate) (c : Connection) : Prop :=
  c.hasPending = true → c.threadStart + ρ.usec c.completeAtLastBatchStart ≤ c.actualLatencyStart

variable {cfg : Config} {now : Nat} {k : ConnKind} {c c' : Connection}

namespace ConnStep

theorem anchored (h : ConnStep cfg now k c c') (ha : c.Anchored cfg.throughput now) :
    c'.Anchored cfg.throughput now := by
  cases h
  case anchor hz =>
    have h0 : c.completeAtLastBatchStart = 0 := congrArg Connection.completeAtLastBatchStart hz
    exact ⟨by simp [h0], ha.2⟩
  case pacer => exact usecToNextSend_snd_of _ fun _ _ _ => ha
  case begin _ hs _ =>
    by_cases hp : c.hasPending
    · simpa [Connection.Anchored, hp] using ha
    · simpa [Connection.Anchored, hp] using hs
  all_goals exact ha

theorem pendingOk (h : ConnStep cfg now k c c') (hp : c.PendingOk) : c'.PendingOk := by
  cases h
  case pacer => exact usecToNextSend_snd_of _ fun _ _ _ => hp
  case countDown =>
    intro h'
    by_cases h0 : subU64 c.pending 1 = 0
    · simp [h0] at h'
    · exact Nat.pos_of_ne_zero h0
  case begin => exact fun _ => cfg.pipeline_pos
  all_goals exact hp

/-- バッチはペーサーの許したときにだけ始まり、`thread_start` が決まるのは `thread_main` が作ったままの
接続でだけなので、応答を待つバッチの起点は予定の時刻より前に来ない。 -/
theorem onSchedule (h : ConnStep cfg now k c c') (ho : c.OnSchedule cfg.throughput) :
    c'.OnSchedule cfg.throughput := by
  cases h
  case anchor hz => intro hp; rw [hz] at hp; cases hp
  case pacer => exact usecToNextSend_snd_of _ fun _ _ _ => ho
  case countDown => intro hp; split_ifs at hp; exact ho hp
  case begin _ hs _ =>
    rintro -
    cases hp : c.hasPending
    · simpa [hp] using hs
    · simpa [hp] using ho hp
  all_goals exact ho

end ConnStep

theorem Connection.Anchored.mono {ρ : Rate} {n m : Nat} (ha : c.Anchored ρ n) (h : n ≤ m) :
    c.Anchored ρ m :=
  ⟨ha.1.trans h, ha.2.trans h⟩

theorem Connection.Anchored.timing_nonneg (ha : c.Anchored cfg.throughput now) :
    0 ≤ expectedLatencyTiming cfg c now := by
  have := ha.1; unfold expectedLatencyTiming; omega

theorem Connection.init_anchored (ρ : Rate) (r : Bytes) (now : Nat) : (Connection.init r).Anchored ρ now := by
  simp [Connection.Anchored, Connection.init]

/-! ## 遅れは負にならない -/

/-- ワーカーのすべての接続の起点が時計を越えず、記録した遅れはどれも負でない。 -/
def Thread.LatencyOk (ρ : Rate) (th : Thread) (now : Nat) : Prop :=
  (∀ i, (th.cs i).Anchored ρ now) ∧ (∀ v ∈ th.latencyHistogram, 0 ≤ v) ∧
    (∀ v ∈ th.uLatencyHistogram, 0 ≤ v)

namespace Thread.LatencyOk

variable {x y : Ctx} {pc pd : Nat → Prop} {pf : FileProc → Prop} {pt : TimeProc → Prop}

theorem create (ρ : Rate) (st n : Nat) : (Thread.create st).LatencyOk ρ n :=
  ⟨fun _ => Connection.init_anchored _ _ _, fun _ h => (by cases h), fun _ h => (by cases h)⟩

theorem mono {th : Thread} {ρ : Rate} {n m : Nat} (ho : th.LatencyOk ρ n) (h : n ≤ m) : th.LatencyOk ρ m :=
  ⟨fun i => (ho.1 i).mono h, ho.2⟩

theorem of_acts {ω : Writes} (h : Ctx.Acts cfg ω pc pf pd pt x y) (ho : x.th.LatencyOk cfg.throughput x.now) :
    y.th.LatencyOk cfg.throughput x.now := by
  have hc : ∀ j c, Relation.ReflTransGen (ConnStep.In cfg x.now ω.kinds) (x.conn j) c →
      c.Anchored cfg.throughput x.now := fun j _ hc => ConnStep.rtg_of _ ConnStep.anchored hc (ho.1 j)
  refine ⟨fun i => hc i _ (h.step i), fun v hv => ?_, fun v hv => ?_⟩
  · rcases h.hist v hv with hv | ⟨j, c, hj, rfl⟩
    · exact ho.2.1 v hv
    · exact (hc j c hj).timing_nonneg
  · rcases h.uhist v hv with hv | ⟨j, c, hj, rfl⟩
    · exact ho.2.2 v hv
    · have := (hc j c hj).2; omega

theorem of_dispatch {io : Io} {ev : Event} (hw : x.th.Wf cfg) (h : dispatch cfg io x ev = some y)
    (ho : x.th.LatencyOk cfg.throughput x.now) : y.th.LatencyOk cfg.throughput x.now := by
  rcases hw.dispatch_writes h with ⟨-, -, rfl⟩ | ⟨id, te, r, -, -, -, -, rfl⟩ | ⟨id, te, -, -, -, ha, rfl⟩ |
    ⟨fd, dir, p, -, -, -, ha⟩
  · exact ⟨fun i => Connection.init_anchored _ _ _, fun _ h => (by cases h), fun _ h => (by cases h)⟩
  · refine ⟨fun i => ?_, by simpa using ho.2.1, by simpa using ho.2.2⟩
    show Connection.Anchored _ _ ((phaseMove cfg .normal x).conn i)
    rw [phaseMove_conn]; exact ho.1 i
  · exact (of_acts ha ho :)
  · exact of_acts ha ho

end Thread.LatencyOk

/-! ## バッチの記録が変わるとき -/

/-- 接続のバッチの記録: `complete_at_last_batch_start` と `actual_latency_start`。 -/
def Connection.snapshot (c : Connection) : Nat × Nat := (c.completeAtLastBatchStart, c.actualLatencyStart)

/-- バッチを始めない基本の書き換えは、バッチの記録を変えない。 -/
theorem ConnStep.snapshot_eq (h : ConnStep cfg now k c c') (hk : k ≠ .begin) : c'.snapshot = c.snapshot := by
  cases h
  case pacer => exact usecToNextSend_snd_of (fun c' => c'.snapshot = c.snapshot) fun _ _ _ => rfl
  case begin => exact absurd rfl hk
  all_goals rfl

theorem Ctx.Acts.snapshot {ω : Writes} {x y : Ctx} {pc pd : Nat → Prop} {pf : FileProc → Prop}
    {pt : TimeProc → Prop} (h : Ctx.Acts cfg ω pc pf pd pt x y) (hb : .begin ∉ ω.kinds) (j : Nat) :
    (y.conn j).snapshot = (x.conn j).snapshot :=
  h.conn_keep_of_not_mem Connection.snapshot ConnStep.snapshot_eq hb j

/-- `socket_writeable` は、要求の途中でなく、ペーサーが今送れと言い、応答を待つバッチがないときにだけ、
バッチの記録をその時の `complete` と時計に取り直す。取り直すのは `sock.write` の前なので、その結果によらない。
ほかの接続の記録は変えない。 -/
theorem socketWriteable_snapshot (x : Ctx) (fd i : Nat) (request : Bytes) (w : WriteResult) (j : Nat) :
    ((socketWriteable cfg fd i request w x).conn j).snapshot =
      if j = i ∧ (x.conn i).written = 0 ∧ (usecToNextSend cfg.throughput (x.conn i) x.now).1 = 0 ∧
          (x.conn i).hasPending = false then ((x.conn i).complete, x.now)
      else (x.conn j).snapshot := by
  have hw : ∀ y : Ctx, ((writeRequest fd i w y).conn j).snapshot = (y.conn j).snapshot := fun _ =>
    (acts_writeRequest (.refl _) trivial trivial trivial w : Ctx.Within cfg Writes.write _ _).snapshot (by decide) j
  have hp : ∀ y : Ctx, ((y.modifyConn i fun _ => (usecToNextSend cfg.throughput (y.conn i) y.now).2).conn j).snapshot =
      (y.conn j).snapshot := fun _ =>
    (acts_pacer trivial (by decide) : Ctx.Within cfg Writes.delay _ _).snapshot (by decide) j
  unfold socketWriteable; dsimp only
  by_cases h₀ : (x.conn i).written = 0
  · by_cases h₁ : (usecToNextSend cfg.throughput (x.conn i) x.now).1 = 0
    · rw [if_pos h₀, if_neg (not_not.mpr h₁), hw]
      by_cases hj : j = i
      · subst hj
        obtain ⟨u, t, k, -, e⟩ := usecToNextSend_snd cfg.throughput (x.conn j) x.now
        cases hh : (x.conn j).hasPending <;> simp [beginRequest, Connection.snapshot, e, h₀, h₁, hh]
      · simp [beginRequest, hj]
    · rw [if_pos h₀, if_pos h₁, if_neg fun h => h₁ h.2.2.1]
      exact hp x
  · rw [if_neg h₀, hw, if_neg fun h => h₀ h.2.1]

/-- 出来事 `ev` が接続 `j` のバッチの記録を取り直すこと: `j` の `socket_writeable` が、要求の途中でなく、
ペーサーが今送れと言い、応答を待つバッチがないときに呼ばれる。`sock.write` の結果は問わない。 -/
def Ctx.takesSnapshot (cfg : Config) (x : Ctx) (j : Nat) (ev : Event) : Bool :=
  x.writeableFor j ev && (x.conn j).written == 0 && (usecToNextSend cfg.throughput (x.conn j) x.now).1 == 0 &&
    !(x.conn j).hasPending

/-- 形の不変条件の下での `dispatch` 一回で、接続 `j` のバッチの記録は、`Ctx.takesSnapshot` の出来事でだけ
その時の `complete` と時計に取り直され、ほかのどのコールバックでも変わらない。 -/
theorem Thread.Wf.dispatch_snapshot {io : Io} {x y : Ctx} {ev : Event} (hw : x.th.Wf cfg)
    (h : dispatch cfg io x ev = some y) (j : Nat) :
    (y.conn j).snapshot =
      if x.takesSnapshot cfg j ev then ((x.conn j).complete, x.now) else (x.conn j).snapshot := by
  rcases hw.dispatch_writes h with ⟨rfl, hp, rfl⟩ | ⟨id, te, r, rfl, -, -, -, rfl⟩ | ⟨id, te, rfl, -, -, ha, rfl⟩ |
    ⟨fd, dir, p, rfl, hp, rfl, ha⟩
  · rw [if_neg (by simp [Ctx.takesSnapshot, Ctx.writeableFor]), hw.conn_of_init hp]; rfl
  · rw [if_neg (by simp [Ctx.takesSnapshot, Ctx.writeableFor]), Ctx.conn_modifyLoop, phaseMove_conn]
  · rw [if_neg (by simp [Ctx.takesSnapshot, Ctx.writeableFor]), Ctx.conn_modifyLoop]
    exact ha.snapshot (fun hb => absurd (te.timeProc.writes_le.kind hb) (by decide)) j
  · cases p
    case socketWriteable =>
      rw [fileProc, socketWriteable_snapshot]
      by_cases hj : j = (x.th.loop.events fd).clientData
      · subst hj; simp [Ctx.takesSnapshot, Ctx.writeableFor, hp, and_assoc]
      · simp [Ctx.takesSnapshot, Ctx.writeableFor, hj, Ne.symm hj]
    all_goals
      rw [if_neg (by simp [Ctx.takesSnapshot, Ctx.writeableFor, hp])]
      exact ha.snapshot (by decide) j

/-! ## 待つ応答の数 -/

/-- 形の不変条件の下での `dispatch` 一回で、応答を待つバッチのある接続が 0 でない数の応答を待つことは
保たれる。 -/
theorem Thread.Wf.dispatch_pendingOk {io : Io} {x y : Ctx} {ev : Event} (hw : x.th.Wf cfg)
    (h : dispatch cfg io x ev = some y) (hp : ∀ j, (x.th.cs j).PendingOk) (j : Nat) : (y.th.cs j).PendingOk :=
  hw.dispatch_conn h _ ConnStep.pendingOk (fun h => by cases h) j (hp j)

/-! ## 予定より早いバッチはない -/

/-- 形の不変条件の下での `dispatch` 一回で、応答を待つバッチが予定より早く始まっていないことは保たれる。 -/
theorem Thread.Wf.dispatch_onSchedule {io : Io} {x y : Ctx} {ev : Event} (hw : x.th.Wf cfg)
    (h : dispatch cfg io x ev = some y) (ho : ∀ j, (x.th.cs j).OnSchedule cfg.throughput) (j : Nat) :
    (y.th.cs j).OnSchedule cfg.throughput :=
  hw.dispatch_conn h _ ConnStep.onSchedule (fun h => by cases h) j (ho j)

end Wrk2
