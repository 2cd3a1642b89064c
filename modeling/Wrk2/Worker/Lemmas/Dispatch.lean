import Wrk2.Worker.Lemmas.Frame

/-!
# 一歩の分解

`dispatch` と `step` が起こしうることを一度だけ書く（`dispatch_eq_some`、`step_eq_some`、
`step_threads`）。ワーカーの不変条件は、それが `dispatch` で保たれることから `Reachable` のすべての
状態へ持ち上げる（`Reachable.thread_inv`）。
-/

namespace Wrk2

variable (cfg : Config) {x y : Ctx} {io : Io}

@[simp] theorem timeProc_now (p : TimeProc) : (timeProc cfg x p).1.now = x.now := by
  cases p with
  | delayedInitialConnect i =>
    show (connectSocket i (x.modifyConn i fun c => { c with threadStart := x.now })).now =
      (x.modifyConn i fun c => { c with threadStart := x.now }).now
    exact (acts_connectSocket (Writes.le_all _) trivial trivial trivial : Ctx.Within cfg Writes.all _ _).now
  | delayRequest i => exact (acts_delayRequest (by decide) trivial trivial trivial : Ctx.Within cfg Writes.all _ _).now
  | checkStop => exact (acts_checkStop (by decide) : Ctx.Within cfg Writes.all _ _).now
  | warmupTimedOut => exact phaseMove_now _
  | interThreadSync =>
    show (if x.g.isReady then phaseMove cfg .normal x else x).now = x.now
    split_ifs <;> simp
  | calibrate => exact (acts_calibrate (Writes.le_all _) trivial : Ctx.Within cfg Writes.all _ _).now
  | sampleRate => exact (acts_sampleRate (Writes.le_all _) : Ctx.Within cfg Writes.all _ _).now

/-- 購読のコールバック一つの範囲。書きうるものは `p.writes` で、接続 `d` だけを変える。`NORMAL` の前に呼ばれる
のは `socket_connected` だけである。 -/
theorem acts_fileProc {fd d : Nat} {p : FileProc} (hp : p = .socketConnected ∨ x.th.phase = .normal) :
    Ctx.Acts cfg p.writes (· = d) (fun q => q = .socketConnected ∨ x.th.phase = .normal) (· = d)
      (fun q => q = .delayRequest d ∧ x.th.phase = .normal ∨ cfg.warmup ∧ q = .interThreadSync) x
      (fileProc cfg fd d io x p) := by
  cases p <;> dsimp only [fileProc]
  case socketConnected =>
    exact acts_socketConnected _ (.refl _) rfl (.inl rfl) .inr .inr rfl (fun h => .inr ⟨h, rfl⟩)
  case socketReadable =>
    exact acts_socketReadable _ (.refl _) rfl (.inl rfl) (.inr (hp.resolve_left (by simp))) rfl
  case socketWriteable =>
    exact acts_socketWriteable _ _ (.refl _) rfl (.inl rfl) rfl (.inl ⟨rfl, hp.resolve_left (by simp)⟩)

@[simp] theorem fileProc_now (fd d : Nat) (p : FileProc) : (fileProc cfg fd d io x p).now = x.now := by
  cases p with
  | socketConnected =>
    exact (acts_socketConnected _ (Writes.le_all _) trivial trivial (fun _ => trivial) (fun _ => trivial) trivial
      (fun _ => trivial) : Ctx.Within cfg Writes.all _ _).now
  | socketReadable =>
    exact (acts_socketReadable _ (Writes.le_all _) trivial trivial trivial trivial : Ctx.Within cfg Writes.all _ _).now
  | socketWriteable =>
    exact (acts_socketWriteable _ _ (Writes.le_all _) trivial trivial trivial trivial :
      Ctx.Within cfg Writes.all _ _).now

/-- `dispatch` の結果の三つの形。 -/
theorem dispatch_eq_some {ev : Event} (h : dispatch cfg io x ev = some y) :
    (ev = .threadMain ∧ x.th.phase = .init ∧ y = threadMain cfg x) ∨
    (∃ id te, ev = .time id ∧ x.th.loop.timeEvents id = some te ∧ te.when ≤ x.now ∧
      y = (timeProc cfg x te.timeProc).1.modifyLoop
        (·.rearm id x.now te.timeProc (timeProc cfg x te.timeProc).2)) ∨
    (∃ fd dir p, ev = .file fd dir ∧ (x.th.loop.events fd).proc dir = some p ∧
      y = fileProc cfg fd (x.th.loop.events fd).clientData io x p) := by
  cases ev with
  | threadMain =>
    simp only [dispatch] at h; split_ifs at h with hp
    exact .inl ⟨rfl, hp, (Option.some.inj h).symm⟩
  | time id =>
    simp only [dispatch] at h
    split at h
    · rename_i te hte
      split_ifs at h with hw
      refine .inr (.inl ⟨id, te, rfl, hte, hw, ?_⟩)
      rw [← Option.some.inj h, timeProc_now]
    · cases h
  | file fd dir =>
    simp only [dispatch] at h
    split at h
    · rename_i p hp
      exact .inr (.inr ⟨fd, dir, p, rfl, hp, (Option.some.inj h).symm⟩)
    · cases h

theorem dispatch_now {ev : Event} (h : dispatch cfg io x ev = some y) : y.now = x.now := by
  rcases dispatch_eq_some cfg h with ⟨-, -, rfl⟩ | ⟨_, _, -, -, -, rfl⟩ | ⟨_, _, _, -, -, rfl⟩
  · rfl
  · simp
  · simp

/-- 一歩の二つの形。`SIGINT` は `stop` を立てるだけで、ほかの一歩は時計を進めてあるワーカーの `dispatch` の
結果を戻す。 -/
theorem step_eq_some {s s' : System} {l : Label} (h : Wrk2.step cfg s l = some s') :
    s' = { s with g := { s.g with stop := true } } ∨
    ∃ w t ev io y, w < cfg.threads ∧ s.now ≤ t ∧ dispatch cfg io (s.ctx w t io.dials) ev = some y ∧
      y.now = t ∧ s' = s.put w y := by
  cases l with
  | sigint => exact .inl (Option.some.inj h).symm
  | run w t ev io =>
    simp only [Wrk2.step] at h
    split_ifs at h with hc
    obtain ⟨y, hy, rfl⟩ := Option.map_eq_some'.mp h
    exact .inr ⟨w, t, ev, io, y, hc.1, hc.2.1, hy, dispatch_now cfg hy, rfl⟩

/-- 一歩の後のワーカー `w` は、前のままか、時刻 `t` の `w` の `dispatch` の結果である。 -/
theorem step_threads {s s' : System} {l : Label} (h : Wrk2.step cfg s l = some s') (w : Nat) :
    s'.threads w = s.threads w ∨
    ∃ t ev io y, l = .run w t ev io ∧ dispatch cfg io (s.ctx w t io.dials) ev = some y ∧ s'.now = t ∧
      s'.threads w = y.th := by
  cases l with
  | sigint => exact .inl (by rw [← Option.some.inj h])
  | run w' t ev io =>
    simp only [Wrk2.step] at h
    split_ifs at h
    obtain ⟨y, hy, rfl⟩ := Option.map_eq_some'.mp h
    by_cases hw : w = w'
    · subst hw; exact .inr ⟨t, ev, io, y, rfl, hy, dispatch_now cfg hy, by simp [System.put]⟩
    · exact .inl (by simp [System.put, hw])

/-- ワーカーの状態と時計についての性質が、初めに成り立ち、時計が進んでも崩れず、`dispatch` で
保たれるなら、到達できるすべての状態のすべてのワーカーで成り立つ。 -/
theorem Reachable.thread_inv (P : Thread → Nat → Prop) (h₀ : ∀ st t, P (Thread.create st) t)
    (hm : ∀ th n m, P th n → n ≤ m → P th m)
    (hs : ∀ io x ev y, dispatch cfg io x ev = some y → P x.th x.now → P y.th x.now)
    {s : System} (hr : Reachable cfg s) (w : Nat) : P (s.threads w) s.now := by
  induction hr generalizing w with
  | init t0 => exact h₀ _ _
  | step _ _ hl ih =>
    rcases step_eq_some cfg hl with rfl | ⟨w', t, ev, io, y, -, hc, hy, hn, rfl⟩
    · exact ih w
    · simp only [System.put, setAt_apply, hn]
      split_ifs with hw
      · subst hw; exact hs io _ ev y hy (hm _ _ _ (ih _) hc)
      · exact hm _ _ _ (ih w) hc

end Wrk2
