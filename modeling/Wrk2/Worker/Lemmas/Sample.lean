import Wrk2.Worker.Lemmas.Wf

/-!
# 標本の時計

`sample_rate` は `(time_us() - thread->start) / 1000` で割る。これが 0 にならないのは、較正と標本の
時間イベントがワーカーに高々一つで、標本の時間イベントの期限がいつも `start` から `interval` ミリ秒より
後だからである（`Thread.SampleOk`）。`calibrate` と `sample_rate` は `start` を取り直してから
`interval` ミリ秒後に標本を置き、ほかのコールバックは `Part.clock` を書かないので、`Ctx.Acts` の枠から
`start` も `interval` も変えない（`Ctx.Acts.keepsClock`）。`phase_move` も `start` を書くが、それは `WARMUP` から `NORMAL` へ移って較正を
置くときだけで、そのときはまだ較正も標本もない。
-/

namespace Wrk2

/-- 較正か標本の時間イベント。 -/
def TimeProc.isRate : TimeProc → Bool
  | .calibrate | .sampleRate => true
  | _ => false

/-! ## 時計を変えない書き換え -/

namespace Ctx

/-- `x` から `y` への書き換えが、標本の時計（`start` と `interval`）を変えない。 -/
def KeepsClock (x y : Ctx) : Prop := y.th.start = x.th.start ∧ y.th.interval = x.th.interval

variable {x y z : Ctx}

theorem KeepsClock.refl (x : Ctx) : KeepsClock x x := ⟨rfl, rfl⟩

theorem KeepsClock.trans (h₁ : KeepsClock x y) (h₂ : KeepsClock y z) : KeepsClock x z :=
  ⟨h₂.1.trans h₁.1, h₂.2.trans h₁.2⟩

theorem keepsClock_modifyLoop (f : Loop → Loop) : KeepsClock x (x.modifyLoop f) := ⟨rfl, rfl⟩

/-- 時計を書かない書き換えは、時計を変えない。 -/
theorem Acts.keepsClock {cfg : Config} {ω : Writes} {pc pd : Nat → Prop} {pf : FileProc → Prop}
    {pt : TimeProc → Prop} (h : Acts cfg ω pc pf pd pt x y) (hc : .clock ∉ ω.parts) : KeepsClock x y :=
  Prod.mk.inj_iff.mp (h.frame _ hc)

end Ctx

open Ctx

variable {cfg : Config} {x y : Ctx} {i fd : Nat}

/-- `phase_move` が時計を書くのは、`WARMUP` から移るときだけである。 -/
theorem keepsClock_phaseMove (p : Phase) (h : x.th.phase ≠ .warmup) : KeepsClock x (phaseMove cfg p x) := by
  unfold phaseMove; rw [if_neg fun h' => h h'.1]; exact ⟨rfl, rfl⟩

/-! ## 較正の間隔 -/

theorem hdrValues_le {h : List Int} {v : Nat} (hv : v ∈ hdrValues h) : v ≤ maxLatency := by
  obtain ⟨a, -, ha⟩ := List.mem_filterMap.mp hv
  split_ifs at ha with hb
  cases ha; omega

theorem getD_le_of_forall {l : List Nat} {b : Nat} (hl : ∀ v ∈ l, v ≤ b) (k : Nat) : l.getD k 0 ≤ b := by
  rw [List.getD_eq_getElem?_getD]
  cases e : l[k]? with
  | none => exact Nat.zero_le _
  | some v => exact hl v (List.getElem?_mem e)

/-- HDR ヒストグラムの百分位の値は `MAX_LATENCY` を越えない。 -/
theorem hdrValueAtPercentile_le (h : List Int) (p : Nat) : hdrValueAtPercentile h p ≤ maxLatency :=
  getD_le_of_forall (fun _ hv => hdrValues_le ((List.mem_insertionSort _).mp hv)) _

/-- `calibrate` の間隔は 10 ミリ秒以上で、`int` に収まる。 -/
theorem calibrate_interval_bounds (h : List Int) :
    10 ≤ max (hdrValueAtPercentile h 90 * 2 / 1000) 10 ∧
      max (hdrValueAtPercentile h 90 * 2 / 1000) 10 < 2 ^ 31 := by
  have := hdrValueAtPercentile_le h 90
  unfold maxLatency at this
  omega

/-! ## 不変条件 -/

/-- 標本の時計の不変条件。較正か標本の時間イベントは高々一つで、`NORMAL` でだけ置かれている。標本の
時間イベントがあれば、`interval` は 10 以上で `int` に収まり、その期限は `start` から `interval`
ミリ秒より前でない。 -/
structure Thread.SampleOk (th : Thread) : Prop where
  unique : ∀ id id' te te', th.loop.timeEvents id = some te → th.loop.timeEvents id' = some te' →
    te.timeProc.isRate → te'.timeProc.isRate → id = id'
  normal : ∀ id te, th.loop.timeEvents id = some te → te.timeProc.isRate → th.phase = .normal
  sample : ∀ id te, th.loop.timeEvents id = some te → te.timeProc = .sampleRate →
    10 ≤ th.interval ∧ th.interval < 2 ^ 31 ∧ th.start + th.interval * 1000 ≤ te.when

namespace Thread.SampleOk

variable {th : Thread}

theorem of_noRate (h : ∀ id te, th.loop.timeEvents id = some te → te.timeProc.isRate = false) : th.SampleOk where
  unique id _ te _ h₁ _ r₁ _ := by rw [h id te h₁] at r₁; cases r₁
  normal id te h₁ r₁ := by rw [h id te h₁] at r₁; cases r₁
  sample id te h₁ e := by have := h id te h₁; rw [e] at this; cases this

theorem create (st : Nat) : (Thread.create st).SampleOk := of_noRate fun _ _ h => nomatch h

/-- 較正か標本の時間イベントが `k` に置いた `T` だけなら、`T` についての二つの条件から不変条件が出る。 -/
theorem of_single {k : Nat} {T : TimeEvent}
    (h : ∀ id te, th.loop.timeEvents id = some te → te.timeProc.isRate → id = k ∧ te = T)
    (hn : T.timeProc.isRate → th.phase = .normal)
    (hs : T.timeProc = .sampleRate →
      10 ≤ th.interval ∧ th.interval < 2 ^ 31 ∧ th.start + th.interval * 1000 ≤ T.when) : th.SampleOk where
  unique id id' te te' h₁ h₂ r₁ r₂ := (h id te h₁ r₁).1.trans (h id' te' h₂ r₂).1.symm
  normal id te h₁ r₁ := hn ((h id te h₁ r₁).2 ▸ r₁)
  sample id te h₁ e := by
    obtain ⟨-, rfl⟩ := h id te h₁ (by rw [e]; rfl)
    exact hs e

/-- 加わった時間イベントが較正でも標本でもなく、時計が変わらず、段階が前のままか `NORMAL` なら、
不変条件は保たれる。残った時間イベントの期限は早まらないからである。 -/
theorem of_adds (ho : x.th.SampleOk)
    (h : Loop.Adds (fun _ => True) (fun _ => True) (fun p => p.isRate = false) x.th.loop y.th.loop)
    (hp : y.th.phase = x.th.phase ∨ y.th.phase = .normal) (hk : KeepsClock x y) : y.th.SampleOk := by
  have kept : ∀ id te, y.th.loop.timeEvents id = some te → te.timeProc.isRate →
      ∃ te₀, x.th.loop.timeEvents id = some te₀ ∧ te₀.timeProc = te.timeProc ∧ te₀.when ≤ te.when :=
    fun id te he hr => (h.timer id te he).resolve_right fun e => by rw [e] at hr; cases hr
  refine ⟨fun id id' te te' h₁ h₂ r₁ r₂ => ?_, fun id te h₁ r₁ => ?_, fun id te h₁ e => ?_⟩
  · obtain ⟨te₀, h₀, e₀, -⟩ := kept id te h₁ r₁
    obtain ⟨te₀', h₀', e₀', -⟩ := kept id' te' h₂ r₂
    exact ho.unique id id' te₀ te₀' h₀ h₀' (e₀ ▸ r₁) (e₀' ▸ r₂)
  · obtain ⟨te₀, h₀, e₀, -⟩ := kept id te h₁ r₁
    exact hp.elim (fun e => e ▸ ho.normal id te₀ h₀ (e₀ ▸ r₁)) fun e => e
  · obtain ⟨te₀, h₀, e₀, hl⟩ := kept id te h₁ (by rw [e]; rfl)
    obtain ⟨h₁, h₂, h₃⟩ := ho.sample id te₀ h₀ (e₀.trans e)
    rw [hk.1, hk.2]; exact ⟨h₁, h₂, h₃.trans hl⟩

/-- 較正も標本も置かず、時計も書かないコールバックは不変条件を保つ。 -/
theorem of_acts {ω : Writes} (ho : x.th.SampleOk)
    (h : Ctx.Acts cfg ω (fun _ => True) (fun _ => True) (fun _ => True) (fun p => p.isRate = false) x y)
    (hc : .clock ∉ ω.parts) : y.th.SampleOk :=
  of_adds ho h.loop (.inl h.phase) (h.keepsClock hc)

/-! ## 一歩で保たれること -/

theorem of_threadMain (hp : x.th.phase = .init) (hw : x.th.Wf cfg) : (threadMain cfg x).th.SampleOk := by
  refine of_noRate fun id te h => ?_
  rcases threadMain_timer h with h | ⟨_, -, -, e⟩ | e | ⟨e, -⟩
  · rw [hw.fresh hp] at h; cases h
  all_goals rw [e]; rfl

/-- `calibrate` は、記録がなければ自分を置き直し、あれば `start` を取り直して `interval` ミリ秒後に
標本を一つ置き、自分を消す。 -/
theorem of_calibrate (ho : x.th.SampleOk) {id w : Nat} (hte : x.th.loop.timeEvents id = some ⟨w, .calibrate⟩)
    (hn : w ≤ x.now) : ((calibrate x).1.modifyLoop (·.rearm id x.now .calibrate (calibrate x).2)).th.SampleOk := by
  unfold calibrate; dsimp only
  split_ifs with hm
  · exact of_adds ho ((Loop.Adds.refl _).rearm hte hn (some calibrateDelayMs)) (.inl rfl) (keepsClock_modifyLoop _)
  · have hb := calibrate_interval_bounds x.th.latencyHistogram
    refine of_single (k := x.th.loop.timeEventNextId)
      (T := ⟨x.now + max (hdrValueAtPercentile x.th.latencyHistogram 90 * 2 / 1000) 10 * 1000, .sampleRate⟩)
      (fun id' te h hr => ?_) (fun _ => ho.normal id _ hte rfl) (fun _ => ⟨hb.1, hb.2, le_rfl⟩)
    simp only [modifyLoop_loop, Loop.rearm, Loop.createTimeEvent, setAt_apply] at h
    split_ifs at h with h₁ h₂
    · exact ⟨h₂, (Option.some.inj h).symm⟩
    · exact absurd (ho.unique id' id te _ h hte hr rfl) h₁

/-- `sample_rate` は `start` を取り直し、同じ `interval` で自分を置き直す。 -/
theorem of_sampleRate (ho : x.th.SampleOk) {id w : Nat} (hte : x.th.loop.timeEvents id = some ⟨w, .sampleRate⟩) :
    ((sampleRate x).1.modifyLoop (·.rearm id x.now .sampleRate (sampleRate x).2)).th.SampleOk := by
  obtain ⟨h₁, h₂, -⟩ := ho.sample id _ hte rfl
  refine of_single (k := id) (T := ⟨x.now + x.th.interval * 1000, .sampleRate⟩) (fun id' te h hr => ?_)
    (fun _ => ho.normal id _ hte rfl) (fun _ => ⟨h₁, h₂, le_rfl⟩)
  simp only [sampleRate, modifyLoop_loop, Loop.rearm, setAt_apply] at h
  split_ifs at h with h₁
  · exact ⟨h₁, (Option.some.inj h).symm⟩
  · exact absurd (ho.unique id' id te _ h hte hr rfl) h₁

/-- `WARMUP` からの `phase_move` は較正を一つ置く。それまで較正も標本もない。ほかの段階からなら時計も
時間イベントも変えない。 -/
theorem of_phaseMove (ho : x.th.SampleOk) {id : Nat} {te : TimeEvent}
    (hte : x.th.loop.timeEvents id = some te) (hn : te.when ≤ x.now) (hr : te.timeProc.isRate = false)
    (r : Option Nat) : ((phaseMove cfg .normal x).modifyLoop (·.rearm id x.now te.timeProc r)).th.SampleOk := by
  by_cases hwu : x.th.phase = .warmup
  · have ha : Loop.Adds (fun _ => True) (fun _ => True) (fun _ => False) x.th.loop
        ((List.range cfg.perThread).foldl (subscribeConn x.th.cs) x.th.loop) :=
      (subscribeConn_adds x.th.cs _ _).mono (fun _ _ => trivial) (fun _ _ => trivial) (fun _ h => h)
    have hfold : ∀ id' te', ((List.range cfg.perThread).foldl (subscribeConn x.th.cs) x.th.loop).timeEvents id' =
        some te' → te'.timeProc.isRate → False := fun id' te' h hr' => by
      obtain ⟨te₀, h₀, e₀, -⟩ := (ha.timer id' te' h).resolve_right not_false
      exact absurd (hwu.symm.trans (ho.normal id' te₀ h₀ (e₀ ▸ hr'))) (by decide)
    refine of_single (k := ((List.range cfg.perThread).foldl (subscribeConn x.th.cs) x.th.loop).timeEventNextId)
      (T := ⟨x.now + calibrateDelayMs * 1000, .calibrate⟩) (fun id' te' h hr' => ?_) (fun _ => by simp)
      (fun h => by cases h)
    simp only [phaseMove, hwu, and_self, if_true, modifyLoop_loop] at h
    cases r <;> simp only [Loop.rearm, Loop.createTimeEvent, setAt_apply] at h <;> split_ifs at h with h₁ h₂
    · exact ⟨h₂, (Option.some.inj h).symm⟩
    · exact (hfold id' te' h hr').elim
    · cases h; rw [hr] at hr'; cases hr'
    · exact ⟨h₂, (Option.some.inj h).symm⟩
    · exact (hfold id' te' h hr').elim
  · refine of_adds ho ?_ (.inr (by simp)) ((keepsClock_phaseMove _ hwu).trans (keepsClock_modifyLoop _))
    rw [modifyLoop_loop, phaseMove_loop_of_ne _ hwu]
    exact (Loop.Adds.refl _).rearm hte hn r

theorem of_time (hw : x.th.Wf cfg) (ho : x.th.SampleOk) {id : Nat} {te : TimeEvent}
    (hte : x.th.loop.timeEvents id = some te) (hn : te.when ≤ x.now) :
    ((timeProc cfg x te.timeProc).1.modifyLoop
      (·.rearm id x.now te.timeProc (timeProc cfg x te.timeProc).2)).th.SampleOk := by
  have ha : ∀ {ω : Writes} {y : Ctx}, Ctx.Acts cfg ω (fun _ => True) (fun _ => True) (fun _ => True)
      (fun p => p.isRate = false) x y → .clock ∉ ω.parts → ∀ r,
      (y.modifyLoop (·.rearm id x.now te.timeProc r)).th.SampleOk :=
    fun h hc r => of_adds ho (h.loop_rearm hte hn r) (.inl h.phase) ((h.keepsClock hc).trans (keepsClock_modifyLoop _))
  obtain ⟨when, p⟩ := te
  cases p with
  | delayedInitialConnect d =>
    exact ha (acts_delayedInitialConnect (ω := Writes.initial) (.refl _) trivial trivial trivial
      (hw.init_of_initPending ⟨id, _, hte, rfl⟩)) (by decide) _
  | delayRequest d => exact ha (acts_delayRequest (ω := Writes.delay) (by decide) trivial trivial trivial) (by decide) _
  | checkStop => exact ha (acts_checkStop (ω := Writes.stop) (by decide)) (by decide) _
  | warmupTimedOut => exact of_phaseMove ho hte hn rfl _
  | interThreadSync =>
    show (((if x.g.isReady then phaseMove cfg .normal x else x)).modifyLoop _).th.SampleOk
    split_ifs
    · exact of_phaseMove ho hte hn rfl _
    · exact ha (.refl (ω := Writes.stop) x) (by decide) _
  | calibrate => exact of_calibrate ho hte hn
  | sampleRate => exact of_sampleRate ho hte

theorem of_file (ho : x.th.SampleOk) {io : Io} {fd d : Nat} (p : FileProc) :
    (fileProc cfg fd d io x p).th.SampleOk := by
  cases p
  · exact of_acts ho (acts_socketConnected _ (.refl _) trivial trivial (fun _ => trivial) (fun _ => trivial) trivial
      fun _ => rfl) (by decide)
  · exact of_acts ho (acts_socketReadable _ (.refl _) trivial trivial trivial trivial) (by decide)
  · exact of_acts ho (acts_socketWriteable _ _ (.refl _) trivial trivial trivial rfl) (by decide)

/-- 形の不変条件の下で、`dispatch` 一回は標本の時計の不変条件を保つ。 -/
theorem of_dispatch {io : Io} {ev : Event} (hw : x.th.Wf cfg) (ho : x.th.SampleOk)
    (h : dispatch cfg io x ev = some y) : y.th.SampleOk := by
  rcases dispatch_eq_some cfg h with ⟨-, hp, rfl⟩ | ⟨id, te, -, hte, hn, rfl⟩ | ⟨fd, dir, p, -, -, rfl⟩
  · exact of_threadMain hp hw
  · exact of_time hw ho hte hn
  · exact of_file ho p

end Thread.SampleOk

/-- 到達できるすべての状態のすべてのワーカーが標本の時計の不変条件を満たす。 -/
theorem Reachable.sampleOk {s : System} (hr : Reachable cfg s) (w : Nat) : (s.threads w).SampleOk :=
  hr.thread_inv_wf (fun th _ => th.SampleOk) (fun st _ => .create st) (fun _ _ _ h _ => h)
    (fun _ _ _ _ hw h ho => ho.of_dispatch hw h) w

end Wrk2
