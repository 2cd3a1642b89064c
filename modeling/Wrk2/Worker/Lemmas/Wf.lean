import Wrk2.Worker.Lemmas.Dispatch

/-!
# ワーカーの形の不変条件

到達できるすべての状態でワーカーが満たす形。`thread_main` の前のワーカーは `main` が作ったままである。
接続 `i` の `delayed_initial_connect` は番号 `i` の時間イベントにあり、それが起こるまで接続は初めの値の
ままで、購読も `delay_request` も持たない。`NORMAL` の前の購読はすべて `socket_connected` で、
`delay_request` はない。ワーカーの接続の数 `connections` 以上の番号の接続には、購読も時間イベントもない。
-/

namespace Wrk2

/-- 段階の移り変わりのための時間イベントのコールバック。ウォームアップがなければ置かれない。 -/
def TimeProc.phaseWork : TimeProc → Bool
  | .warmupTimedOut | .interThreadSync | .calibrate | .sampleRate => true
  | _ => false

namespace Loop

/-- 接続 `i` を `clientData` に持つ購読がない。 -/
def NoSubs (el : Loop) (i : Nat) : Prop :=
  ∀ fd dir p, (el.events fd).proc dir = some p → (el.events fd).clientData ≠ i

/-- 接続 `i` の `delay_request` がない。 -/
def NoDelay (el : Loop) (i : Nat) : Prop :=
  ∀ id te, el.timeEvents id = some te → te.timeProc ≠ .delayRequest i

/-- 接続 `i` の `delayed_initial_connect` がまだ起こっていない。 -/
def InitPending (el : Loop) (i : Nat) : Prop :=
  ∃ id te, el.timeEvents id = some te ∧ te.timeProc = .delayedInitialConnect i

/-- `delayed_initial_connect i` は番号 `i` の時間イベントにしかない。 -/
def DicAt (el : Loop) : Prop :=
  ∀ id te i, el.timeEvents id = some te → te.timeProc = .delayedInitialConnect i → id = i

/-- 購読はすべて `socket_connected` である。 -/
def OnlyConnect (el : Loop) : Prop :=
  ∀ fd dir p, (el.events fd).proc dir = some p → p = .socketConnected

variable {pf : FileProc → Prop} {pd : Nat → Prop} {pt : TimeProc → Prop} {el el' : Loop} {i : Nat}

theorem Adds.noSubs (h : Adds pf pd pt el el') (hd : ¬ pd i) (hn : el.NoSubs i) : el'.NoSubs i := by
  intro fd dir p hp e
  rcases h.proc fd dir p hp with hp' | ⟨-, hd'⟩
  · rcases h.data fd with e' | hd'
    · exact hn fd dir p hp' (e' ▸ e)
    · exact hd (e ▸ hd')
  · exact hd (e ▸ hd')

theorem Adds.noDelay (h : Adds pf pd pt el el') (ht : ¬ pt (.delayRequest i)) (hn : el.NoDelay i) :
    el'.NoDelay i := by
  intro id te hte e
  rcases h.timer id te hte with ⟨te₀, h₀, e₀, -⟩ | hp
  · exact hn id te₀ h₀ (e₀.trans e)
  · exact ht (e ▸ hp)

theorem Adds.initPending (h : Adds pf pd pt el el') (ht : ¬ pt (.delayedInitialConnect i)) :
    el'.InitPending i → el.InitPending i := by
  rintro ⟨id, te, hte, e⟩
  rcases h.timer id te hte with ⟨te₀, h₀, e₀, -⟩ | hp
  · exact ⟨id, te₀, h₀, e₀.trans e⟩
  · exact absurd (e ▸ hp) ht

theorem Adds.dicAt (h : Adds pf pd pt el el') (ht : ∀ i, ¬ pt (.delayedInitialConnect i))
    (hn : el.DicAt) : el'.DicAt := by
  intro id te i hte e
  rcases h.timer id te hte with ⟨te₀, h₀, e₀, -⟩ | hp
  · exact hn id te₀ i h₀ (e₀.trans e)
  · exact absurd (e ▸ hp) (ht i)

theorem Adds.onlyConnect (h : Adds pf pd pt el el') (hf : ∀ p, pf p → p = .socketConnected)
    (hn : el.OnlyConnect) : el'.OnlyConnect := fun fd dir p hp =>
  (h.proc fd dir p hp).elim (hn fd dir p) fun ⟨hp', _⟩ => hf p hp'

/-- 段階の移り変わりのための時間イベント（`warmup_timed_out`、`inter_thread_sync`、`calibrate`、
`sample_rate`）がない。 -/
def NoPhaseTimers (el : Loop) : Prop :=
  ∀ id te, el.timeEvents id = some te → te.timeProc.phaseWork = false

theorem Adds.noPhaseTimers (h : Adds pf pd pt el el') (ht : ∀ p, pt p → p.phaseWork = false)
    (hn : el.NoPhaseTimers) : el'.NoPhaseTimers := by
  intro id te hte
  rcases h.timer id te hte with ⟨te₀, h₀, e₀, -⟩ | hp
  · exact e₀ ▸ hn id te₀ h₀
  · exact ht _ hp

end Loop

/-- ワーカーの形の不変条件。 -/
structure Thread.Wf (cfg : Config) (th : Thread) : Prop where
  fresh : th.phase = .init → th = Thread.create th.stopAt
  dicAt : th.loop.DicAt
  untouched : ∀ i, th.loop.InitPending i →
    th.cs i = Connection.init (th.cs i).request ∧ th.loop.NoSubs i ∧ th.loop.NoDelay i
  quiet : th.phase ≠ .normal → th.loop.OnlyConnect ∧ ∀ i, th.loop.NoDelay i
  noPhase : cfg.warmup = false → th.loop.NoPhaseTimers
  outside : ∀ i, cfg.perThread ≤ i → th.loop.NoSubs i ∧ th.loop.NoDelay i ∧ ¬ th.loop.InitPending i

namespace Thread.Wf

variable {cfg : Config} {x y : Ctx} {pc pd : Nat → Prop} {pf : FileProc → Prop} {pt : TimeProc → Prop}

theorem create (st : Nat) : (Thread.create st).Wf cfg where
  fresh _ := rfl
  dicAt _ _ _ h := by cases h
  untouched _ h := by obtain ⟨_, _, h, _⟩ := h; cases h
  quiet _ := ⟨fun _ dir _ h => (by cases dir <;> cases h), fun _ _ _ h => (by cases h)⟩
  noPhase _ _ _ h := by cases h
  outside _ _ := ⟨fun _ dir _ h => (by cases dir <;> cases h), fun _ _ h => (by cases h),
    fun ⟨_, _, h, _⟩ => (by cases h)⟩

theorem phase_ne_init (hw : x.th.Wf cfg) {id : Nat} {te : TimeEvent} (h : x.th.loop.timeEvents id = some te) :
    x.th.phase ≠ .init := fun hp => by
  have := congrArg (fun th : Thread => th.loop.timeEvents id) (hw.fresh hp)
  simp only [h] at this; cases this

theorem phase_ne_init' (hw : x.th.Wf cfg) {fd : Nat} {dir : Dir} {p : FileProc}
    (h : (x.th.loop.events fd).proc dir = some p) : x.th.phase ≠ .init := fun hp => by
  have := congrArg (fun th : Thread => (th.loop.events fd).proc dir) (hw.fresh hp)
  cases dir <;> simp only [h] at this <;> cases this

/-- `thread_main` の前のワーカーの接続は、`zcalloc` の 0 のままである。 -/
theorem conn_of_init (hw : x.th.Wf cfg) (hp : x.th.phase = .init) (j : Nat) : x.conn j = Connection.init [] := by
  rw [Ctx.conn, hw.fresh hp]; rfl

/-- 最初の接続を待つ接続は、`thread_main` が作ったままである。 -/
theorem init_of_initPending (hw : x.th.Wf cfg) {i : Nat} (hp : x.th.loop.InitPending i) :
    x.conn i = Connection.init (x.conn i).request :=
  (hw.untouched i hp).1

/-- 接続や時間イベントのコールバック一つの後も形が保たれる。`pc` を満たさない接続は変わらず、ループには
`Loop.Adds pf pd pt` の範囲のものだけが加わる。`pc` と `pd` の接続は、このあと最初の接続を待たない。加わる
`delay_request` は、それらの接続の、`NORMAL` でのものだけである。 -/
theorem of_adds (hw : x.th.Wf cfg) (hi : x.th.phase ≠ .init) (hc : ∀ j, ¬ pc j → y.conn j = x.conn j)
    (hph : y.th.phase = x.th.phase) (ha : Loop.Adds pf pd pt x.th.loop y.th.loop)
    (hf : x.th.phase ≠ .normal → ∀ p, pf p → p = .socketConnected)
    (hdic : ∀ i, ¬ pt (.delayedInitialConnect i))
    (hdel : ∀ i, pt (.delayRequest i) → (pc i ∨ pd i) ∧ x.th.phase = .normal)
    (hpw : cfg.warmup = false → ∀ p, pt p → p.phaseWork = false)
    (hd : ∀ i, pc i ∨ pd i → ¬ y.th.loop.InitPending i) (hlt : ∀ i, pc i ∨ pd i → i < cfg.perThread) :
    y.th.Wf cfg where
  fresh hp := absurd (hph ▸ hp) hi
  dicAt := ha.dicAt hdic hw.dicAt
  untouched i hp := by
    by_cases hci : pc i ∨ pd i
    · exact absurd hp (hd i hci)
    · obtain ⟨hc', hs, hn⟩ := hw.untouched i (ha.initPending (hdic i) hp)
      have e : y.th.cs i = x.th.cs i := hc i fun h' => hci (.inl h')
      exact ⟨e ▸ hc', ha.noSubs (fun h' => hci (.inr h')) hs, ha.noDelay (fun h' => hci (hdel i h').1) hn⟩
  quiet hp := by
    rw [hph] at hp
    obtain ⟨ho, hn⟩ := hw.quiet hp
    exact ⟨ha.onlyConnect (hf hp) ho, fun i => ha.noDelay (fun h' => hp (hdel i h').2) (hn i)⟩
  noPhase hw' := ha.noPhaseTimers (hpw hw') (hw.noPhase hw')
  outside i hi := by
    have hci : ¬ (pc i ∨ pd i) := fun h' => absurd (hlt i h') (Nat.not_lt.mpr hi)
    obtain ⟨hs, hn, hp⟩ := hw.outside i hi
    exact ⟨ha.noSubs (fun h' => hci (.inr h')) hs, ha.noDelay (fun h' => hci (hdel i h').1) hn,
      fun hp' => hp (ha.initPending (hdic i) hp')⟩

/-! ## 一歩ごとに保たれること -/

theorem of_threadMain (hp : x.th.phase = .init) (hw : x.th.Wf cfg) : (threadMain cfg x).th.Wf cfg := by
  have hl : x.th.loop = Loop.empty := by rw [hw.fresh hp]; rfl
  have ht : ∀ {id te}, (threadMain cfg x).th.loop.timeEvents id = some te →
      (∃ i, i < cfg.perThread ∧ id = i ∧ te.timeProc = .delayedInitialConnect i) ∨
        te.timeProc = .checkStop ∨ te.timeProc = .warmupTimedOut := fun h => by
    rcases threadMain_timer h with h | h | h | ⟨h, -⟩
    · rw [hl] at h; cases h
    · rw [hl] at h; exact .inl (by simpa [Loop.empty] using h)
    · exact .inr (.inl h)
    · exact .inr (.inr h)
  have hnd : ∀ i, (threadMain cfg x).th.loop.NoDelay i := fun i id te h e => by
    rcases ht h with ⟨_, -, -, e'⟩ | e' | e' <;> rw [e] at e' <;> cases e'
  have hns : ∀ fd dir p, ((threadMain cfg x).th.loop.events fd).proc dir ≠ some p := fun fd dir p h => by
    rw [threadMain_events, hl] at h; cases dir <;> cases h
  refine ⟨fun h => ?_, fun id te i h e => ?_, fun i _ => ⟨rfl, fun fd dir p h => absurd h (hns fd dir p), hnd i⟩,
    fun _ => ⟨fun fd dir p h => absurd h (hns fd dir p), hnd⟩, fun hw' id te h => ?_,
    fun i hi => ⟨fun fd dir p h => absurd h (hns fd dir p), hnd i, fun ⟨id, te, h, e⟩ => ?_⟩⟩
  · simp only [threadMain_phase] at h; split_ifs at h
  · rcases ht h with ⟨j, -, rfl, e'⟩ | e' | e' <;> rw [e] at e' <;> cases e'
    rfl
  · rcases threadMain_timer h with h | ⟨_, -, -, e⟩ | e | ⟨-, e⟩
    · rw [hl] at h; cases h
    · rw [e]; rfl
    · rw [e]; rfl
    · rw [hw'] at e; cases e
  · rcases ht h with ⟨j, hj, -, e'⟩ | e' | e' <;> rw [e] at e' <;> cases e'
    omega

theorem of_phaseMove (hw : x.th.Wf cfg) {id : Nat} {te : TimeEvent} (hte : x.th.loop.timeEvents id = some te)
    (hn : te.when ≤ x.now) (hph : te.timeProc.phaseWork = true) (r : Option Nat) :
    ((phaseMove cfg .normal x).modifyLoop (·.rearm id x.now te.timeProc r)).th.Wf cfg := by
  have ha := (phaseMove_adds .normal : Loop.Adds _ _ _ x.th.loop (phaseMove cfg .normal x).th.loop).rearm
    hte hn r
  refine ⟨fun h => by simp at h, ha.dicAt (fun _ h => by cases h) hw.dicAt, fun i hp => ?_,
    fun h => absurd (by simp) h, fun hw' => absurd (hw.noPhase hw' id te hte) (by simp [hph]), fun i hi => ?_⟩
  · obtain ⟨hc, hs, hn⟩ := hw.untouched i (ha.initPending (fun h => by cases h) hp)
    have e : ((phaseMove cfg .normal x).modifyLoop (·.rearm id x.now te.timeProc r)).th.cs i = x.th.cs i :=
      phaseMove_conn .normal i
    refine ⟨e ▸ hc, ha.noSubs (fun h => ?_) hs, ha.noDelay (fun h => by cases h) hn⟩
    have h := h.2; simp only [Ctx.conn] at h; rw [hc] at h; cases h
  · obtain ⟨hs, hn, hp⟩ := hw.outside i hi
    exact ⟨ha.noSubs (fun h => absurd h.1 (Nat.not_lt.mpr hi)) hs, ha.noDelay (fun h => by cases h) hn,
      fun hp' => hp (ha.initPending (fun h => by cases h) hp')⟩

theorem of_time (hw : x.th.Wf cfg) {id : Nat} {te : TimeEvent} (hte : x.th.loop.timeEvents id = some te)
    (hn : te.when ≤ x.now) :
    ((timeProc cfg x te.timeProc).1.modifyLoop
      (·.rearm id x.now te.timeProc (timeProc cfg x te.timeProc).2)).th.Wf cfg := by
  have hi := hw.phase_ne_init hte
  have hnone : ∀ {ω : Writes} {z : Ctx} (r : Option Nat),
      Ctx.Acts cfg ω (fun _ => False) (fun _ => False) (fun _ => False) (fun _ => False) x z →
      (z.modifyLoop (·.rearm id x.now te.timeProc r)).th.Wf cfg := fun r h =>
    of_adds hw hi h.conn h.phase (h.loop_rearm hte hn r) (fun _ _ h => h.elim) (fun _ h => h) (fun _ h => h.elim)
      (fun _ _ h => h.elim) (fun _ h => h.elim (·.elim) (·.elim)) (fun _ h => h.elim (·.elim) (·.elim))
  obtain ⟨when, p⟩ := te
  cases p with
  | delayedInitialConnect d =>
    dsimp only [timeProc]
    have h : Ctx.Acts cfg Writes.initial (· = d) (· = .socketConnected) (· = d) (fun _ => False) x
        (delayedInitialConnect d x).1 :=
      acts_delayedInitialConnect (.refl _) rfl rfl rfl (hw.init_of_initPending ⟨id, _, hte, rfl⟩)
    have hid : id = d := hw.dicAt id _ d hte rfl
    have hd : d < cfg.perThread := Nat.lt_of_not_le fun hge => (hw.outside d hge).2.2 ⟨id, _, hte, rfl⟩
    refine of_adds hw hi h.conn h.phase (h.loop_rearm hte hn _) (fun _ _ e => e) (fun _ h => h) (fun _ h => h.elim)
      (fun _ _ h => h.elim) ?_ (fun i hi' => hi'.elim (· ▸ hd) (· ▸ hd))
    rintro i hi' ⟨id', te', h', e'⟩
    have hi'' : i = d := hi'.elim (fun h => h) (fun h => h)
    subst hi'' hid
    have := (h.loop_rearm hte hn _).dicAt (fun _ h => h) hw.dicAt id' te' id h' e'
    subst this
    simp [delayedInitialConnect, Loop.rearm] at h'
  | delayRequest d =>
    dsimp only [timeProc]
    have hnorm : x.th.phase = .normal := by
      by_contra hn; exact (hw.quiet hn).2 d id _ hte rfl
    have h : Ctx.Acts cfg Writes.delay (· = d) (· = .socketWriteable) (· = d) (fun _ => False) x
        (delayRequest cfg d x).1 := acts_delayRequest (by decide) rfl rfl rfl
    have hd : d < cfg.perThread := Nat.lt_of_not_le fun hge => (hw.outside d hge).2.1 id _ hte rfl
    refine of_adds hw hi h.conn h.phase (h.loop_rearm hte hn _) (fun h => absurd hnorm h) (fun _ h => h)
      (fun _ h => h.elim) (fun _ _ h => h.elim) ?_ (fun i hi' => hi'.elim (· ▸ hd) (· ▸ hd))
    rintro i hi' hp
    obtain rfl : i = d := hi'.elim (fun h => h) (fun h => h)
    exact (hw.untouched i ((h.loop_rearm hte hn _).initPending (fun h => h) hp)).2.2 _ _ hte rfl
  | checkStop => exact hnone _ (acts_checkStop (ω := Writes.stop) (by decide))
  | warmupTimedOut => exact of_phaseMove hw hte hn rfl _
  | interThreadSync =>
    show (((if x.g.isReady then phaseMove cfg .normal x else x)).modifyLoop _).th.Wf cfg
    split_ifs
    · exact of_phaseMove hw hte hn rfl _
    · exact hnone (ω := ⟨[], []⟩) _ (.refl x)
  | calibrate =>
    dsimp only [timeProc]
    have h : Ctx.Acts cfg Writes.calibrate (fun _ => False) (fun _ => False) (fun _ => False) (· = .sampleRate) x
        (calibrate x).1 := acts_calibrate (.refl _) rfl
    exact of_adds hw hi h.conn h.phase (h.loop_rearm hte hn _) (fun _ _ h => h.elim) (fun _ h => by cases h)
      (fun _ h => by cases h) (fun hw' _ _ => absurd (hw.noPhase hw' id _ hte) Bool.noConfusion)
      (fun _ h => h.elim (·.elim) (·.elim)) (fun _ h => h.elim (·.elim) (·.elim))
  | sampleRate => exact hnone _ (acts_sampleRate (ω := Writes.sample) (.refl _))

/-- `NORMAL` の前に起こる購読は `socket_connected` だけである。 -/
theorem connected_or_normal (hw : x.th.Wf cfg) {fd : Nat} {dir : Dir} {p : FileProc}
    (hp : (x.th.loop.events fd).proc dir = some p) : p = .socketConnected ∨ x.th.phase = .normal := by
  by_cases hn : x.th.phase = .normal
  · exact .inr hn
  · exact .inl ((hw.quiet hn).1 fd dir p hp)

theorem of_file (hw : x.th.Wf cfg) {fd : Nat} {dir : Dir} {p : FileProc}
    (hp : (x.th.loop.events fd).proc dir = some p) :
    (fileProc cfg fd (x.th.loop.events fd).clientData io x p).th.Wf cfg := by
  have h : Ctx.Acts cfg p.writes (· = (x.th.loop.events fd).clientData) _ _ _ x
      (fileProc cfg fd (x.th.loop.events fd).clientData io x p) := acts_fileProc cfg (hw.connected_or_normal hp)
  have hd : (x.th.loop.events fd).clientData < cfg.perThread :=
    Nat.lt_of_not_le fun hge => (hw.outside _ hge).1 fd dir p hp rfl
  refine of_adds hw (hw.phase_ne_init' hp) h.conn h.phase h.loop (fun hn _ h => h.resolve_right hn)
    (fun _ h => by rcases h with ⟨h, -⟩ | ⟨-, h⟩ <;> cases h) ?_ ?_ ?_ (fun i hi' => hi'.elim (· ▸ hd) (· ▸ hd))
  · rintro i (⟨h, hn⟩ | ⟨-, h⟩)
    · cases h; exact ⟨.inl rfl, hn⟩
    · cases h
  · rintro hw' _ (⟨rfl, -⟩ | ⟨h, -⟩)
    · rfl
    · rw [hw'] at h; cases h
  · rintro i hi' hpend
    obtain rfl : i = _ := hi'.elim (fun h => h) (fun h => h)
    exact (hw.untouched _ (h.loop.initPending (fun h => by rcases h with ⟨h, -⟩ | ⟨-, h⟩ <;> cases h)
      hpend)).2.1 fd dir p hp rfl

theorem of_dispatch (hw : x.th.Wf cfg) {ev : Event} (h : dispatch cfg io x ev = some y) :
    y.th.Wf cfg := by
  rcases dispatch_eq_some cfg h with ⟨-, hp, rfl⟩ | ⟨id, te, -, hte, hn, rfl⟩ | ⟨fd, dir, p, -, hp, rfl⟩
  · exact of_threadMain hp hw
  · exact of_time hw hte hn
  · exact of_file hw hp

end Thread.Wf

/-- 形の不変条件の下での `dispatch` 一回の四つの形。`thread_main`、`WARMUP` から `NORMAL` へ移す
`phase_move`（`warmup_timed_out` と、揃ったときの `inter_thread_sync`）、それ以外の時間イベントのコールバック、
購読のコールバック。時間イベントにはそのあとの ae の置き直しが続く。コールバックはそれぞれの書きうるもの
`writes` の範囲で書き、購読のコールバックが変えるのは購読の持ち主の接続だけである。 -/
theorem Thread.Wf.dispatch_writes {cfg : Config} {io : Io} {x y : Ctx} {ev : Event} (hw : x.th.Wf cfg)
    (h : dispatch cfg io x ev = some y) :
    (ev = .threadMain ∧ x.th.phase = .init ∧ y = threadMain cfg x) ∨
    (∃ id te r, ev = .time id ∧ x.th.loop.timeEvents id = some te ∧ te.when ≤ x.now ∧
      (te.timeProc = .warmupTimedOut ∨ te.timeProc = .interThreadSync) ∧
      y = (phaseMove cfg .normal x).modifyLoop (·.rearm id x.now te.timeProc r)) ∨
    (∃ id te, ev = .time id ∧ x.th.loop.timeEvents id = some te ∧ te.when ≤ x.now ∧
      Ctx.Within cfg te.timeProc.writes x (timeProc cfg x te.timeProc).1 ∧
      y = (timeProc cfg x te.timeProc).1.modifyLoop (·.rearm id x.now te.timeProc (timeProc cfg x te.timeProc).2)) ∨
    (∃ fd dir p, ev = .file fd dir ∧ (x.th.loop.events fd).proc dir = some p ∧
      y = fileProc cfg fd (x.th.loop.events fd).clientData io x p ∧
      Ctx.Acts cfg p.writes (· = (x.th.loop.events fd).clientData) (fun _ => True) (fun _ => True) (fun _ => True)
        x y) := by
  rcases dispatch_eq_some cfg h with ⟨hev, hp, rfl⟩ | ⟨id, te, hev, hte, hn, rfl⟩ | ⟨fd, dir, p, e, hp, rfl⟩
  · exact .inl ⟨hev, hp, rfl⟩
  · obtain ⟨when, p⟩ := te
    by_cases hm : p = .warmupTimedOut ∨ p = .interThreadSync ∧ x.g.isReady = true
    · rcases hm with rfl | ⟨rfl, hr⟩
      · exact .inr (.inl ⟨id, _, _, hev, hte, hn, .inl rfl, rfl⟩)
      · refine .inr (.inl ⟨id, _, none, hev, hte, hn, .inr rfl, ?_⟩)
        simp [timeProc, interThreadSync, hr]
    refine .inr (.inr (.inl ⟨id, _, hev, hte, hn, ?_, rfl⟩))
    cases p with
    | delayedInitialConnect d =>
      exact acts_delayedInitialConnect (.refl _) trivial trivial trivial (hw.init_of_initPending ⟨id, _, hte, rfl⟩)
    | delayRequest d => exact acts_delayRequest (of_decide_eq_true rfl) trivial trivial trivial
    | checkStop => exact acts_checkStop (of_decide_eq_true rfl)
    | warmupTimedOut => exact absurd (.inl rfl) hm
    | interThreadSync =>
      have hr : x.g.isReady = false := by simpa using hm
      simp only [timeProc, interThreadSync_fst, hr]; exact .refl x
    | calibrate => exact acts_calibrate (.refl _) trivial
    | sampleRate => exact acts_sampleRate (.refl _)
  · exact .inr (.inr (.inr ⟨fd, dir, p, e, hp, rfl, (acts_fileProc cfg (hw.connected_or_normal hp)).mono (.refl _)
      (fun _ h => h) (fun _ _ => trivial) (fun _ _ => trivial) (fun _ _ => trivial)⟩))

/-- 形の不変条件の下での `dispatch` 一回で、時間イベントの次の番号は減らず、起こした時間イベントのほかの、
すでにある番号の時間イベントは変わらない。 -/
theorem Thread.Wf.dispatch_timers {cfg : Config} {io : Io} {x y : Ctx} {ev : Event} (hw : x.th.Wf cfg)
    (h : dispatch cfg io x ev = some y) :
    x.th.loop.timeEventNextId ≤ y.th.loop.timeEventNextId ∧
      ∀ k < x.th.loop.timeEventNextId, ev ≠ .time k → y.th.loop.timeEvents k = x.th.loop.timeEvents k := by
  rcases hw.dispatch_writes h with ⟨-, hp, rfl⟩ | ⟨id, te, r, rfl, -, -, -, rfl⟩ | ⟨id, te, rfl, -, -, ha, rfl⟩ |
    ⟨fd, dir, p, -, -, -, ha⟩
  · have h0 : x.th.loop.timeEventNextId = 0 := by rw [hw.fresh hp]; rfl
    exact ⟨h0 ▸ Nat.zero_le _, fun k hk => absurd hk (by omega)⟩
  · exact ((phaseMove_keeps (p := .normal)).rearm _ _ _ _).imp_right fun h k hk he => h k hk (he ∘ congrArg _ ∘ .symm)
  · exact (ha.timers.rearm _ _ _ _).imp_right fun h k hk he => h k hk (he ∘ congrArg _ ∘ .symm)
  · exact ⟨ha.timers.nextId, fun k hk _ => ha.timers.timer k hk⟩

/-- 出来事 `ev` が接続 `j` の `socket_writeable` を呼ぶこと: 持ち主が `j` の購読の、`socket_writeable` を置いた
向きが起こる。 -/
def Ctx.writeableFor (x : Ctx) (j : Nat) : Event → Bool
  | .file fd dir => (x.th.loop.events fd).proc dir = some .socketWriteable ∧ (x.th.loop.events fd).clientData = j
  | _ => false

/-- 形の不変条件の下での `dispatch` 一回で、どの接続も基本の書き換えを重ねたものを受けるか、`thread_main` で
初めの接続から初めの接続になる。バッチを始める書き換え `begin` が入りうるのは、その接続の `socket_writeable`
だけである。 -/
theorem Thread.Wf.dispatch_connSteps {cfg : Config} {io : Io} {x y : Ctx} {ev : Event} (hw : x.th.Wf cfg)
    (h : dispatch cfg io x ev = some y) (j : Nat) :
    (∃ ks, .begin ∉ ks ∧ Relation.ReflTransGen (ConnStep.In cfg x.now ks) (x.conn j) (y.conn j)) ∨
    (x.writeableFor j ev = true ∧
      Relation.ReflTransGen (ConnStep.In cfg x.now Writes.writeable.kinds) (x.conn j) (y.conn j)) ∨
    (x.conn j = Connection.init [] ∧ y.conn j = Connection.init cfg.initRequest) := by
  rcases hw.dispatch_writes h with ⟨-, hp, rfl⟩ | ⟨id, te, r, -, -, -, -, rfl⟩ | ⟨id, te, -, -, -, ha, rfl⟩ |
    ⟨fd, dir, p, rfl, hp, -, ha⟩
  · exact .inr (.inr ⟨hw.conn_of_init hp j, rfl⟩)
  · exact .inl ⟨[], by decide, by rw [Ctx.conn_modifyLoop, phaseMove_conn]⟩
  · exact .inl ⟨_, fun hb => absurd ((te.timeProc.writes_le).kind hb) (by decide), ha.step j⟩
  · cases p
    case socketWriteable =>
      by_cases hj : j = (x.th.loop.events fd).clientData
      · exact .inr (.inl ⟨by simp [Ctx.writeableFor, hp, hj], ha.step j⟩)
      · exact .inl ⟨[], by decide, by rw [ha.conn j hj]⟩
    all_goals exact .inl ⟨_, by decide, ha.step j⟩

/-- 基本の書き換えの列で保たれる性質は、列の後にも成り立つ。 -/
theorem ConnStep.rtg_of {cfg : Config} {now : Nat} {ks : List ConnKind} {c c' : Connection}
    (P : Connection → Prop) (hs : ∀ {k c c'}, ConnStep cfg now k c c' → P c → P c')
    (h : Relation.ReflTransGen (ConnStep.In cfg now ks) c c') (hc : P c) : P c' :=
  ConnStep.rtg_of_mem P (fun _ => hs) h hc

/-- 形の不変条件の下での `dispatch` 一回で、どの接続も基本の書き換えの列を受けるか、`thread_main` に
作られる。 -/
theorem Thread.Wf.dispatch_steps {cfg : Config} {io : Io} {x y : Ctx} {ev : Event} (hw : x.th.Wf cfg)
    (h : dispatch cfg io x ev = some y) (j : Nat) :
    (∃ ks, Relation.ReflTransGen (ConnStep.In cfg x.now ks) (x.conn j) (y.conn j)) ∨
    (x.conn j = Connection.init [] ∧ y.conn j = Connection.init cfg.initRequest) := by
  rcases hw.dispatch_connSteps h j with ⟨_, -, hr⟩ | ⟨-, hr⟩ | hi
  · exact .inl ⟨_, hr⟩
  · exact .inl ⟨_, hr⟩
  · exact .inr hi

/-- 形の不変条件の下での `dispatch` 一回で、接続の性質が基本の書き換えと初めの接続で保たれるなら、それは
保たれる。 -/
theorem Thread.Wf.dispatch_conn {cfg : Config} {io : Io} {x y : Ctx} {ev : Event} (hw : x.th.Wf cfg)
    (h : dispatch cfg io x ev = some y) (P : Connection → Prop)
    (hs : ∀ {k c c'}, ConnStep cfg x.now k c c' → P c → P c') (hi : P (Connection.init cfg.initRequest)) (j : Nat)
    (hc : P (x.conn j)) : P (y.conn j) := by
  rcases hw.dispatch_steps h j with ⟨_, hr⟩ | ⟨-, e⟩
  · exact ConnStep.rtg_of P hs hr hc
  · exact e ▸ hi

theorem Phase.rank_le_normal (p : Phase) : p.rank ≤ Phase.normal.rank := by
  cases p <;> decide

/-- 形の不変条件の下で、`dispatch` は段階を戻さない。 -/
theorem Thread.Wf.dispatch_phase {cfg : Config} {io : Io} {x y : Ctx} {ev : Event} (hw : x.th.Wf cfg)
    (h : dispatch cfg io x ev = some y) : x.th.phase.rank ≤ y.th.phase.rank := by
  rcases hw.dispatch_writes h with ⟨-, hp, -⟩ | ⟨id, te, r, -, -, -, -, rfl⟩ | ⟨id, te, -, -, -, ha, rfl⟩ |
    ⟨fd, dir, p, -, -, -, ha⟩
  · rw [hp]; exact Nat.zero_le _
  · simp only [Ctx.modifyLoop_phase, phaseMove_phase]; exact x.th.phase.rank_le_normal
  · exact (congrArg Phase.rank ha.phase).ge
  · exact (congrArg Phase.rank ha.phase).ge

/-- 到達できるすべての状態のすべてのワーカーが形の不変条件を満たす。 -/
theorem Reachable.wf {cfg : Config} {s : System} (hr : Reachable cfg s) (w : Nat) :
    (s.threads w).Wf cfg :=
  hr.thread_inv cfg (fun th _ => th.Wf cfg) (fun st _ => Thread.Wf.create st) (fun _ _ _ h _ => h)
    (fun _ _ _ _ h hw => hw.of_dispatch h) w

/-- `Reachable.thread_inv` の、`dispatch` の前の状態の形の不変条件を使える形。 -/
theorem Reachable.thread_inv_wf {cfg : Config} (P : Thread → Nat → Prop) (h₀ : ∀ st t, P (Thread.create st) t)
    (hm : ∀ th n m, P th n → n ≤ m → P th m)
    (hs : ∀ io x ev y, x.th.Wf cfg → dispatch cfg io x ev = some y → P x.th x.now → P y.th x.now)
    {s : System} (hr : Reachable cfg s) (w : Nat) : P (s.threads w) s.now :=
  (hr.thread_inv cfg (fun th n => th.Wf cfg ∧ P th n) (fun st t => ⟨.create st, h₀ st t⟩)
    (fun _ _ _ ⟨hw, hp⟩ h => ⟨hw, hm _ _ _ hp h⟩)
    (fun io x ev y h ⟨hw, hp⟩ => ⟨hw.of_dispatch h, hs io x ev y hw h hp⟩) w).2

/-- ラベル `l` が、ワーカー `w` の、その時刻の視点 `x` で `P x ev` を満たす出来事 `ev` を起こす。 -/
def Label.fires (s : System) (w : Nat) (P : Ctx → Event → Bool) : Label → Bool
  | .run w' t ev io => w' == w && P (s.ctx w t io.dials) ev
  | .sigint => false

@[simp] theorem Label.fires_run_self (s : System) (w t : Nat) (ev : Event) (io : Io) (P : Ctx → Event → Bool) :
    (Label.run w t ev io).fires s w P = P (s.ctx w t io.dials) ev := by
  simp [Label.fires]

/-- `dispatch` 一回で接続 `i` の値 `f` が、`P` を満たす出来事でだけ `g` に取り直され、ほかでは変わらないなら、
到達できる状態からの一歩でも、ワーカー `w` でそういう出来事を起こすラベルでだけ取り直され、ほかでは変わらない。 -/
theorem Reachable.conn_ite {cfg : Config} {α : Type} {s s' : System} {l : Label} (hr : Reachable cfg s)
    (h : Wrk2.step cfg s l = some s') (f : Connection → α) (P : Ctx → Event → Bool) (g : Connection → Nat → α)
    (i : Nat) (hd : ∀ {io x ev y}, x.th.Wf cfg → dispatch cfg io x ev = some y →
      f (y.conn i) = if P x ev then g (x.conn i) x.now else f (x.conn i)) (w : Nat) :
    f ((s'.threads w).cs i) =
      if l.fires s w P then g ((s.threads w).cs i) s'.now else f ((s.threads w).cs i) := by
  cases l with
  | sigint => cases Option.some.inj h; rfl
  | run w' t ev io =>
    simp only [Wrk2.step] at h
    split_ifs at h
    obtain ⟨y, hy, rfl⟩ := Option.map_eq_some'.mp h
    by_cases hw : w' = w
    · subst hw
      simpa [Label.fires, System.put, dispatch_now cfg hy] using hd (hr.wf w') hy
    · simp [Label.fires, System.put, hw, Ne.symm hw]

end Wrk2
