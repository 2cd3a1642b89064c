import Wrk2.Worker.Lemmas.Loop
import Mathlib.Logic.Relation

/-!
# コールバックの書き込みの範囲

`Ctx.Acts cfg ω pc pf pd pt x y` は、`x` から `y` への書き換えの範囲を言う。変わるのは `pc` を満たす接続だけで、
どの接続も種類が `ω.kinds` にある `ConnStep` の基本の書き換えを重ねたものだけを受ける。ループには
`Loop.Adds pf pd pt` の範囲のものだけが加わり、すでにある時間イベントは残る（`Loop.Keeps`）。時計、段階、
`stop_at`、`phase_normal_start` は変わらず、`ω.parts` にない欄の組も変わらない。ヒストグラムには、そうして
得た接続のその時刻の遅れだけが記録される。

各コールバックについて、書きうるもの `ω` をこの関係で一度だけ示す（`Frame.lean`）。不変条件は、その欄を
書かないコールバックについてはこの範囲から導き、書くコールバックについてだけ中身を見る。
-/

namespace Wrk2

/-- 接続一つへの基本の書き換えの種類。 -/
inductive ConnKind
  | fd
  | mask
  | disconnect
  | establish
  | anchor
  | parse
  | pacer
  | countDown
  | complete
  | begin
  | send
  | finish
  deriving DecidableEq, Repr

/-- 接続一つへの基本の書き換え。コールバックが接続を変えるのはこれらを重ねたものだけである。
バッチの始まり `begin` は、ペーサーが送ってよいと言ったあとに、要求の途中でないときにだけ起こる。最初の接続の
`anchor` は、`thread_main` が作ったままの接続にだけ起こる。ペーサー `pacer` はその時刻の `usec_to_next_send`
の結果を書き、`sock.write` が進めるのは要求の残りの長さまでである。 -/
inductive ConnStep (cfg : Config) (now : Nat) : ConnKind → Connection → Connection → Prop
  | fd (v : Connection → Nat) (c : Connection) : ConnStep cfg now .fd c { c with fd := v c }
  | mask (m : Connection → Mask) (c : Connection) : ConnStep cfg now .mask c { c with connectMask := m c }
  | disconnect (c : Connection) : ConnStep cfg now .disconnect c { c with isConnected := false }
  | establish (c : Connection) : ConnStep cfg now .establish c { c with written := 0, isConnected := true }
  | anchor (c : Connection) (h : c = Connection.init c.request) :
      ConnStep cfg now .anchor c { c with threadStart := now }
  | parse (h bd : Connection → Buffer) (st : Connection → HeaderState) (c : Connection) :
      ConnStep cfg now .parse c { c with headers := h c, body := bd c, state := st c }
  | pacer (c : Connection) : ConnStep cfg now .pacer c (usecToNextSend cfg.throughput c now).2
  | countDown (c : Connection) :
      ConnStep cfg now .countDown c { c with
        pending := subU64 c.pending 1
        hasPending := if subU64 c.pending 1 = 0 then false else c.hasPending }
  | complete (c : Connection) : ConnStep cfg now .complete c { c with complete := c.complete + 1 }
  | begin (c : Connection) (hs : c.threadStart + cfg.throughput.usec c.complete ≤ now)
      (hw : c.written = 0) (request : Bytes) :
      ConnStep cfg now .begin c { c with
        request := if cfg.dynamic then request else c.request
        start := now
        actualLatencyStart := if c.hasPending then c.actualLatencyStart else now
        completeAtLastBatchStart := if c.hasPending then c.completeAtLastBatchStart else c.complete
        hasPending := true
        pending := cfg.pipeline }
  | send (n : Nat) (c : Connection) (hn : n ≤ subU64 c.request.length c.written) :
      ConnStep cfg now .send c { c with written := c.written + n }
  | finish (c : Connection) : ConnStep cfg now .finish c { c with written := 0 }

/-- 種類が `ks` にある基本の書き換え。 -/
def ConnStep.In (cfg : Config) (now : Nat) (ks : List ConnKind) (c c' : Connection) : Prop :=
  ∃ k ∈ ks, ConnStep cfg now k c c'

/-- 記述子を書くほかの基本の書き換えは、接続の `c->fd` を変えない。 -/
theorem ConnStep.fd_eq {cfg : Config} {now : Nat} {k : ConnKind} {c c' : Connection} (h : ConnStep cfg now k c c')
    (hk : k ≠ .fd) : c'.fd = c.fd := by
  cases h
  case fd => exact absurd rfl hk
  case pacer => exact usecToNextSend_snd_of (fun c' => c'.fd = c.fd) fun _ _ _ => rfl
  all_goals rfl

/-- 種類が `ks` の基本の書き換えで保たれる性質は、その列の後にも成り立つ。 -/
theorem ConnStep.rtg_of_mem {cfg : Config} {now : Nat} {ks : List ConnKind} {c c' : Connection} (P : Connection → Prop)
    (hs : ∀ {k c c'}, k ∈ ks → ConnStep cfg now k c c' → P c → P c')
    (h : Relation.ReflTransGen (ConnStep.In cfg now ks) c c') (hc : P c) : P c' := by
  induction h with
  | refl => exact hc
  | tail _ h ih => obtain ⟨k, hk, h⟩ := h; exact hs hk h ih

/-- 接続とループのほかにコールバックが書く欄の組。不変条件が読む組だけを分ける。 -/
inductive Part
  | clock
  | counts
  | hist
  | delivered
  | established
  | reconnect
  | fds
  | ready
  deriving DecidableEq, Repr

/-- `x` と `y` で組 `p` の欄が等しい。`clock` は `start` と `interval`、`counts` は `complete`、`requests`、
`bytes`、`hist` は二つのヒストグラム、`fds` はプロセスの開いた記述子、`ready` は `g_ready_threads` と
`g_is_ready`。 -/
def Part.Same (x y : Ctx) : Part → Prop
  | .clock => (y.th.start, y.th.interval) = (x.th.start, x.th.interval)
  | .counts => (y.th.complete, y.th.requests, y.th.bytes) = (x.th.complete, x.th.requests, x.th.bytes)
  | .hist => (y.th.latencyHistogram, y.th.uLatencyHistogram) = (x.th.latencyHistogram, x.th.uLatencyHistogram)
  | .delivered => y.th.delivered = x.th.delivered
  | .established => y.th.errors.established = x.th.errors.established
  | .reconnect => y.th.errors.reconnect = x.th.errors.reconnect
  | .fds => y.os.openFds = x.os.openFds
  | .ready => (y.g.readyThreads, y.g.isReady) = (x.g.readyThreads, x.g.isReady)

theorem Part.Same.trans {x y z : Ctx} {p : Part} (h₁ : p.Same x y) (h₂ : p.Same y z) : p.Same x z := by
  cases p <;> exact Eq.trans h₂ h₁

/-- 書きうるもの: 接続への基本の書き換えの種類と、欄の組。 -/
structure Writes where
  kinds : List ConnKind
  parts : List Part
  deriving DecidableEq, Repr

namespace Writes

/-- `a` の書くものは、みな `b` も書きうる。 -/
structure Le (a b : Writes) : Prop where
  kinds : a.kinds ⊆ b.kinds
  parts : a.parts ⊆ b.parts

instance (a b : Writes) : Decidable (a.Le b) :=
  decidable_of_iff (a.kinds ⊆ b.kinds ∧ a.parts ⊆ b.parts) ⟨fun h => ⟨h.1, h.2⟩, fun h => ⟨h.1, h.2⟩⟩

variable {a b c : Writes}

theorem Le.refl (a : Writes) : a.Le a := ⟨List.Subset.refl _, List.Subset.refl _⟩

/-- `b` の範囲に収まる `c` の下の範囲も、`c` に収まる。 -/
theorem Le.sub (h : b.Le c) (h' : a.Le b) : a.Le c := ⟨h'.kinds.trans h.kinds, h'.parts.trans h.parts⟩

theorem Le.kind (h : a.Le b) {k : ConnKind} (hk : k ∈ a.kinds) : k ∈ b.kinds := h.kinds hk

theorem Le.part (h : a.Le b) {p : Part} (hp : p ∈ a.parts) : p ∈ b.parts := h.parts hp

/-- 何でも書きうる範囲。 -/
def all : Writes :=
  ⟨[.fd, .mask, .disconnect, .establish, .anchor, .parse, .pacer, .countDown, .complete, .begin, .send, .finish],
    [.clock, .counts, .hist, .delivered, .established, .reconnect, .fds, .ready]⟩

theorem le_all (a : Writes) : a.Le all :=
  ⟨fun k _ => by cases k <;> decide, fun p _ => by cases p <;> decide⟩

end Writes

/-- ワーカーの値 `th` から `th'` までに何も記録されていないこと。どの接続の `complete` も同じで、二つの
ヒストグラムは保たれるか空になっている。 -/
structure Thread.Unrecorded (th th' : Thread) : Prop where
  complete : ∀ j, (th'.cs j).complete = (th.cs j).complete
  latency : th'.latencyHistogram = th.latencyHistogram ∨ th'.latencyHistogram = []
  uLatency : th'.uLatencyHistogram = th.uLatencyHistogram ∨ th'.uLatencyHistogram = []

namespace Ctx

/-- `x` から `y` への書き換えの範囲。 -/
structure Acts (cfg : Config) (ω : Writes) (pc : Nat → Prop) (pf : FileProc → Prop) (pd : Nat → Prop)
    (pt : TimeProc → Prop) (x y : Ctx) : Prop where
  conn : ∀ j, ¬ pc j → y.conn j = x.conn j
  step : ∀ j, Relation.ReflTransGen (ConnStep.In cfg x.now ω.kinds) (x.conn j) (y.conn j)
  loop : Loop.Adds pf pd pt x.th.loop y.th.loop
  timers : Loop.Keeps x.th.loop y.th.loop
  now : y.now = x.now
  phase : y.th.phase = x.th.phase
  stopAt : y.th.stopAt = x.th.stopAt
  pns : y.th.phaseNormalStart = x.th.phaseNormalStart
  frame : ∀ p, p ∉ ω.parts → p.Same x y
  hist : ∀ v ∈ y.th.latencyHistogram, v ∈ x.th.latencyHistogram ∨
    ∃ j c, Relation.ReflTransGen (ConnStep.In cfg x.now ω.kinds) (x.conn j) c ∧ v = expectedLatencyTiming cfg c x.now
  uhist : ∀ v ∈ y.th.uLatencyHistogram, v ∈ x.th.uLatencyHistogram ∨
    ∃ j c, Relation.ReflTransGen (ConnStep.In cfg x.now ω.kinds) (x.conn j) c ∧ v = x.now - c.actualLatencyStart

/-- 接続も購読も時間イベントも問わない、`ω` の範囲の書き換え。 -/
abbrev Within (cfg : Config) (ω : Writes) (x y : Ctx) : Prop :=
  Acts cfg ω (fun _ => True) (fun _ => True) (fun _ => True) (fun _ => True) x y

/-- 購読を加えない、`ω` の範囲の書き換え。加えうる時間イベントは `pt` を満たす。 -/
abbrev Quiet (cfg : Config) (ω : Writes) (pt : TimeProc → Prop) (x y : Ctx) : Prop :=
  Acts cfg ω (fun _ => True) (fun _ => False) (fun _ => False) pt x y

variable {cfg : Config} {ω ω' : Writes} {pc pc' : Nat → Prop} {pf pf' : FileProc → Prop} {pd pd' : Nat → Prop}
  {pt pt' : TimeProc → Prop} {x y z : Ctx}

theorem Acts.refl (x : Ctx) : Acts cfg ω pc pf pd pt x x :=
  ⟨fun _ _ => rfl, fun _ => .refl, .refl _, .refl _, rfl, rfl, rfl, rfl, fun p _ => by cases p <;> rfl,
    fun _ h => .inl h, fun _ h => .inl h⟩

/-- 前の書き換えで得た接続は、後の書き換えの起点からも得られる。 -/
theorem Acts.trans_rec {α : Type} {hx hy hz : List α} (h₁ : Acts cfg ω pc pf pd pt x y)
    (r : Nat → Connection → α)
    (e₁ : ∀ v ∈ hy, v ∈ hx ∨
      ∃ j c, Relation.ReflTransGen (ConnStep.In cfg x.now ω.kinds) (x.conn j) c ∧ v = r x.now c)
    (e₂ : ∀ v ∈ hz, v ∈ hy ∨
      ∃ j c, Relation.ReflTransGen (ConnStep.In cfg y.now ω.kinds) (y.conn j) c ∧ v = r y.now c) :
    ∀ v ∈ hz, v ∈ hx ∨
      ∃ j c, Relation.ReflTransGen (ConnStep.In cfg x.now ω.kinds) (x.conn j) c ∧ v = r x.now c := by
  intro v hv
  rcases e₂ v hv with h | ⟨j, c, hc, e⟩
  · exact e₁ v h
  · rw [h₁.now] at hc e; exact .inr ⟨j, c, (h₁.step j).trans hc, e⟩

theorem Acts.trans (h₁ : Acts cfg ω pc pf pd pt x y) (h₂ : Acts cfg ω pc pf pd pt y z) :
    Acts cfg ω pc pf pd pt x z :=
  ⟨fun j hj => (h₂.conn j hj).trans (h₁.conn j hj), fun j => (h₁.step j).trans (h₁.now ▸ h₂.step j),
    h₁.loop.trans h₂.loop, h₁.timers.trans h₂.timers, h₂.now.trans h₁.now, h₂.phase.trans h₁.phase,
    h₂.stopAt.trans h₁.stopAt, h₂.pns.trans h₁.pns, fun p hp => (h₁.frame p hp).trans (h₂.frame p hp),
    h₁.trans_rec (fun n c => expectedLatencyTiming cfg c n) h₁.hist h₂.hist,
    h₁.trans_rec (fun n c => (n : Int) - c.actualLatencyStart) h₁.uhist h₂.uhist⟩

theorem ConnStep.In.mono {now : Nat} {ks ks' : List ConnKind} (h : ks ⊆ ks') :
    ∀ {c c'}, Relation.ReflTransGen (ConnStep.In cfg now ks) c c' →
      Relation.ReflTransGen (ConnStep.In cfg now ks') c c' :=
  Relation.ReflTransGen.mono fun _ _ ⟨k, hk, hs⟩ => ⟨k, h hk, hs⟩

theorem Acts.mono (h : Acts cfg ω pc pf pd pt x y) (hω : ω.Le ω') (hc : ∀ j, pc j → pc' j)
    (hf : ∀ p, pf p → pf' p) (hd : ∀ d, pd d → pd' d) (ht : ∀ p, pt p → pt' p) :
    Acts cfg ω' pc' pf' pd' pt' x y :=
  ⟨fun j hj => h.conn j (hj ∘ hc j), fun j => ConnStep.In.mono hω.kinds (h.step j), h.loop.mono hf hd ht, h.timers,
    h.now, h.phase, h.stopAt, h.pns, fun p hp => h.frame p (hp ∘ hω.part),
    fun v hv => (h.hist v hv).imp_right fun ⟨j, c, hj, e⟩ => ⟨j, c, ConnStep.In.mono hω.kinds hj, e⟩,
    fun v hv => (h.uhist v hv).imp_right fun ⟨j, c, hj, e⟩ => ⟨j, c, ConnStep.In.mono hω.kinds hj, e⟩⟩

/-- 接続もループもヒストグラムも変えず、`ω.parts` にない組も変えない書き換え。 -/
theorem Acts.of_eq (hc : y.th.cs = x.th.cs) (hl : y.th.loop = x.th.loop) (hn : y.now = x.now)
    (hp : y.th.phase = x.th.phase) (hs : y.th.stopAt = x.th.stopAt)
    (hpns : y.th.phaseNormalStart = x.th.phaseNormalStart) (hh : y.th.latencyHistogram = x.th.latencyHistogram)
    (hu : y.th.uLatencyHistogram = x.th.uLatencyHistogram) (hf : ∀ p, p ∉ ω.parts → p.Same x y) :
    Acts cfg ω pc pf pd pt x y :=
  ⟨fun j _ => show y.th.cs j = x.th.cs j by rw [hc], fun j => show Relation.ReflTransGen _ _ (y.th.cs j)
    by rw [hc]; exact .refl, hl ▸ .refl _, hl ▸ .refl _, hn, hp, hs, hpns, hf, fun _ h => .inl (hh ▸ h),
    fun _ h => .inl (hu ▸ h)⟩

/-- 書き換えの後に、起点から得られる接続の遅れを二つのヒストグラムに記録する。 -/
theorem Acts.record {i j : Nat} {c : Connection} (h : Acts cfg ω pc pf pd pt x y) (hω : .hist ∈ ω.parts)
    (hc : Relation.ReflTransGen (ConnStep.In cfg x.now ω.kinds) (x.conn j) c) (timing uTiming : Int)
    (ht : timing = expectedLatencyTiming cfg c x.now) (hu : uTiming = x.now - c.actualLatencyStart) :
    Acts cfg ω pc pf pd pt x (recordLatency cfg i timing uTiming y) := by
  unfold recordLatency; split_ifs
  · refine ⟨h.conn, h.step, h.loop, h.timers, h.now, h.phase, h.stopAt, h.pns, fun p hp => ?_,
      fun v hv => ?_, fun v hv => ?_⟩
    · have hp' : p ≠ .hist := fun e => hp (e ▸ hω)
      exact (h.frame p hp).trans (by cases p <;> first | rfl | exact absurd rfl hp')
    · rcases List.mem_cons.mp hv with rfl | hv
      · exact .inr ⟨j, c, hc, ht⟩
      · exact h.hist v hv
    · rcases List.mem_cons.mp hv with rfl | hv
      · exact .inr ⟨j, c, hc, hu⟩
      · exact h.uhist v hv
  · exact h

/-- 種類が `ω.kinds` のどの基本の書き換えでも変わらない接続の値は、範囲の中の書き換えで変わらない。 -/
theorem Acts.conn_keep {α : Type} (h : Acts cfg ω pc pf pd pt x y) (f : Connection → α)
    (hf : ∀ {k c c'}, k ∈ ω.kinds → ConnStep cfg x.now k c c' → f c' = f c) (j : Nat) :
    f (y.conn j) = f (x.conn j) :=
  ConnStep.rtg_of_mem (fun c => f c = f (x.conn j)) (fun hk hs e => (hf hk hs).trans e) (h.step j) rfl

/-- 種類 `k₀` のほかのどの基本の書き換えでも変わらない接続の値は、`k₀` を含まない範囲の書き換えで
変わらない。 -/
theorem Acts.conn_keep_of_not_mem {α : Type} (h : Acts cfg ω pc pf pd pt x y) (f : Connection → α)
    {k₀ : ConnKind} (hf : ∀ {k c c'}, ConnStep cfg x.now k c c' → k ≠ k₀ → f c' = f c) (hk : k₀ ∉ ω.kinds)
    (j : Nat) : f (y.conn j) = f (x.conn j) :=
  h.conn_keep f (fun hk' hs => hf hs fun e => hk (e ▸ hk')) j

/-- コールバックのあとに期限の来た時間イベントを ae が置き直しても、ループに加わるものの範囲は変わらない。 -/
theorem Acts.loop_rearm (h : Acts cfg ω pc pf pd pt x y) {id n : Nat} {te : TimeEvent}
    (he : x.th.loop.timeEvents id = some te) (hn : te.when ≤ n) (r : Option Nat) :
    Loop.Adds pf pd pt x.th.loop (y.modifyLoop (·.rearm id n te.timeProc r)).th.loop :=
  h.loop.rearm he hn r

/-! ## 基本の操作 -/

/-- 接続 `i` への、その値についての基本の書き換え。 -/
theorem acts_modifyConn' (i : Nat) (f : Connection → Connection) (hi : pc i) {k : ConnKind} (hk : k ∈ ω.kinds)
    (hu : ConnStep cfg x.now k (x.conn i) (f (x.conn i))) : Acts cfg ω pc pf pd pt x (x.modifyConn i f) := by
  refine ⟨fun j hj => by simp [show j ≠ i from fun e => hj (e ▸ hi)], fun j => ?_, .refl _, .refl _, rfl, rfl,
    rfl, rfl, fun p _ => by cases p <;> rfl, fun _ h => .inl h, fun _ h => .inl h⟩
  by_cases hj : j = i
  · subst hj; simpa using Relation.ReflTransGen.single ⟨k, hk, hu⟩
  · simp only [conn_modifyConn, if_neg hj]; exact .refl

theorem acts_modifyConn (i : Nat) (f : Connection → Connection) (hi : pc i) {k : ConnKind} (hk : k ∈ ω.kinds)
    (hu : ∀ c, ConnStep cfg x.now k c (f c)) : Acts cfg ω pc pf pd pt x (x.modifyConn i f) :=
  acts_modifyConn' i f hi hk (hu _)

theorem acts_modifyLoop (f : Loop → Loop) (h : Loop.Adds pf pd pt x.th.loop (f x.th.loop))
    (hk : Loop.Keeps x.th.loop (f x.th.loop)) : Acts cfg ω pc pf pd pt x (x.modifyLoop f) :=
  ⟨fun _ _ => rfl, fun _ => .refl, h, hk, rfl, rfl, rfl, rfl, fun p _ => by cases p <;> rfl, fun _ h => .inl h,
    fun _ h => .inl h⟩

theorem acts_createFileEvent (fd : Nat) (m : Mask) (p : FileProc) (d : Nat) (hp : pf p) (hd : pd d) :
    Acts cfg ω pc pf pd pt x (x.modifyLoop (·.createFileEvent fd m p d)) :=
  acts_modifyLoop _ ((Loop.adds_createFileEvent fd m p d).mono (fun _ e => e ▸ hp)
    (fun _ e => e ▸ hd) (fun _ h => h)) (.of_eq rfl rfl)

theorem acts_deleteFileEvent (fd : Nat) (m : Mask) :
    Acts cfg ω pc pf pd pt x (x.modifyLoop (·.deleteFileEvent fd m)) :=
  acts_modifyLoop _ (Loop.adds_deleteFileEvent fd m) (.of_eq rfl rfl)

theorem acts_createTimeEvent (now ms : Nat) (p : TimeProc) (hp : pt p) :
    Acts cfg ω pc pf pd pt x (x.modifyLoop (·.createTimeEvent now ms p)) :=
  acts_modifyLoop _ ((Loop.adds_createTimeEvent now ms p).mono (fun _ h => h) (fun _ h => h)
    (fun _ e => e ▸ hp)) (Loop.keeps_createTimeEvent _ _ _)

theorem acts_aeStop : Acts cfg ω pc pf pd pt x (x.modifyLoop Loop.aeStop) :=
  acts_modifyLoop _ Loop.adds_aeStop (.of_eq rfl rfl)

/-- 確立の数とつなぎ直しの数のほかの誤りを数える。 -/
theorem acts_modifyErrors (f : Errors → Errors) (he : (f x.th.errors).established = x.th.errors.established)
    (hr : (f x.th.errors).reconnect = x.th.errors.reconnect) : Acts cfg ω pc pf pd pt x (x.modifyErrors f) :=
  .of_eq rfl rfl rfl rfl rfl rfl rfl rfl fun p _ => by cases p <;> first | rfl | exact he | exact hr

/-- 確立の数を数える。 -/
theorem acts_countEstablished (hω : .established ∈ ω.parts) :
    Acts cfg ω pc pf pd pt x (x.modifyErrors fun e => { e with established := e.established + 1 }) :=
  .of_eq rfl rfl rfl rfl rfl rfl rfl rfl fun p hp => by cases p <;> first | rfl | exact absurd hω hp

/-- つなぎ直しを数える。 -/
theorem acts_countReconnect (hω : .reconnect ∈ ω.parts) :
    Acts cfg ω pc pf pd pt x (x.modifyErrors fun e => { e with reconnect := e.reconnect + 1 }) :=
  .of_eq rfl rfl rfl rfl rfl rfl rfl rfl fun p hp => by cases p <;> first | rfl | exact absurd hω hp

/-- 記述子表の、開いた記述子のほかの欄を書き換える。 -/
theorem acts_modifyOs (f : Os → Os) (h : (f x.os).openFds = x.os.openFds) : Acts cfg ω pc pf pd pt x (x.modifyOs f) :=
  .of_eq rfl rfl rfl rfl rfl rfl rfl rfl fun p _ => by cases p <;> first | rfl | exact h

/-- 記述子を開くか閉じる。 -/
theorem acts_openFds (f : Os → Os) (hω : .fds ∈ ω.parts) : Acts cfg ω pc pf pd pt x (x.modifyOs f) :=
  .of_eq rfl rfl rfl rfl rfl rfl rfl rfl fun p hp => by cases p <;> first | rfl | exact absurd hω hp

/-- `g_ready_threads` と `g_is_ready` を書き換える。 -/
theorem acts_modifyShared (f : Shared → Shared) (hω : .ready ∈ ω.parts) :
    Acts cfg ω pc pf pd pt x (x.modifyShared f) :=
  .of_eq rfl rfl rfl rfl rfl rfl rfl rfl fun p hp => by cases p <;> first | rfl | exact absurd hω hp

theorem acts_dropDial : Acts cfg ω pc pf pd pt x x.dropDial :=
  .of_eq rfl rfl rfl rfl rfl rfl rfl rfl fun p _ => by cases p <;> rfl

end Ctx

end Wrk2
