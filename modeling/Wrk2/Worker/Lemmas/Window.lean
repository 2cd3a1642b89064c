import Wrk2.Worker.Lemmas.Wf

/-!
# 測る窓

`response_complete` は、時計が `stop_at` を過ぎていれば、スレッドの `complete` と `requests` を数えた
あとで `aeStop` して終わり、接続の `complete` にも二つのヒストグラムにも触れない（wrk.c 694-781）。
遅れを記録するコールバックはほかにない。そこで、ワーカーの時計が `stop_at` を過ぎてからは、どの
コールバックもどの接続の `complete` も変えず、ヒストグラムに値を加えない（`calibrate` と
`thread_main` は空にする）。

`phase_normal_start` を書くのは `phase_move` だけで、そのときの時刻にする。だから到達できるどの状態でも、
`phase_normal_start` は時計を越えない（`Reachable.phaseNormalStart_le`）。

接続の `complete` を書く基本の書き換えは `ConnKind.complete` だけで、ヒストグラムを書くのは `Part.hist` を
書く範囲だけなので、それらを書かない書き換えは `Ctx.Acts` の枠から `Ctx.Window` を満たす
（`Ctx.Acts.window`）。`stop_at` の前の書き換えは何をしても窓に収まる（`Ctx.Acts.window_of_early`）。書くのは
`response_complete` と `calibrate` と `phase_move` だけで、それらを一つずつ示し、`dispatch` 一回
（`Thread.Wf.dispatch_window`）から実行全体へ持ち上げる。
-/

namespace Wrk2

/-- 保つか空にすることは重ねられる。 -/
theorem keep_or_nil_trans {α : Type} {a b c : List α} (h₁ : b = a ∨ b = []) (h₂ : c = b ∨ c = []) :
    c = a ∨ c = [] := by
  rcases h₂ with rfl | rfl
  exacts [h₁, .inr rfl]

theorem Thread.Unrecorded.refl (th : Thread) : th.Unrecorded th := ⟨fun _ => rfl, .inl rfl, .inl rfl⟩

theorem Thread.Unrecorded.trans {th₁ th₂ th₃ : Thread} (h₁ : th₁.Unrecorded th₂) (h₂ : th₂.Unrecorded th₃) :
    th₁.Unrecorded th₃ :=
  ⟨fun j => (h₂.complete j).trans (h₁.complete j), keep_or_nil_trans h₁.latency h₂.latency,
    keep_or_nil_trans h₁.uLatency h₂.uLatency⟩

/-- 応答を数えるほかの基本の書き換えは、接続の `complete` を変えない。 -/
theorem ConnStep.complete_eq {cfg : Config} {now : Nat} {k : ConnKind} {c c' : Connection}
    (h : ConnStep cfg now k c c') (hk : k ≠ .complete) : c'.complete = c.complete := by
  cases h
  case complete => exact absurd rfl hk
  case pacer => exact usecToNextSend_snd_of (fun c' => c'.complete = c.complete) fun _ _ _ => rfl
  all_goals rfl

namespace Ctx

/-- コールバック一つ `x → y` の、測る窓についての範囲。`stop_at` と時計を変えず、`phase_normal_start` は
保つか今の時刻にし、時計が `stop_at` を過ぎていれば何も記録しない。 -/
structure Window (x y : Ctx) : Prop where
  stopAt : y.th.stopAt = x.th.stopAt
  now : y.now = x.now
  pns : y.th.phaseNormalStart = x.th.phaseNormalStart ∨ y.th.phaseNormalStart = x.now
  late : x.th.stopAt ≤ x.now → x.th.Unrecorded y.th

variable {x y z : Ctx} {i j : Nat}

theorem Window.refl (x : Ctx) : Window x x := ⟨rfl, rfl, .inl rfl, fun _ => .refl _⟩

theorem Window.trans (h₁ : Window x y) (h₂ : Window y z) : Window x z where
  stopAt := h₂.stopAt.trans h₁.stopAt
  now := h₂.now.trans h₁.now
  pns := h₂.pns.elim (fun e => by rw [e]; exact h₁.pns) (fun e => .inr (e.trans h₁.now))
  late hs := (h₁.late hs).trans (h₂.late (by rw [h₁.stopAt, h₁.now]; exact hs))

/-- 時計が `stop_at` の前なら、`stop_at`、時計、`phase_normal_start` を変えない書き換えは窓に収まる。 -/
theorem Window.of_early (hs : x.now < x.th.stopAt) (h₁ : y.th.stopAt = x.th.stopAt) (h₂ : y.now = x.now)
    (h₃ : y.th.phaseNormalStart = x.th.phaseNormalStart) : Window x y :=
  ⟨h₁, h₂, .inl h₃, fun h => absurd h (Nat.not_le.mpr hs)⟩

theorem window_modifyConn (f : Connection → Connection) (hf : (f (x.conn i)).complete = (x.conn i).complete) :
    Window x (x.modifyConn i f) :=
  ⟨rfl, rfl, .inl rfl, fun _ => ⟨fun j => by
    show ((x.modifyConn i f).conn j).complete = _
    simp only [conn_modifyConn]; split_ifs with hj
    · subst hj; exact hf
    · rfl, .inl rfl, .inl rfl⟩⟩

theorem window_modifyLoop (f : Loop → Loop) : Window x (x.modifyLoop f) :=
  ⟨rfl, rfl, .inl rfl, fun _ => ⟨fun _ => rfl, .inl rfl, .inl rfl⟩⟩

theorem window_modifyThread (f : Thread → Thread) (hs : (f x.th).stopAt = x.th.stopAt)
    (hp : (f x.th).phaseNormalStart = x.th.phaseNormalStart) (hc : (f x.th).cs = x.th.cs)
    (hl : (f x.th).latencyHistogram = x.th.latencyHistogram)
    (hu : (f x.th).uLatencyHistogram = x.th.uLatencyHistogram) : Window x (x.modifyThread f) :=
  ⟨hs, rfl, .inl hp, fun _ => ⟨fun j => by rw [modifyThread_th, hc], .inl hl, .inl hu⟩⟩

variable {cfg : Config} {ω : Writes} {pc pd : Nat → Prop} {pf : FileProc → Prop} {pt : TimeProc → Prop}

/-- `stop_at` の前の書き換えは窓に収まる。 -/
theorem Acts.window_of_early (h : Acts cfg ω pc pf pd pt x y) (hs : x.now < x.th.stopAt) : Window x y :=
  .of_early hs h.stopAt h.now h.pns

/-- `complete` もヒストグラムも書かない書き換えは窓に収まる。 -/
theorem Acts.window (h : Acts cfg ω pc pf pd pt x y) (hk : .complete ∉ ω.kinds) (hh : .hist ∉ ω.parts) :
    Window x y :=
  have e := Prod.mk.inj_iff.mp (h.frame _ hh)
  ⟨h.stopAt, h.now, .inl h.pns, fun _ =>
    ⟨h.conn_keep_of_not_mem Connection.complete ConnStep.complete_eq hk, .inl e.1, .inl e.2⟩⟩

end Ctx

open Ctx

variable {cfg : Config} {x : Ctx} {i fd : Nat}

/-! ## 書くもの -/

/-- `response_complete` は、時計が `stop_at` を過ぎていれば応答を記録せずにループを止める。 -/
theorem window_responseComplete (st : Nat) (ka : Bool) : Window x (responseComplete cfg i st ka x) := by
  by_cases hs : x.now < x.th.stopAt
  · exact (acts_responseComplete (.refl _) trivial trivial trivial trivial st ka :
      Within cfg Writes.readable _ _).window_of_early hs
  have hd : Within cfg Writes.deliver x (deliverResponse i st (countResponse st x)) := acts_deliver (.refl _) trivial st
  unfold responseComplete; dsimp only; split_ifs with h
  · exact (hd.trans acts_aeStop).window (by decide) (by decide)
  all_goals rw [hd.now, hd.stopAt] at h; exact absurd (Nat.lt_of_not_le h) hs

theorem window_socketReadable (chs : List Chunk) : Window x (socketReadable cfg i chs x) := by
  refine socketReadable_rel Window Window.refl Window.trans (fun x ev => ?_)
    (fun _ => (acts_readError (.refl _) trivial trivial trivial : Within cfg Writes.reconnect _ _).window
      (by decide) (by decide)) (fun _ _ => window_modifyThread _ rfl rfl rfl rfl rfl) chs x
  cases ev <;> dsimp only [parserCallback]
  case messageComplete st ka => exact window_responseComplete st ka
  all_goals split_ifs
  all_goals first | exact .refl _ | exact window_modifyConn _ rfl

theorem window_phaseMove (p : Phase) : Window x (phaseMove cfg p x) := by
  unfold phaseMove; split_ifs
  · exact ⟨rfl, rfl, .inr rfl, fun _ => ⟨fun _ => rfl, .inl rfl, .inl rfl⟩⟩
  · exact ⟨rfl, rfl, .inl rfl, fun _ => ⟨fun _ => rfl, .inl rfl, .inl rfl⟩⟩

/-- `calibrate` はヒストグラムを空にする。 -/
theorem window_calibrate : Window x (calibrate x).1 := by
  unfold calibrate; dsimp only; split_ifs
  · exact .refl _
  · exact ⟨rfl, rfl, .inl rfl, fun _ => ⟨fun _ => rfl, .inr rfl, .inr rfl⟩⟩

/-- 形の不変条件の下で、ワーカーの `dispatch` 一回は窓に収まる。`thread_main` の前の接続はどれも初めの値で、
`complete` は 0 である。 -/
theorem Thread.Wf.dispatch_window {io : Io} {y : Ctx} {ev : Event} (hw : x.th.Wf cfg)
    (h : dispatch cfg io x ev = some y) : Window x y := by
  rcases hw.dispatch_writes h with ⟨-, hp, rfl⟩ | ⟨id, te, r, -, -, -, -, rfl⟩ | ⟨id, ⟨when, p⟩, -, -, -, ha, rfl⟩ |
    ⟨fd, dir, p, -, -, rfl, ha⟩
  · have e : x.th = Thread.create x.th.stopAt := hw.fresh hp
    exact ⟨rfl, rfl, .inl rfl, fun _ => ⟨fun j => by rw [threadMain_cs, e]; rfl, .inr rfl, .inr rfl⟩⟩
  · exact (window_phaseMove _).trans (window_modifyLoop _)
  · refine .trans ?_ (window_modifyLoop _)
    cases p
    case calibrate => exact window_calibrate
    all_goals exact ha.window (of_decide_eq_true rfl) (of_decide_eq_true rfl)
  · cases p
    case socketReadable => exact window_socketReadable _
    all_goals exact ha.window (by decide) (by decide)

/-- 到達できるすべての状態のすべてのワーカーで、`phase_normal_start` は時計を越えない。 -/
theorem Reachable.phaseNormalStart_le {s : System} (hr : Reachable cfg s) (w : Nat) :
    (s.threads w).phaseNormalStart ≤ s.now :=
  hr.thread_inv_wf (fun th n => th.phaseNormalStart ≤ n) (fun _ _ => Nat.zero_le _)
    (fun _ _ _ h hn => Nat.le_trans h hn)
    (fun _ _ _ _ hw hd h => (hw.dispatch_window hd).pns.elim (fun e => e.trans_le h) (fun e => e.le)) w

/-- 到達できる状態からの一歩で、時計は戻らず、ワーカー `w` の `stop_at` は変わらない。時計がすでに
`stop_at` を過ぎていれば、ワーカーは何も記録しない。 -/
theorem Reachable.step_window {s s' : System} (hr : Reachable cfg s) {l : Label} (h : Wrk2.step cfg s l = some s')
    (w : Nat) : s.now ≤ s'.now ∧ (s'.threads w).stopAt = (s.threads w).stopAt ∧
      ((s.threads w).stopAt ≤ s.now → (s.threads w).Unrecorded (s'.threads w)) := by
  rcases step_eq_some cfg h with rfl | ⟨w', t, ev, io, y, -, ht, hy, hn, rfl⟩
  · exact ⟨le_rfl, rfl, fun _ => .refl _⟩
  refine ⟨ht.trans_eq hn.symm, ?_⟩
  by_cases hw : w = w'
  · subst hw
    have W := (hr.wf w).dispatch_window hy
    simp only [System.put, setAt_apply, if_true]
    exact ⟨W.stopAt, fun hs => W.late (hs.trans ht)⟩
  · simp only [System.put, setAt_apply, hw, if_false, true_and]
    exact fun _ => .refl _

end Wrk2
