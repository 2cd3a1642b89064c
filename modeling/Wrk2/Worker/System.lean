import Wrk2.Worker.Callbacks

/-!
# プロセス全体の遷移

`main` が作った `threads` 個のワーカー、プロセスの記述子表、共有の変数、時計からなる状態と、その遷移。
一歩は、あるワーカーがある時刻にコールバックを一つ実行すること、または `SIGINT` である。
時計は戻らない。どのワーカーのどの登録済みのイベントが次に起こるかは環境が選ぶので、`Reachable` は
あらゆるインターリーブと、トランスポートのあらゆる結果を含む。時間イベントは期限が来てから起こる。
`aeStop` でループを止めたワーカーは `aeMain` を抜けてループを消す（wrk.c 405-407）ので、そのワーカーの
出来事はもう起こらない。
-/

namespace Wrk2

/-- プロセスの状態。 -/
structure System where
  threads : Nat → Thread
  os : Os
  g : Shared
  now : Nat

/-- `main` がスレッドを作った直後の状態。`stop_at` は時刻 `t0` から `duration` 秒後。 -/
def System.init (cfg : Config) (t0 : Nat) : System :=
  ⟨fun _ => Thread.create (t0 + cfg.duration * 1000000), Os.init, ⟨0, false, false, []⟩, t0⟩

/-- コールバックの中で環境が決めること。コールバックが使わない欄は読まれない。 -/
structure Io where
  dials : List SocketOutcome
  connect : ConnectStatus
  write : WriteResult
  chunks : List Chunk
  request : Bytes
  deriving DecidableEq, Repr

/-- ワーカーの中の出来事。 -/
inductive Event
  | threadMain
  | time (id : Nat)
  | file (fd : Nat) (dir : Dir)
  deriving DecidableEq, Repr

/-- 遷移のラベル。 -/
inductive Label
  | sigint
  | run (w t : Nat) (ev : Event) (io : Io)

variable (cfg : Config)

/-- 時間イベントのコールバックを呼ぶ。 -/
def timeProc (x : Ctx) : TimeProc → Ctx × Option Nat
  | .delayedInitialConnect i => delayedInitialConnect i x
  | .delayRequest i => delayRequest cfg i x
  | .checkStop => checkStop cfg x
  | .warmupTimedOut => warmupTimedOut cfg x
  | .interThreadSync => interThreadSync cfg x
  | .calibrate => calibrate x
  | .sampleRate => sampleRate x

/-- ファイルイベントのコールバックを呼ぶ。 -/
def fileProc (fd i : Nat) (io : Io) (x : Ctx) : FileProc → Ctx
  | .socketConnected => socketConnected cfg fd i io.connect x
  | .socketReadable => socketReadable cfg i io.chunks x
  | .socketWriteable => socketWriteable cfg fd i io.request io.write x

/-- ワーカーの中の出来事一つ。起こりえない出来事なら `none`。 -/
def dispatch (io : Io) (x : Ctx) : Event → Option Ctx
  | .threadMain => if x.th.phase = .init then some (threadMain cfg x) else none
  | .time id =>
    match x.th.loop.timeEvents id with
    | some te =>
      if te.when ≤ x.now then
        let (y, r) := timeProc cfg x te.timeProc
        some (y.modifyLoop (·.rearm id y.now te.timeProc r))
      else none
    | none => none
  | .file fd d =>
    match (x.th.loop.events fd).proc d with
    | some p => some (fileProc cfg fd (x.th.loop.events fd).clientData io x p)
    | none => none

/-- ワーカー `w` の、時刻 `t` の視点。 -/
def System.ctx (s : System) (w t : Nat) (dials : List SocketOutcome) : Ctx :=
  ⟨s.threads w, s.os, s.g, t, dials⟩

/-- ワーカー `w` のコールバックの結果を戻す。 -/
def System.put (s : System) (w : Nat) (x : Ctx) : System :=
  ⟨setAt s.threads w x.th, x.os, x.g, x.now⟩

/-- 一歩。ワーカーの出来事は、そのループがまだ止まっていないときにだけ起こる。 -/
def step (s : System) : Label → Option System
  | .sigint => some { s with g := { s.g with stop := true } }
  | .run w t ev io =>
    if w < cfg.threads ∧ s.now ≤ t ∧ (s.threads w).loop.stop = false then
      (dispatch cfg io (s.ctx w t io.dials) ev).map (s.put w)
    else none

/-- ラベルの列を順に実行する。 -/
def run (s : System) : List Label → Option System
  | [] => some s
  | l :: ls => (step cfg s l).bind fun s' => run s' ls

/-- 到達できる状態。 -/
inductive Reachable : System → Prop
  | init (t0 : Nat) : Reachable (System.init cfg t0)
  | step {s s' : System} (l : Label) : Reachable s → step cfg s l = some s' → Reachable s'

theorem Reachable.run {s s' : System} (h : Reachable cfg s) :
    ∀ {ls : List Label}, run cfg s ls = some s' → Reachable cfg s'
  | [], e => by cases e; exact h
  | l :: ls, e => by
    simp only [Wrk2.run, Option.bind_eq_some] at e
    obtain ⟨s₁, h₁, e⟩ := e
    exact (h.step l h₁).run e

end Wrk2
