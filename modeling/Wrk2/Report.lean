import Wrk2.Main
import Wrk2.Worker.Theorems
import Mathlib.Algebra.Order.BigOperators.Group.List

/-!
# `main` の集計

`main` がワーカーを `pthread_join` で待ったあとの二つ目の繰り返し（wrk.c 263-278）。ワーカーの
`complete`、`bytes`、七つの誤りの数を足し、二つのヒストグラムを `hdr_add` で合わせる。ヒストグラムは
記録した値の列で持ち、`hdr_add` はその連結である。

到達できるどの状態で集計しても、確立の数の合計は `connections` と再接続の数の合計の和を越えない
（`total_established_le`）。その前の `runtime_us` の引き算
（wrk.c 257-261）は折り返さない（`runtime_never_wraps`）。
-/

namespace Wrk2

/-- `main` が足し合わせる値。 -/
structure Totals where
  complete : Nat
  bytes : Nat
  errors : Errors
  latencyHistogram : List Int
  uLatencyHistogram : List Int

/-- 繰り返しの前の値（`complete = 0`、`bytes = 0`、`errors = { 0 }`、`hdr_init` した空のヒストグラム）。 -/
def Totals.zero : Totals := ⟨0, 0, ⟨0, 0, 0, 0, 0, 0, 0⟩, [], []⟩

/-- `errors` の欄ごとの和。 -/
def Errors.add (e f : Errors) : Errors :=
  ⟨e.connect + f.connect, e.read + f.read, e.write + f.write, e.timeout + f.timeout, e.status + f.status,
    e.established + f.established, e.reconnect + f.reconnect⟩

/-- 繰り返しの一回。ワーカー `t` の数を足し、`hdr_add` でヒストグラムを合わせる。 -/
def addThread (tot : Totals) (t : Thread) : Totals :=
  ⟨tot.complete + t.complete, tot.bytes + t.bytes, tot.errors.add t.errors,
    tot.latencyHistogram ++ t.latencyHistogram, tot.uLatencyHistogram ++ t.uLatencyHistogram⟩

/-- `main` の二つ目の繰り返し。ワーカーを番号の順に足す。 -/
def totals (cfg : Config) (s : System) : Totals :=
  ((List.range cfg.threads).map s.threads).foldl addThread .zero

/-! ## 数の部分 -/

/-- 足し合わせのうち数の部分。 -/
def Totals.counts (T : Totals) : Nat × Nat × Errors := (T.complete, T.bytes, T.errors)

/-- 数の部分だけを足す繰り返しの一回。 -/
def addCounts (c : Nat × Nat × Errors) (t : Thread) : Nat × Nat × Errors :=
  (c.1 + t.complete, c.2.1 + t.bytes, c.2.2.add t.errors)

theorem counts_foldl_addThread (ts : List Thread) (T : Totals) :
    (ts.foldl addThread T).counts = ts.foldl addCounts T.counts :=
  (List.foldl_hom Totals.counts addThread addCounts ts T fun _ _ => rfl).symm

/-! ## 確立の数の合計 -/

theorem established_foldl_addCounts (ts : List Thread) (c : Nat × Nat × Errors) :
    (ts.foldl addCounts c).2.2.established = c.2.2.established + (ts.map (·.errors.established)).sum ∧
      (ts.foldl addCounts c).2.2.reconnect = c.2.2.reconnect + (ts.map (·.errors.reconnect)).sum := by
  induction ts generalizing c with
  | nil => simp
  | cons t ts ih => simp [ih, addCounts, Errors.add, Nat.add_assoc]

/-- 到達できる状態のワーカーごとの確立の数の上界（ワーカーごとの `connections` と再接続の数の和）。 -/
theorem Reachable.established_le {cfg : Config} {s : System} (hr : Reachable cfg s) (w : Nat) :
    (s.threads w).errors.established ≤ cfg.perThread + (s.threads w).errors.reconnect := by
  have := hr.established_add_unconnected_le w; omega

/-- 到達できるどの状態で集計しても、`main` が出す確立の数（`Established connections`）は、`connections` と
再接続の数（`reconnect`）の合計の和を越えない。ワーカーごとの上界を足し、`threads · (connections / threads)`
が `connections` を越えないことによる。 -/
theorem total_established_le {cfg : Config} {s : System} (hr : Reachable cfg s) :
    (totals cfg s).errors.established ≤ cfg.connections + (totals cfg s).errors.reconnect := by
  have he := established_foldl_addCounts ((List.range cfg.threads).map s.threads) Totals.zero.counts
  rw [← counts_foldl_addThread] at he
  simp only [Totals.counts, totals] at he ⊢
  rw [he.1, he.2]
  simp only [Totals.zero, Nat.zero_add, List.map_map]
  calc ((List.range cfg.threads).map ((·.errors.established) ∘ s.threads)).sum
      ≤ ((List.range cfg.threads).map fun w => cfg.perThread + (s.threads w).errors.reconnect).sum :=
        List.sum_le_sum fun w _ => hr.established_le w
    _ = cfg.threads * cfg.perThread + ((List.range cfg.threads).map ((·.errors.reconnect) ∘ s.threads)).sum := by
        rw [List.sum_map_add]; simp [Function.comp_def]
    _ ≤ cfg.connections + ((List.range cfg.threads).map ((·.errors.reconnect) ∘ s.threads)).sum :=
        Nat.add_le_add_right (Nat.mul_div_le _ _) _

theorem total_established_le_earlyBarrier :
    ∃ s, run barrierConn (System.init barrierConn 0) earlyBarrierRun = some s ∧
      (totals barrierConn s).errors.established ≤
        barrierConn.connections + (totals barrierConn s).errors.reconnect := by
  have h : run barrierConn (System.init barrierConn 0) earlyBarrierRun = some _ := rfl
  exact ⟨_, h, total_established_le (Reachable.run barrierConn (.init 0) h)⟩

/-! ## 測った時間 -/

/-- `runtime_us = time_us() - start`（`uint64_t` の引き算）。`now` は `phase_normal_start_min` を求めたあとの
`time_us()`。 -/
def runtimeUs (cfg : Config) (start now : Nat) (s : System) : Nat := subU64 now (runtimeStart cfg start s)

/-- 値がどれも `b` を越えなければ、`phase_normal_start_min` も越えない。 -/
theorem phaseNormalStartMin_le {l : List Nat} {b : Nat} (h : ∀ v ∈ l, v ≤ b) : phaseNormalStartMin l ≤ b := by
  rw [phaseNormalStartMin_eq]
  cases e : (l.filter (· ≠ 0)).min? with
  | none => exact Nat.zero_le _
  | some a => exact h a (List.mem_filter.mp (List.min?_mem min_choice e)).1

/-- 到達できる状態で集計するとき、`start` と時計が `now` を越えなければ、`runtime_us` を測る起点も `now` を
越えない。`phase_normal_start_min` はどれかのワーカーの `phase_normal_start` で、それは時計を越えない。 -/
theorem runtimeStart_le {cfg : Config} {s : System} (hr : Reachable cfg s) {start now : Nat} (hstart : start ≤ now)
    (hnow : s.now ≤ now) : runtimeStart cfg start s ≤ now := by
  unfold runtimeStart; dsimp only; split_ifs
  · refine phaseNormalStartMin_le fun v hv => ?_
    obtain ⟨w, -, rfl⟩ := List.mem_map.mp hv
    exact (hr.phaseNormalStart_le w).trans hnow
  · exact hstart

/-- 到達できるどの状態で集計しても、`runtime_us = time_us() - start` は折り返さない。`main` の `start` は
スレッドを作る前に取った時刻で、集計の `time_us()`（`now`）はどのワーカーの時計よりもあとである。
`start` を `phase_normal_start_min` に置き換えても、それはどれかのワーカーが `NORMAL` に入った時刻なので
`now` を越えない。 -/
theorem runtime_never_wraps {cfg : Config} {s : System} (hr : Reachable cfg s) {start now : Nat}
    (hstart : start ≤ now) (hnow : s.now ≤ now) :
    runtimeStart cfg start s ≤ now ∧ runtimeUs cfg start now s = now - runtimeStart cfg start s :=
  have h := runtimeStart_le hr hstart hnow
  ⟨h, subU64_of_le h⟩

theorem runtime_never_wraps_earlyBarrier :
    ∃ s, run barrierConn (System.init barrierConn 0) earlyBarrierRun = some s ∧
      runtimeStart barrierConn 0 s = 1000000 ∧ runtimeStart barrierConn 0 s ≤ s.now ∧
      runtimeUs barrierConn 0 s.now s = s.now - runtimeStart barrierConn 0 s := by
  have h : run barrierConn (System.init barrierConn 0) earlyBarrierRun = some _ := rfl
  exact ⟨_, h, by decide, runtime_never_wraps (Reachable.run barrierConn (.init 0) h) (Nat.zero_le _) le_rfl⟩

end Wrk2
