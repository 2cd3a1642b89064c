import Wrk2.Worker.Loop

/-!
# 接続とペーサー

`connection` 構造体のうち、モデルにした関数が読み書きする欄と、`usec_to_next_send` の計算。
`double` の目標速度は丸めのない有理数とし、予定時刻 `thread_start + k / throughput` は
商を切り捨てたマイクロ秒で持つ。丸めのない商を整数の `thread_start` に足してから切り捨てるのと同じ値だが、
C は `double` で足してから `uint64_t` に切り捨てるので、和が整数にごく近い入力では `double` の丸めで
C の値とこのモデルの値が 1 µs 違うことがある。
C の `uint64_t` の引き算は、桁あふれが起こりうるところだけ `subU64` で書く。
-/

namespace Wrk2

/-- 1 マイクロ秒あたりの要求数 `num / den`。`--rate` が 0 でないことは `parse_args` が確かめる。 -/
structure Rate where
  num : Nat
  den : Nat
  num_pos : 0 < num

/-- `k / throughput` を切り捨てたマイクロ秒数。 -/
def Rate.usec (ρ : Rate) (k : Nat) : Nat := k * ρ.den / ρ.num

/-- `throughput * 2`（`catch_up_throughput`）。 -/
def Rate.twice (ρ : Rate) : Rate := ⟨2 * ρ.num, ρ.den, Nat.mul_pos (by decide) ρ.num_pos⟩

@[simp] theorem Rate.usec_zero (ρ : Rate) : ρ.usec 0 = 0 := by simp [Rate.usec]

/-- 64 ビットの符号なし整数の引き算 `a - b`。`b > a` なら桁あふれした値になる。 -/
def subU64 (a b : Nat) : Nat := if b ≤ a then a - b else a + 2 ^ 64 - b

theorem subU64_of_le {a b : Nat} (h : b ≤ a) : subU64 a b = a - b := by simp [subU64, h]

/-- ヘッダーの読み取り位置（`FIELD`、`VALUE`）。 -/
inductive HeaderState
  | field
  | value
  deriving DecidableEq, Repr

/-- バイトの並び。 -/
abbrev Bytes := List Nat

/-- `buffer` 構造体。`none` は `buffer` が `NULL` のとき、`some b` は書き込まれたバイト `b`。 -/
abbrev Buffer := Option Bytes

/-- Modelled from the spec: `buffer_append`。最初の追記で領域を取る。 -/
def Buffer.append (b : Buffer) (d : Bytes) : Buffer := some (b.getD [] ++ d)

/-- Modelled from the spec: `buffer_reset`。領域は残して中身を空にする。 -/
def Buffer.reset (b : Buffer) : Buffer := b.map fun _ => []

/-- 接続の状態（`connection` 構造体）。 -/
structure Connection where
  fd : Nat
  connectMask : Mask
  isConnected : Bool
  request : Bytes
  written : Nat
  pending : Nat
  hasPending : Bool
  complete : Nat
  caughtUp : Bool
  catchUpStartTime : Nat
  completeAtCatchUpStart : Nat
  threadStart : Nat
  completeAtLastBatchStart : Nat
  actualLatencyStart : Nat
  start : Nat
  state : HeaderState
  headers : Buffer
  body : Buffer
  deriving DecidableEq, Repr

/-- `thread_main` が作る接続。`zcalloc` の 0 に、要求と `caught_up = true` を入れる。 -/
def Connection.init (request : Bytes) : Connection where
  fd := 0
  connectMask := aeNone
  isConnected := false
  request := request
  written := 0
  pending := 0
  hasPending := false
  complete := 0
  caughtUp := true
  catchUpStartTime := 0
  completeAtCatchUpStart := 0
  threadStart := 0
  completeAtLastBatchStart := 0
  actualLatencyStart := 0
  start := 0
  state := .field
  headers := none
  body := none

/-! ## `usec_to_next_send` -/

/-- `usec_to_next_send`。待つマイクロ秒数（`0` なら今送る）と、更新した接続。 -/
def usecToNextSend (ρ : Rate) (c : Connection) (now : Nat) : Nat × Connection :=
  let next := c.threadStart + ρ.usec c.complete
  if now < next then (next - now, { c with caughtUp := true })
  else
    let c := if c.caughtUp then
        { c with caughtUp := false, catchUpStartTime := now, completeAtCatchUpStart := c.complete }
      else c
    let next := c.catchUpStartTime + ρ.twice.usec (subU64 c.complete c.completeAtCatchUpStart)
    if now < next then (next - now, c) else (0, c)

variable {ρ : Rate} {c : Connection} {now : Nat}

/-- 今送ると決めたなら、主の予定時刻は過ぎている。 -/
theorem usecToNextSend_sched_le (h : (usecToNextSend ρ c now).1 = 0) :
    c.threadStart + ρ.usec c.complete ≤ now := by
  simp only [usecToNextSend] at h
  split at h
  · omega
  · omega

/-- ペーサーが書き換えるのは追いつきの三つの欄だけで、`complete_at_catch_up_start` は保つか `complete` に
取り直す。 -/
theorem usecToNextSend_snd (ρ : Rate) (c : Connection) (now : Nat) :
    ∃ b t k, (k = c.completeAtCatchUpStart ∨ k = c.complete) ∧ (usecToNextSend ρ c now).2 =
      { c with caughtUp := b, catchUpStartTime := t, completeAtCatchUpStart := k } := by
  simp only [usecToNextSend]
  split
  · exact ⟨true, c.catchUpStartTime, c.completeAtCatchUpStart, .inl rfl, rfl⟩
  · split <;> split <;> exact ⟨_, _, _, by simp, rfl⟩

/-- ペーサーは追いつきの三つの欄のほかを変えないので、それらだけで決まる性質を保つ。 -/
theorem usecToNextSend_snd_of (P : Connection → Prop)
    (hP : ∀ u t m, P { c with caughtUp := u, catchUpStartTime := t, completeAtCatchUpStart := m }) :
    P (usecToNextSend ρ c now).2 := by
  obtain ⟨u, t, m, -, e⟩ := usecToNextSend_snd ρ c now
  exact e ▸ hP u t m

/-- `usec_to_next_send` の戻り値は、今送るなら 0、そうでなければ時計より後の予定時刻 `next_start_time` までの
差である。予定時刻は主の予定か、追いつきの予定である。 -/
theorem usecToNextSend_wait (ρ : Rate) (c : Connection) (now : Nat) :
    (usecToNextSend ρ c now).1 = 0 ∨ ∃ next, now < next ∧ (usecToNextSend ρ c now).1 = next - now ∧
      (next = c.threadStart + ρ.usec c.complete ∨
        next = (usecToNextSend ρ c now).2.catchUpStartTime + ρ.twice.usec
          (subU64 (usecToNextSend ρ c now).2.complete (usecToNextSend ρ c now).2.completeAtCatchUpStart)) := by
  unfold usecToNextSend; dsimp only
  split_ifs with h₁ h₂ h₃ h₃
  · exact .inr ⟨_, h₁, rfl, .inl rfl⟩
  · exact .inr ⟨_, h₃, rfl, .inr rfl⟩
  · exact .inl rfl
  · exact .inr ⟨_, h₃, rfl, .inr rfl⟩
  · exact .inl rfl

end Wrk2
