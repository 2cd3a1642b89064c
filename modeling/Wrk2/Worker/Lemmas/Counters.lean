import Wrk2.Worker.Lemmas.Batch

/-!
# 数の関係

接続の数（`complete`、`complete_at_catch_up_start`、`complete_at_last_batch_start`、`written`）について、
`ConnStep` の基本の書き換えごとに保たれることを示し、`Thread.Wf.dispatch_conn` で `dispatch` 一回の
補題にする。`complete` は減らず、二つの写しは `complete` を越えず、`written` は要求の長さを越えない。
ペーサーは `complete_at_catch_up_start` を `complete` から取り、`sock.write` は残りの長さまでしか進めない
からである。
-/

namespace Wrk2

/-- 接続の数の関係。これがあれば `usec_to_next_send` の `complete - complete_at_catch_up_start` と
`socket_writeable` の `length - written` は桁あふれしない。 -/
def Connection.CountsOk (c : Connection) : Prop :=
  c.completeAtCatchUpStart ≤ c.complete ∧ c.completeAtLastBatchStart ≤ c.complete ∧ c.written ≤ c.request.length

variable {cfg : Config} {now : Nat} {k : ConnKind} {c c' : Connection}

/-- ペーサーは `complete_at_catch_up_start` を保つか `complete` に取り直すので、数の関係を壊さない。 -/
theorem Connection.CountsOk.pacer (hc : c.CountsOk) (u : Bool) (t k : Nat)
    (hk : k = c.completeAtCatchUpStart ∨ k = c.complete) :
    ({ c with caughtUp := u, catchUpStartTime := t, completeAtCatchUpStart := k } : Connection).CountsOk :=
  ⟨by rcases hk with rfl | rfl; exacts [hc.1, le_rfl], hc.2.1, hc.2.2⟩

/-- ペーサーのあとの接続も数の関係を満たす。 -/
theorem Connection.CountsOk.usecToNextSend (hc : c.CountsOk) (ρ : Rate) (now : Nat) :
    (usecToNextSend ρ c now).2.CountsOk := by
  obtain ⟨u, t, k, hk, e⟩ := usecToNextSend_snd ρ c now
  rw [e]; exact hc.pacer u t k hk

namespace ConnStep

theorem complete_le (h : ConnStep cfg now k c c') : c.complete ≤ c'.complete := by
  cases h
  case pacer => exact usecToNextSend_snd_of (fun c' => c.complete ≤ c'.complete) fun _ _ _ => le_rfl
  all_goals simp

theorem countsOk (h : ConnStep cfg now k c c') (hc : c.CountsOk) : c'.CountsOk := by
  cases h
  case pacer => exact hc.usecToNextSend _ _
  all_goals obtain ⟨h₁, h₂, h₃⟩ := hc
  case complete => exact ⟨by simp; omega, by simp; omega, h₃⟩
  case begin _ _ hw => exact ⟨h₁, by split_ifs <;> simp_all, by simp [hw]⟩
  case send hn =>
    rw [subU64_of_le h₃] at hn
    exact ⟨h₁, h₂, by simp; omega⟩
  case establish => exact ⟨h₁, h₂, by simp⟩
  case finish => exact ⟨h₁, h₂, by simp⟩
  all_goals exact ⟨h₁, h₂, h₃⟩

end ConnStep

theorem Connection.init_countsOk (r : Bytes) : (Connection.init r).CountsOk := by
  simp [Connection.CountsOk, Connection.init]

variable {io : Io} {x y : Ctx} {ev : Event}

/-- 形の不変条件の下での `dispatch` 一回で、どの接続の `complete` も減らない。つなぎ直しでも戻らない。 -/
theorem Thread.Wf.dispatch_complete_le (hw : x.th.Wf cfg) (h : dispatch cfg io x ev = some y) (j : Nat) :
    (x.conn j).complete ≤ (y.conn j).complete := by
  rcases hw.dispatch_steps h j with ⟨_, hs⟩ | ⟨e₁, e₂⟩
  · exact ConnStep.rtg_of (fun c => (x.conn j).complete ≤ c.complete) (fun hs' hc => hc.trans hs'.complete_le)
      hs le_rfl
  · rw [e₁, e₂]; rfl

/-- 形の不変条件の下での `dispatch` 一回で、接続の数の関係は保たれる。 -/
theorem Thread.Wf.dispatch_countsOk (hw : x.th.Wf cfg) (h : dispatch cfg io x ev = some y) {j : Nat}
    (hc : (x.conn j).CountsOk) : (y.conn j).CountsOk :=
  hw.dispatch_conn h _ ConnStep.countsOk (Connection.init_countsOk _) j hc

end Wrk2
