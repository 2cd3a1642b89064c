import Wrk2.Worker.Lemmas.Basic

/-!
# ループに加わるもの

`Loop.Adds pf pd pt el el'` は、`el'` の購読と時間イベントが、`el` にあったものか、述語を満たす
新しいものであることを言う。新しい購読のコールバックは `pf` を、その記述子の `clientData` は `pd` を
満たし、変わった `clientData` も `pd` を満たす。新しい時間イベントのコールバックは `pt` を満たす。
コールバックごとにこの関係を一度示し、ループについての不変条件はすべてそこから導く。

`Loop.Keeps el el'` は、すでにある番号の時間イベントが残ることを言う。時間イベントを消すのは、期限が来て
`AE_NOMORE` を返したその時間イベント自身の置き直しだけである（`Loop.Keeps.rearm`）。
-/

namespace Wrk2

namespace Loop

/-- `el` から `el'` へ加わった購読と時間イベントが述語を満たす。残った時間イベントの期限は早まらない。 -/
structure Adds (pf : FileProc → Prop) (pd : Nat → Prop) (pt : TimeProc → Prop) (el el' : Loop) :
    Prop where
  proc : ∀ fd d p, (el'.events fd).proc d = some p →
    (el.events fd).proc d = some p ∨ pf p ∧ pd (el'.events fd).clientData
  data : ∀ fd, (el'.events fd).clientData = (el.events fd).clientData ∨ pd (el'.events fd).clientData
  timer : ∀ id te, el'.timeEvents id = some te →
    (∃ te₀, el.timeEvents id = some te₀ ∧ te₀.timeProc = te.timeProc ∧ te₀.when ≤ te.when) ∨ pt te.timeProc

variable {pf pf' : FileProc → Prop} {pd pd' : Nat → Prop} {pt pt' : TimeProc → Prop}
  {el el' el₁ el₂ : Loop}

theorem Adds.refl (el : Loop) : Adds pf pd pt el el :=
  ⟨fun _ _ _ h => .inl h, fun _ => .inl rfl, fun _ te h => .inl ⟨te, h, rfl, le_rfl⟩⟩

theorem Adds.trans (h₁ : Adds pf pd pt el el₁) (h₂ : Adds pf pd pt el₁ el₂) : Adds pf pd pt el el₂ where
  proc fd d p h := by
    rcases h₂.proc fd d p h with h' | h'
    · rcases h₁.proc fd d p h' with h'' | ⟨hp, hd⟩
      · exact .inl h''
      · rcases h₂.data fd with e | hd'
        · exact .inr ⟨hp, e ▸ hd⟩
        · exact .inr ⟨hp, hd'⟩
    · exact .inr h'
  data fd := by
    rcases h₂.data fd with e | hd
    · rw [e]; exact h₁.data fd
    · exact .inr hd
  timer id te h := by
    rcases h₂.timer id te h with ⟨te₁, h₁', e, hl⟩ | hp
    · rcases h₁.timer id te₁ h₁' with ⟨te₀, h₀, e₀, hl₀⟩ | hp
      · exact .inl ⟨te₀, h₀, e₀.trans e, hl₀.trans hl⟩
      · exact .inr (e ▸ hp)
    · exact .inr hp

theorem Adds.mono (h : Adds pf pd pt el el₁) (hf : ∀ p, pf p → pf' p) (hd : ∀ d, pd d → pd' d)
    (ht : ∀ p, pt p → pt' p) : Adds pf' pd' pt' el el₁ where
  proc fd d p e := (h.proc fd d p e).imp_right fun ⟨h₁, h₂⟩ => ⟨hf p h₁, hd _ h₂⟩
  data fd := (h.data fd).imp_right (hd _)
  timer id te e := (h.timer id te e).imp_right (ht _)

@[simp] theorem FileEvent.add_proc (fe : FileEvent) (m : Mask) (p : FileProc) (d : Nat) (dir : Dir) :
    (fe.add m p d).proc dir =
      if (match dir with | .readable => m.readable | .writable => m.writable) then some p
      else fe.proc dir := by
  cases dir <;> rfl

@[simp] theorem FileEvent.del_proc (fe : FileEvent) (m : Mask) (dir : Dir) :
    (fe.del m).proc dir =
      if (match dir with | .readable => m.readable | .writable => m.writable) then none
      else fe.proc dir := by
  cases dir <;> rfl

theorem adds_createFileEvent (fd : Nat) (m : Mask) (p : FileProc) (d : Nat) :
    Adds (· = p) (· = d) pt el (el.createFileEvent fd m p d) where
  proc fd' dir q h := by
    rw [createFileEvent_events] at h
    split_ifs at h with hfd
    · subst hfd; simp only [FileEvent.add_proc] at h
      split_ifs at h
      · exact .inr ⟨(Option.some.inj h).symm, by rw [createFileEvent_events, if_pos rfl]; rfl⟩
      · exact .inl h
    · exact .inl h
  data fd' := by
    rw [createFileEvent_events]; split_ifs
    · exact .inr rfl
    · exact .inl rfl
  timer _ te h := .inl ⟨te, h, rfl, le_rfl⟩

theorem adds_deleteFileEvent (fd : Nat) (m : Mask) : Adds pf pd pt el (el.deleteFileEvent fd m) where
  proc fd' dir q h := by
    rw [deleteFileEvent_events] at h
    split_ifs at h with hfd
    · subst hfd; simp only [FileEvent.del_proc] at h
      split_ifs at h
      exact .inl h
    · exact .inl h
  data fd' := by
    rw [deleteFileEvent_events]; split_ifs with h
    · subst h; exact .inl rfl
    · exact .inl rfl
  timer _ te h := .inl ⟨te, h, rfl, le_rfl⟩

theorem adds_createTimeEvent (now ms : Nat) (p : TimeProc) :
    Adds pf pd (· = p) el (el.createTimeEvent now ms p) where
  proc _ _ _ h := .inl h
  data _ := .inl rfl
  timer id te h := by
    simp only [createTimeEvent, setAt_apply] at h
    split_ifs at h
    · exact .inr (Option.some.inj h ▸ rfl)
    · exact .inl ⟨te, h, rfl, le_rfl⟩

/-- 期限の来た時間イベント `id` を同じコールバックで置き直しても、新しいものは加わらない。 -/
theorem Adds.rearm {el₀ : Loop} {id now : Nat} {te : TimeEvent} (h : Adds pf pd pt el₀ el)
    (he : el₀.timeEvents id = some te) (hn : te.when ≤ now) (r : Option Nat) :
    Adds pf pd pt el₀ (el.rearm id now te.timeProc r) where
  proc fd d p e := by simpa using h.proc fd d p (by simpa using e)
  data fd := by simpa using h.data fd
  timer id' te' e := by
    cases r <;> simp only [Loop.rearm, setAt_apply] at e <;> split_ifs at e with hid
    · exact h.timer id' te' e
    · subst hid; cases e; exact .inl ⟨te, he, rfl, hn.trans (Nat.le_add_right _ _)⟩
    · exact h.timer id' te' e

theorem adds_aeStop : Adds pf pd pt el el.aeStop :=
  ⟨fun _ _ _ h => .inl h, fun _ => .inl rfl, fun _ te h => .inl ⟨te, h, rfl, le_rfl⟩⟩

/-! ## 残る時間イベント -/

/-- `el` の時間イベントは `el'` に残る。次の番号は減らず、それより小さい番号の時間イベントは変わらない。
時間イベントを消すのは、期限が来て `AE_NOMORE` を返したときの ae の置き直しだけである。 -/
structure Keeps (el el' : Loop) : Prop where
  nextId : el.timeEventNextId ≤ el'.timeEventNextId
  timer : ∀ id < el.timeEventNextId, el'.timeEvents id = el.timeEvents id

theorem Keeps.refl (el : Loop) : Keeps el el := ⟨le_rfl, fun _ _ => rfl⟩

theorem Keeps.trans (h₁ : Keeps el el₁) (h₂ : Keeps el₁ el₂) : Keeps el el₂ :=
  ⟨h₁.nextId.trans h₂.nextId, fun id hid => (h₂.timer id (hid.trans_le h₁.nextId)).trans (h₁.timer id hid)⟩

theorem Keeps.of_eq (hn : el₁.timeEventNextId = el.timeEventNextId) (ht : el₁.timeEvents = el.timeEvents) :
    Keeps el el₁ :=
  ⟨hn.ge, fun _ _ => by rw [ht]⟩

/-- 新しい時間イベントは次の番号に置かれ、それより小さい番号の時間イベントは変わらない。 -/
theorem keeps_createTimeEvent (now ms : Nat) (p : TimeProc) : Keeps el (el.createTimeEvent now ms p) :=
  ⟨Nat.le_succ _, fun _ hid => by simp [createTimeEvent, Nat.ne_of_lt hid]⟩

/-- `rearm` は自分の番号のほかの時間イベントを変えない。 -/
theorem rearm_timeEvents_of_ne (el : Loop) {id k : Nat} (now : Nat) (p : TimeProc) (r : Option Nat)
    (hk : k ≠ id) : (el.rearm id now p r).timeEvents k = el.timeEvents k := by
  cases r <;> simp [rearm, hk]

/-- 時間イベントを残す書き換えのあとに時間イベント `id` を置き直すと、`id` のほかの時間イベントは残る。 -/
theorem Keeps.rearm (h : Keeps el el') (id now : Nat) (p : TimeProc) (r : Option Nat) :
    el.timeEventNextId ≤ (el'.rearm id now p r).timeEventNextId ∧
      ∀ k < el.timeEventNextId, k ≠ id → (el'.rearm id now p r).timeEvents k = el.timeEvents k :=
  ⟨by simpa using h.nextId, fun k hk hne => (rearm_timeEvents_of_ne _ _ _ _ hne).trans (h.timer k hk)⟩

end Loop

end Wrk2
