import Mathlib.Algebra.Order.Ring.Nat

/-!
# イベントループ（ae）

ワーカーごとの単一スレッドのイベントループ。ae の実装は src/ にないので、仕様 §4.3 の言葉から作る。
ファイルイベントは記述子ごとに読み出し側と書き込み側のコールバックを一つずつ持ち、`clientData` は
両側で共有する。すでに購読している向きを含む登録は、その向きのコールバックを置き換えるだけである。
時間イベントは番号で引き、期限は作った時刻にミリ秒の遅れを足したマイクロ秒で持つ。
-/

namespace Wrk2

/-- 表 `f` の `a` 番目だけを `v` に書き換える（C の配列の一要素への代入）。値の型が添字によらないので、
`setAt` と違い、具体的な実行を評価するときに等式による型の書き換えを通らない。 -/
def setAt {α : Type} (f : Nat → α) (a : Nat) (v : α) : Nat → α := fun j => if j = a then v else f j

@[simp] theorem setAt_apply {α : Type} (f : Nat → α) (a : Nat) (v : α) (j : Nat) :
    setAt f a v j = if j = a then v else f j := rfl

/-- 購読の向きの組（`AE_READABLE | AE_WRITABLE` のビット）。 -/
structure Mask where
  readable : Bool
  writable : Bool
  deriving DecidableEq, Repr

/-- `AE_READABLE`。 -/
def aeReadable : Mask := ⟨true, false⟩

/-- `AE_WRITABLE`。 -/
def aeWritable : Mask := ⟨false, true⟩

/-- `AE_READABLE | AE_WRITABLE`。 -/
def aeReadWrite : Mask := ⟨true, true⟩

/-- `AE_NONE`。 -/
def aeNone : Mask := ⟨false, false⟩

/-- ビットごとの和（`|`）。 -/
def Mask.or (a b : Mask) : Mask := ⟨a.readable || b.readable, a.writable || b.writable⟩

/-- `a & ~b`。 -/
def Mask.andNot (a b : Mask) : Mask := ⟨a.readable && !b.readable, a.writable && !b.writable⟩

/-- 記述子の準備ができた向き。ディスパッチはどちらか一方ずつ起こる。 -/
inductive Dir
  | readable
  | writable
  deriving DecidableEq, Repr

/-- ファイルイベントのコールバック。`clientData` は接続の番号。 -/
inductive FileProc
  | socketConnected
  | socketReadable
  | socketWriteable
  deriving DecidableEq, Repr

/-- 時間イベントのコールバック。接続を引数に取るものは接続の番号を持つ。 -/
inductive TimeProc
  | delayedInitialConnect (c : Nat)
  | delayRequest (c : Nat)
  | checkStop
  | warmupTimedOut
  | interThreadSync
  | calibrate
  | sampleRate
  deriving DecidableEq, Repr

/-- 記述子一つの登録（ae の `aeFileEvent`）。購読していない向きは `none`。 -/
structure FileEvent where
  rfileProc : Option FileProc
  wfileProc : Option FileProc
  clientData : Nat
  deriving DecidableEq, Repr

/-- 何も購読していない記述子。 -/
def FileEvent.empty : FileEvent := ⟨none, none, 0⟩

/-- 向きごとの購読。 -/
def FileEvent.proc (fe : FileEvent) : Dir → Option FileProc
  | .readable => fe.rfileProc
  | .writable => fe.wfileProc

/-- `mask` の向きのコールバックを `proc` にし、`clientData` を `data` にする。 -/
def FileEvent.add (fe : FileEvent) (mask : Mask) (proc : FileProc) (data : Nat) : FileEvent :=
  ⟨if mask.readable then some proc else fe.rfileProc,
    if mask.writable then some proc else fe.wfileProc, data⟩

/-- `mask` の向きの購読を外す。 -/
def FileEvent.del (fe : FileEvent) (mask : Mask) : FileEvent :=
  ⟨if mask.readable then none else fe.rfileProc,
    if mask.writable then none else fe.wfileProc, fe.clientData⟩

/-- 時間イベント一つ（ae の `aeTimeEvent`）。 -/
structure TimeEvent where
  when : Nat
  timeProc : TimeProc
  deriving DecidableEq, Repr

/-- イベントループ（ae の `aeEventLoop`）。 -/
structure Loop where
  events : Nat → FileEvent
  timeEvents : Nat → Option TimeEvent
  timeEventNextId : Nat
  stop : Bool

/-- `aeCreateEventLoop` が返す空のループ。 -/
def Loop.empty : Loop := ⟨fun _ => FileEvent.empty, fun _ => none, 0, false⟩

namespace Loop

/-- Modelled from the spec: ae の `aeCreateFileEvent`。§4.3 の「登録は新しい向きについて冪等」。 -/
def createFileEvent (el : Loop) (fd : Nat) (mask : Mask) (proc : FileProc) (data : Nat) : Loop :=
  { el with events := setAt el.events fd ((el.events fd).add mask proc data) }

/-- Modelled from the spec: ae の `aeDeleteFileEvent`。 -/
def deleteFileEvent (el : Loop) (fd : Nat) (mask : Mask) : Loop :=
  { el with events := setAt el.events fd ((el.events fd).del mask) }

/-- Modelled from the spec: ae の `aeCreateTimeEvent`。時刻 `now` から `ms` ミリ秒後を期限とする。 -/
def createTimeEvent (el : Loop) (now ms : Nat) (proc : TimeProc) : Loop :=
  { el with
    timeEvents := setAt el.timeEvents el.timeEventNextId (some ⟨now + ms * 1000, proc⟩)
    timeEventNextId := el.timeEventNextId + 1 }

/-- Modelled from the spec: ae の時間イベントの処理のうち、コールバックの戻り値の扱い。`none`（`AE_NOMORE`）なら消し、`some ms` なら期限を延ばす。 -/
def rearm (el : Loop) (id now : Nat) (proc : TimeProc) : Option Nat → Loop
  | none => { el with timeEvents := setAt el.timeEvents id none }
  | some ms => { el with timeEvents := setAt el.timeEvents id (some ⟨now + ms * 1000, proc⟩) }

/-- Modelled from the spec: ae の `aeStop`。次の繰り返しでループを抜ける。 -/
def aeStop (el : Loop) : Loop := { el with stop := true }

/-! ## 各操作の欄 -/

@[simp] theorem createFileEvent_timeEvents (el : Loop) (fd : Nat) (m : Mask) (p : FileProc) (d : Nat) :
    (el.createFileEvent fd m p d).timeEvents = el.timeEvents := rfl

@[simp] theorem createFileEvent_timeEventNextId (el : Loop) (fd : Nat) (m : Mask) (p : FileProc)
    (d : Nat) : (el.createFileEvent fd m p d).timeEventNextId = el.timeEventNextId := rfl

@[simp] theorem deleteFileEvent_timeEvents (el : Loop) (fd : Nat) (m : Mask) :
    (el.deleteFileEvent fd m).timeEvents = el.timeEvents := rfl

@[simp] theorem deleteFileEvent_timeEventNextId (el : Loop) (fd : Nat) (m : Mask) :
    (el.deleteFileEvent fd m).timeEventNextId = el.timeEventNextId := rfl

@[simp] theorem createTimeEvent_events (el : Loop) (now ms : Nat) (p : TimeProc) :
    (el.createTimeEvent now ms p).events = el.events := rfl

@[simp] theorem rearm_events (el : Loop) (id now : Nat) (p : TimeProc) (r : Option Nat) :
    (el.rearm id now p r).events = el.events := by
  cases r <;> rfl

@[simp] theorem rearm_stop (el : Loop) (id now : Nat) (p : TimeProc) (r : Option Nat) :
    (el.rearm id now p r).stop = el.stop := by
  cases r <;> rfl

@[simp] theorem rearm_timeEventNextId (el : Loop) (id now : Nat) (p : TimeProc) (r : Option Nat) :
    (el.rearm id now p r).timeEventNextId = el.timeEventNextId := by
  cases r <;> rfl

@[simp] theorem aeStop_events (el : Loop) : el.aeStop.events = el.events := rfl

@[simp] theorem aeStop_timeEvents (el : Loop) : el.aeStop.timeEvents = el.timeEvents := rfl

theorem createFileEvent_events (el : Loop) (fd : Nat) (m : Mask) (p : FileProc) (d fd' : Nat) :
    (el.createFileEvent fd m p d).events fd' =
      if fd' = fd then (el.events fd).add m p d else el.events fd' := by
  simp only [createFileEvent, setAt_apply]

theorem deleteFileEvent_events (el : Loop) (fd : Nat) (m : Mask) (fd' : Nat) :
    (el.deleteFileEvent fd m).events fd' =
      if fd' = fd then (el.events fd).del m else el.events fd' := by
  simp only [deleteFileEvent, setAt_apply]

end Loop

end Wrk2
