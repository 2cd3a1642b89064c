import Wrk2.Worker.System
import Mathlib.Data.List.Basic

/-!
# `main` の、ワーカーの前と後

`main` のうちワーカーの外にある二つの繰り返し。一つは `-i` の文字列をコンマで分けて `local_ip_arr` に
入れ、ワーカー `i` に `i mod k` 番目を渡す部分（wrk.c 149-170, 200-201）。`csv_nr` で数えた大きさの
配列に、`strtok_r` が返す空でない字句を順に入れる。もう一つは、ワーカーを `pthread_join` で待ちながら
`phase_normal_start` の最小を探す部分（245-261）である。

文字列は `List Char` で持つ。`strtok_r` は C ライブラリの定めのとおり、先頭の区切りを飛ばし、次の区切り
までを字句として返すので、空の字句を返さない。
-/

namespace Wrk2

/-! ## `-i` の分割 -/

/-- `csv_nr`。`strchr` でコンマを探しては数え、最後の欄の分の 1 を足す。`NULL` なら 0。 -/
def csvNr : Option (List Char) → Nat
  | none => 0
  | some s => s.count ',' + 1

/-- C ライブラリの `strtok_r` を区切り `","` で呼んだもの。先頭のコンマを飛ばし、次のコンマの前までを
字句として返し、そのコンマの後ろを `saveptr` に残す。字句がなければ `NULL`（`none`）。 -/
def strtokR (s : List Char) : Option (List Char × List Char) :=
  match s.dropWhile (· == ',') with
  | [] => none
  | c :: t => some ((c :: t).takeWhile (· != ','), ((c :: t).dropWhile (· != ',')).drop 1)

/-- `s` をコンマで区切った欄のうち、空でないもの。`-i` の仕様の言う「コンマで区切った番地」。 -/
def nonEmptyFields (s : List Char) : List (List Char) := (s.splitOn ',').filter (· ≠ [])

@[simp] theorem nonEmptyFields_nil : nonEmptyFields [] = [] := rfl

/-- 先頭のコンマは空の欄しか作らない。 -/
theorem nonEmptyFields_dropWhile (s : List Char) : nonEmptyFields (s.dropWhile (· == ',')) = nonEmptyFields s := by
  induction s with
  | nil => rfl
  | cons c s ih =>
    rw [List.dropWhile_cons]
    split_ifs with hc
    · rw [ih]; simp [nonEmptyFields, List.splitOn, List.splitOnP_cons, hc]
    · rfl

/-- コンマで始まらない列の最初の欄は、次のコンマの前までである。 -/
theorem nonEmptyFields_cons {t : List Char} (c : Char) (hc : c ≠ ',') :
    nonEmptyFields (c :: t) =
      (c :: t).takeWhile (· != ',') :: nonEmptyFields (((c :: t).dropWhile (· != ',')).drop 1) := by
  have e := List.takeWhile_append_dropWhile (· != ',') (c :: t)
  have hn : ∀ x ∈ (c :: t).takeWhile (· != ','), ¬ (x == ',') = true := fun x hx => by
    simpa using List.mem_takeWhile_imp hx
  have hne : (c :: t).takeWhile (· != ',') ≠ [] := by simp [List.takeWhile_cons, hc]
  generalize (c :: t).takeWhile (· != ',') = tok at e hn hne
  cases hd : (c :: t).dropWhile (· != ',') with
  | nil =>
    rw [hd, List.append_nil] at e
    rw [← e]; simp [nonEmptyFields, List.splitOn, List.splitOnP_eq_single _ _ hn, hne]
  | cons d r =>
    have hdc : (d == ',') = true := by
      simpa [hd] using List.head_dropWhile_not (· != ',') (c :: t) (by simp [hd])
    rw [hd] at e
    rw [← e]; simp [nonEmptyFields, List.splitOn, List.splitOnP_first _ _ hn d hdc, hne]

/-- `strtok_r` が返す字句は空でなく、残りは短くなり、空でない欄の先頭を取ったことになる。 -/
theorem strtokR_eq_some {s token rest : List Char} (h : strtokR s = some (token, rest)) :
    token ≠ [] ∧ rest.length < s.length ∧ nonEmptyFields s = token :: nonEmptyFields rest := by
  unfold strtokR at h
  split at h
  · cases h
  · rename_i c t e
    cases h
    have hc : c ≠ ',' := by
      simpa [e] using List.head_dropWhile_not (· == ',') s (by simp [e])
    refine ⟨by simp [List.takeWhile_cons, hc], ?_, by rw [← nonEmptyFields_dropWhile, e, nonEmptyFields_cons c hc]⟩
    have h₁ := (List.dropWhile_suffix (l := c :: t) (· != ',')).length_le
    have h₂ := congrArg List.length e
    have h₃ := (List.dropWhile_suffix (l := s) (· == ',')).length_le
    simp only [List.length_drop, List.length_cons] at h₁ h₂ ⊢
    omega

/-- `strtok_r` が `NULL` を返すのは、空でない欄が残っていないときである。 -/
theorem strtokR_eq_none {s : List Char} (h : strtokR s = none) : nonEmptyFields s = [] := by
  unfold strtokR at h
  split at h
  · rename_i e; rw [← nonEmptyFields_dropWhile, e]; rfl
  · cases h

/-- `main` の `strtok_r` の繰り返し。空でない字句を `local_ip_arr` の `i = arr.length` 番目に入れる。
`assert(i < local_ip_nr)` が外れれば `none`。 -/
def splitLocalIp (nr : Nat) (arr : List (List Char)) (saveptr : List Char) : Option (List (List Char)) :=
  match h : strtokR saveptr with
  | none => some arr
  | some (token, rest) =>
    have := (strtokR_eq_some h).2.1
    if token ≠ [] then
      if arr.length < nr then splitLocalIp nr (arr ++ [token]) rest else none
    else splitLocalIp nr arr rest
termination_by saveptr.length

/-- `main` の `-i` の扱いが残す `local_ip_arr`。その長さが新しい `local_ip_nr` である。 -/
def localIpArr (localIp : Option (List Char)) : Option (List (List Char)) :=
  match localIp with
  | none => some []
  | some s => splitLocalIp (csvNr (some s)) [] s

/-- `t->local_ip`。`local_ip_nr > 0` なら `local_ip_arr[i % local_ip_nr]`、そうでなければ `NULL`。 -/
def threadLocalIp (arr : List (List Char)) (i : Nat) : Option (List Char) :=
  if 0 < arr.length then arr[i % arr.length]? else none

/-- 繰り返しは、配列の残りが足りる限り、空でない欄を順に足す。 -/
theorem splitLocalIp_eq (nr : Nat) (arr : List (List Char)) (s : List Char) (harr : arr.length ≤ nr) :
    splitLocalIp nr arr s =
      if arr.length + (nonEmptyFields s).length ≤ nr then some (arr ++ nonEmptyFields s) else none := by
  induction arr, s using splitLocalIp.induct nr with
  | case1 arr s h => rw [splitLocalIp]; split <;> simp_all [strtokR_eq_none h]
  | case2 arr s token rest h _ hne hlt ih =>
    rw [splitLocalIp]; split
    · simp_all
    · rename_i h'; rw [h] at h'; cases h'
      simp only [ne_eq, hne, not_false_eq_true, if_true, hlt, ih (by simp; omega), (strtokR_eq_some h).2.2]
      simp [Nat.add_assoc, Nat.add_comm 1]
  | case3 arr s token rest h _ hne hlt =>
    rw [splitLocalIp]; split
    · simp_all
    · rename_i h'; rw [h] at h'; cases h'
      simp only [ne_eq, hne, not_false_eq_true, if_true, hlt, (strtokR_eq_some h).2.2, if_false,
        List.length_cons]
      rw [if_neg (by omega)]
  | case4 arr s token rest h _ hne => exact absurd (strtokR_eq_some h).1 hne

/-- コンマで区切った欄は、コンマの数より一つ多い。 -/
theorem length_splitOn_comma (s : List Char) : (s.splitOn ',').length = s.count ',' + 1 := by
  induction s with
  | nil => rfl
  | cons c s ih =>
    simp only [List.splitOn, List.splitOnP_cons, List.count_cons] at ih ⊢
    split_ifs <;> simp_all

theorem local_ip_split_in_bounds (s : List Char) :
    localIpArr (some s) = some (nonEmptyFields s) ∧ (nonEmptyFields s).length ≤ csvNr (some s) ∧
      csvNr (some s) = s.count ',' + 1 ∧
      ∀ i, threadLocalIp (nonEmptyFields s) i = (nonEmptyFields s)[i % (nonEmptyFields s).length]? := by
  have hk : (nonEmptyFields s).length ≤ csvNr (some s) := by
    rw [csvNr, ← length_splitOn_comma]; exact List.length_filter_le _ _
  refine ⟨?_, hk, rfl, fun i => ?_⟩
  · rw [localIpArr, splitLocalIp_eq _ _ _ (Nat.zero_le _), if_pos (by simpa using hk)]; rfl
  · unfold threadLocalIp; split_ifs with h
    · rfl
    · simp_all

example : localIpArr (some ",10.0.0.1,,10.0.0.2,".toList) = some ["10.0.0.1".toList, "10.0.0.2".toList] := by
  rw [localIpArr, splitLocalIp_eq _ _ _ (Nat.zero_le _)]; decide

/-! ## `phase_normal_start` の最小 -/

/-- `main` の `pthread_join` の繰り返しの一回。`phase_normal_start_min` がまだ 0 か、ワーカーの値が 0 でなく
より小さければ、ワーカーの値に置き換える。 -/
def phaseNormalStartMinStep (m v : Nat) : Nat :=
  if m = 0 ∨ (v ≠ 0 ∧ v < m) then v else m

/-- ワーカーの `phase_normal_start` を番号の順に見て、繰り返しが残す `phase_normal_start_min`。 -/
def phaseNormalStartMin (starts : List Nat) : Nat := starts.foldl phaseNormalStartMinStep 0

/-- `main` が `runtime_us` を測る起点。`start` は `main` がスレッドを作る前に取った時刻で、
`phase_normal_start_min` が 0 でなければそれに置き換える。 -/
def runtimeStart (cfg : Config) (start : Nat) (s : System) : Nat :=
  let m := phaseNormalStartMin ((List.range cfg.threads).map fun i => (s.threads i).phaseNormalStart)
  if m ≠ 0 then m else start

theorem min?_filter_ne_zero_cons (a : Nat) (l : List Nat) :
    ((a :: l).filter (· ≠ 0)).min? =
      if a = 0 then (l.filter (· ≠ 0)).min? else some (((l.filter (· ≠ 0)).min?).elim a (min a)) := by
  by_cases ha : a = 0 <;> simp [ha, List.filter_cons, List.min?_cons]

/-- 繰り返しの一回は、`m` と `v` のうち 0 でないものの最小を残す。 -/
theorem filter_phaseNormalStartMinStep_cons (m v : Nat) (l : List Nat) :
    ((phaseNormalStartMinStep m v :: l).filter (· ≠ 0)).min? = ((m :: v :: l).filter (· ≠ 0)).min? := by
  by_cases hm : m = 0
  · simp [phaseNormalStartMinStep, hm]
  by_cases hv : v = 0
  · simp [phaseNormalStartMinStep, hm, hv]
  have e : phaseNormalStartMinStep m v = min m v := by unfold phaseNormalStartMinStep; split_ifs <;> omega
  have hmin : min m v ≠ 0 := by omega
  simp only [e, min?_filter_ne_zero_cons, hm, hv, hmin, if_false]
  cases (l.filter (· ≠ 0)).min? <;> simp only [Option.elim, min_assoc]

/-- 途中の値 `m` から始めた繰り返しは、`m` と残りの値のうちの 0 でないものの最小を残す。 -/
theorem foldl_phaseNormalStartMinStep (l : List Nat) (m : Nat) :
    l.foldl phaseNormalStartMinStep m = (((m :: l).filter (· ≠ 0)).min?).getD 0 := by
  induction l generalizing m with
  | nil => by_cases hm : m = 0 <;> simp [hm]
  | cons v l ih => rw [List.foldl_cons, ih, filter_phaseNormalStartMinStep_cons]

theorem phaseNormalStartMin_eq (starts : List Nat) :
    phaseNormalStartMin starts = ((starts.filter (· ≠ 0)).min?).getD 0 := by
  rw [phaseNormalStartMin, foldl_phaseNormalStartMinStep, min?_filter_ne_zero_cons, if_pos rfl]

theorem phase_normal_start_min_eq (starts : List Nat) (cfg : Config) (start : Nat) (s : System) :
    phaseNormalStartMin starts = ((starts.filter (· ≠ 0)).min?).getD 0 ∧
    runtimeStart cfg start s =
      ((((List.range cfg.threads).map fun i => (s.threads i).phaseNormalStart).filter (· ≠ 0)).min?).getD
        start := by
  refine ⟨phaseNormalStartMin_eq starts, ?_⟩
  unfold runtimeStart; dsimp only; rw [phaseNormalStartMin_eq]
  cases h : (((List.range cfg.threads).map fun i => (s.threads i).phaseNormalStart).filter (· ≠ 0)).min? with
  | none => rfl
  | some a =>
    have ha : a ≠ 0 := by simpa using (List.mem_filter.mp (List.min?_mem min_choice h)).2
    simp [ha]

example : phaseNormalStartMin [0, 7, 3, 0, 5] = 3 := by decide

end Wrk2
