import Wrk2.Worker.Thread

/-!
# `parse_args`

`main` が最初に呼ぶ `parse_args`（wrk.c 949-1054）を写す。`getopt_long` が返した選択肢の列と、選択肢で
ない引数の列（`argv[optind]` から後）を受け取り、`struct config` の欄、URL、`-H` の列を返すか、`-1` を
返す。`-1` なら `main` は `usage()` を出して `exit(1)` する。

`getopt_long` の返す文字は、短い形 `"t:c:i:d:s:H:T:R:LUBrWv?"` と `longopts` の表で決まる。知らない選択肢や
引数の足りない選択肢では `'?'` か `':'`、`--help` では `'h'` である。`scan_metric`、`scan_time`（units.c）と
`script_parse_url`（script.c）は src/ にないので、引数で受け取る。

受け入れた設定はワーカーの `Config` の前提（スレッドは 1 以上で接続の数以下、`--rate` は 0 でない）を
満たす（`parseArgs_valid`）。`warmup_timeout` を書く選択肢はないので、ウォームアップの制限時間はいつも
既定の式になる。
-/

namespace Wrk2

/-- `SOCKET_TIMEOUT_MS`。 -/
def socketTimeoutMs : Nat := 2000

/-- `getopt_long` が返す選択肢一つ。`c` は戻り値の文字、`arg` は `optarg`。 -/
structure Opt where
  c : Char
  arg : List Char
  deriving DecidableEq, Repr

/-- `struct config` のうち `parse_args` が書く欄と、`-H` の引数の列（`headers`）。 -/
structure Args where
  threads : Nat
  connections : Nat
  duration : Nat
  timeout : Nat
  rate : Nat
  warmupTimeout : Nat
  latency : Bool
  uLatency : Bool
  recordAllResponses : Bool
  warmup : Bool
  script : Option (List Char)
  localIp : Option (List Char)
  headers : List (List Char)
  deriving DecidableEq, Repr

/-- `parse_args` が `memset` のあとに入れる値。 -/
def Args.defaults : Args where
  threads := 2
  connections := 10
  duration := 10
  timeout := socketTimeoutMs
  rate := 0
  warmupTimeout := 0
  latency := false
  uLatency := false
  recordAllResponses := true
  warmup := false
  script := none
  localIp := none
  headers := []

/-- `parse_args` が呼ぶ、src/ にない関数。`scan_metric` と `scan_time` は失敗すれば `none`（C では 0 で
ない戻り値）、`script_parse_url` は URL を受け入れるかどうか。 -/
structure Scan where
  metric : List Char → Option Nat
  time : List Char → Option Nat
  url : List Char → Bool

/-- `parse_args` が `-1` を返す理由。 -/
inductive ArgsError
  /-- `switch` の `default`。`'h'`、`'?'`、`':'` と、短い形にあって `case` のない `'r'`。 -/
  | option (c : Char)
  /-- 選択肢 `c` の `scan_metric` か `scan_time` が失敗した。 -/
  | scan (c : Char)
  /-- URL がないか、`threads` か `duration` が 0。 -/
  | usage
  | invalidUrl (url : List Char)
  | connections
  | rate
  deriving DecidableEq, Repr

/-- `parse_args` が `-1` を返す前に `stderr` に書く文。 -/
def ArgsError.message : ArgsError → List Char
  | .invalidUrl url => "invalid URL: ".toList ++ url ++ ['\n']
  | .connections => "number of connections must be >= threads\n".toList
  | .rate => "Throughput MUST be specified with the --rate or -R option\n".toList
  | _ => []

/-- `parse_args` の `switch` の `case` の文字。`'h'`、`'?'`、`':'` は `default` に落ちる。 -/
def switchChars : List Char := "tcidsHLBUTRvW".toList

/-- `if (scan_…(optarg, &field)) return -1;`。読めた値 `n` で欄を書く。 -/
def scanInto (c : Char) (r : Option Nat) (set : Nat → Args) : Except ArgsError Args :=
  match r with
  | some n => .ok (set n)
  | none => .error (.scan c)

/-- `parse_args` の `switch` 一回。`-T` は読んだ秒を `uint64_t` の掛け算でミリ秒にする。`-v` は版を
出すだけで続ける。 -/
def parseOpt (sc : Scan) (a : Args) (o : Opt) : Except ArgsError Args :=
  match o.c with
  | 't' => scanInto 't' (sc.metric o.arg) fun n => { a with threads := n }
  | 'c' => scanInto 'c' (sc.metric o.arg) fun n => { a with connections := n }
  | 'i' => .ok { a with localIp := some o.arg }
  | 'd' => scanInto 'd' (sc.time o.arg) fun n => { a with duration := n }
  | 's' => .ok { a with script := some o.arg }
  | 'H' => .ok { a with headers := a.headers ++ [o.arg] }
  | 'L' => .ok { a with latency := true }
  | 'B' => .ok { a with recordAllResponses := false }
  | 'U' => .ok { a with latency := true, uLatency := true }
  | 'T' => scanInto 'T' (sc.time o.arg) fun n => { a with timeout := n * 1000 % 2 ^ 64 }
  | 'R' => scanInto 'R' (sc.metric o.arg) fun n => { a with rate := n }
  | 'v' => .ok a
  | 'W' => .ok { a with warmup := true }
  | c => .error (.option c)

/-- `getopt_long` の繰り返し。最初の `return -1` で止まる。 -/
def parseOpts (sc : Scan) : Args → List Opt → Except ArgsError Args
  | a, [] => .ok a
  | a, o :: os =>
    match parseOpt sc a o with
    | .ok a' => parseOpts sc a' os
    | .error e => .error e

/-- `parse_args`。受け入れれば `struct config` の欄と URL（`argv[optind]`）を返す。 -/
def parseArgs (sc : Scan) (opts : List Opt) (operands : List (List Char)) : Except ArgsError (Args × List Char) :=
  match parseOpts sc Args.defaults opts with
  | .error e => .error e
  | .ok a =>
    match operands with
    | [] => .error .usage
    | url :: _ =>
      if a.threads = 0 ∨ a.duration = 0 then .error .usage
      else if !sc.url url then .error (.invalidUrl url)
      else if a.connections = 0 ∨ a.connections < a.threads then .error .connections
      else if a.rate = 0 then .error .rate
      else .ok (a, url)

/-! ## 受け入れた設定 -/

/-- `parse_args` が受け入れた設定の性質。ワーカーの `Config` が前提とするもの。 -/
structure Args.Valid (a : Args) : Prop where
  threads_pos : 0 < a.threads
  duration_pos : 0 < a.duration
  threads_le : a.threads ≤ a.connections
  rate_pos : 0 < a.rate

/-- `main` がワーカーに渡す設定。パイプラインの深さ、動的かどうか、応答を求めるかどうか、静的な要求は
台本が決める（最初のスレッドの `script_verify_request`、`script_is_static`、`script_want_response`、
`script_request`）。 -/
def Args.config (a : Args) (h : a.Valid) (pipeline : Nat) (hp : 0 < pipeline) (dynamic wantResponse : Bool)
    (request : Bytes) : Config where
  threads := a.threads
  connections := a.connections
  duration := a.duration
  pipeline := pipeline
  rate := a.rate
  warmup := a.warmup
  warmupTimeout := a.warmupTimeout
  dynamic := dynamic
  recordAllResponses := a.recordAllResponses
  wantResponse := wantResponse
  request := request
  threads_pos := h.threads_pos
  threads_le := h.threads_le
  rate_pos := h.rate_pos
  pipeline_pos := hp

section Parse

variable {sc : Scan} {a a' b : Args} {o : Opt} {os : List Opt}

theorem scanInto_ok {c : Char} {r : Option Nat} {set : Nat → Args} (h : scanInto c r set = .ok a') :
    ∃ n, r = some n ∧ a' = set n := by
  unfold scanInto at h; split at h
  · cases h; exact ⟨_, rfl, rfl⟩
  · cases h

/-- 選択肢の一回が受け入れられれば、文字は `case` のどれかで、`warmup_timeout` は変わらず、`rate` を
書くのは `-R` だけ、`-H` は列の最後に足し、四つの旗はそれぞれの選択肢でだけ変わる。 -/
theorem parseOpt_ok (h : parseOpt sc a o = .ok a') :
    o.c ∈ switchChars ∧ a'.warmupTimeout = a.warmupTimeout ∧ (o.c ≠ 'R' → a'.rate = a.rate) ∧
      a'.headers = a.headers ++ (if o.c = 'H' then [o.arg] else []) ∧
      a'.latency = (a.latency || o.c == 'L' || o.c == 'U') ∧ a'.uLatency = (a.uLatency || o.c == 'U') ∧
      a'.warmup = (a.warmup || o.c == 'W') ∧ a'.recordAllResponses = (a.recordAllResponses && o.c != 'B') := by
  unfold parseOpt at h
  split at h <;> rename_i e <;> first
    | (obtain ⟨n, -, rfl⟩ := scanInto_ok h; simp [e, switchChars])
    | (cases h <;> simp [e, switchChars])

/-- 繰り返しの一回で保たれる性質は、繰り返し全体で保たれる。 -/
theorem parseOpts_inv (P : Args → Prop) :
    ∀ (os : List Opt), (∀ a, ∀ o ∈ os, ∀ a', P a → parseOpt sc a o = .ok a' → P a') →
      ∀ {a b : Args}, P a → parseOpts sc a os = .ok b → P b
  | [], _, _, _, ha, h => by cases h; exact ha
  | o :: os, hs, a, _, ha, h => by
    unfold parseOpts at h; split at h
    · exact parseOpts_inv P os (fun a o' ho => hs a o' (.tail _ ho)) (hs a o (.head _) _ ha ‹_›) h
    · cases h

/-- 受け入れた繰り返しの選択肢は、どれも `case` のある文字である。 -/
theorem parseOpts_switchChars : ∀ (os : List Opt) {a b : Args}, parseOpts sc a os = .ok b → ∀ o ∈ os, o.c ∈ switchChars
  | [], _, _, _, _, ho => absurd ho (List.not_mem_nil _)
  | o :: os, a, _, h, o', ho => by
    unfold parseOpts at h; split at h
    · rcases List.mem_cons.mp ho with rfl | ho
      exacts [(parseOpt_ok ‹_›).1, parseOpts_switchChars os h o' ho]
    · cases h

/-- `-H` の引数は、選択肢の順に列の後ろに足される。 -/
theorem parseOpts_headers : ∀ (os : List Opt) {a b : Args}, parseOpts sc a os = .ok b →
    b.headers = a.headers ++ (os.filter (·.c = 'H')).map (·.arg)
  | [], _, _, h => by cases h; simp
  | o :: os, a, _, h => by
    unfold parseOpts at h; split at h
    · rw [parseOpts_headers os h, (parseOpt_ok ‹_›).2.2.2.1, List.filter_cons]
      by_cases hc : o.c = 'H' <;> simp [hc]
    · cases h

/-- 受け入れた設定は、選択肢の繰り返しが受け入れた設定で、URL を持つ。 -/
theorem parseArgs_ok {opts : List Opt} {operands : List (List Char)} {url : List Char}
    (h : parseArgs sc opts operands = .ok (a, url)) :
    parseOpts sc Args.defaults opts = .ok a ∧ a.Valid ∧ sc.url url = true ∧ operands.head? = some url := by
  unfold parseArgs at h
  split at h
  · cases h
  · rename_i a₀ ho
    split at h
    · cases h
    · split_ifs at h with h₁ h₂ h₃ h₄
      cases h
      simp only [not_or, Bool.not_eq_true', Bool.not_eq_false] at h₁ h₂ h₃ h₄
      exact ⟨ho, ⟨Nat.pos_of_ne_zero h₁.1, Nat.pos_of_ne_zero h₁.2, Nat.le_of_not_lt h₃.2,
        Nat.pos_of_ne_zero h₄⟩, h₂, rfl⟩

theorem parseArgs_valid {opts : List Opt} {operands : List (List Char)} {url : List Char}
    (h : parseArgs sc opts operands = .ok (a, url)) : a.Valid :=
  (parseArgs_ok h).2.1

/-- 四つの旗は、繰り返しのどこかにその選択肢があれば立ち（`-B` は倒し）、ほかの選択肢では変わらない。 -/
theorem parseOpts_flags : ∀ (os : List Opt) {a b : Args}, parseOpts sc a os = .ok b →
    b.latency = (a.latency || os.any fun o => o.c == 'L' || o.c == 'U') ∧
      b.uLatency = (a.uLatency || os.any (·.c == 'U')) ∧ b.warmup = (a.warmup || os.any (·.c == 'W')) ∧
      b.recordAllResponses = (a.recordAllResponses && !os.any (·.c == 'B'))
  | [], _, _, h => by cases h; simp
  | o :: os, a, _, h => by
    unfold parseOpts at h; split at h
    · obtain ⟨-, -, -, -, h₁, h₂, h₃, h₄⟩ := parseOpt_ok ‹_›
      obtain ⟨e₁, e₂, e₃, e₄⟩ := parseOpts_flags os h
      simp only [e₁, e₂, e₃, e₄, h₁, h₂, h₃, h₄, List.any_cons, Bool.or_assoc, Bool.and_assoc, bne, Bool.not_or,
        and_self]
    · cases h

/-- `parse_args` の、選択肢の繰り返しのあとの拒否。どれも、外れた検査と、`stderr` に書く文を持つ。 -/
theorem parseArgs_error {opts : List Opt} {url : List Char} {rest : List (List Char)} {e : ArgsError}
    (ho : parseOpts sc Args.defaults opts = .ok a) (h : parseArgs sc opts (url :: rest) = .error e) :
    (e = .usage ∧ (a.threads = 0 ∨ a.duration = 0) ∧ e.message = []) ∨
    (e = .invalidUrl url ∧ sc.url url = false ∧ e.message = "invalid URL: ".toList ++ url ++ ['\n']) ∨
    (e = .connections ∧ (a.connections = 0 ∨ a.connections < a.threads) ∧
      e.message = "number of connections must be >= threads\n".toList) ∨
    (e = .rate ∧ a.rate = 0 ∧ e.message = "Throughput MUST be specified with the --rate or -R option\n".toList) := by
  unfold parseArgs at h; rw [ho] at h; dsimp only at h
  split_ifs at h with h₁ h₂ h₃ h₄ <;> cases h
  · exact .inl ⟨rfl, h₁, rfl⟩
  · exact .inr (.inl ⟨rfl, by simpa using h₂, rfl⟩)
  · exact .inr (.inr (.inl ⟨rfl, h₃, rfl⟩))
  · exact .inr (.inr (.inr ⟨rfl, h₄, rfl⟩))

end Parse

/-! ## 受け入れと拒否 -/

section Results

variable {sc : Scan} {opts : List Opt} {operands : List (List Char)} {a : Args} {url : List Char}

/-- 試す `scan_metric` と `scan_time`。十進の数字の列だけを読む。 -/
def decimal (s : List Char) : Option Nat :=
  if s ≠ [] ∧ s.all Char.isDigit then some (s.foldl (fun n d => 10 * n + (d.toNat - '0'.toNat)) 0) else none

/-- 試す `Scan`。URL はどれも受け入れる。 -/
def decimalScan : Scan := ⟨decimal, decimal, fun _ => true⟩

/-- `-t 2 -c 4 -d 2 -R 200 -U -H a -W -H b`。 -/
def sampleOpts : List Opt :=
  [⟨'t', ['2']⟩, ⟨'c', ['4']⟩, ⟨'d', ['2']⟩, ⟨'R', ['2', '0', '0']⟩, ⟨'U', []⟩, ⟨'H', ['a']⟩, ⟨'W', []⟩,
    ⟨'H', ['b']⟩]

example : (parseArgs decimalScan sampleOpts [['u']]).map (fun r => (r.1.threads, r.1.connections, r.1.rate,
    r.1.latency, r.1.recordAllResponses, r.1.headers)) = .ok (2, 4, 200, true, true, [['a'], ['b']]) := rfl

/-- 受け入れたコマンド行では、スレッドと長さは 1 以上、接続の数はスレッドの数以上、`--rate` は 0 でなく、
各スレッドに少なくとも一つの接続がある。URL は最初の選択肢でない引数で、`script_parse_url` が受け入れた
ものである。 -/
theorem accepted_args_valid (h : parseArgs sc opts operands = .ok (a, url)) :
    0 < a.threads ∧ 0 < a.duration ∧ a.threads ≤ a.connections ∧ 0 < a.rate ∧ 0 < a.connections / a.threads ∧
      sc.url url = true ∧ operands.head? = some url := by
  obtain ⟨-, hv, hu, ho⟩ := parseArgs_ok h
  exact ⟨hv.threads_pos, hv.duration_pos, hv.threads_le, hv.rate_pos, Nat.div_pos hv.threads_le hv.threads_pos,
    hu, ho⟩

/-- `-R` のないコマンド行は、ほかに何があっても受け入れられない。`rate` は既定の 0 のままである。 -/
theorem missing_rate_rejected (hR : ∀ o ∈ opts, o.c ≠ 'R') : ∃ e, parseArgs sc opts operands = .error e := by
  cases h : parseArgs sc opts operands with
  | error e => exact ⟨e, rfl⟩
  | ok r =>
    obtain ⟨ho, hv, -⟩ := parseArgs_ok h
    have h₀ : r.1.rate = 0 :=
      parseOpts_inv (·.rate = 0) opts (fun _ o hm _ hb hs => ((parseOpt_ok hs).2.2.1 (hR o hm)).trans hb) rfl ho
    exact absurd hv.rate_pos (by omega)

theorem missing_rate_rejected_sample :
    (∀ o ∈ sampleOpts.filter (·.c ≠ 'R'), o.c ≠ 'R') ∧
      ∃ e, parseArgs decimalScan (sampleOpts.filter (·.c ≠ 'R')) [['u']] = .error e :=
  ⟨by decide, missing_rate_rejected (by decide)⟩

/-- `case` のない文字の選択肢（`--help` の `'h'`、知らない選択肢の `'?'`、短い形にあって `case` のない
`-r` など）を含むコマンド行は、それがどこにあっても受け入れられない。 -/
theorem unhandled_option_rejected {o : Opt} (ho : o ∈ opts) (hc : o.c ∉ switchChars) :
    ∃ e, parseArgs sc opts operands = .error e := by
  cases h : parseArgs sc opts operands with
  | error e => exact ⟨e, rfl⟩
  | ok r => exact absurd (parseOpts_switchChars opts (parseArgs_ok h).1 o ho) hc

theorem unhandled_option_rejected_r :
    ⟨'r', []⟩ ∈ sampleOpts ++ [⟨'r', []⟩] ∧ 'r' ∉ switchChars ∧
      ∃ e, parseArgs decimalScan (sampleOpts ++ [⟨'r', []⟩]) [['u']] = .error e :=
  ⟨by decide, by decide, unhandled_option_rejected (o := ⟨'r', []⟩) (by decide) (by decide)⟩

/-- 受け入れたどのコマンド行でも `warmup_timeout` は 0 のままなので（書く選択肢がない）、ワーカーの
ウォームアップの制限時間は既定の `max(connections · 600000 / 350000, 1000)` ミリ秒である。 -/
theorem warmup_timeout_always_default (h : parseArgs sc opts operands = .ok (a, url)) (pipeline : Nat)
    (hp : 0 < pipeline) (dynamic wantResponse : Bool) (request : Bytes) :
    (a.config (parseArgs_valid h) pipeline hp dynamic wantResponse request).warmupTimeoutMs =
      max (a.connections * 600000 / 350000) 1000 := by
  have h₀ : a.warmupTimeout = 0 :=
    parseOpts_inv (·.warmupTimeout = 0) opts (fun _ _ _ _ hb hs => (parseOpt_ok hs).2.1.trans hb) rfl
      (parseArgs_ok h).1
  simp [Config.warmupTimeoutMs, Args.config, h₀]

theorem warmup_timeout_always_default_sample :
    ∃ a, ∃ h : parseArgs decimalScan sampleOpts [['u']] = .ok (a, ['u']),
      (a.config (parseArgs_valid h) 1 Nat.one_pos false false []).warmupTimeoutMs =
        max (a.connections * 600000 / 350000) 1000 := by
  have h : parseArgs decimalScan sampleOpts [['u']] = .ok (_, ['u']) := rfl
  exact ⟨_, h, warmup_timeout_always_default h 1 Nat.one_pos false false []⟩

/-- 受け入れたコマンド行の四つの旗は、選択肢の数や位置によらず、その選択肢があるかどうかだけで決まる。
`-U` は `-L` も立て、`-B` は全応答の記録を倒す。 -/
theorem accepted_flags (h : parseArgs sc opts operands = .ok (a, url)) :
    a.latency = opts.any (fun o => o.c == 'L' || o.c == 'U') ∧ a.uLatency = opts.any (·.c == 'U') ∧
      a.warmup = opts.any (·.c == 'W') ∧ a.recordAllResponses = !opts.any (·.c == 'B') := by
  simpa [Args.defaults] using parseOpts_flags opts (parseArgs_ok h).1

theorem accepted_flags_sample :
    ∃ a, parseArgs decimalScan sampleOpts [['u']] = .ok (a, ['u']) ∧
      a.latency = sampleOpts.any (fun o => o.c == 'L' || o.c == 'U') ∧ a.uLatency = sampleOpts.any (·.c == 'U') ∧
      a.warmup = sampleOpts.any (·.c == 'W') ∧ a.recordAllResponses = !sampleOpts.any (·.c == 'B') := by
  have h : parseArgs decimalScan sampleOpts [['u']] = .ok (_, ['u']) := rfl
  exact ⟨_, h, accepted_flags h⟩

/-- 受け入れたコマンド行の `-H` の引数は、コマンド行の順にすべて `headers` に並ぶ。 -/
theorem accepted_headers_in_order (h : parseArgs sc opts operands = .ok (a, url)) :
    a.headers = (opts.filter (·.c = 'H')).map (·.arg) := by
  simpa [Args.defaults] using parseOpts_headers opts (parseArgs_ok h).1

theorem accepted_headers_in_order_sample :
    ∃ a, parseArgs decimalScan sampleOpts [['u']] = .ok (a, ['u']) ∧
      a.headers = (sampleOpts.filter (·.c = 'H')).map (·.arg) := by
  have h : parseArgs decimalScan sampleOpts [['u']] = .ok (_, ['u']) := rfl
  exact ⟨_, h, accepted_headers_in_order h⟩

end Results

end Wrk2
