import Wrk2.Worker.Lemmas.Frame

/-!
# 台本へ渡す応答

台本が応答を求めるとき（`want_response`）、パーサーはヘッダーの名前と値と本文を断片ごとにコールバックへ
渡す。`header_field` と `header_value` は `state` を見て名前と値の境に `'\0'` を書き、`response_complete`
は最後の値のあとに `'\0'` を書いて `script_response` に渡し、二つのバッファを空にして `state` を
`FIELD` に戻す（wrk.c 617-641、694-781）。

接続一つについて、この道の値（`state`、二つのバッファ、台本が受け取った応答）を `Channel` とし、
コールバック一つがそこに書くことを `Channel.feed` に書く。モデルのコールバックはこの機械を写し
（`channel_parserCallback`）、`response_complete` のほかの仕事（数え上げ、記録、つなぎ直し、`aeStop`）は
道に触れない。道を書く基本の書き換えは `ConnKind.parse` だけで、台本が受け取った応答を書くのは
`Part.delivered` を書く範囲だけなので、それらを書かない書き換えは `Ctx.Acts` の枠から道を保つ
（`Ctx.Acts.channel`）。

台本が受け取るべきものは `Response.script` で、ヘッダーは名前と値を順に `'\0'` で区切り、最後にも
`'\0'` を置いたものである。バッファが空で `FIELD` にある道に応答をいくつ続けて流しても、台本はそれぞれを
この形で順に受け取り、道はまた空の `FIELD` に戻る（`Channel.foldl_feed_responses`）。
-/

namespace Wrk2

/-! ## 応答と、台本が受け取るもの -/

/-- ヘッダーの名前か値を、パーサーが渡す断片の列。一つの名前や値について少なくとも一度は呼ぶ。 -/
structure Pieces where
  pieces : List Bytes
  ne_nil : pieces ≠ []

/-- 断片をつないだ名前か値。 -/
def Pieces.bytes (p : Pieces) : Bytes := p.pieces.flatten

/-- ヘッダーの列についてパーサーが呼ぶコールバック。 -/
def headerEvents (hs : List (Pieces × Pieces)) : List ParserEvent :=
  hs.flatMap fun h => h.1.pieces.map .headerField ++ h.2.pieces.map .headerValue

/-- ヘッダーの名前と値を順に並べたもの。 -/
def headerFields (hs : List (Pieces × Pieces)) : List Bytes := hs.flatMap fun h => [h.1.bytes, h.2.bytes]

/-- パーサーが応答一つについて報告すること: ヘッダーごとの名前と値、本文の断片、状態、
`http_should_keep_alive` の値。 -/
structure Response where
  headers : List (Pieces × Pieces)
  body : List Bytes
  status : Nat
  keepAlive : Bool

/-- `http_parser_execute` が応答 `r` について呼ぶコールバックの列。 -/
def Response.events (r : Response) : List ParserEvent :=
  headerEvents r.headers ++ r.body.map .body ++ [.messageComplete r.status r.keepAlive]

/-- 台本の `response(status, headers, body)` が受け取るもの。ヘッダーは名前と値を `'\0'` で区切り、
最後にも `'\0'` を置く。 -/
def Response.script (r : Response) : Nat × Bytes × Bytes :=
  (r.status, [0].intercalate (headerFields r.headers) ++ [0], r.body.flatten)

theorem Buffer.foldl_append_some (l : Bytes) (ps : List Bytes) :
    ps.foldl Buffer.append (some l) = some (l ++ ps.flatten) := by
  induction ps generalizing l with
  | nil => simp
  | cons d ps ih => simp [Buffer.append, ih]

theorem Buffer.getD_foldl_append (b : Buffer) (ps : List Bytes) :
    (ps.foldl Buffer.append b).getD [] = b.getD [] ++ ps.flatten := by
  cases ps with
  | nil => simp
  | cons d ps => simp [Buffer.append, Buffer.foldl_append_some]

theorem Buffer.getD_reset (b : Buffer) : b.reset.getD [] = [] := by
  cases b <;> rfl

/-! ## 道 -/

/-- 接続一つの、パーサーから台本への道: ヘッダーの読み位置、ヘッダーと本文のバッファ、スレッドの台本が
受け取った応答（新しいものが先頭）。 -/
structure Channel where
  state : HeaderState
  headers : Buffer
  body : Buffer
  delivered : List (Nat × Bytes × Bytes)

/-- 接続 `i` の道。 -/
def Ctx.channel (x : Ctx) (i : Nat) : Channel :=
  ⟨(x.conn i).state, (x.conn i).headers, (x.conn i).body, x.th.delivered⟩

namespace Channel

/-- パーサーのコールバック一つが道に書くこと。 -/
def feed (ch : Channel) : ParserEvent → Channel
  | .headerField d =>
    { ch with
      headers := (if ch.state = .value then ch.headers.append [0] else ch.headers).append d
      state := .field }
  | .headerValue d =>
    { ch with
      headers := (if ch.state = .field then ch.headers.append [0] else ch.headers).append d
      state := .value }
  | .body d => { ch with body := ch.body.append d }
  | .messageComplete st _ =>
    if ch.headers.isSome then
      ⟨.field, some [], ch.body.reset, (st, ch.headers.getD [] ++ [0], ch.body.getD []) :: ch.delivered⟩
    else ch

/-- 応答の始まりに望まれる道: `FIELD` にあり、二つのバッファが空。 -/
def Fresh (ch : Channel) : Prop := ch.state = .field ∧ ch.headers.getD [] = [] ∧ ch.body.getD [] = []

instance (ch : Channel) : Decidable ch.Fresh := inferInstanceAs (Decidable (_ ∧ _ ∧ _))

variable {ch : Channel}

/-! ## 断片の列 -/

theorem foldl_feed_headerField (ps : List Bytes) (hs : ch.state = .field) :
    (ps.map .headerField).foldl feed ch = { ch with headers := ps.foldl Buffer.append ch.headers } := by
  induction ps generalizing ch with
  | nil => rfl
  | cons d ps ih => simp only [List.map_cons, List.foldl_cons, feed, hs, if_true]; exact ih rfl

theorem foldl_feed_headerValue (ps : List Bytes) (hs : ch.state = .value) :
    (ps.map .headerValue).foldl feed ch = { ch with headers := ps.foldl Buffer.append ch.headers } := by
  induction ps generalizing ch with
  | nil => rfl
  | cons d ps ih => simp only [List.map_cons, List.foldl_cons, feed, hs, if_true]; exact ih rfl

theorem foldl_feed_body (bs : List Bytes) :
    (bs.map .body).foldl feed ch = { ch with body := bs.foldl Buffer.append ch.body } := by
  induction bs generalizing ch with
  | nil => rfl
  | cons d bs ih => simp only [List.map_cons, List.foldl_cons, feed, ih]

/-- ヘッダー一つ。名前の前には、値のあとなら `'\0'` を置き、名前と値の間に `'\0'` を置く。 -/
theorem foldl_feed_header (h : Pieces × Pieces) :
    (headerEvents [h]).foldl feed ch =
      { ch with
        headers := some (ch.headers.getD [] ++ (if ch.state = .value then [0] else []) ++ (h.1.bytes ++ 0 :: h.2.bytes))
        state := .value } := by
  obtain ⟨⟨_ | ⟨d, ps⟩, hn⟩, ⟨_ | ⟨e, qs⟩, hv⟩⟩ := h
  · exact absurd rfl hn
  · exact absurd rfl hn
  · exact absurd rfl hv
  simp only [headerEvents, List.flatMap_cons, List.flatMap_nil, List.append_nil, List.foldl_append,
    List.map_cons, List.foldl_cons]
  rw [foldl_feed_headerField _ rfl, foldl_feed_headerValue _ rfl]
  cases hs : ch.state <;> simp [feed, hs, Buffer.append, Buffer.foldl_append_some, Pieces.bytes]

/-- ヘッダーの列。名前と値は `'\0'` で区切られて並ぶ。 -/
theorem foldl_feed_headers (h : Pieces × Pieces) (hs : List (Pieces × Pieces)) :
    (headerEvents (h :: hs)).foldl feed ch =
      { ch with
        headers := some (ch.headers.getD [] ++ (if ch.state = .value then [0] else []) ++
          [0].intercalate (headerFields (h :: hs)))
        state := .value } := by
  induction hs generalizing ch h with
  | nil => rw [foldl_feed_header]; simp [headerFields, List.intercalate]
  | cons h' hs ih =>
    have he : headerEvents (h :: h' :: hs) = headerEvents [h] ++ headerEvents (h' :: hs) := by
      simp [headerEvents]
    rw [he, List.foldl_append, ih, foldl_feed_header]
    simp [headerFields, List.intercalate]

/-! ## 応答 -/

/-- 空の `FIELD` にある道に応答一つを流すと、台本は `Response.script` を受け取り、ヘッダーのバッファは
空になる。ヘッダーのバッファがまだなく、応答にヘッダーもなければ、`c->headers.buffer` は `NULL` のままで
台本は呼ばれないので、そうでないことを仮定する。 -/
theorem foldl_feed_response (r : Response) (hf : ch.Fresh) (hd : ch.headers.isSome ∨ r.headers ≠ []) :
    r.events.foldl feed ch =
      ⟨.field, some [], (r.body.foldl Buffer.append ch.body).reset, r.script :: ch.delivered⟩ := by
  obtain ⟨hs, hh, hb⟩ := hf
  have hc (c : Channel) (h₁ : c.headers = some ([0].intercalate (headerFields r.headers))) (h₂ : c.body = ch.body)
      (h₃ : c.delivered = ch.delivered) :
      (r.body.map ParserEvent.body ++ [ParserEvent.messageComplete r.status r.keepAlive]).foldl feed c =
        ⟨.field, some [], (r.body.foldl Buffer.append ch.body).reset, r.script :: ch.delivered⟩ := by
    rw [List.foldl_append, foldl_feed_body]
    simp [feed, h₁, h₂, h₃, Response.script, Buffer.getD_foldl_append, hb]
  rw [Response.events, List.append_assoc, List.foldl_append]
  cases hr : r.headers with
  | nil =>
    have hl : ch.headers = some [] := by cases h : ch.headers <;> simp_all
    exact hc ch (by rw [hl, hr]; rfl) rfl rfl
  | cons h hs' => rw [headerEvents, ← headerEvents, foldl_feed_headers]; exact hc _ (by simp [hs, hh, hr]) rfl rfl

/-- 応答をいくつ続けて流しても、台本はそれぞれの `Response.script` を順に受け取り、道はまた空の `FIELD`
に戻る。 -/
theorem foldl_feed_responses (rs : List Response) (hf : ch.Fresh)
    (hd : ch.headers.isSome ∨ ∀ r ∈ rs, r.headers ≠ []) :
    ((rs.flatMap Response.events).foldl feed ch).delivered = (rs.map Response.script).reverse ++ ch.delivered ∧
      ((rs.flatMap Response.events).foldl feed ch).Fresh := by
  induction rs generalizing ch with
  | nil => exact ⟨rfl, hf⟩
  | cons r rs ih =>
    rw [List.flatMap_cons, List.foldl_append, foldl_feed_response r hf (hd.imp_right (· r (.head _)))]
    obtain ⟨h₁, h₂⟩ := @ih ⟨.field, some [], (r.body.foldl Buffer.append ch.body).reset, r.script :: ch.delivered⟩
      ⟨rfl, rfl, Buffer.getD_reset _⟩ (.inl rfl)
    exact ⟨by rw [h₁]; simp, h₂⟩

end Channel

/-! ## コールバックとの対応 -/

variable {cfg : Config} {x : Ctx} {i j : Nat}

/-- 読み位置と二つのバッファを変えない、接続の書き換え。 -/
@[simp] theorem channel_modifyConn (f : Connection → Connection)
    (hf : ∀ c, (f c).state = c.state ∧ (f c).headers = c.headers ∧ (f c).body = c.body) :
    (x.modifyConn i f).channel j = x.channel j := by
  by_cases h : j = i
  · subst h; obtain ⟨h₁, h₂, h₃⟩ := hf (x.conn j)
    simp only [Ctx.channel, Ctx.conn_modifyConn, if_true, h₁, h₂, h₃]; rfl
  · simp only [Ctx.channel, Ctx.conn_modifyConn, if_neg h]; rfl

theorem cs_modifyConn (f : Connection → Connection) :
    (x.modifyConn i f).th.cs j = if j = i then f (x.conn i) else x.conn j :=
  Ctx.conn_modifyConn x i j f

theorem modifyConn_delivered (f : Connection → Connection) : (x.modifyConn i f).th.delivered = x.th.delivered :=
  rfl

@[simp] theorem channel_modifyLoop (f : Loop → Loop) : (x.modifyLoop f).channel j = x.channel j := rfl

@[simp] theorem channel_modifyErrors (f : Errors → Errors) : (x.modifyErrors f).channel j = x.channel j := rfl

@[simp] theorem channel_modifyOs (f : Os → Os) : (x.modifyOs f).channel j = x.channel j := rfl

@[simp] theorem channel_dropDial : x.dropDial.channel j = x.channel j := rfl

/-- パーサーのほかの基本の書き換えは、読み位置と二つのバッファを変えない。 -/
theorem ConnStep.buffers_eq {now : Nat} {k : ConnKind} {c c' : Connection} (h : ConnStep cfg now k c c')
    (hk : k ≠ .parse) : (c'.state, c'.headers, c'.body) = (c.state, c.headers, c.body) := by
  cases h
  case parse => exact absurd rfl hk
  case pacer =>
    exact usecToNextSend_snd_of (fun c' => (c'.state, c'.headers, c'.body) = (c.state, c.headers, c.body))
      fun _ _ _ => rfl
  all_goals rfl

/-- 道を書かない書き換えは、道を変えない。 -/
theorem Ctx.Acts.channel {ω : Writes} {pc pd : Nat → Prop} {pf : FileProc → Prop} {pt : TimeProc → Prop}
    {y : Ctx} (h : Ctx.Acts cfg ω pc pf pd pt x y) (hk : .parse ∉ ω.kinds) (hd : .delivered ∉ ω.parts) (j : Nat) :
    y.channel j = x.channel j := by
  have e := h.conn_keep_of_not_mem _ ConnStep.buffers_eq hk j
  simp only [Prod.mk.injEq] at e
  simp only [Ctx.channel, e.1, e.2.1, e.2.2, show y.th.delivered = x.th.delivered from h.frame _ hd]

/-- `response_complete` の、台本に渡す部分。 -/
theorem channel_deliverResponse (st : Nat) (ka : Bool) :
    (deliverResponse i st x).channel i = (x.channel i).feed (.messageComplete st ka) := by
  unfold deliverResponse scriptResponse
  split_ifs with h
  · simp [Ctx.channel, Channel.feed, h, Buffer.append, Buffer.reset, cs_modifyConn, modifyConn_delivered]
  · simp [Ctx.channel, Channel.feed, h]

/-- `response_complete` が道に書くのは、台本へ渡すことだけである。数え上げ、記録、つなぎ直し、`aeStop` は
道に触れない。 -/
theorem channel_responseComplete (st : Nat) (ka : Bool) :
    (responseComplete cfg i st ka x).channel i = (x.channel i).feed (.messageComplete st ka) := by
  have h := channel_deliverResponse (i := i) (x := countResponse st x) st ka
  have hr : ∀ y : Ctx, (recordResponse cfg i y).channel i = y.channel i := fun _ =>
    (acts_recordResponse (.refl _) trivial trivial trivial : Ctx.Within cfg Writes.record _ _).channel (by decide)
      (by decide) i
  unfold responseComplete; dsimp only; split_ifs
  · exact h
  · exact (hr _).trans h
  · exact ((acts_reconnectSocket (.refl _) trivial trivial trivial : Ctx.Within cfg Writes.reconnect _ _).channel
      (by decide) (by decide) i).trans ((hr _).trans h)

/-- 台本が応答を求めるとき、パーサーのコールバック一つは接続の道を `Channel.feed` のとおりに書く。 -/
theorem channel_parserCallback (hw : cfg.wantResponse = true) (e : ParserEvent) :
    (parserCallback cfg i x e).channel i = (x.channel i).feed e := by
  cases e with
  | headerField d =>
    simp [parserCallback, hw, headerField, Ctx.channel, Channel.feed, cs_modifyConn, modifyConn_delivered]
  | headerValue d =>
    simp [parserCallback, hw, headerValue, Ctx.channel, Channel.feed, cs_modifyConn, modifyConn_delivered]
  | body d => simp [parserCallback, hw, responseBody, Ctx.channel, Channel.feed, cs_modifyConn, modifyConn_delivered]
  | messageComplete st ka => exact channel_responseComplete st ka

theorem channel_foldl_parserCallback (hw : cfg.wantResponse = true) (es : List ParserEvent) :
    (es.foldl (parserCallback cfg i) x).channel i = es.foldl Channel.feed (x.channel i) := by
  induction es generalizing x with
  | nil => rfl
  | cons e es ih => rw [List.foldl_cons, List.foldl_cons, ih, channel_parserCallback hw]

end Wrk2
