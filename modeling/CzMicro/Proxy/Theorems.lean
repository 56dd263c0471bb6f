import CzMicro.Cmd.Setup

/-!
# プロキシの選択の定理

宛先 `E` が空でなければ、宛先の `switch` が `Protocol` を上書きするので、選択は `--protocol` に
よらない。空なら `--protocol` が（なければ既定の `grpc` が）選ぶ。`grpc://` は取り除かれるので、
宛先がちょうど `grpc://` なら固定の宛先は空になる。
-/

namespace CzMicro.Proxy
open Cli Strings Cmd

section
variable {e p : String}

theorem pinEndpoint_grpc (h : hasPrefix e "grpc://" = true) :
    pinEndpoint e p = ([.withEndpoint (trimPrefix e "grpc://")], "grpc") := by
  have : e ≠ "" := by rintro rfl; exact absurd h (by decide)
  simp [pinEndpoint, h, length_pos_iff.mpr this]

theorem pinEndpoint_http (hg : hasPrefix e "grpc://" = false) (h : hasPrefix e "http://" = true) :
    pinEndpoint e p = ([.withEndpoint e], "http") := by
  have : e ≠ "" := by rintro rfl; exact absurd h (by decide)
  simp [pinEndpoint, hg, h, length_pos_iff.mpr this]

theorem pinEndpoint_other (hg : hasPrefix e "grpc://" = false) (hh : hasPrefix e "http://" = false)
    (he : e ≠ "") : pinEndpoint e p = ([.withEndpoint e], "mucp") := by
  simp [pinEndpoint, hg, hh, length_pos_iff.mpr he]

@[simp] theorem pinEndpoint_empty : pinEndpoint "" p = ([], p) := rfl

/-- 空でない宛先では、`Protocol` の元の値は何も変えない。 -/
theorem pinEndpoint_of_ne (he : e ≠ "") (q : String) : pinEndpoint e p = pinEndpoint e q := by
  simp [pinEndpoint, length_pos_iff.mpr he]

end

/-- 開始時の変数から `configure` した宛先と `Protocol`。 -/
theorem configure_endpoint_protocol (gctx ctx : Context) (g : Globals) (hg : g.proxy = Vars.init) :
    (configure ctx (before gctx g).proxy).endpoint = ctx.string "endpoint" ∧
    (configure ctx (before gctx g).proxy).protocol = ctx.override "protocol" "grpc" := by
  simp [configure, hg, Vars.init]

/-- 開始時の変数から `configure` した後の選択は、宛先と `--protocol`（既定は `grpc`）で決まる。 -/
theorem select_configure (gctx ctx : Context) (web : WebVars) (r : String) :
    select (configure ctx (before gctx (Globals.init web r)).proxy) =
      let (pinned, protocol) := pinEndpoint (ctx.string "endpoint") (ctx.override "protocol" "grpc")
      selectProtocol ([.withRouter] ++ pinned) protocol := by
  obtain ⟨h1, h2⟩ := configure_endpoint_protocol gctx ctx (Globals.init web r) rfl
  simp only [select, h1, h2]

theorem selectProtocol_eq (l : List ProxyOption) (q : String) :
    selectProtocol l q = if q = "http" then ⟨.http, l, .default⟩
      else if q = "mucp" then ⟨.mucp, l ++ [.withClient], .default⟩ else ⟨.mucp, l, .grpc⟩ := by
  unfold selectProtocol
  split <;> simp_all

theorem trimPrefix_grpc_eq_empty {e : String} (h : hasPrefix e "grpc://" = true) :
    trimPrefix e "grpc://" = "" ↔ e = "grpc://" := by
  obtain ⟨t, rfl⟩ := hasPrefix_iff_exists.mp h
  simp [String.ext_iff]

/-- 宛先 `E` と `--protocol` の値 `P` からの選択。`grpc://` で始まる `E` は取り除いた残りに固定して
gRPC のサーバーの上の mucp のプロキシ、`http://` で始まる `E` はそのまま固定して http のプロキシ、
他の空でない `E` はそのまま固定して mucp の client を持つ mucp のプロキシになる。`E` が空なら
固定せず、`P` が選ぶ。空でない `E` では選択は `P` によらず、固定の宛先が空になるのは `E` が
ちょうど `grpc://` のときに限る。 -/
theorem select_by_endpoint (gctx ctx : Context) (web : WebVars) (r : String) :
    let v := configure ctx (before gctx (Globals.init web r)).proxy
    let e := ctx.string "endpoint"
    let p := ctx.string "protocol"
    (hasPrefix e "grpc://" = true →
      select v = ⟨.mucp, [.withRouter, .withEndpoint (trimPrefix e "grpc://")], .grpc⟩) ∧
    (hasPrefix e "grpc://" = false → hasPrefix e "http://" = true →
      select v = ⟨.http, [.withRouter, .withEndpoint e], .default⟩) ∧
    (hasPrefix e "grpc://" = false → hasPrefix e "http://" = false → e ≠ "" →
      select v = ⟨.mucp, [.withRouter, .withEndpoint e, .withClient], .default⟩) ∧
    (e = "" → select v = if p = "http" then ⟨.http, [.withRouter], .default⟩
      else if p = "mucp" then ⟨.mucp, [.withRouter, .withClient], .default⟩
      else ⟨.mucp, [.withRouter], .grpc⟩) ∧
    (e ≠ "" → ∀ ctx' : Context, ctx'.string "endpoint" = e →
      select (configure ctx' (before gctx (Globals.init web r)).proxy) = select v) ∧
    (e ≠ "" → ∃ ep, .withEndpoint ep ∈ (select v).popts ∧ (ep = "" ↔ e = "grpc://")) := by
  intro v e p
  have hgrpc : hasPrefix e "grpc://" = true → select v =
      ⟨.mucp, [.withRouter, .withEndpoint (trimPrefix e "grpc://")], .grpc⟩ := fun h => by
    rw [select_configure, pinEndpoint_grpc h]; rfl
  have hhttp : hasPrefix e "grpc://" = false → hasPrefix e "http://" = true →
      select v = ⟨.http, [.withRouter, .withEndpoint e], .default⟩ := fun hg h => by
    rw [select_configure, pinEndpoint_http hg h]; rfl
  have hother : hasPrefix e "grpc://" = false → hasPrefix e "http://" = false → e ≠ "" →
      select v = ⟨.mucp, [.withRouter, .withEndpoint e, .withClient], .default⟩ := fun hg hh he => by
    rw [select_configure, pinEndpoint_other hg hh he]; rfl
  refine ⟨hgrpc, hhttp, hother, fun he => ?_, fun he ctx' h' => ?_, fun he => ?_⟩
  · rw [select_configure]
    simp only [show ctx.string "endpoint" = "" from he, pinEndpoint_empty, List.append_nil,
      selectProtocol_eq, Context.override_eq]
    by_cases hp : ctx.string "protocol" = "" <;> simp [p, hp]
  · rw [select_configure, select_configure, h',
      pinEndpoint_of_ne (p := ctx'.override "protocol" "grpc") he (ctx.override "protocol" "grpc")]
  · cases hg : hasPrefix e "grpc://"
    · refine ⟨e, ?_, ?_⟩
      · cases hh : hasPrefix e "http://"
        · simp [hother hg hh he]
        · simp [hhttp hg hh]
      · exact ⟨fun h => absurd h he, fun h => by rw [h] at hg; exact absurd hg (by decide)⟩
    · exact ⟨_, by simp [hgrpc hg], trimPrefix_grpc_eq_empty hg⟩

/-- 宛先がちょうど `grpc://` なら、空でない宛先なのに、固定される宛先は空文字列である。 -/
theorem select_grpc_scheme_only :
    select (configure (commandContext flags noArgs (oneArg "endpoint" "grpc://") noArgs)
      (before (globalContext noArgs noArgs) (Globals.init ⟨"", "", ""⟩ "")).proxy) =
      ⟨.mucp, [.withRouter, .withEndpoint ""], .grpc⟩ :=
  rfl

end CzMicro.Proxy
