import CzMicro.Api.Run
import CzMicro.Proxy.Run

/-!
# コマンドの準備（`cmd/cmd.go`）

`setup` は大域のフラグを足し、`Before` で他のパッケージの変数をフラグから上書きする。
`buildVersion` はビルドの文字列から版を組み立てる。
-/

namespace CzMicro.Cmd
open Cli

/-- `web` パッケージの変数のうち `Before` が代入するもの。`web` は src にないので初期値は与えられる。 -/
structure WebVars where
  address : String
  «namespace» : String
  host : String
  deriving DecidableEq, Repr

/-- `Before` が触るパッケージ変数の全体。 -/
structure Globals where
  api : Api.Vars
  proxy : Proxy.Vars
  web : WebVars
  routerAddress : String
  deriving DecidableEq, Repr

/-- プロセスの開始時の変数。`web` と `router` の初期値は src にないので引数である。 -/
def Globals.init (web : WebVars) (routerAddress : String) : Globals :=
  ⟨Api.Vars.init, Proxy.Vars.init, web, routerAddress⟩

/-- `setup` が足す大域のフラグ。 -/
def globalFlags : List Flag :=
  [{ name := "local", value := "false", kind := .bool },
   { name := "enable_tls", envVars := ["MICRO_ENABLE_TLS"], value := "false", kind := .bool },
   { name := "tls_cert_file", envVars := ["MICRO_TLS_CERT_FILE"] },
   { name := "tls_key_file", envVars := ["MICRO_TLS_KEY_FILE"] },
   { name := "tls_client_ca_file", envVars := ["MICRO_TLS_CLIENT_CA_FILE"] },
   { name := "api_address", envVars := ["MICRO_API_ADDRESS"] },
   { name := "namespace", envVars := ["MICRO_NAMESPACE"], value := "micro" },
   { name := "proxy_address", envVars := ["MICRO_PROXY_ADDRESS"] },
   { name := "web_address", envVars := ["MICRO_WEB_ADDRESS"] },
   { name := "router_address", envVars := ["MICRO_ROUTER_ADDRESS"] },
   { name := "gateway_address", envVars := ["MICRO_GATEWAY_ADDRESS"] },
   { name := "api_handler", envVars := ["MICRO_API_HANDLER"] },
   { name := "api_namespace", envVars := ["MICRO_API_NAMESPACE"] },
   { name := "web_namespace", envVars := ["MICRO_WEB_NAMESPACE"] },
   { name := "web_url", envVars := ["MICRO_WEB_HOST"] },
   { name := "enable_stats", envVars := ["MICRO_ENABLE_STATS"], value := "false", kind := .bool },
   { name := "report_usage", envVars := ["MICRO_REPORT_USAGE"], value := "true", kind := .bool },
   { name := "env", envVars := ["MICRO_ENV"] }]

/-- `micro` の大域の文脈。コマンドラインの値 `args` と環境変数 `env` を大域のフラグに当てる。 -/
def globalContext (args env : String → Option String) : Context :=
  ⟨[FlagSet.ofFlags globalFlags args env]⟩

/-- `micro <大域のフラグ> <コマンド> <コマンドのフラグ>` の、コマンドの文脈。 -/
def commandContext (cmdFlags : List Flag) (args cmdArgs env : String → Option String) : Context :=
  (globalContext args env).sub (FlagSet.ofFlags cmdFlags cmdArgs env)

/-- `app.Before` の上書き。`web.Host` だけは、定義されていない名前 `web_host` を読む。 -/
def before (ctx : Context) (g : Globals) : Globals where
  api := { g.api with
    handler := ctx.override "api_handler" g.api.handler
    address := ctx.override "api_address" g.api.address
    «namespace» := ctx.override "api_namespace" g.api.namespace }
  proxy := { g.proxy with address := ctx.override "proxy_address" g.proxy.address }
  web :=
    { address := ctx.override "web_address" g.web.address
      «namespace» := ctx.override "web_namespace" g.web.namespace
      host := ctx.override "web_host" g.web.host }
  routerAddress := ctx.override "router_address" g.routerAddress

/-- `gostore.Option` のうち `Before` が組むもの。 -/
inductive StoreOption
  | database (name : String)
  | table (name : String)
  deriving DecidableEq, Repr

/-- `Before` の後半が既定の store の `Init` に渡す選択肢（空なら `Init` は呼ばれない）。`appName` は
`cmd.App().Name`、`args` は根の `ctx.Args()`。表の名前は最初の引数、なければ `appName`。 -/
def storeOptions (ctx : Context) (appName : String) (args : List String) : List StoreOption :=
  (if (ctx.string "store_database").length = 0 then [.database appName] else []) ++
  (if (ctx.string "store_table").length = 0 then
    [.table (if (args.headD "").length > 0 then args.headD "" else appName)] else [])

/-! ## 版 -/

/-- 既定の版 `version`。 -/
def version : String := "latest"

/-- `buildVersion`。`fmt.Sprintf("-%s", x)` は `"-" ++ x` である。 -/
def buildVersion (gitTag gitCommit buildDate : String) : String :=
  let v := if gitTag ≠ "" then gitTag else version
  let v := if gitCommit ≠ "" then v ++ "-" ++ gitCommit else v
  if buildDate ≠ "" then v ++ "-" ++ buildDate else v

/-! ## `Before` が変えないもの -/

@[simp] theorem before_api_type (ctx : Context) (g : Globals) : (before ctx g).api.type = g.api.type := rfl
@[simp] theorem before_proxy_endpoint (ctx : Context) (g : Globals) :
    (before ctx g).proxy.endpoint = g.proxy.endpoint := rfl
@[simp] theorem before_proxy_protocol (ctx : Context) (g : Globals) :
    (before ctx g).proxy.protocol = g.proxy.protocol := rfl
theorem before_api_address (ctx : Context) (g : Globals) :
    (before ctx g).api.address = ctx.override "api_address" g.api.address := rfl
theorem before_api_handler (ctx : Context) (g : Globals) :
    (before ctx g).api.handler = ctx.override "api_handler" g.api.handler := rfl
theorem before_proxy_address (ctx : Context) (g : Globals) :
    (before ctx g).proxy.address = ctx.override "proxy_address" g.proxy.address := rfl
@[simp] theorem before_api_namespace (ctx : Context) (g : Globals) :
    (before ctx g).api.namespace = ctx.override "api_namespace" g.api.namespace := rfl

end CzMicro.Cmd
