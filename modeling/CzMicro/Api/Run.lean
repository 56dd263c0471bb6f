import CzMicro.Go.Strings
import CzMicro.Cli.Context

/-!
# API ゲートウェイ（`client/api/api.go` の `Run`）

`Run` は、パッケージ変数をフラグで上書きし、名前空間を組み立て、`mux` のルーターに経路を登録する。
ここでは、その設定の段と、登録される経路の並びと、根の経路が書く本文を書く。
-/

namespace CzMicro.Api
open Cli

/-- `client/api` のパッケージ変数のうち、代入されるもの。 -/
structure Vars where
  name : String
  address : String
  handler : String
  resolver : String
  «namespace» : String
  type : String
  enableRPC : Bool
  deriving DecidableEq, Repr

/-- パッケージ変数の初期値。 -/
def Vars.init : Vars where
  name := "go.micro.api"
  address := ":8080"
  handler := "meta"
  resolver := "micro"
  «namespace» := "go.micro"
  type := "api"
  enableRPC := false

/-- 代入されない変数 `RPCPath` と `APIPath`。三つ目の `ProxyPath`（`/{service:[a-zA-Z0-9]+}`）は `mux` の
型紙で、その照合を `Matcher.service` として持つ。 -/
def rpcPath : String := "/rpc"
def apiPath : String := "/"

/-- `api` コマンドのフラグ（`Commands`）。 -/
def flags : List Flag :=
  [{ name := "address", envVars := ["MICRO_API_ADDRESS"] },
   { name := "handler", envVars := ["MICRO_API_HANDLER"] },
   { name := "namespace", envVars := ["MICRO_API_NAMESPACE"] },
   { name := "type", envVars := ["MICRO_API_TYPE"] },
   { name := "resolver", envVars := ["MICRO_API_RESOLVER"] },
   { name := "enable_rpc", envVars := ["MICRO_API_ENABLE_RPC"], value := "false", kind := .bool },
   { name := "enable_cors", envVars := ["MICRO_API_ENABLE_CORS"], value := "true", kind := .bool }]

/-! ## 設定 -/

/-- `Run` の冒頭の上書き。`Type` を先に決め、`--namespace` からはその型の接尾辞を取り除く。 -/
def configure (ctx : Context) (v : Vars) : Vars :=
  let type := ctx.override "type" v.type
  { name := ctx.override "server_name" v.name
    address := ctx.override "address" v.address
    handler := ctx.override "handler" v.handler
    resolver := ctx.override "resolver" v.resolver
    enableRPC := if (ctx.string "enable_rpc").length > 0 then ctx.bool "enable_rpc" else v.enableRPC
    type
    «namespace» := if (ctx.string "namespace").length > 0 then
      Strings.trimSuffix (ctx.string "namespace") ("." ++ type) else v.namespace }

theorem configure_address (ctx : Context) (v : Vars) :
    (configure ctx v).address = ctx.override "address" v.address := rfl

theorem configure_handler (ctx : Context) (v : Vars) :
    (configure ctx v).handler = ctx.override "handler" v.handler := rfl

/-- `apiNamespace := Namespace + "." + Type`。 -/
def apiNamespace (v : Vars) : String := v.namespace ++ "." ++ v.type

/-- `namespace.NewResolver(Type, Namespace)` に渡す組。 -/
structure NsResolver where
  type : String
  «namespace» : String
  deriving DecidableEq, Repr

def nsResolver (v : Vars) : NsResolver := ⟨v.type, v.namespace⟩

/-! ## 名前の解決と処理の種類 -/

/-- `switch Resolver`。 -/
inductive ResolverKind
  | micro | host | path | grpc
  deriving DecidableEq, Repr

def resolverKind (r : String) : ResolverKind :=
  match r with
  | "host" => .host
  | "path" => .path
  | "grpc" => .grpc
  | _ => .micro

/-- `switch Handler`。`meta` は `default` の枝（`handler.Meta`）である。 -/
inductive HandlerKind
  | rpc | api | event | http | web | meta
  deriving DecidableEq, Repr

def handlerKind (h : String) : HandlerKind :=
  match h with
  | "rpc" => .rpc
  | "api" => .api
  | "event" => .event
  | "http" | "proxy" => .http
  | "web" => .web
  | _ => .meta

/-- 処理が名前空間をどこから得るか。`meta` だけは `apiNamespace` でなく名前空間の解決器を受け取る。 -/
inductive NamespaceSource
  | fixed (ns : String)
  | resolver (r : NsResolver)
  deriving DecidableEq, Repr

def namespaceSource (v : Vars) : HandlerKind → NamespaceSource
  | .meta => .resolver (nsResolver v)
  | _ => .fixed (apiNamespace v)

/-! ## 経路 -/

/-- `mux` の経路の照合。`path` はパス全体、`pathPrefix` は接頭辞、`service` は `ProxyPath` の型紙
`/{service:[a-zA-Z0-9]+}` を接頭辞として照合する。 -/
inductive Matcher
  | path (p : String)
  | pathPrefix (p : String)
  | service
  deriving DecidableEq, Repr

/-- 経路の先。 -/
inductive Target
  | stats
  | version
  | favicon
  | rpc
  | handler (k : HandlerKind) (ns : NamespaceSource)
  deriving DecidableEq, Repr

structure Route where
  matcher : Matcher
  target : Target
  deriving DecidableEq, Repr

/-- 処理の種類ごとに登録される経路。`http` と `proxy` だけが `ProxyPath` に登録される。 -/
def handlerRoute (v : Vars) (k : HandlerKind) : Route :=
  match k with
  | .http => ⟨.service, .handler k (namespaceSource v k)⟩
  | _ => ⟨.pathPrefix apiPath, .handler k (namespaceSource v k)⟩

/-- `Run` が登録する経路の並び。`mux` は登録の順に照合する。 -/
def routes (enableStats : Bool) (v : Vars) : List Route :=
  (if enableStats then [⟨.path "/stats", .stats⟩] else []) ++
  [⟨.path "/", .version⟩, ⟨.path "/favicon.ico", .favicon⟩] ++
  (if v.enableRPC then [⟨.path rpcPath, .rpc⟩] else []) ++
  [handlerRoute v (handlerKind v.handler)]

/-- `[a-zA-Z0-9]`。 -/
def isAlnum (c : Char) : Bool :=
  ('a' ≤ c && c ≤ 'z') || ('A' ≤ c && c ≤ 'Z') || ('0' ≤ c && c ≤ '9')

/-- 経路がパスに合うか。パスは `mux` が整えた後のものである。 -/
def Matcher.matches : Matcher → String → Bool
  | .path p, s => s = p
  | .pathPrefix p, s => Strings.hasPrefix s p
  | .service, s =>
    match s.data with
    | '/' :: c :: _ => isAlnum c
    | _ => false

/-- `mux` は登録の順に経路を試し、最初に合った経路の先に渡す。合う経路がなければ `none`（404）。 -/
def dispatch (rs : List Route) (path : String) : Option Target :=
  (rs.find? fun r => r.matcher.matches path).map Route.target

/-- 根の経路の処理。`OPTIONS` には何も書かず、他には版を `%s` で埋め込んだ本文を書く。 -/
def rootHandler (version method : String) : String :=
  if method = "OPTIONS" then "" else "\x7b\"version\": \"" ++ version ++ "\"\x7d"

/-! ## ゲートウェイ -/

/-- `Run` が組み立てるもの。 -/
structure Gateway where
  vars : Vars
  apiNamespace : String
  nsResolver : NsResolver
  resolver : ResolverKind
  routes : List Route
  enableTLS : Bool
  enableCORS : Bool
  deriving DecidableEq, Repr

/-- `Run`。`tlsError` は `helper.TLSConfig(ctx)` が返す誤り。TLS を求められて誤りが返れば、
誤りを印字して何も起動せずに戻る。 -/
def run (ctx : Context) (tlsError : Option String) (v : Vars) : Except String Gateway :=
  let v := configure ctx v
  match ctx.bool "enable_tls", tlsError with
  | true, some e => .error e
  | tls, _ =>
    .ok { vars := v
          apiNamespace := apiNamespace v
          nsResolver := nsResolver v
          resolver := resolverKind v.resolver
          routes := routes (ctx.bool "enable_stats") v
          enableTLS := tls
          enableCORS := ctx.bool "enable_cors" }

/-! ## 起動と停止 -/

/-- `Run` の後半に起こる出来事。 -/
inductive Event
  | statsStart
  | apiStart
  | serviceRun
  | apiStop
  | statsStop
  | exit
  deriving DecidableEq, Repr

/-- 外の呼び出しの成否。 -/
structure Outcomes where
  apiStart : Bool
  serviceRun : Bool
  apiStop : Bool
  deriving DecidableEq, Repr

/-- `run` が組み立てた後の出来事。統計があれば先に `st.Start()` し、`st.Stop()` は `defer` される。
`api.Start`、`service.Run`、`api.Stop` の失敗は `log.Fatal` で、`os.Exit` は `defer` を走らせない。 -/
def lifecycle (enableStats : Bool) (o : Outcomes) : List Event :=
  (if enableStats then [.statsStart] else []) ++
  if !o.apiStart then [.apiStart, .exit]
  else if !o.serviceRun then [.apiStart, .serviceRun, .exit]
  else if !o.apiStop then [.apiStart, .serviceRun, .apiStop, .exit]
  else [.apiStart, .serviceRun, .apiStop] ++ (if enableStats then [.statsStop] else [])

end CzMicro.Api
