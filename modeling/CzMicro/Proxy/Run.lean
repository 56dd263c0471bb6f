import CzMicro.Go.Strings
import CzMicro.Cli.Context

/-!
# サービスのプロキシ（`client/proxy/proxy.go` の `Run`）

`Run` は、ルーターを選んで起動し、固定の宛先 `Endpoint` と `Protocol` から、プロキシとそれを載せる
サーバーを選ぶ。宛先の `switch` が `Protocol` を上書きし、その後の `Protocol` の `switch` が
プロキシを組み立てる。起動の順は、ルーター、プロキシのサーバー、内部のサービス、サーバーの停止である。
-/

namespace CzMicro.Proxy
open Cli Strings

/-- `client/proxy` のパッケージ変数。 -/
structure Vars where
  name : String
  address : String
  protocol : String
  endpoint : String
  deriving DecidableEq, Repr

def Vars.init : Vars where
  name := "go.micro.proxy"
  address := ":8081"
  protocol := "grpc"
  endpoint := ""

/-- `proxy` コマンドのフラグ（`Commands`）。 -/
def flags : List Flag :=
  [{ name := "router", envVars := ["MICRO_ROUTER"] },
   { name := "router_address", envVars := ["MICRO_ROUTER_ADDRESS"] },
   { name := "address", envVars := ["MICRO_PROXY_ADDRESS"] },
   { name := "protocol", envVars := ["MICRO_PROXY_PROTOCOL"] },
   { name := "endpoint", envVars := ["MICRO_PROXY_ENDPOINT"] }]

/-- `Run` の冒頭の上書き。 -/
def configure (ctx : Context) (v : Vars) : Vars where
  name := ctx.override "server_name" v.name
  address := ctx.override "address" v.address
  endpoint := ctx.override "endpoint" v.endpoint
  protocol := ctx.override "protocol" v.protocol

theorem configure_address (ctx : Context) (v : Vars) :
    (configure ctx v).address = ctx.override "address" v.address := rfl

/-! ## ルーター -/

/-- `rs.NewRouter`（ルーターのサービス）か `router.NewRouter`（手元の表）か。 -/
inductive RouterKind
  | service
  | «local»
  deriving DecidableEq, Repr

/-- ルーターを選ぶ `switch`。 -/
def routerKind (routerName routerAddr : String) : RouterKind :=
  if routerName = "go.micro.router" then .service
  else if routerName = "service" then .service
  else if routerAddr.length > 0 then .service
  else .local

/-! ## プロキシとサーバー -/

/-- `proxy.Option`。 -/
inductive ProxyOption
  | withRouter
  | withEndpoint (ep : String)
  | withClient
  deriving DecidableEq, Repr

/-- `http.NewProxy` か `mucp.NewProxy` か。 -/
inductive Adapter
  | http
  | mucp
  deriving DecidableEq, Repr

/-- `server.NewServer` か `sgrpc.NewServer` か。 -/
inductive ServerKind
  | default
  | grpc
  deriving DecidableEq, Repr

/-- `server.Option`。 -/
inductive ServerOption
  | address (a : String)
  | memoryRegistry
  | memoryBroker
  | tlsConfig
  | authHandler
  | withRouter
  deriving DecidableEq, Repr

/-- 宛先の `switch`。固定の宛先の選択肢と、上書きされた `Protocol` を返す。 -/
def pinEndpoint (endpoint protocol : String) : List ProxyOption × String :=
  if endpoint.length > 0 then
    if hasPrefix endpoint "grpc://" then ([.withEndpoint (trimPrefix endpoint "grpc://")], "grpc")
    else if hasPrefix endpoint "http://" then ([.withEndpoint endpoint], "http")
    else ([.withEndpoint endpoint], "mucp")
  else ([], protocol)

/-- 選ばれたプロキシ。 -/
structure Selection where
  adapter : Adapter
  popts : List ProxyOption
  server : ServerKind
  deriving DecidableEq, Repr

/-- `Protocol` の `switch`。 -/
def selectProtocol (popts : List ProxyOption) (protocol : String) : Selection :=
  match protocol with
  | "http" => ⟨.http, popts, .default⟩
  | "mucp" => ⟨.mucp, popts ++ [.withClient], .default⟩
  | _ => ⟨.mucp, popts, .grpc⟩

/-- 宛先の `switch` のあとに `Protocol` の `switch`。 -/
def select (v : Vars) : Selection :=
  let (pinned, protocol) := pinEndpoint v.endpoint v.protocol
  selectProtocol ([.withRouter] ++ pinned) protocol

/-- サーバーの選択肢。TLS の設定は、求められて読めたときだけ入る。 -/
def serverOpts (v : Vars) (tls : Bool) : List ServerOption :=
  [.address v.address, .memoryRegistry, .memoryBroker] ++
  (if tls then [.tlsConfig] else []) ++ [.authHandler, .withRouter]

/-! ## 起動と停止 -/

/-- 外の部品の呼び出しが成功するかどうか。 -/
structure Outcomes where
  routerStart : Bool
  tlsConfig : Bool
  serverStart : Bool
  serviceRun : Bool
  serverStop : Bool
  deriving DecidableEq, Repr

/-- 起こる出来事。`exit` は `os.Exit(1)` と `log.Fatal` による終了である。 -/
inductive Event
  | routerStart
  | serverStart
  | serviceRun
  | serverStop
  | exit
  deriving DecidableEq, Repr

/-- 起動から停止までの出来事の列。ルーターは停止されない。 -/
def lifecycle (enableTLS : Bool) (o : Outcomes) : List Event :=
  if !o.routerStart then [.routerStart, .exit]
  else if enableTLS && !o.tlsConfig then [.routerStart, .exit]
  else if !o.serverStart then [.routerStart, .serverStart, .exit]
  else if !o.serviceRun then [.routerStart, .serverStart, .serviceRun, .exit]
  else if !o.serverStop then [.routerStart, .serverStart, .serviceRun, .serverStop, .exit]
  else [.routerStart, .serverStart, .serviceRun, .serverStop]

/-- `Run` が組み立てるもの。 -/
structure Process where
  vars : Vars
  router : RouterKind
  selection : Selection
  serverOpts : List ServerOption
  events : List Event
  deriving DecidableEq, Repr

/-- `Run`。`Protocol` は宛先の `switch` で上書きされたまま残る。 -/
def run (ctx : Context) (o : Outcomes) (v : Vars) : Process :=
  let v := configure ctx v
  let tls := ctx.bool "enable_tls"
  { vars := { v with protocol := (pinEndpoint v.endpoint v.protocol).2 }
    router := routerKind (ctx.string "router") (ctx.string "router_address")
    selection := select v
    serverOpts := serverOpts v (tls && o.tlsConfig)
    events := lifecycle tls o }

end CzMicro.Proxy
