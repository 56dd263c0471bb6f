import CzMicro.Go.Strings
import CzMicro.Go.Map
import CzMicro.Cli.Context

/-!
# サービスの起動（`service/service.go` の `Run`）

`Run` は `--metadata` の各項を `=` で分けて鍵と値の表を作り、宛先 `--endpoint` の頭の語で
プロキシを選び、引数があればそのコマンドを手元の実行環境で動かしてからサービスを走らせる。
-/

namespace CzMicro.Service
open Cli Strings

/-- `service` コマンドのフラグ（`Commands`）。`metadata` は文字列の列のフラグで、その値は
`run` に別に渡す。 -/
def flags : List Flag :=
  [{ name := "name", envVars := ["MICRO_SERVICE_NAME"], value := "service" },
   { name := "address", envVars := ["MICRO_SERVICE_ADDRESS"] },
   { name := "endpoint", envVars := ["MICRO_SERVICE_ENDPOINT"] }]

/-! ## メタデータ -/

/-- ループの一回。`=` で分けて二つ未満なら飛ばし、先頭を鍵、残りを `=` で繋いだものを値にする。 -/
def metadataStep (m : GoMap) (md : String) : GoMap :=
  let parts := split md '='
  if parts.length < 2 then m else m.insert (parts.headD "") (join parts.tail "=")

/-- `ctx.StringSlice("metadata")` から作る表。 -/
def parseMetadata (mds : List String) : GoMap := mds.foldl metadataStep GoMap.empty

/-! ## プロキシの選択 -/

/-- `grpc.NewProxy`、`http.NewProxy`、`file.NewProxy`、`exec.NewProxy`、`mucp.NewProxy`。 -/
inductive ProxyKind
  | grpc | http | file | exec | mucp
  deriving DecidableEq, Repr

/-- 宛先の `switch`。頭の語だけを見て、`grpc`、`file`、`exec` では `語://` を取り除く。 -/
def selectProxy (endpoint : String) : ProxyKind × String :=
  if hasPrefix endpoint "grpc" then (.grpc, trimPrefix endpoint "grpc://")
  else if hasPrefix endpoint "http" then (.http, endpoint)
  else if hasPrefix endpoint "file" then (.file, trimPrefix endpoint "file://")
  else if hasPrefix endpoint "exec" then (.exec, trimPrefix endpoint "exec://")
  else (.mucp, endpoint)

/-! ## 起動 -/

/-- `micro.Option`。 -/
inductive ServiceOption
  | metadata (m : GoMap)
  | name (n : String)
  | address (a : String)

/-- 起こる出来事。引数があれば、実行環境の停止は `defer` でサービスの後に起こる。 -/
inductive Event
  | runtimeStart
  | runtimeCreate (name : String) (command : List String)
  | serviceRun
  | runtimeDelete (name : String)
  | runtimeStop
  deriving DecidableEq, Repr

/-- `Run` が組み立てるもの。 -/
structure Process where
  opts : List ServiceOption
  proxy : ProxyKind
  endpoint : String
  events : List Event

/-- `Run`。`mds` は `ctx.StringSlice("metadata")`、`args` は `ctx.Args()`、`defaultEndpoint` は
`proxy.DefaultEndpoint`（go-micro のもので src にない）。 -/
def run (ctx : Context) (mds args : List String) (defaultEndpoint : String) : Process :=
  let name := ctx.string "name"
  let address := ctx.string "address"
  let endpoint := if (ctx.string "endpoint").length = 0 then defaultEndpoint else ctx.string "endpoint"
  let metadata := parseMetadata mds
  let (proxy, endpoint) := selectProxy endpoint
  { opts := (if metadata.len > 0 then [.metadata metadata] else []) ++
      (if name.length > 0 then [.name name] else []) ++
      (if address.length > 0 then [.address address] else [])
    proxy, endpoint
    events := if args.length > 0 then
        [.runtimeStart, .runtimeCreate name args, .serviceRun, .runtimeDelete name, .runtimeStop]
      else [.serviceRun] }

end CzMicro.Service
