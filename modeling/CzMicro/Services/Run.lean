import CzMicro.Cli.Context
import CzMicro.Go.Map

/-!
# 周辺のサービスの `Run`

`broker`、`store`、`runtime`、`debug` の `Run` は、パッケージ変数 `Name` と `Address` を同じ形で
上書きし、それからサービスのオプションを組む。組み方はサービスごとに違う。`health` は自分の変数を
検査してから `/health` を答える。内部クライアントの `Call` は、トークンがあれば `Authorization` を
`metadata.Set` でメタデータに置く。
-/

namespace CzMicro.Services

open Cli

/-! ## 共通の上書き -/

/-- 各パッケージの `Name` と `Address`。 -/
structure Vars where
  name : String
  address : String
  deriving DecidableEq, Repr

/-- `server_name` と `address` が空でなければ、それぞれ `Name` と `Address` に入れる。 -/
def Vars.configure (ctx : Context) (v : Vars) : Vars :=
  ⟨ctx.override "server_name" v.name, ctx.override "address" v.address⟩

/-- `micro.Option` のうちここで組まれるもの。時間は秒で持つ。 -/
inductive MicroOption
  | name (s : String)
  | address (s : String)
  | registerTTL (seconds : Int)
  | registerInterval (seconds : Int)
  deriving DecidableEq, Repr

/-- `if len(Address) > 0 { srvOpts = append(srvOpts, micro.Address(Address)) }`。 -/
def addressOpt (address : String) : List MicroOption :=
  if address.length > 0 then [.address address] else []

/-- `runtime` と `debug` の組み方。渡されたオプション、アドレス、名前の順。 -/
def serviceOpts (srvOpts : List MicroOption) (v : Vars) : List MicroOption :=
  srvOpts ++ addressOpt v.address ++ [.name v.name]

/-- 各コマンドが定義する唯一の文字列フラグ `address`。 -/
def addressFlag : Flag := { name := "address", envVars := ["MICRO_SERVER_ADDRESS"] }

/-! ## `broker` -/

namespace Broker

def vars : Vars := ⟨"go.micro.broker", ":8001"⟩

def flags : List Flag := [addressFlag]

/-- `Run`。`ttl` と `interval` は go-micro が定義するフラグ `register_ttl` と `register_interval` の
`ctx.Int`。名前は渡されたオプションの後、アドレスは最後に付く。 -/
def run (ctx : Context) (ttl interval : Int) (srvOpts : List MicroOption) (v : Vars) :
    Vars × List MicroOption :=
  let v := v.configure ctx
  (v, srvOpts ++ [.name v.name] ++ (if ttl > 0 then [.registerTTL ttl] else []) ++
    (if interval > 0 then [.registerInterval interval] else []) ++ addressOpt v.address)

end Broker

/-! ## `store` -/

namespace Store

def vars : Vars := ⟨"go.micro.store", ":8002"⟩

def flags : List Flag := [addressFlag]

/-- `store.Run` が組むもの。 -/
structure Process where
  vars : Vars
  table : String
  serviceOpts : List MicroOption
  deriving DecidableEq, Repr

/-- `Run`。`Address` は上書きされるが、サービスには `micro.Name(Name)` だけが渡り、
呼び出し側の `srvOpts` も使われない。表の名前は既定が `store` で、`store_table` が上書きする。 -/
def run (ctx : Context) (v : Vars) : Process :=
  let v := v.configure ctx
  { vars := v, table := ctx.override "store_table" "store", serviceOpts := [.name v.name] }

/-- `store` のサブコマンド `databases` と `tables` の行き先。 -/
inductive CliOutcome
  | error (msg : String)
  | print (lines : List String)
  deriving DecidableEq, Repr

/-- `Store.Databases` か `Store.Tables` への要求。`service` は `ctx.String("store")`。`Databases` の要求は
データベースを持たないので、ここでは空にする。 -/
structure CliRequest where
  service : String
  database : String
  deriving DecidableEq, Repr

/-- 呼び出しの誤りを返すか、返った名前を一行ずつ印字する。 -/
def printResponse (rsp : Except String (List String)) : CliOutcome :=
  match rsp with
  | .error e => .error e
  | .ok names => .print names

/-- `Databases`。`call` は要求への答え。 -/
def databases (ctx : Context) (call : CliRequest → Except String (List String)) : CliOutcome :=
  printResponse (call ⟨ctx.string "store", ""⟩)

/-- `Tables`。`database` が空なら要求を送らずに誤りを返す。 -/
def tables (ctx : Context) (call : CliRequest → Except String (List String)) : CliOutcome :=
  if (ctx.string "database").length = 0 then .error "database flag is required"
  else printResponse (call ⟨ctx.string "store", ctx.string "database"⟩)

end Store

/-! ## `runtime` -/

namespace Runtime

def vars : Vars := ⟨"go.micro.runtime", ":8088"⟩

def flags : List Flag :=
  [addressFlag, { name := "profile", envVars := ["MICRO_RUNTIME_PROFILE"] },
   { name := "source", envVars := ["MICRO_RUNTIME_SOURCE"] },
   { name := "retries", envVars := ["MICRO_RUNTIME_RETRIES"], value := "0", kind := .int }]

/-- `profile` の `switch`。どの名前でもなければ空の設定（`nil`）。 -/
inductive Profile
  | none
  | «local»
  | server
  | kubernetes
  | platform
  deriving DecidableEq, Repr

def profile (s : String) : Profile :=
  if s = "local" then .local
  else if s = "server" then .server
  else if s = "kubernetes" then .kubernetes
  else if s = "platform" then .platform
  else .none

/-- 起こりうる出来事。 -/
inductive Event
  | managerStart
  | serviceRun
  | managerStop
  | exit
  deriving DecidableEq, Repr

/-- 外の呼び出しの成否。 -/
structure Outcomes where
  managerStart : Bool
  serviceRun : Bool
  managerStop : Bool
  deriving DecidableEq, Repr

/-- `manager.Start` の失敗は `os.Exit(1)`。`service.Run` の失敗は記録されるだけで、そのまま
`manager.Stop` に進む。 -/
def lifecycle (o : Outcomes) : List Event :=
  if !o.managerStart then [.managerStart, .exit]
  else if !o.managerStop then [.managerStart, .serviceRun, .managerStop, .exit]
  else [.managerStart, .serviceRun, .managerStop]

/-- `runtime.Run` が組むもの。 -/
structure Process where
  vars : Vars
  profile : Profile
  source : Option String
  serviceOpts : List MicroOption
  events : List Event
  deriving DecidableEq, Repr

/-- `Run`。`sourceSet` は `ctx.IsSet("source")`。 -/
def run (ctx : Context) (sourceSet : Bool) (o : Outcomes) (srvOpts : List MicroOption) (v : Vars) :
    Process :=
  let v := v.configure ctx
  { vars := v
    profile := profile (ctx.string "profile")
    source := if sourceSet then some (ctx.string "source") else none
    serviceOpts := serviceOpts srvOpts v
    events := lifecycle o }

end Runtime

/-! ## `debug` -/

namespace Debug

def vars : Vars := ⟨"go.micro.debug", ":8089"⟩

def flags : List Flag :=
  [addressFlag, { name := "window", envVars := ["MICRO_DEBUG_WINDOW"], value := "60", kind := .int }]

/-- `Run` のオプション。 -/
def run (ctx : Context) (srvOpts : List MicroOption) (v : Vars) : Vars × List MicroOption :=
  let v := v.configure ctx
  (v, serviceOpts srvOpts v)

end Debug

/-! ## `health` -/

namespace Health

/-- `healthAddress`、`serverAddress`、`serverName`。 -/
structure Vars where
  healthAddress : String
  serverAddress : String
  serverName : String
  deriving DecidableEq, Repr

def Vars.init : Vars := ⟨":8088", "", ""⟩

def flags : List Flag :=
  [{ name := "address", envVars := ["MICRO_HEALTH_ADDRESS"] },
   { name := "check_service", envVars := ["MICRO_HEALTH_CHECK_SERVICE"] },
   { name := "check_address", envVars := ["MICRO_HEALTH_CHECK_ADDRESS"] }]

/-- `Run` の行き先。引数があれば問い合わせの表示、検査に落ちれば `log.Fatal`、通れば待ち受け。 -/
inductive Outcome
  | query
  | fatal (msg : String)
  | serve (v : Vars)
  deriving DecidableEq, Repr

/-- `Run`。`args` は `ctx.Args()`。 -/
def run (ctx : Context) (args : List String) (v : Vars) : Outcome :=
  if args.length > 0 then .query
  else
    let v : Vars := ⟨ctx.override "address" v.healthAddress, ctx.string "check_address",
      ctx.string "check_service"⟩
    if v.healthAddress.length = 0 then .fatal "health address not set"
    else if v.serverName.length = 0 then .fatal "service name not set"
    else if v.serverAddress.length = 0 then .fatal "service address not set"
    else .serve v

/-- `/health` の答え。`rsp` は `Debug.Health` の呼び出しの誤りか、返った `Status`。 -/
def handle (rsp : Except String String) : Nat × String :=
  match rsp with
  | .ok status => if status = "ok" then (200, "OK") else (500, "NOT_HEALTHY")
  | .error _ => (500, "NOT_HEALTHY")

end Health

/-! ## 内部クライアント -/

namespace Client

/-- `wrapper.Call` が送るメタデータ。`scheme` は go-micro の `auth.BearerScheme`、`set` は go-micro の
`metadata.Set` で、ここにはない（既にある鍵の書き方を変えることがあるので、挿入とは置かない）。 -/
def callMetadata (set : GoMap → String → String → GoMap) (scheme token : String) (md : GoMap) :
    GoMap :=
  if token.length > 0 then set md "Authorization" (scheme ++ token) else md

end Client

end CzMicro.Services
