import CzMicro.Go.Strings

/-!
# `urfave/cli` の文脈

コマンドの文脈は、自分のフラグの集合を先頭に、親のフラグの集合を後ろに並べた列（lineage）である。
`ctx.String(name)` は、その名前のフラグを定義している最初の集合から値を読み、どこにも定義がなければ
空文字列を返す。値は既定値（`Value`）を、環境変数とコマンドラインが上書きしたものである。
-/

namespace CzMicro.Cli

/-- フラグの型。`Apply` は最初に設定されている環境変数を読むが、`BoolFlag` と `IntFlag` はその値が
空なら読まずに既定値を残す。`StringFlag` と `StringSliceFlag` は空の値もそのまま読む。 -/
inductive FlagKind
  | string
  | stringSlice
  | bool
  | int
  deriving DecidableEq, Repr

/-- 空の環境変数の値を値として読むか。 -/
def FlagKind.readsEmptyEnv : FlagKind → Bool
  | .string | .stringSlice => true
  | .bool | .int => false

/-- フラグの定義。`value` は既定値を文字列にしたもの（`BoolFlag` なら `"false"` か `"true"`）。 -/
structure Flag where
  name : String
  envVars : List String := []
  value : String := ""
  kind : FlagKind := .string
  deriving DecidableEq, Repr

/-- 一つのコマンドのフラグの集合。定義された名前と、その時の値。 -/
abbrev FlagSet := List (String × String)

/-- 環境変数から読む値。設定されている最初の環境変数の値で、型が空の値を読まなければ捨てる。 -/
def Flag.envValue (f : Flag) (env : String → Option String) : Option String :=
  (f.envVars.findSome? env).filter fun v => f.kind.readsEmptyEnv || v.length > 0

/-- フラグの値。コマンドラインの値 `args`、なければ環境変数の値、なければ既定値。 -/
def Flag.current (f : Flag) (args env : String → Option String) : String :=
  ((args f.name).orElse fun _ => f.envValue env).getD f.value

/-- 定義に、コマンドラインと環境変数が与えた値を当てる。 -/
def FlagSet.ofFlags (flags : List Flag) (args env : String → Option String) : FlagSet :=
  flags.map fun f => (f.name, f.current args env)

/-- 値のないコマンドラインと環境。 -/
def noArgs : String → Option String := fun _ => none

/-- 一つのフラグだけを与えるコマンドライン。 -/
def oneArg (name value : String) : String → Option String :=
  fun n => if n = name then some value else none

/-- 集合が名前に当てる値は、その名前の最初の定義の値である。 -/
theorem FlagSet.lookup_ofFlags (flags : List Flag) (name : String) (args env : String → Option String) :
    (FlagSet.ofFlags flags args env).lookup name =
      (flags.find? fun f => f.name == name).map fun f => f.current args env := by
  induction flags with
  | nil => rfl
  | cons f fs ih =>
    by_cases h : f.name = name
    · simp [FlagSet.ofFlags, List.lookup_cons, List.find?_cons, h]
    · simp only [FlagSet.ofFlags, List.map_cons, List.lookup_cons, beq_false_of_ne (Ne.symm h),
        List.find?_cons, beq_false_of_ne h]
      exact ih

/-- コマンドの文脈。 -/
structure Context where
  lineage : List FlagSet

namespace Context

/-- `ctx.String(name)`。 -/
def string (ctx : Context) (name : String) : String :=
  match ctx.lineage.find? (fun fs => (fs.lookup name).isSome) with
  | some fs => (fs.lookup name).getD ""
  | none => ""

/-- `strconv.ParseBool`。読めない値は `false` として扱われる。 -/
def parseBool (s : String) : Bool :=
  s = "1" || s = "t" || s = "T" || s = "TRUE" || s = "true" || s = "True"

/-- `ctx.Bool(name)`。 -/
def bool (ctx : Context) (name : String) : Bool := parseBool (ctx.string name)

/-- `if len(ctx.String(name)) > 0 { v = ctx.String(name) }`。ソースの設定はすべてこの形をとる。 -/
def override (ctx : Context) (name v : String) : String :=
  if (ctx.string name).length > 0 then ctx.string name else v

/-- 親の文脈の下に、コマンド自身のフラグの集合を置く。 -/
def sub (parent : Context) (fs : FlagSet) : Context := ⟨fs :: parent.lineage⟩

theorem override_eq (ctx : Context) (name v : String) :
    ctx.override name v = if ctx.string name = "" then v else ctx.string name := by
  unfold override
  by_cases h : ctx.string name = ""
  · simp [h]
  · simp [h, Strings.length_pos_iff.mpr h]

@[simp] theorem override_of_empty {ctx : Context} {name : String} (h : ctx.string name = "")
    (v : String) : ctx.override name v = v := by
  simp [override_eq, h]

theorem override_of_ne {ctx : Context} {name : String} (h : ctx.string name ≠ "") (v : String) :
    ctx.override name v = ctx.string name := by
  simp [override_eq, h]

@[simp] theorem override_empty (ctx : Context) (name : String) : ctx.override name "" = ctx.string name := by
  by_cases h : ctx.string name = ""
  · simp [h]
  · exact override_of_ne h ""

/-- コマンド自身が定義する名前は、親の定義より先に読まれる。 -/
theorem string_sub_of_lookup {fs : FlagSet} {parent : Context} {name v : String}
    (h : fs.lookup name = some v) : (parent.sub fs).string name = v := by
  simp [string, sub, List.find?_cons, h]

end Context

end CzMicro.Cli
