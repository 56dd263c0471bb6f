import CzMicro.Service.Lemmas.Metadata
import CzMicro.Cmd.Setup

/-!
# サービスの起動の定理

`--metadata` の表は、鍵ごとに、その鍵を持つ最後の項の `=` の後ろを値にする。宛先の選択は、
`grpc://` のような接頭辞でなく、語 `grpc`、`http`、`file`、`exec` だけを頭に探す。
-/

namespace CzMicro.Service
open Cli Strings Cmd

/-! ## メタデータ -/

/-- 表が鍵 `k` を値 `v` に写すのは、`=` を含み鍵が `k` である最後の項が `k=v` のときに限る。
`=` を含まない鍵 `k` の項 `k=v` は後ろに足すと `k` だけを `v` にし、前の項を上書きする。 -/
theorem parseMetadata_get (mds : List String) :
    (∀ k v, (parseMetadata mds).get k = some v ↔ lastEntry mds k = some (k ++ "=" ++ v)) ∧
    ∀ k v, '=' ∉ k.data → ∀ k', (parseMetadata (mds ++ [k ++ "=" ++ v])).get k' =
      if k' = k then some v else (parseMetadata mds).get k' := by
  refine ⟨fun k v => ?_, fun k v hk k' => ?_⟩
  · rw [parseMetadata, get_foldl_metadataStep]
    constructor
    · split
      · next s hs =>
        rintro ⟨⟩
        obtain ⟨-, h1, h2⟩ := lastEntry_spec hs
        rw [hs, ← h2, ← eq_key_value h1]
      · simp
    · intro h
      obtain ⟨-, -, hkey⟩ := lastEntry_spec h
      simp [h, valueOf_append (hkey ▸ not_mem_keyOf _)]
  · have hmem : '=' ∈ (k ++ "=" ++ v).data := by simp
    rw [parseMetadata, List.foldl_append, List.foldl_cons, List.foldl_nil, metadataStep_eq,
      if_pos hmem, GoMap.get_insert, keyOf_append hk, valueOf_append hk]
    rfl

/-- 表が空でないのは、`=` を含む項があるときに限る。このときだけ `micro.Metadata` が渡される。 -/
theorem parseMetadata_len_pos (mds : List String) :
    0 < (parseMetadata mds).len ↔ ∃ s ∈ mds, '=' ∈ s.data := by
  rw [GoMap.len_pos_iff]
  constructor
  · rintro ⟨k, v, h⟩
    rw [parseMetadata, get_foldl_metadataStep] at h
    split at h
    · next s hs => exact ⟨s, (lastEntry_spec hs).1, (lastEntry_spec hs).2.1⟩
    · simp at h
  · rintro ⟨s, hs, h⟩
    obtain ⟨s', hl⟩ := Option.ne_none_iff_exists'.mp (lastEntry_ne_none hs h)
    exact ⟨keyOf s, valueOf s', by simp [parseMetadata, get_foldl_metadataStep, hl]⟩

/-! ## 宛先の選択 -/

/-- `micro service --endpoint e` が選ぶプロキシと宛先。`d` は `proxy.DefaultEndpoint`。 -/
def endpointFlag (e d : String) : ProxyKind × String :=
  let p := run (commandContext flags noArgs (oneArg "endpoint" e) noArgs) [] [] d
  (p.proxy, p.endpoint)

/-- 語 `grpc`、`http`、`file`、`exec` のどれかで始まる宛先は、`://` が続かなくても、その語の
プロキシに渡る。たとえば `grpc-backend:9090` は gRPC のプロキシに、取り除かれずに渡る。 -/
theorem run_bare_word_endpoints (d : String) :
    endpointFlag "grpc-backend:9090" d = (.grpc, "grpc-backend:9090") ∧
    endpointFlag "httpbin:80" d = (.http, "httpbin:80") ∧
    endpointFlag "fileserver:9090" d = (.file, "fileserver:9090") ∧
    endpointFlag "executor:1" d = (.exec, "executor:1") :=
  ⟨rfl, rfl, rfl, rfl⟩

/-- 宛先の `switch` に渡る文字列は、`--endpoint` が空なら `proxy.DefaultEndpoint` である。 -/
theorem run_selectProxy (ctx : Context) (mds args : List String) (d : String) :
    ((run ctx mds args d).proxy, (run ctx mds args d).endpoint) =
      selectProxy (if ctx.string "endpoint" = "" then d else ctx.string "endpoint") := by
  by_cases h : ctx.string "endpoint" = ""
  · simp [run, h]
  · simp [run, h, length_eq_zero_iff]

end CzMicro.Service
