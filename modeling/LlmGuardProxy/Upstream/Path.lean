import LlmGuardProxy.Machinery.UrlPath
import Mathlib.Data.List.DropRight

/-!
# Upstream/Path — which upstream path a downstream path is sent to

`build_upstream_url` checks the downstream path (`validate_openai_path`), writes it behind the
configured base path (`upstream_path`), and parses the result as a URL once more.  The validator
cuts at `/` alone, the parser at `/` and `\`.

`upstream_prefix_kept_iff` says for which paths that difference cancels a segment of the base path
or of `/v1`.
-/

open Machinery

namespace LlmGuardProxy

/-! ## The validator -/

/-- `OpenAiPathError`. -/
inductive OpenAiPathError where
  | outsideOpenAiScope
  | dotSegment
  | invalidModelDetailId
  deriving DecidableEq, Repr

/-- `hex_value`. -/
def hexValue (byte : UInt8) : Option UInt8 :=
  if 0x30 ≤ byte ∧ byte ≤ 0x39 then some (byte - 0x30)
  else if 0x61 ≤ byte ∧ byte ≤ 0x66 then some (byte - 0x61 + 10)
  else if 0x41 ≤ byte ∧ byte ≤ 0x46 then some (byte - 0x41 + 10)
  else none

/-- `percent_encoded_byte` at the head of what is left: the byte an escape spells, and what follows
the escape. -/
def percentEncodedByte : Bytes → Option (UInt8 × Bytes)
  | percent :: high :: low :: rest =>
      if percent = 0x25 then do
        let high ← hexValue high
        let low ← hexValue low
        some ((high <<< 4) ||| low, rest)
      else none
  | _ => none

theorem length_of_percentEncodedByte {bytes rest : Bytes} {byte : UInt8}
    (h : percentEncodedByte bytes = some (byte, rest)) : rest.length < bytes.length := by
  unfold percentEncodedByte at h
  split at h
  case h_1 percent high low tail =>
    split at h
    case isTrue =>
      simp only [bind, Option.bind_eq_some_iff, Option.some.injEq, Prod.mk.injEq] at h
      obtain ⟨_, -, _, -, -, rfl⟩ := h
      simp only [List.length_cons]
      omega
    case isFalse => cases h
  case h_2 => cases h

/-- The loop of `path_segment_decodes_to_dot_segment`: a third decoded byte ends it. -/
def dotSegmentLoop (decoded : Bytes) (segment : Bytes) : Bool :=
  match segment with
  | [] => decoded == utf8 "." || decoded == utf8 ".."
  | byte :: rest =>
      match _ : percentEncodedByte (byte :: rest) with
      | some (decodedByte, next) =>
          if decoded.length = 2 then false else dotSegmentLoop (decoded ++ [decodedByte]) next
      | none => if decoded.length = 2 then false else dotSegmentLoop (decoded ++ [byte]) rest
termination_by segment.length
decreasing_by
  · exact length_of_percentEncodedByte ‹_›
  · exact Nat.lt_succ_self _

/-- `path_segment_decodes_to_dot_segment`. -/
def pathSegmentDecodesToDotSegment (segment : Bytes) : Bool := dotSegmentLoop [] segment

/-- The loop of `strict_percent_decode_model_detail_id`. -/
def strictPercentDecodeLoop (decoded : Bytes) (segment : Bytes) : Except OpenAiPathError Bytes :=
  match segment with
  | [] => .ok decoded
  | byte :: rest =>
      if byte = 0x25 then
        match _ : percentEncodedByte (byte :: rest) with
        | none => .error .invalidModelDetailId
        | some (decodedByte, next) =>
            if decodedByte = 0x2F ∨ decodedByte = 0x5C then .error .invalidModelDetailId
            else strictPercentDecodeLoop (decoded ++ [decodedByte]) next
      else if byte = 0x2F ∨ byte = 0x5C then .error .invalidModelDetailId
      else strictPercentDecodeLoop (decoded ++ [byte]) rest
termination_by segment.length
decreasing_by
  · exact length_of_percentEncodedByte ‹_›
  · exact Nat.lt_succ_self _

/-- `strict_percent_decode_model_detail_id`. -/
def strictPercentDecodeModelDetailId (segment : Bytes) : Except OpenAiPathError String := do
  let decoded ← strictPercentDecodeLoop [] segment
  match String.fromUTF8? (ByteArray.mk decoded.toArray) with
  | some model => .ok model
  | none => .error .invalidModelDetailId

/-- `model_detail_id_from_path`. -/
def modelDetailIdFromPath (path : Bytes) : Except OpenAiPathError (Option String) :=
  match stripPrefix (utf8 "/v1/models/") path with
  | none => .ok none
  | some segment =>
      if segment.isEmpty || segment.contains 0x2F then .error .invalidModelDetailId
      else (strictPercentDecodeModelDetailId segment).map some

/-- `validate_openai_path`. -/
def validateOpenaiPath (path : Bytes) : Except OpenAiPathError Unit :=
  if path ≠ utf8 "/v1" ∧ !(utf8 "/v1/").isPrefixOf path then .error .outsideOpenAiScope
  else if (path.splitOn 0x2F).any pathSegmentDecodesToDotSegment then .error .dotSegment
  else (modelDetailIdFromPath path).map fun _ => ()

/-! ## The URL that is dialled -/

/-- The bytes `http::Uri` admits in a path. -/
def uriPathByte (b : UInt8) : Bool :=
  b == 0x21 || b == 0x22 || (0x24 ≤ b && b ≤ 0x3B) || b == 0x3D || (0x40 ≤ b && b ≤ 0x5F) ||
    (0x61 ≤ b && b ≤ 0x7E) || 0x7F ≤ b

/-- A request target. -/
structure Uri where
  path : Bytes
  query : Option Bytes
  admitted : ∀ b ∈ path, uriPathByte b = true

/-- A parsed URL: what stands in front of its path, the path, and the query and fragment text. -/
structure Url where
  origin : Bytes
  path : Bytes
  rest : Bytes
  deriving DecidableEq

/-- The end of a path. -/
def endsPath (b : UInt8) : Bool := b == 0x3F || b == 0x23

/-- `Url::parse` of an origin followed by `text`. -/
def Url.parse (set : PathEncodeSet) (origin text : Bytes) : Url where
  origin := origin
  path := serializePath (set.parsePath (text.takeWhile fun b => !endsPath b))
  rest := text.dropWhile fun b => !endsPath b

/-- A configured base URL that passed `validate_upstream_base_url`: without query and fragment. -/
structure UpstreamBaseUrl where
  origin : Bytes
  configuredPath : Bytes

/-- `base.path()`. -/
def UpstreamBaseUrl.path (set : PathEncodeSet) (base : UpstreamBaseUrl) : Bytes :=
  serializePath (set.parsePath base.configuredPath)

/-- `upstream_path`. -/
def upstreamPath (basePath downstreamPath : Bytes) : Bytes :=
  let trimmedBase := basePath.rdropWhile (· == 0x2F)
  if trimmedBase = [] then downstreamPath
  else if trimmedBase = utf8 "/v1" then
    if downstreamPath = utf8 "/v1" then utf8 "/v1"
    else match stripPrefix (utf8 "/v1/") downstreamPath with
      | some suffix => utf8 "/v1/" ++ suffix
      | none => trimmedBase ++ downstreamPath
  else trimmedBase ++ downstreamPath

/-- `build_upstream_url`. -/
def buildUpstreamUrl (set : PathEncodeSet) (base : UpstreamBaseUrl) (uri : Uri) :
    Except OpenAiPathError Url := do
  validateOpenaiPath uri.path
  let query := match uri.query with
    | some query => 0x3F :: query
    | none => []
  return Url.parse set base.origin (upstreamPath (base.path set) uri.path ++ query)

/-- The path `upstream_path` computes, up to and including its `/v1`. -/
def upstreamPrefix (basePath : Bytes) : Bytes :=
  let trimmedBase := basePath.rdropWhile (· == 0x2F)
  if trimmedBase = [] ∨ trimmedBase = utf8 "/v1" then utf8 "/v1" else trimmedBase ++ utf8 "/v1"

/-! ## The shape of the computed path -/

/-- An accepted path is `/v1`, or starts with `/v1/`. -/
theorem path_of_validateOpenaiPath {path : Bytes} (h : validateOpenaiPath path = .ok ()) :
    path = utf8 "/v1" ∨ path = utf8 "/v1" ++ 0x2F :: path.drop 4 := by
  rw [validateOpenaiPath] at h
  split at h
  case isTrue => cases h
  case isFalse hscope =>
    by_cases hv : path = utf8 "/v1"
    · exact Or.inl hv
    · right
      have hpre : (utf8 "/v1/").isPrefixOf path = true := by
        by_contra hpre
        exact hscope ⟨hv, by rw [Bool.eq_false_of_not_eq_true hpre]; rfl⟩
      obtain ⟨suffix, rfl⟩ := List.isPrefixOf_iff_prefix.mp hpre
      rfl

/-- Trimming slashes off a serialized path drops its empty last segments. -/
theorem rdropWhile_serializePath {segments : List Bytes}
    (h : ∀ s ∈ segments, ∀ b ∈ s, isPathSeparator b = false) :
    (serializePath segments).rdropWhile (· == 0x2F)
      = serializePath (segments.rdropWhile (· == [])) := by
  induction segments using List.reverseRecOn with
  | nil => rfl
  | append_singleton rest s ih =>
    rw [serializePath_append, serializePath_cons, serializePath_nil, List.append_nil]
    rcases List.eq_nil_or_concat s with rfl | ⟨front, last, rfl⟩
    · rw [List.rdropWhile_concat_pos _ _ _ (by decide), List.rdropWhile_concat_pos _ _ _ (by decide)]
      exact ih fun x hx => h x (by simp [hx])
    · have hlast : isPathSeparator last = false := h (front.concat last) (by simp) last (by simp)
      have hne : ¬ (last == 0x2F) = true := by
        intro he
        rw [beq_iff_eq.mp he] at hlast
        exact absurd hlast (by decide)
      rw [List.rdropWhile_concat_neg _ rest _ (by simp), List.concat_eq_append,
        ← List.cons_append, ← List.append_assoc,
        List.rdropWhile_concat_neg (· == 0x2F) _ last hne, serializePath_append,
        serializePath_cons, serializePath_nil]
      simp

/-- The prefix is a serialized list of clean segments. -/
theorem exists_upstreamPrefix (set : PathEncodeSet) (base : UpstreamBaseUrl) :
    ∃ kept : List Bytes, kept ≠ [] ∧ (∀ s ∈ kept, set.Clean s) ∧
      upstreamPrefix (base.path set) = serializePath kept := by
  have hv1 : set.Clean (utf8 "v1") :=
    ⟨forall_mem_of_all (by decide), set.encode_eq_self fun b hb => set.alphanumeric b
      (forall_mem_of_all (p := fun b => isAsciiAlphanumeric b = true) (by decide) b hb),
      by decide⟩
  have hclean := set.parsePath_clean base.configuredPath
  have htrim := rdropWhile_serializePath fun s hs => (hclean s hs).noSeparator
  rw [upstreamPrefix, UpstreamBaseUrl.path, htrim]
  split
  case isTrue => exact ⟨[utf8 "v1"], by simp, by simpa using hv1, rfl⟩
  case isFalse =>
    refine ⟨(set.parsePath base.configuredPath).rdropWhile (· == []) ++ [utf8 "v1"], by simp, ?_, ?_⟩
    · intro s hs
      rcases List.mem_append.mp hs with hs | hs
      · exact hclean s ((List.rdropWhile_prefix _ _).mem hs)
      · rwa [List.mem_singleton.mp hs]
    · rw [serializePath_append]
      rfl

/-- What is written behind the prefix is what followed `/v1` downstream. -/
theorem upstreamPath_eq {basePath path tail : Bytes} (h : path = utf8 "/v1" ++ tail)
    (htail : tail = [] ∨ ∃ suffix, tail = 0x2F :: suffix) :
    upstreamPath basePath path = upstreamPrefix basePath ++ tail := by
  subst h
  rw [upstreamPath, upstreamPrefix]
  by_cases he : basePath.rdropWhile (· == 0x2F) = []
  · simp [he]
  · by_cases hv : basePath.rdropWhile (· == 0x2F) = utf8 "/v1"
    · rcases htail with rfl | ⟨suffix, rfl⟩
      · simp [hv]
      · have hne : utf8 "/v1" ++ 0x2F :: suffix ≠ utf8 "/v1" := by simp
        have hstrip : stripPrefix (utf8 "/v1/") (utf8 "/v1" ++ 0x2F :: suffix) = some suffix := rfl
        simp only [hv, hne, hstrip, if_false, if_true, or_true]
        rfl
    · simp [he, hv]

/-! ## When the prefix survives -/

/-- A path `http::Uri` admits does not end early. -/
theorem endsPath_of_admitted : ∀ b : UInt8, uriPathByte b = true → endsPath b = false :=
  forall_byte (p := fun b => uriPathByte b = true → endsPath b = false) (by decide +kernel)

/-- Neither does the prefix. -/
theorem endsPath_of_mem_serializePath {set : PathEncodeSet} {segments : List Bytes}
    (h : ∀ s ∈ segments, set.Clean s) : ∀ b ∈ serializePath segments, endsPath b = false := by
  intro b hb
  obtain ⟨s, hs, hb⟩ := List.mem_flatMap.mp hb
  rcases List.mem_cons.mp hb with rfl | hb
  · rfl
  · have hset := (h s hs).encodes_eq_false hb
    have hquestion := set.question
    have hhash := set.hash
    rw [endsPath, Bool.or_eq_false_iff, beq_eq_false_iff_ne, beq_eq_false_iff_ne]
    constructor <;> rintro rfl <;> simp_all

/-- What `build_upstream_url` returns for an accepted path. -/
theorem buildUpstreamUrl_path {set : PathEncodeSet} {base : UpstreamBaseUrl} {uri : Uri}
    {kept : List Bytes} {tail : Bytes} (hclean : ∀ s ∈ kept, set.Clean s)
    (hpre : upstreamPrefix (base.path set) = serializePath kept)
    (htail : tail = [] ∨ ∃ suffix, tail = 0x2F :: suffix) (hpath : uri.path = utf8 "/v1" ++ tail)
    {url : Url} (h : buildUpstreamUrl set base uri = .ok url) :
    url.path = serializePath (set.parsePath (serializePath kept ++ tail)) := by
  have hends : ∀ b ∈ serializePath kept ++ tail, (!endsPath b) = true := by
    intro b hb
    rcases List.mem_append.mp hb with hb | hb
    · rw [endsPath_of_mem_serializePath hclean b hb]
      rfl
    · rw [endsPath_of_admitted b (uri.admitted b (by rw [hpath]; simp [hb]))]
      rfl
  rw [buildUpstreamUrl] at h
  cases hv : validateOpenaiPath uri.path with
  | error e =>
    rw [hv] at h
    cases h
  | ok u =>
    rw [hv] at h
    cases h
    rw [Url.parse, upstreamPath_eq hpath htail, hpre, List.takeWhile_append_of_pos hends]
    cases hq : uri.query with
    | none => simp
    | some query => simp [endsPath]

/-- **When a downstream path stays below the upstream prefix**: exactly when it is rejected, or no
initial stretch of what follows `/v1/`, cut at `/` and `\`, has more double dots than ordinary
segments. -/
theorem upstream_prefix_kept_iff (set : PathEncodeSet) (base : UpstreamBaseUrl) (uri : Uri) :
    (∀ url, buildUpstreamUrl set base uri = .ok url →
      upstreamPrefix (base.path set) <+: url.path ∧
        set.Uncancelled (upstreamPrefix (base.path set))
          (upstreamPath (base.path set) uri.path)) ↔
      (validateOpenaiPath uri.path = .ok () → ¬ Climbs (pathSegments (uri.path.drop 4))) := by
  cases hv : validateOpenaiPath uri.path with
  | error e => simp [buildUpstreamUrl, hv, bind, Except.bind]
  | ok u =>
    obtain ⟨kept, hne, hclean, hpre⟩ := exists_upstreamPrefix set base
    have hbuilt : ∃ url, buildUpstreamUrl set base uri = .ok url := by
      rw [buildUpstreamUrl, hv]
      exact ⟨_, rfl⟩
    rcases path_of_validateOpenaiPath hv with hpath | hpath
    · have hpath' : uri.path = utf8 "/v1" ++ [] := by rw [hpath, List.append_nil]
      have hclimbs : ¬ Climbs (pathSegments (uri.path.drop 4)) := by
        intro hc
        rw [hpath] at hc
        obtain ⟨s, hs, hd⟩ := hc.exists_isDoubleDot
        rw [List.mem_singleton.mp hs] at hd
        exact absurd hd (by decide)
      refine iff_of_true (fun url hurl => ?_) fun _ => hclimbs
      have hurl' := buildUpstreamUrl_path hclean hpre (Or.inl rfl) hpath' hurl
      rw [List.append_nil, set.parsePath_serializePath hne hclean] at hurl'
      rw [upstreamPath_eq hpath' (Or.inl rfl), List.append_nil, hpre, hurl']
      exact ⟨List.prefix_rfl, set.uncancelled_self hne hclean⟩
    · have htail : ∃ suffix, 0x2F :: uri.path.drop 4 = 0x2F :: suffix := ⟨_, rfl⟩
      rw [upstreamPath_eq hpath (Or.inr htail), hpre, set.uncancelled_iff hne hclean]
      refine ⟨fun h _ => ?_, fun h url hurl => ⟨?_, h rfl⟩⟩
      · obtain ⟨url, hurl⟩ := hbuilt
        exact (h url hurl).2
      · rw [buildUpstreamUrl_path hclean hpre (Or.inr htail) hpath hurl]
        exact serializePath_prefix (set.prefix_parsePath hne hclean (h rfl))

/-- The path percent-encode set of the URL standard. -/
def whatwgPathSet : PathEncodeSet where
  encodes b := b ≤ 0x20 || 0x7F ≤ b || (utf8 "\"#<>?^`\x7b\x7d").contains b
  alphanumeric := forall_byte (p := fun b => isAsciiAlphanumeric b = true → _ = false)
    (by decide +kernel)
  percent := by decide
  dot := by decide
  question := by decide
  hash := by decide

/-- `/v1/..\admin` is accepted, and dialled as `/admin`. -/
theorem upstream_prefix_lost_backslash :
    ∃ uri : Uri, uri.path = utf8 "/v1/..\\admin" ∧
      ∃ url, buildUpstreamUrl whatwgPathSet ⟨utf8 "http://upstream.example", utf8 "/v1"⟩ uri = .ok url ∧
        url.path = utf8 "/admin" ∧
        ¬ upstreamPrefix (UpstreamBaseUrl.path whatwgPathSet
          ⟨utf8 "http://upstream.example", utf8 "/v1"⟩) <+: url.path := by
  refine ⟨⟨utf8 "/v1/..\\admin", none, forall_mem_of_all (by decide)⟩, rfl,
    ⟨utf8 "http://upstream.example", utf8 "/admin", []⟩, ?_, rfl, ?_⟩
  · decide +kernel
  · decide

end LlmGuardProxy
