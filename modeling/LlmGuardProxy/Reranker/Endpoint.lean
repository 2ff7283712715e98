import LlmGuardProxy.Reranker.Body
import LlmGuardProxy.Reranker.Score
import LlmGuardProxy.Upstream.Path

/-!
# Reranker/Endpoint — which endpoints a reranker request can be sent to

A profile may have endpoints of two protocols.  A request is captured once, before an endpoint is
chosen; an endpoint is asked whether it is compatible with the request, and the request is rendered
for the one that was chosen.  The two are separate case distinctions.

* `isCompatibleWithEndpoint` — what an endpoint is asked.
* `render` — the request in the protocol of the endpoint.
* `compatible_endpoint_renders_iff` — which captured requests are rendered by every endpoint that
  said yes.
-/

namespace LlmGuardProxy

open Machinery

/-! ## Headers -/

/-- The headers of a request, by name in lower case. -/
abbrev HeaderMap := List (String × Bytes)

namespace HeaderMap

/-- `contains_key`. -/
def containsKey (headers : HeaderMap) (name : String) : Bool := headers.any (·.1 = name)

/-- `remove`. -/
def remove (headers : HeaderMap) (name : String) : HeaderMap := headers.filter (·.1 ≠ name)

/-- `insert`. -/
def insert (headers : HeaderMap) (name : String) (value : Bytes) : HeaderMap :=
  headers.remove name ++ [(name, value)]

/-- `get_all`. -/
def getAll (headers : HeaderMap) (name : String) : List Bytes :=
  (headers.filter (·.1 = name)).map (·.2)

end HeaderMap

/-- `HeaderValue::to_str` succeeds. -/
def isVisibleAscii (value : Bytes) : Bool := value.all fun b => (0x20 ≤ b && b < 0x7F) || b == 0x09

/-- White space in a visible header value. -/
def isHeaderBlank (b : UInt8) : Bool := b == 0x20 || b == 0x09

/-- `str::trim` on a visible header value. -/
def trimBlanks (value : Bytes) : Bytes := (value.dropWhile isHeaderBlank).rdropWhile isHeaderBlank

/-- `u8::to_ascii_lowercase`. -/
def toAsciiLowercase (b : UInt8) : UInt8 := if 0x41 ≤ b ∧ b ≤ 0x5A then b + 0x20 else b

/-- `connection_header_tokens`; a token that is no header name is equal to none. -/
def connectionHeaderTokens (headers : HeaderMap) : List Bytes :=
  ((headers.getAll "connection").filter isVisibleAscii).flatMap fun value =>
    (value.splitOn 0x2C).map fun token => (trimBlanks token).map toAsciiLowercase

/-- `is_hop_by_hop_header`. -/
def hopByHopHeaders : List String :=
  ["connection", "keep-alive", "proxy-authenticate", "proxy-authorization", "te", "trailer",
    "transfer-encoding", "upgrade"]

/-- `should_skip_request_header`. -/
def shouldSkipRequestHeader (name : String) (tokens : List Bytes) : Bool :=
  name = "host" || name = "content-length" || name = "x-admin-token" || name ∈ hopByHopHeaders ||
    utf8 name ∈ tokens

/-- `forwarded_request_headers`. -/
def forwardedRequestHeaders (headers : HeaderMap) : HeaderMap :=
  headers.filter fun entry => !shouldSkipRequestHeader entry.1 (connectionHeaderTokens headers)

/-- The headers that are bound to the body as it was. -/
def payloadHeaders : List String :=
  ["content-encoding", "content-md5", "digest", "content-digest", "repr-digest", "signature",
    "signature-input", "etag", "if-match", "if-none-match"]

/-- `sanitize_transformed_request_headers`. -/
def sanitizeTransformedRequestHeaders (headers : HeaderMap) : HeaderMap :=
  payloadHeaders.foldl HeaderMap.remove
    ((forwardedRequestHeaders headers).insert "accept-encoding" (utf8 "identity"))

/-- The headers of `has_integrity_headers`. -/
def integrityHeaders : List String :=
  ["signature", "signature-input", "digest", "content-digest", "repr-digest"]

/-- `has_integrity_headers`. -/
def hasIntegrityHeaders (headers : HeaderMap) : Bool := integrityHeaders.any headers.containsKey

/-- `ISOLATED_THIRD_PARTY_SAFE_HEADERS`. -/
def isolatedThirdPartySafeHeaders : List String :=
  ["accept", "accept-charset", "accept-encoding", "accept-language",
    "access-control-request-headers", "access-control-request-method", "cache-control",
    "content-encoding", "content-language", "content-length", "content-location", "content-type",
    "date", "expect", "host", "if-match", "if-modified-since", "if-none-match", "if-range",
    "if-unmodified-since", "max-forwards", "openai-beta", "origin", "pragma", "range",
    "traceparent", "user-agent", "via", "x-amzn-trace-id", "x-b3-spanid", "x-b3-traceid",
    "x-client-request-id", "x-correlation-id", "x-request-id"]

/-- `CREDENTIAL_LIKE_HEADER_NAME_PARTS`. -/
def credentialLikeHeaderNameParts : List String :=
  ["key", "token", "secret", "auth", "credential", "password", "passwd", "cookie", "api-key",
    "access-key", "bearer"]

/-- `is_safe_isolated_third_party_header`. -/
def isSafeIsolatedThirdPartyHeader (name : String) : Bool :=
  !(credentialLikeHeaderNameParts.any fun part =>
      (name.toList.map Char.toLower).tails.any (part.toList.isPrefixOf ·)) &&
    name ∈ isolatedThirdPartySafeHeaders

/-- `isolated_third_party_headers`. -/
def isolatedThirdPartyHeaders (headers : HeaderMap) (authorization : Bytes) : HeaderMap :=
  HeaderMap.insert
    ((forwardedRequestHeaders headers).filter (isSafeIsolatedThirdPartyHeader ·.1))
    "authorization" authorization

/-- `safe_proxy_authorization_value`. -/
def safeProxyAuthorizationValue (value : Bytes) : Bool :=
  isVisibleAscii value &&
    let trimmed := trimBlanks value
    let scheme := (trimmed.takeWhile (!isHeaderBlank ·)).map toAsciiLowercase
    let credentials := trimBlanks (trimmed.dropWhile (!isHeaderBlank ·))
    credentials ≠ [] &&
      credentials.all (fun b => isAsciiAlphanumeric b || b ∈ utf8 "-._~+/=") &&
      (scheme = utf8 "bearer" || scheme = utf8 "basic")

/-! ## Endpoints -/

/-- `UpstreamEndpointProtocol`. -/
inductive UpstreamEndpointProtocol where
  | openAi
  | deepInfraQwen3Rerank
  deriving DecidableEq

/-- `UpstreamEndpointConfig`, with a base URL that was accepted. -/
structure UpstreamEndpointConfig where
  baseUrl : UpstreamBaseUrl
  protocol : UpstreamEndpointProtocol
  model : Option String
  modelRevision : Option String
  apiKeyEnv : Option String

/-- What requests are rendered with: the parser and printer of JSON, the environment, how URL paths
are encoded, and why a text is no URI. -/
structure RerankerRuntime where
  json : ScoreJson
  environment : String → Option String
  paths : PathEncodeSet
  uriError : Bytes → String

/-- What rendering fails with. -/
inductive RenderError where
  | request (error : RerankerError)
  | path (error : OpenAiPathError)

/-- `unsupported_request_error`. -/
def unsupportedRequestError : RerankerError :=
  ⟨"selected reranker endpoint cannot represent this request; use a scalar text rerank shape",
    "body", "unsupported_reranker_endpoint_request"⟩

/-- `credential_error`. -/
def credentialError : RerankerError :=
  ⟨"selected upstream endpoint has no usable runtime credential", "api_key_env",
    "upstream_endpoint_credential_unavailable"⟩

/-- The bytes `http::Uri` admits in a query. -/
def uriQueryByte (b : UInt8) : Bool :=
  b == 0x21 || (0x24 ≤ b && b ≤ 0x3B) || b == 0x3D || (0x3F ≤ b && b ≤ 0x7E) || 0x7F ≤ b

/-- `Uri::from_str`, on a text that starts with a slash. -/
def parseUri (text : Bytes) : Option Uri :=
  let path := text.takeWhile fun b => !endsPath b
  let query := match text.dropWhile fun b => !endsPath b with
    | 0x3F :: rest => some (rest.takeWhile (· ≠ 0x23))
    | _ => none
  if h : text.length < 65535 ∧ path.all uriPathByte ∧ query.all (·.all uriQueryByte) then
    some ⟨path, query, fun b hb => List.all_eq_true.mp h.2.1 b hb⟩
  else none

/-- The same query behind another path. -/
def Uri.withPath (uri : Uri) (path : Bytes) (h : ∀ b ∈ path, uriPathByte b = true) : Uri where
  path := path
  query := uri.query
  admitted := h

section

variable (runtime : RerankerRuntime)

/-- `optional_authorization_header`. -/
def optionalAuthorizationHeader (endpoint : UpstreamEndpointConfig) :
    Except RerankerError (Option Bytes) :=
  match endpoint.apiKeyEnv with
  | none => .ok none
  | some environmentName =>
      match runtime.environment environmentName with
      | none => .error credentialError
      | some token =>
          let value := utf8 "Bearer " ++ utf8 token
          if token.toList.all isUnicodeWhitespace || !isVisibleAscii value then
            .error credentialError
          else .ok (some value)

/-- `required_authorization_header`. -/
def requiredAuthorizationHeader (endpoint : UpstreamEndpointConfig) : Except RerankerError Bytes := do
  match ← optionalAuthorizationHeader runtime endpoint with
  | some authorization => .ok authorization
  | none => .error unsupportedRequestError

/-- `has_runtime_credential`. -/
def hasRuntimeCredential (endpoint : UpstreamEndpointConfig) : Bool :=
  match endpoint.protocol with
  | .openAi => (optionalAuthorizationHeader runtime endpoint).isOk
  | .deepInfraQwen3Rerank => (requiredAuthorizationHeader runtime endpoint).isOk

/-- `deepinfra_inference_uri`. -/
def deepInfraInferenceUri (endpoint : UpstreamEndpointConfig) : Except RerankerError Uri :=
  match endpoint.model, endpoint.modelRevision with
  | some model, some version =>
      let text := utf8 "/v1/inference/" ++ utf8 model ++ utf8 "?version=" ++ utf8 version
      match parseUri text with
      | some uri => .ok uri
      | none => .error (invalidRequestError
          ("invalid DeepInfra inference path: " ++ runtime.uriError text))
  | _, _ => .error unsupportedRequestError

/-! ## The DeepInfra protocol -/

/-- `RequestError`. -/
inductive DeepInfraRequestError where
  | invalid (message : String)
  | unsupported (message : String)

/-- The text of a request error. -/
def DeepInfraRequestError.text : DeepInfraRequestError → String
  | .invalid message => message
  | .unsupported message => message

/-- `RequestError::code`. -/
def DeepInfraRequestError.code : DeepInfraRequestError → String
  | .invalid _ => "invalid_deepinfra_rerank_request"
  | .unsupported _ => "unsupported_deepinfra_rerank_feature"

/-- `INFERENCE_PATH`. -/
def inferencePath : Bytes := utf8 "/v1/inference/Qwen/Qwen3-Reranker-8B"

/-- The texts of an array; `describe` says which item is not one. -/
def stringArray {ε : Type} (describe : ℕ → ε) : ℕ → List Json → Except ε (List String)
  | _, [] => .ok []
  | index, .str text :: items => (stringArray describe (index + 1) items).map (text :: ·)
  | index, _ :: _ => .error (describe index)

/-- `required_string_array`. -/
def requiredStringArray (object : Json.Members) (field : String) : Except String (List String) :=
  match object.get field with
  | none => .error ("DeepInfra rerank body missing " ++ field)
  | some (.arr items) =>
      if items = [] then .error ("DeepInfra rerank " ++ field ++ " must be a non-empty array")
      else if maxPairCount < items.length then
        .error ("DeepInfra rerank " ++ field ++ " must contain at most " ++ toString maxPairCount ++
          " items")
      else stringArray (fun index => "DeepInfra rerank " ++ field ++ "[" ++ toString index ++
        "] must be a string") 0 items
  | some _ => .error ("DeepInfra rerank " ++ field ++ " must be an array of strings")

/-- `validate_instruction`. -/
def validateInstruction : Option Json → Except DeepInfraRequestError Unit
  | none => .ok ()
  | some (.str instruction) =>
      if 2048 < instruction.length then
        .error (.invalid "DeepInfra rerank instruction must not exceed 2048 characters")
      else if instruction ≠ defaultInstruction then
        .error (.unsupported "custom instruction is unsupported by this compatibility endpoint")
      else .ok ()
  | some _ => .error (.invalid "DeepInfra rerank instruction must be a string")

/-- `validate_webhook`. -/
def validateWebhook : Option Json → Except DeepInfraRequestError Unit
  | none | some .null => .ok ()
  | some (.str webhook) =>
      if webhook = "" then .error (.invalid "DeepInfra rerank webhook must not be empty")
      else .error (.unsupported
        "DeepInfra rerank webhook is unsupported by the synchronous local adapter")
  | some _ => .error (.invalid "DeepInfra rerank webhook must be a string or null")

/-- `parse_service_tier`; the tier itself is recorded only. -/
def parseServiceTier : Option Json → Except DeepInfraRequestError Unit
  | none => .ok ()
  | some tier =>
      if tier.asStr = some "default" ∨ tier.asStr = some "priority" ∨ tier.asStr = some "flex" then
        .ok ()
      else .error (.invalid "DeepInfra rerank service_tier must be default, priority, or flex")

/-- The fields of `reject_unknown_fields`. -/
def deepInfraFields : List String := ["queries", "documents", "instruction", "service_tier", "webhook"]

/-- The score request that stands for a native one. -/
def nativeScoreRequest (queries documents : List String) : Json :=
  .obj (Json.Members.ofEntries [("model", .str "qwen3-reranker-8b"),
    ("text_1", .arr (queries.map .str)), ("text_2", .arr (documents.map .str))])

/-- `AdaptedRequest`. -/
structure AdaptedRequest where
  forwardUri : Uri
  body : Bytes
  resultCount : ℕ

/-- The path `/v1/score`. -/
def scorePath : Bytes := utf8 "/v1/score"

/-- The path `/v1/rerank`. -/
def rerankPath : Bytes := utf8 "/v1/rerank"

theorem admitted_scorePath : ∀ b ∈ scorePath, uriPathByte b = true :=
  forall_mem_of_all (by decide)

theorem admitted_rerankPath : ∀ b ∈ rerankPath, uriPathByte b = true :=
  forall_mem_of_all (by decide)

/-- `adapt_request`. -/
def adaptRequest (uri : Uri) (body : Bytes) : Except DeepInfraRequestError AdaptedRequest := do
  let value ← (runtime.json.readValue body).mapError fun error =>
    .invalid ("invalid DeepInfra rerank JSON: " ++ error)
  match value with
  | .obj object =>
      if object.any (·.1 ∉ deepInfraFields) then
        .error (.invalid "DeepInfra rerank body contains an unsupported field")
      else do
        let queries ← (requiredStringArray object "queries").mapError .invalid
        let documents ← (requiredStringArray object "documents").mapError .invalid
        if queries.length ≠ documents.length then
          .error (.invalid "DeepInfra rerank queries and documents must have the same length")
        else do
          validateInstruction (Json.Members.get object "instruction")
          validateWebhook (Json.Members.get object "webhook")
          parseServiceTier (Json.Members.get object "service_tier")
          .ok ⟨uri.withPath scorePath admitted_scorePath,
            runtime.json.print (nativeScoreRequest queries documents), queries.length⟩
  | _ => .error (.invalid "DeepInfra rerank body must be a JSON object")

/-! ## Capturing a request -/

/-- `CanonicalRerankerRequest`. -/
inductive CanonicalRerankerRequest where
  | openAiRerank (forwardUri : Uri) (body : Bytes)
  | score (forwardUri : Uri) (body : Bytes)
  | deepInfraNative (uri : Uri) (body : Bytes)
  | unsupportedScore

/-- `capture_request`. -/
def captureRequest (method : String) (originalUri : Uri) (originalBody : Bytes) (adaptedUri : Uri)
    (adaptedBody : Bytes) : Option CanonicalRerankerRequest :=
  if method = "POST" ∧ originalUri.path = inferencePath then
    some (.deepInfraNative originalUri originalBody)
  else if method = "POST" ∧ originalUri.path = scorePath then
    if adaptedUri.path = rerankPath then some (.score adaptedUri adaptedBody)
    else some .unsupportedScore
  else if method = "POST" ∧ originalUri.path = rerankPath then
    some (.openAiRerank adaptedUri adaptedBody)
  else none

/-- `ensure_transform_headers_supported`. -/
def ensureTransformHeadersSupported (headers : HeaderMap) : Except RerankerError Unit :=
  if headers.containsKey "signature" || headers.containsKey "signature-input" ||
      !(headers.getAll "authorization").all safeProxyAuthorizationValue then
    .error ⟨"signed requests cannot be transformed without invalidating the signature", "headers",
      "signed_request_transformation_unsupported"⟩
  else .ok ()

/-- What an invalid score request is refused with. -/
def invalidScoreRequest (error : String) : RerankerError :=
  ⟨"invalid score request: " ++ error, "body", "invalid_score_request"⟩

/-- `adapt_openai_request_if_needed`: where the request is forwarded to, and with which body. -/
def adaptOpenaiRequestIfNeeded (method : String) (uri : Uri) (headers : HeaderMap) (body : Bytes) :
    Except RerankerError (Uri × Bytes) :=
  if method = "POST" ∧ uri.path = inferencePath then do
    ensureTransformHeadersSupported headers
    let adapted ← (adaptRequest runtime uri body).mapError fun error =>
      ⟨"invalid DeepInfra rerank request: " ++ error.text, "body", error.code⟩
    .ok (adapted.forwardUri, adapted.body)
  else if method = "POST" ∧ uri.path = scorePath then do
    if ← (canAdaptScoreBodyToRerank runtime.json body).mapError invalidScoreRequest then do
      ensureTransformHeadersSupported headers
      let adapted ← (scoreBodyToRerankBody runtime.json body).mapError invalidScoreRequest
      .ok (uri.withPath rerankPath admitted_rerankPath, adapted)
    else .ok (uri, body)
  else .ok (uri, body)

/-- A reranker request as it is captured, once it was adapted. -/
def capture (method : String) (uri : Uri) (headers : HeaderMap) (body : Bytes) :
    Except RerankerError (Option CanonicalRerankerRequest) := do
  let (adaptedUri, adaptedBody) ← adaptOpenaiRequestIfNeeded runtime method uri headers body
  .ok (captureRequest method uri body adaptedUri adaptedBody)

/-! ## Reading a rerank body -/

/-- `DEEPINFRA_CONVERTIBLE_RERANK_FIELDS`. -/
def deepInfraConvertibleRerankFields : List String :=
  ["model", "query", "documents", "top_n", "return_documents"]

/-- The model of a rerank body. -/
def rerankModel : Option Json → Except RerankerError (Option String)
  | none => .ok none
  | some (.str model) =>
      if model.toList.all isUnicodeWhitespace then
        .error (invalidRequestError "rerank model must not be empty")
      else .ok (some model)
  | some _ => .error (invalidRequestError "rerank model must be a string")

/-- The documents of a rerank body. -/
def rerankDocuments : Option Json → Except RerankerError (List String)
  | some (.arr documents) =>
      if documents = [] ∨ maxPairCount < documents.length then
        .error (invalidRequestError ("rerank documents must contain between 1 and " ++
          toString maxPairCount ++ " strings"))
      else stringArray (fun index => invalidRequestError ("rerank documents[" ++ toString index ++
        "] must be a string")) 0 documents
  | _ => .error (invalidRequestError "rerank documents must be an array")

/-- The number of results a rerank body asks for. -/
def rerankTopN (documentCount : ℕ) : Option Json → Except RerankerError ℕ
  | none => .ok documentCount
  | some value =>
      match value.asU64.map UInt64.toNat with
      | some topN =>
          if 0 < topN ∧ topN ≤ documentCount then .ok topN
          else .error (invalidRequestError
            "rerank top_n must be a positive integer no greater than document count")
      | none => .error (invalidRequestError
          "rerank top_n must be a positive integer no greater than document count")

/-- Whether a rerank body asks for the documents. -/
def rerankReturnDocuments : Option Json → Except RerankerError Bool
  | none => .ok false
  | some (.bool returnDocuments) => .ok returnDocuments
  | some _ => .error (invalidRequestError "rerank return_documents must be a boolean")

/-- `parse_openai_rerank`. -/
def parseOpenaiRerank (body : Bytes) : Except RerankerError OpenAiRerankInput := do
  let value ← (runtime.json.readValue body).mapError fun error =>
    invalidRequestError ("invalid rerank JSON: " ++ error)
  match value with
  | .obj object =>
      if object.any (·.1 ∉ deepInfraConvertibleRerankFields) then
        .error (invalidRequestError
          "rerank body contains fields that cannot be preserved by DeepInfra")
      else do
        let model ← rerankModel (Json.Members.get object "model")
        let query ← ((Json.Members.get object "query").bind Json.asStr).elim
          (.error (invalidRequestError "rerank query must be a string")) .ok
        let documents ← rerankDocuments (Json.Members.get object "documents")
        let topN ← rerankTopN documents.length (Json.Members.get object "top_n")
        let returnDocuments ← rerankReturnDocuments (Json.Members.get object "return_documents")
        .ok ⟨model, query, documents, topN, returnDocuments⟩
  | _ => .error (invalidRequestError "rerank body must be a JSON object")

/-- `parse_deepinfra_convertible_rerank`. -/
def parseDeepInfraConvertibleRerank (forwardUri : Uri) (body : Bytes) :
    Except RerankerError OpenAiRerankInput :=
  if forwardUri.query.any (· ≠ []) then
    .error (invalidRequestError "rerank query parameters cannot be preserved by DeepInfra")
  else parseOpenaiRerank runtime body

/-! ## Compatibility and rendering -/

/-- `response_contract` succeeds: what the response is to be made of can be read off the request. -/
def responseContract : CanonicalRerankerRequest → Except RerankerError Unit
  | .openAiRerank forwardUri body =>
      (parseDeepInfraConvertibleRerank runtime forwardUri body).map fun _ => ()
  | .score forwardUri body =>
      (parseDeepInfraConvertibleRerank runtime forwardUri body).map fun _ => ()
  | .deepInfraNative uri body =>
      ((adaptRequest runtime uri body).mapError fun error =>
        invalidRequestError error.text).map fun _ => ()
  | .unsupportedScore => .error unsupportedRequestError

/-- `is_compatible_with_endpoint`, for a captured request and its headers. -/
def isCompatibleWithEndpoint (endpoint : UpstreamEndpointConfig) (request : CanonicalRerankerRequest)
    (headers : HeaderMap) : Bool :=
  match endpoint.protocol with
  | .openAi => true
  | .deepInfraQwen3Rerank =>
      (responseContract runtime request).isOk && (deepInfraInferenceUri runtime endpoint).isOk &&
        !hasIntegrityHeaders headers

/-- `RenderedEndpointRequest`. -/
structure RenderedEndpointRequest where
  uri : Uri
  url : Url
  body : Bytes
  headers : HeaderMap

/-- `rewrite_openai_model`. -/
def rewriteOpenaiModel (endpoint : UpstreamEndpointConfig) (body : Bytes) (headers : HeaderMap) :
    Except RerankerError Bytes :=
  match endpoint.model with
  | none => .ok body
  | some model =>
      if body = [] then .ok body
      else if endpoint.apiKeyEnv.isNone && hasIntegrityHeaders headers then
        .error ⟨"signed or integrity-protected requests cannot use an endpoint model override",
          "headers", "signed_request_transformation_unsupported"⟩
      else
        match runtime.json.readValue body with
        | .error error => .error (invalidRequestError
            ("OpenAI endpoint model override requires JSON: " ++ error))
        | .ok (.obj object) =>
            .ok (runtime.json.print (.obj (Json.Members.insert "model" (.str model) object)))
        | .ok _ => .error (invalidRequestError
            "OpenAI endpoint model override requires a JSON object")

/-- `render_openai_endpoint`. -/
def renderOpenaiEndpoint (endpoint : UpstreamEndpointConfig) (uri : Uri) (body : Bytes)
    (headers : HeaderMap) (transformedRequestHeaders : Bool) :
    Except RenderError RenderedEndpointRequest := do
  let authorization ← (optionalAuthorizationHeader runtime endpoint).mapError .request
  let renderedBody ← (rewriteOpenaiModel runtime endpoint body headers).mapError .request
  let isolated := authorization.elim headers (isolatedThirdPartyHeaders headers)
  let url ← (buildUpstreamUrl runtime.paths endpoint.baseUrl uri).mapError .path
  .ok ⟨uri, url, renderedBody,
    if transformedRequestHeaders || renderedBody ≠ body then
      sanitizeTransformedRequestHeaders isolated
    else isolated⟩

/-- `request_headers_for_openai`. -/
def requestHeadersForOpenai (headers : HeaderMap) : CanonicalRerankerRequest → HeaderMap
  | .openAiRerank _ _ => headers
  | _ => sanitizeTransformedRequestHeaders headers

/-- Where a request goes at an OpenAI endpoint, and with which body. -/
def openaiTarget : CanonicalRerankerRequest → Except RerankerError (Uri × Bytes)
  | .openAiRerank forwardUri body => .ok (forwardUri, body)
  | .score forwardUri body => .ok (forwardUri, body)
  | .deepInfraNative uri body =>
      ((adaptRequest runtime uri body).mapError fun error => invalidRequestError error.text).map
        fun adapted => (adapted.forwardUri, adapted.body)
  | .unsupportedScore => .error unsupportedRequestError

/-- `render_openai`. -/
def renderOpenai (endpoint : UpstreamEndpointConfig) (request : CanonicalRerankerRequest)
    (headers : HeaderMap) : Except RenderError RenderedEndpointRequest := do
  let (uri, body) ← (openaiTarget runtime request).mapError .request
  renderOpenaiEndpoint runtime endpoint uri body (requestHeadersForOpenai headers request) false

/-- `ensure_deepinfra_transformation_is_unsigned`. -/
def ensureDeepInfraTransformationIsUnsigned (headers : HeaderMap) : Except RerankerError Unit :=
  if hasIntegrityHeaders headers then
    .error ⟨"signed or integrity-protected requests cannot be transformed for DeepInfra", "headers",
      "signed_request_transformation_unsupported"⟩
  else .ok ()

/-- A rerank body for DeepInfra. -/
def deepInfraRerankTarget (endpoint : UpstreamEndpointConfig) (forwardUri : Uri) (body : Bytes) :
    Except RerankerError (Bytes × Uri) := do
  let input ← parseDeepInfraConvertibleRerank runtime forwardUri body
  ensureGeneratedBodyFits input
  let uri ← deepInfraInferenceUri runtime endpoint
  .ok (deepInfraBody runtime.json.print input, uri)

/-- What a request is at a DeepInfra endpoint. -/
def deepInfraTarget (endpoint : UpstreamEndpointConfig) :
    CanonicalRerankerRequest → Except RerankerError (Bytes × Uri)
  | .openAiRerank forwardUri body => deepInfraRerankTarget runtime endpoint forwardUri body
  | .score forwardUri body => deepInfraRerankTarget runtime endpoint forwardUri body
  | .deepInfraNative uri body => do
      let target ← deepInfraInferenceUri runtime endpoint
      if uri.query.isSome ∧ target.query ≠ uri.query then
        .error (invalidRequestError
          "DeepInfra native query must match the configured pinned version")
      else if maxDeepInfraRenderedBodyBytes < body.length then
        .error (invalidRequestError
          "DeepInfra native body exceeds the rendered endpoint body limit")
      else .ok (body, target)
  | .unsupportedScore => .error unsupportedRequestError

/-- `render_deepinfra`. -/
def renderDeepInfra (endpoint : UpstreamEndpointConfig) (request : CanonicalRerankerRequest)
    (headers : HeaderMap) : Except RenderError RenderedEndpointRequest := do
  let authorization ← (requiredAuthorizationHeader runtime endpoint).mapError .request
  (ensureDeepInfraTransformationIsUnsigned headers).mapError .request
  let (body, uri) ← (deepInfraTarget runtime endpoint request).mapError .request
  let url ← (buildUpstreamUrl runtime.paths endpoint.baseUrl uri).mapError .path
  .ok ⟨uri, url, body, [("accept", utf8 "application/json"), ("accept-encoding", utf8 "identity"),
    ("authorization", authorization), ("content-type", utf8 "application/json")]⟩

/-- `render`. -/
def render (endpoint : UpstreamEndpointConfig) (request : CanonicalRerankerRequest)
    (headers : HeaderMap) : Except RenderError RenderedEndpointRequest :=
  match endpoint.protocol with
  | .openAi => renderOpenai runtime endpoint request headers
  | .deepInfraQwen3Rerank => renderDeepInfra runtime endpoint request headers

end

/-- An adapted native request goes to the score path. -/
theorem path_adaptRequest {runtime : RerankerRuntime} {uri : Uri} {body : Bytes}
    {adapted : AdaptedRequest} (h : adaptRequest runtime uri body = .ok adapted) :
    adapted.forwardUri.path = scorePath := by
  unfold adaptRequest at h
  obtain ⟨value, -, h⟩ := bind_eq_ok h
  split at h
  next object =>
    split at h
    · cases h
    · obtain ⟨queries, -, h⟩ := bind_eq_ok h
      obtain ⟨documents, -, h⟩ := bind_eq_ok h
      split at h
      · cases h
      · obtain ⟨_, -, h⟩ := bind_eq_ok h
        obtain ⟨_, -, h⟩ := bind_eq_ok h
        obtain ⟨_, -, h⟩ := bind_eq_ok h
        rw [← Except.ok.inj h]
        rfl
  next => cases h

/-! ## What a captured request is -/

section

variable {runtime : RerankerRuntime} {endpoint : UpstreamEndpointConfig} {headers : HeaderMap}

/-- A score body that is to be passed on unchanged. -/
def PassesThrough (runtime : RerankerRuntime) (method : String) (uri : Uri) (body : Bytes) : Prop :=
  method = "POST" ∧ uri.path = scorePath ∧ canAdaptScoreBodyToRerank runtime.json body = .ok false

/-- **What is captured**: a native request that could be adapted, a score request that was, a rerank
request, or nothing of a body that is passed through. -/
theorem capture_cases {method : String} {uri : Uri} {body : Bytes}
    {request : CanonicalRerankerRequest}
    (h : capture runtime method uri headers body = .ok (some request)) :
    (request = .deepInfraNative uri body ∧ ¬ PassesThrough runtime method uri body ∧
        ∃ adapted, adaptRequest runtime uri body = .ok adapted) ∨
      (¬ PassesThrough runtime method uri body ∧
        ∃ adapted, request = .score (uri.withPath rerankPath admitted_rerankPath) adapted) ∨
      (request = .unsupportedScore ∧ PassesThrough runtime method uri body) ∨
      (request = .openAiRerank uri body ∧ ¬ PassesThrough runtime method uri body ∧
        uri.path = rerankPath) := by
  unfold capture adaptOpenaiRequestIfNeeded captureRequest at h
  by_cases hnative : method = "POST" ∧ uri.path = inferencePath
  · simp only [if_pos hnative] at h
    obtain ⟨⟨adaptedUri, adaptedBody⟩, hadapted, h⟩ := bind_eq_ok h
    obtain ⟨-, -, hadapted⟩ := bind_eq_ok hadapted
    obtain ⟨adapted, hadapted, -⟩ := bind_eq_ok hadapted
    refine Or.inl ⟨(Option.some.inj (Except.ok.inj h)).symm, ?_, adapted, ?_⟩
    · rintro ⟨-, hpath, -⟩
      exact absurd (hnative.2.symm.trans hpath) (by decide)
    · cases hrequest : adaptRequest runtime uri body with
      | error error => simp [hrequest, Except.mapError] at hadapted
      | ok value => simpa [hrequest, Except.mapError] using hadapted
  · simp only [if_neg hnative] at h
    by_cases hscore : method = "POST" ∧ uri.path = scorePath
    · simp only [if_pos hscore] at h
      obtain ⟨⟨adaptedUri, adaptedBody⟩, hadapted, h⟩ := bind_eq_ok h
      obtain ⟨adapts, hadapts, hadapted⟩ := bind_eq_ok hadapted
      have hcan : canAdaptScoreBodyToRerank runtime.json body = .ok adapts := by
        cases hcan : canAdaptScoreBodyToRerank runtime.json body with
        | error error => simp [hcan, Except.mapError] at hadapts
        | ok value => simpa [hcan, Except.mapError] using hadapts
      cases adapts with
      | true =>
        refine Or.inr (Or.inl ⟨fun hpass => ?_, adaptedBody, ?_⟩)
        · exact absurd (hcan.symm.trans hpass.2.2) (by simp)
        · simp only [if_true] at hadapted
          obtain ⟨_, -, hbody⟩ := bind_eq_ok hadapted
          obtain ⟨_, -, hbody⟩ := bind_eq_ok hbody
          obtain ⟨rfl, rfl⟩ := Prod.mk.inj (Except.ok.inj hbody)
          simp only [Uri.withPath, if_true] at h
          exact (Option.some.inj (Except.ok.inj h)).symm
      | false =>
        refine Or.inr (Or.inr (Or.inl ⟨?_, hscore.1, hscore.2, hcan⟩))
        simp only [Bool.false_eq_true, if_false] at hadapted
        obtain ⟨rfl, rfl⟩ := Prod.mk.inj (Except.ok.inj hadapted)
        have hne : uri.path ≠ rerankPath := by
          rw [hscore.2]
          decide
        simp only [if_neg hne] at h
        exact (Option.some.inj (Except.ok.inj h)).symm
    · simp only [if_neg hscore] at h
      have hpass : ¬ PassesThrough runtime method uri body := fun hpass =>
        hscore ⟨hpass.1, hpass.2.1⟩
      by_cases hrerank : method = "POST" ∧ uri.path = rerankPath
      · simp only [if_pos hrerank] at h
        exact Or.inr (Or.inr (Or.inr ⟨(Option.some.inj (Except.ok.inj h)).symm, hpass,
          hrerank.2⟩))
      · simp only [if_neg hrerank] at h
        cases h

/-! ## What can be rendered -/

/-- The model of an endpoint can be written into a body. -/
def OverrideFits (runtime : RerankerRuntime) (endpoint : UpstreamEndpointConfig) (body : Bytes)
    (signed : Bool) : Prop :=
  endpoint.model.isSome → body ≠ [] → (endpoint.apiKeyEnv.isNone → signed = false) ∧
    ∃ object, runtime.json.readValue body = .ok (.obj object)

theorem rewriteOpenaiModel_isOk_iff {body : Bytes} :
    (∃ rendered, rewriteOpenaiModel runtime endpoint body headers = .ok rendered) ↔
      OverrideFits runtime endpoint body (hasIntegrityHeaders headers) := by
  unfold rewriteOpenaiModel OverrideFits
  cases endpoint.model with
  | none => simp
  | some model =>
    by_cases hempty : body = []
    · simp [hempty]
    · cases hsigned : hasIntegrityHeaders headers with
      | true =>
        cases endpoint.apiKeyEnv with
        | none => simp [hempty]
        | some environmentName =>
          cases runtime.json.readValue body with
          | error error => simp [hempty]
          | ok value => cases value <;> simp [hempty]
      | false =>
        cases runtime.json.readValue body with
        | error error => simp [hempty]
        | ok value => cases value <;> simp [hempty]

/-- Nothing is left of what is bound to the body as it was. -/
theorem hasIntegrityHeaders_sanitize (headers : HeaderMap) :
    hasIntegrityHeaders (sanitizeTransformedRequestHeaders headers) = false := by
  simp only [hasIntegrityHeaders, integrityHeaders, HeaderMap.containsKey,
    sanitizeTransformedRequestHeaders, payloadHeaders, HeaderMap.remove, List.foldl_cons,
    List.foldl_nil, List.any_cons, List.any_nil, Bool.or_false, Bool.or_eq_false_iff,
    List.any_eq_false, List.mem_filter, decide_eq_true_eq]
  tauto

theorem buildUpstreamUrl_isOk_iff (paths : PathEncodeSet) (base : UpstreamBaseUrl) {uri : Uri} :
    (∃ url, buildUpstreamUrl paths base uri = .ok url) ↔ validateOpenaiPath uri.path = .ok () := by
  unfold buildUpstreamUrl
  cases validateOpenaiPath uri.path with
  | error error => simp [bind, Except.bind]
  | ok value => simp [bind, Except.bind, pure, Except.pure]

/-- Rendering for an OpenAI endpoint succeeds when the override fits and the path is accepted. -/
theorem renderOpenaiEndpoint_isOk_iff {uri : Uri} {body : Bytes} {transformed : Bool}
    (hcredential : (optionalAuthorizationHeader runtime endpoint).isOk = true) :
    (∃ rendered, renderOpenaiEndpoint runtime endpoint uri body headers transformed =
        .ok rendered) ↔
      OverrideFits runtime endpoint body (hasIntegrityHeaders headers) ∧
        validateOpenaiPath uri.path = .ok () := by
  rw [← rewriteOpenaiModel_isOk_iff, ← buildUpstreamUrl_isOk_iff runtime.paths endpoint.baseUrl]
  unfold renderOpenaiEndpoint
  cases hauthorization : optionalAuthorizationHeader runtime endpoint with
  | error error => simp [hauthorization, Except.isOk, Except.toBool] at hcredential
  | ok authorization =>
    cases rewriteOpenaiModel runtime endpoint body headers with
    | error error => simp [Except.mapError, bind, Except.bind]
    | ok rendered =>
      cases buildUpstreamUrl runtime.paths endpoint.baseUrl uri with
      | error error => simp [Except.mapError, bind, Except.bind]
      | ok url => simp [Except.mapError, bind, Except.bind]

/-- Rendering for a DeepInfra endpoint succeeds when its target does, and the path is accepted. -/
theorem renderDeepInfra_isOk_iff {request : CanonicalRerankerRequest}
    (hcredential : (requiredAuthorizationHeader runtime endpoint).isOk = true) :
    (∃ rendered, renderDeepInfra runtime endpoint request headers = .ok rendered) ↔
      hasIntegrityHeaders headers = false ∧
        ∃ target, deepInfraTarget runtime endpoint request = .ok target ∧
          validateOpenaiPath target.2.path = .ok () := by
  unfold renderDeepInfra ensureDeepInfraTransformationIsUnsigned
  cases hauthorization : requiredAuthorizationHeader runtime endpoint with
  | error error => simp [hauthorization, Except.isOk, Except.toBool] at hcredential
  | ok authorization =>
    cases hasIntegrityHeaders headers with
    | true => simp [Except.mapError, bind, Except.bind]
    | false =>
      cases deepInfraTarget runtime endpoint request with
      | error error => simp [Except.mapError, bind, Except.bind]
      | ok target =>
        obtain ⟨body, uri⟩ := target
        simp only [Except.ok.injEq, true_and, exists_eq_left']
        rw [← buildUpstreamUrl_isOk_iff runtime.paths endpoint.baseUrl]
        cases hurl : buildUpstreamUrl runtime.paths endpoint.baseUrl uri with
        | error error => simp [hurl, Except.mapError, bind, Except.bind]
        | ok url => simp [hurl, Except.mapError, bind, Except.bind]

/-- A rerank body that a DeepInfra endpoint says it can take is small enough, and the endpoint's own
path is accepted. -/
def FitsDeepInfra (runtime : RerankerRuntime) (endpoint : UpstreamEndpointConfig)
    (headers : HeaderMap) (forwardUri : Uri) (body : Bytes) : Prop :=
  ∀ input target, parseDeepInfraConvertibleRerank runtime forwardUri body = .ok input →
    deepInfraInferenceUri runtime endpoint = .ok target → hasIntegrityHeaders headers = false →
      ensureGeneratedBodyFits input = .ok () ∧ validateOpenaiPath target.path = .ok ()

/-- A native body that a DeepInfra endpoint says it can take asks for no other version, is small
enough, and the endpoint's own path is accepted. -/
def FitsDeepInfraNative (runtime : RerankerRuntime) (endpoint : UpstreamEndpointConfig)
    (headers : HeaderMap) (uri : Uri) (body : Bytes) : Prop :=
  ∀ target, deepInfraInferenceUri runtime endpoint = .ok target →
    hasIntegrityHeaders headers = false →
      (uri.query = none ∨ uri.query = target.query) ∧
        body.length ≤ maxDeepInfraRenderedBodyBytes ∧ validateOpenaiPath target.path = .ok ()

/-- **What can be sent** to an endpoint, whatever the endpoint says. -/
def Sendable (runtime : RerankerRuntime) (endpoint : UpstreamEndpointConfig) (headers : HeaderMap) :
    CanonicalRerankerRequest → Prop
  | .openAiRerank forwardUri body =>
      match endpoint.protocol with
      | .openAi => OverrideFits runtime endpoint body (hasIntegrityHeaders headers)
      | .deepInfraQwen3Rerank => FitsDeepInfra runtime endpoint headers forwardUri body
  | .score forwardUri body =>
      match endpoint.protocol with
      | .openAi => OverrideFits runtime endpoint body false
      | .deepInfraQwen3Rerank => FitsDeepInfra runtime endpoint headers forwardUri body
  | .deepInfraNative uri body =>
      match endpoint.protocol with
      | .openAi => True
      | .deepInfraQwen3Rerank => FitsDeepInfraNative runtime endpoint headers uri body
  | .unsupportedScore => endpoint.protocol = .deepInfraQwen3Rerank

/-- What a compatible endpoint is expected to do with a captured request. -/
def RendersWhenCompatible (runtime : RerankerRuntime) (endpoint : UpstreamEndpointConfig)
    (headers : HeaderMap) (request : CanonicalRerankerRequest) : Prop :=
  isCompatibleWithEndpoint runtime endpoint request headers = true →
    ∃ rendered, render runtime endpoint request headers = .ok rendered

section

variable {request : CanonicalRerankerRequest}

/-- At an OpenAI endpoint. -/
theorem rendersWhenCompatible_openAi (hprotocol : endpoint.protocol = .openAi)
    (hcredential : hasRuntimeCredential runtime endpoint = true) :
    RendersWhenCompatible runtime endpoint headers request ↔
      ∃ uri body, openaiTarget runtime request = .ok (uri, body) ∧
        OverrideFits runtime endpoint body
          (hasIntegrityHeaders (requestHeadersForOpenai headers request)) ∧
        validateOpenaiPath uri.path = .ok () := by
  have hauthorized : (optionalAuthorizationHeader runtime endpoint).isOk = true := by
    simpa [hasRuntimeCredential, hprotocol] using hcredential
  unfold RendersWhenCompatible isCompatibleWithEndpoint render renderOpenai
  simp only [hprotocol, true_imp_iff]
  cases openaiTarget runtime request with
  | error error => simp [Except.mapError, bind, Except.bind]
  | ok target =>
    obtain ⟨uri, body⟩ := target
    simp only [Except.mapError, ok_bind, Except.ok.injEq, Prod.mk.injEq]
    rw [renderOpenaiEndpoint_isOk_iff hauthorized]
    constructor
    · rintro ⟨hfits, hpath⟩
      exact ⟨uri, body, ⟨rfl, rfl⟩, hfits, hpath⟩
    · rintro ⟨_, _, ⟨rfl, rfl⟩, hfits, hpath⟩
      exact ⟨hfits, hpath⟩

/-- At a DeepInfra endpoint. -/
theorem rendersWhenCompatible_deepInfra (hprotocol : endpoint.protocol = .deepInfraQwen3Rerank)
    (hcredential : hasRuntimeCredential runtime endpoint = true) :
    RendersWhenCompatible runtime endpoint headers request ↔
      ∀ target, responseContract runtime request = .ok () →
        deepInfraInferenceUri runtime endpoint = .ok target → hasIntegrityHeaders headers = false →
        ∃ rendered, deepInfraTarget runtime endpoint request = .ok rendered ∧
          validateOpenaiPath rendered.2.path = .ok () := by
  have hauthorized : (requiredAuthorizationHeader runtime endpoint).isOk = true := by
    simpa [hasRuntimeCredential, hprotocol] using hcredential
  unfold RendersWhenCompatible isCompatibleWithEndpoint render
  simp only [hprotocol]
  rw [renderDeepInfra_isOk_iff hauthorized]
  cases responseContract runtime request with
  | error error => simp [Except.isOk, Except.toBool]
  | ok contract =>
    cases deepInfraInferenceUri runtime endpoint with
    | error error => simp [Except.isOk, Except.toBool]
    | ok uri =>
      cases hasIntegrityHeaders headers with
      | true => simp
      | false => simp [Except.isOk, Except.toBool]

/-- The targets of a rerank body at a DeepInfra endpoint. -/
theorem deepInfraRerankTarget_eq_ok {forwardUri : Uri} {body : Bytes} {rendered : Bytes × Uri} :
    deepInfraRerankTarget runtime endpoint forwardUri body = .ok rendered ↔
      ∃ input, parseDeepInfraConvertibleRerank runtime forwardUri body = .ok input ∧
        ensureGeneratedBodyFits input = .ok () ∧
        deepInfraInferenceUri runtime endpoint = .ok rendered.2 ∧
        deepInfraBody runtime.json.print input = rendered.1 := by
  unfold deepInfraRerankTarget
  cases parseDeepInfraConvertibleRerank runtime forwardUri body with
  | error error => simp [bind, Except.bind]
  | ok input =>
    rw [ok_bind]
    cases hfits : ensureGeneratedBodyFits input with
    | error error => simp [bind, Except.bind, hfits]
    | ok fits =>
      rw [ok_bind]
      cases deepInfraInferenceUri runtime endpoint with
      | error error => simp [bind, Except.bind]
      | ok uri =>
        obtain ⟨text, target⟩ := rendered
        simp only [ok_bind, Except.ok.injEq, Prod.mk.injEq]
        constructor
        · rintro ⟨hbody, htarget⟩
          exact ⟨input, rfl, hfits, htarget, hbody⟩
        · rintro ⟨_, rfl, -, htarget, hbody⟩
          exact ⟨hbody, htarget⟩

/-- A rerank body at a DeepInfra endpoint. -/
theorem fitsDeepInfra_iff {forwardUri : Uri} {body : Bytes} :
    (∀ target, ((parseDeepInfraConvertibleRerank runtime forwardUri body).map fun _ => ()) = .ok () →
        deepInfraInferenceUri runtime endpoint = .ok target → hasIntegrityHeaders headers = false →
        ∃ rendered, deepInfraRerankTarget runtime endpoint forwardUri body = .ok rendered ∧
          validateOpenaiPath rendered.2.path = .ok ()) ↔
      FitsDeepInfra runtime endpoint headers forwardUri body := by
  unfold FitsDeepInfra
  constructor
  · intro h input target hinput htarget hunsigned
    obtain ⟨rendered, hrendered, hpath⟩ := h target (by rw [hinput]; rfl) htarget hunsigned
    obtain ⟨_, hparsed, hfits, huri, -⟩ := deepInfraRerankTarget_eq_ok.mp hrendered
    obtain rfl := Except.ok.inj (hinput.symm.trans hparsed)
    obtain rfl := Except.ok.inj (htarget.symm.trans huri)
    exact ⟨hfits, hpath⟩
  · intro h target hcontract htarget hunsigned
    cases hinput : parseDeepInfraConvertibleRerank runtime forwardUri body with
    | error error => simp [hinput, Except.map] at hcontract
    | ok input =>
      obtain ⟨hfits, hpath⟩ := h input target hinput htarget hunsigned
      exact ⟨(_, target), deepInfraRerankTarget_eq_ok.mpr ⟨input, hinput, hfits, htarget, rfl⟩,
        hpath⟩

/-- A native body at a DeepInfra endpoint. -/
theorem fitsDeepInfraNative_iff {uri : Uri} {body : Bytes} :
    (∀ target, deepInfraInferenceUri runtime endpoint = .ok target →
        hasIntegrityHeaders headers = false →
        ∃ rendered, deepInfraTarget runtime endpoint (.deepInfraNative uri body) = .ok rendered ∧
          validateOpenaiPath rendered.2.path = .ok ()) ↔
      FitsDeepInfraNative runtime endpoint headers uri body := by
  unfold FitsDeepInfraNative deepInfraTarget
  refine forall_congr' fun target => imp_congr_right fun htarget => imp_congr_right fun _ => ?_
  simp only [htarget, ok_bind]
  have hquery : (uri.query.isSome ∧ target.query ≠ uri.query) ↔
      ¬ (uri.query = none ∨ uri.query = target.query) := by
    rw [not_or, ← Ne, Option.ne_none_iff_isSome, eq_comm (a := uri.query)]
  split_ifs with hother hlong
  · simp [hquery.mp hother]
  · simp [not_le.mpr hlong]
  · have hsame : uri.query = none ∨ uri.query = target.query := by
      by_contra hne
      exact hother (hquery.mpr hne)
    simp [hsame, not_lt.mp hlong]

end

/-- **A compatible endpoint renders the request, and a score body is passed through**, exactly when
the captured request can be sent to the endpoint. -/
theorem compatible_endpoint_renders_iff {method : String} {uri : Uri} {body : Bytes}
    {request : CanonicalRerankerRequest}
    (hcapture : capture runtime method uri headers body = .ok (some request))
    (hcredential : hasRuntimeCredential runtime endpoint = true)
    (hreads : ∀ adapted, adaptRequest runtime uri body = .ok adapted →
      ∃ object, runtime.json.readValue adapted.body = .ok (.obj object)) :
    (RendersWhenCompatible runtime endpoint headers request ∧
        (PassesThrough runtime method uri body → endpoint.protocol = .openAi →
          ∃ rendered, render runtime endpoint request headers = .ok rendered ∧
            rendered.body = body)) ↔
      Sendable runtime endpoint headers request := by
  have hrerank : validateOpenaiPath rerankPath = .ok () := by decide +kernel
  have hscore : validateOpenaiPath scorePath = .ok () := by decide +kernel
  rcases capture_cases hcapture with ⟨rfl, hpass, adapted, hadapted⟩ | ⟨hpass, text, rfl⟩ |
    ⟨rfl, hpass⟩ | ⟨rfl, hpass, hpath⟩
  · rw [and_iff_left fun hyes => absurd hyes hpass]
    cases hprotocol : endpoint.protocol with
    | openAi =>
      rw [rendersWhenCompatible_openAi hprotocol hcredential]
      simp only [Sendable, hprotocol, iff_true]
      obtain ⟨object, hobject⟩ := hreads adapted hadapted
      refine ⟨adapted.forwardUri, adapted.body, ?_, fun _ _ => ⟨fun _ => ?_, object, hobject⟩, ?_⟩
      · rw [openaiTarget, hadapted]
        rfl
      · exact hasIntegrityHeaders_sanitize headers
      · rw [path_adaptRequest hadapted]
        exact hscore
    | deepInfraQwen3Rerank =>
      rw [rendersWhenCompatible_deepInfra hprotocol hcredential]
      simp only [Sendable, hprotocol]
      rw [← fitsDeepInfraNative_iff]
      have hcontract : responseContract runtime (.deepInfraNative uri body) = .ok () := by
        rw [responseContract, hadapted]
        rfl
      simp only [hcontract, true_imp_iff]
  · rw [and_iff_left fun hyes => absurd hyes hpass]
    cases hprotocol : endpoint.protocol with
    | openAi =>
      rw [rendersWhenCompatible_openAi hprotocol hcredential]
      simp only [Sendable, hprotocol, openaiTarget, requestHeadersForOpenai,
        hasIntegrityHeaders_sanitize, Except.ok.injEq, Prod.mk.injEq]
      constructor
      · rintro ⟨_, _, ⟨rfl, rfl⟩, hfits, -⟩
        exact hfits
      · intro hfits
        exact ⟨_, _, ⟨rfl, rfl⟩, hfits, hrerank⟩
    | deepInfraQwen3Rerank =>
      rw [rendersWhenCompatible_deepInfra hprotocol hcredential]
      simp only [Sendable, hprotocol]
      exact fitsDeepInfra_iff
  · cases hprotocol : endpoint.protocol with
    | openAi =>
      rw [rendersWhenCompatible_openAi hprotocol hcredential]
      simp [Sendable, hprotocol, openaiTarget]
    | deepInfraQwen3Rerank =>
      rw [rendersWhenCompatible_deepInfra hprotocol hcredential]
      simp [Sendable, hprotocol, responseContract]
  · rw [and_iff_left fun hyes => absurd hyes hpass]
    cases hprotocol : endpoint.protocol with
    | openAi =>
      rw [rendersWhenCompatible_openAi hprotocol hcredential]
      simp only [Sendable, hprotocol, openaiTarget, requestHeadersForOpenai, Except.ok.injEq,
        Prod.mk.injEq]
      constructor
      · rintro ⟨_, _, ⟨rfl, rfl⟩, hfits, -⟩
        exact hfits
      · intro hfits
        exact ⟨_, _, ⟨rfl, rfl⟩, hfits, by rw [hpath]; exact hrerank⟩
    | deepInfraQwen3Rerank =>
      rw [rendersWhenCompatible_deepInfra hprotocol hcredential]
      simp only [Sendable, hprotocol]
      exact fitsDeepInfra_iff

end

/-! ## A body that is not passed through -/

/-- A score body of a shape that is not known yet. -/
def futureScoreBody : Bytes := utf8 "\x7b\"data_1\":\"a\",\"data_2\":\"b\"\x7d"

/-- A rerank body. -/
def smallRerankBody : Bytes := utf8 "\x7b\"documents\":[\"b\"],\"query\":\"a\"\x7d"

/-- A parser that reads these two bodies. -/
def smallJson : ScoreJson where
  rawObject text :=
    if text = futureScoreBody then .ok [("data_1", utf8 "\"a\""), ("data_2", utf8 "\"b\"")]
    else .error "expected value"
  rawArray _ := .error "expected value"
  readValue text :=
    if text = smallRerankBody then .ok (.obj [("documents", .arr [.str "b"]), ("query", .str "a")])
    else .error "expected value"
  readString _ := .error "expected value"
  positioned _ error := error
  overflows _ := false
  integral _ := none
  print := printJson fun _ => utf8 "0"

/-- A runtime without an environment. -/
def smallReranker : RerankerRuntime where
  json := smallJson
  environment _ := none
  paths := whatwgPathSet
  uriError _ := "invalid uri character"

/-- A local replica. -/
def localReplica (model : Option String) : UpstreamEndpointConfig where
  baseUrl := ⟨utf8 "http://127.0.0.1:8000", utf8 "/v1"⟩
  protocol := .openAi
  model := model
  modelRevision := none
  apiKeyEnv := none

/-- The score endpoint and the rerank endpoint. -/
def scoreUri : Uri := ⟨scorePath, none, admitted_scorePath⟩

@[inherit_doc scoreUri]
def rerankUri : Uri := ⟨rerankPath, none, admitted_rerankPath⟩

/-- A local replica says that it is compatible with a score body it is never sent. -/
theorem compatible_replica_refuses_future_score :
    ¬ ∀ runtime endpoint headers method uri body request,
      capture runtime method uri headers body = .ok (some request) →
      hasRuntimeCredential runtime endpoint = true →
      (∀ adapted, adaptRequest runtime uri body = .ok adapted →
        ∃ object, runtime.json.readValue adapted.body = .ok (.obj object)) →
      RendersWhenCompatible runtime endpoint headers request ∧
        (PassesThrough runtime method uri body → endpoint.protocol = .openAi →
          ∃ rendered, render runtime endpoint request headers = .ok rendered ∧
            rendered.body = body) := by
  intro hall
  have hcapture : capture smallReranker "POST" scoreUri [] futureScoreBody =
      .ok (some .unsupportedScore) := by
    rfl
  obtain ⟨hrenders, -⟩ := hall smallReranker (localReplica none) [] "POST" scoreUri futureScoreBody _
    hcapture rfl (by intro adapted h; cases h)
  obtain ⟨rendered, hrendered⟩ := hrenders rfl
  cases hrendered

/-- A replica with a model name of its own renders a rerank request. -/
theorem compatible_replica_renders_rerank :
    ∃ request, capture smallReranker "POST" rerankUri [] smallRerankBody = .ok (some request) ∧
      RendersWhenCompatible smallReranker (localReplica (some "local")) [] request := by
  refine ⟨.openAiRerank rerankUri smallRerankBody, rfl, ?_⟩
  refine ((@compatible_endpoint_renders_iff smallReranker (localReplica (some "local")) [] "POST"
    rerankUri smallRerankBody _ rfl rfl ?_).mpr ?_).1
  · intro adapted h
    cases h
  · exact fun _ _ => ⟨fun _ => rfl, _, rfl⟩

end LlmGuardProxy
