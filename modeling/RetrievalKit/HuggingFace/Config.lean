import RetrievalKit.HuggingFace.Token
import RetrievalKit.Json.Record
import RetrievalKit.Text.Quoted
import RetrievalKit.Wire.Basic

/-!
# Settings of a text-generation endpoint

Which endpoint is asked, and how it generates.

* `EndpointConfig.resolveUrl` — the one target among model, endpoint address and repository, with
  the environment as a fallback; a name that is no address is looked up at the router;
* `EndpointConfig.checkModelKwargs`, `serverHeaders` — what the two kinds of extra settings may
  hold.
-/

namespace RetrievalKit.HuggingFace

/-- The settings of an endpoint. -/
structure EndpointConfig where
  /-- The name of a model, or the address of an endpoint. -/
  model : Option String
  endpointUrl : Option String
  repoId : Option String
  /-- Who serves a named model. -/
  provider : Option String
  apiToken : Option String
  /-- Where named models are looked up. -/
  routerUrl : String
  maxNewTokens : UInt32
  topK : Option UInt32
  topP : Option Double
  typicalP : Option Double
  temperature : Option Double
  repetitionPenalty : Option Double
  returnFullText : Bool
  truncate : Option UInt32
  stopSequences : List String
  seed : Option UInt64
  doSample : Bool
  watermark : Bool
  /-- In milliseconds. -/
  timeout : Nat
  /-- Whether to generate through the stream of tokens even where none is asked for. -/
  streaming : Bool
  /-- Further parameters, sent as they are. -/
  modelKwargs : Dict
  /-- Settings of the client: extra headers. -/
  serverKwargs : Dict

namespace EndpointConfig

/-- The double nearest to `digits / 100`. -/
def hundredths (digits : Nat) : Double := (Double.ofRatio? false digits 100).getD Double.zero

/-- The settings before any choice. -/
def standard : EndpointConfig where
  model := none
  endpointUrl := none
  repoId := none
  provider := none
  apiToken := none
  routerUrl := "https://router.huggingface.co"
  maxNewTokens := 512
  topK := none
  topP := some (hundredths 95)
  typicalP := some (hundredths 95)
  temperature := some (hundredths 80)
  repetitionPenalty := none
  returnFullText := false
  truncate := none
  stopSequences := []
  seed := none
  doSample := false
  watermark := false
  timeout := 120000
  streaming := false
  modelKwargs := []
  serverKwargs := []

/-- Adds a parameter that is sent as it is. -/
def withModelKwarg (key : String) (value : Json) (c : EndpointConfig) : EndpointConfig :=
  { c with modelKwargs := c.modelKwargs.insert key value }

/-- Adds a setting of the client. -/
def withServerKwarg (key : String) (value : Json) (c : EndpointConfig) : EndpointConfig :=
  { c with serverKwargs := c.serverKwargs.insert key value }

/-! ## Extra settings -/

/-- Names that extra parameters may not have, because there is a setting for each.  `stop` is not
one of them: it takes the place of the stop sequences of the settings. -/
def reservedKwargs : List String :=
  ["model", "endpoint_url", "repo_id", "provider", "task", "huggingfacehub_api_token",
   "inference_server_url", "max_new_tokens", "top_k", "top_p", "typical_p", "temperature",
   "repetition_penalty", "return_full_text", "truncate", "stop_sequences", "seed", "do_sample",
   "watermark", "timeout", "streaming", "server_kwargs", "model_kwargs", "client",
   "async_client"]

/-- Refuses extra parameters with reserved names. -/
def checkModelKwargs (c : EndpointConfig) : Except Error Unit :=
  let reserved := c.modelKwargs.keys.filter fun key => reservedKwargs.contains key
  if reserved.isEmpty then .ok ()
  else .error ⟨.config, "parameters " ++ Text.quotedList reserved ++
    " should be set explicitly, not through model_kwargs"⟩

/-- The header that names who pays. -/
def billToHeader : String := "X-HF-Bill-To"

/-- A header from an entry of `headers`. -/
def serverHeader (entry : String × Json) : Except Error (String × String) :=
  match entry.2.asString? with
  | some value => .ok (entry.1, value)
  | none => .error ⟨.config,
      "server_kwargs header " ++ Text.quoted entry.1 ++ " must be a string"⟩

/-- The headers from one setting of the client; settings of other names give none. -/
def kwargHeaders (entry : String × Json) : Except Error (List (String × String)) :=
  if entry.1 = "headers" then
    match entry.2.asObject? with
    | some fields => fields.mapM serverHeader
    | none => .error ⟨.config, "server_kwargs.headers must be an object"⟩
  else if entry.1 = "bill_to" then
    match entry.2.asString? with
    | some value => .ok [(billToHeader, value)]
    | none => .error ⟨.config, "server_kwargs.bill_to must be a string"⟩
  else .ok []

/-- The headers from the settings of the client. -/
def serverHeaders (c : EndpointConfig) : Except Error (List (String × String)) := do
  let groups ← c.serverKwargs.mapM kwargHeaders
  pure groups.flatten

/-! ## The target -/

/-- The targets that are set and not empty. -/
def targets (c : EndpointConfig) : List String :=
  [c.model, c.endpointUrl, c.repoId].filterMap fun t => t.filter (· != "")

/-- The one target; the environment's counts only when the settings have none. -/
def target (c : EndpointConfig) (fallback : Option String) : Except Error String :=
  match c.targets with
  | [] =>
    match fallback.filter (· != "") with
    | some t => .ok t
    | none => .error ⟨.config,
        "specify a model, an endpoint_url or a repo_id, or set HF_INFERENCE_ENDPOINT"⟩
  | [t] => .ok t
  | _ => .error ⟨.config,
      "specify either a model, an endpoint_url or a repo_id, not more than one"⟩

/-- Whether a target is an address. -/
def isAddress (t : String) : Bool :=
  "http://".toList.isPrefixOf t.toList || "https://".toList.isPrefixOf t.toList

/-- The provider of named models. -/
def providerName (c : EndpointConfig) : String :=
  (c.provider.filter (· != "")).getD "hf-inference"

/-- The address of a target: an address is its own, a name is looked up at the router. -/
def addressOf (c : EndpointConfig) (t : String) : String :=
  if isAddress t then t
  else joinPath c.routerUrl (c.providerName ++ "/models/" ++ t)

/-- The address that requests are sent to. -/
def resolveUrl (c : EndpointConfig) (fallback : Option String) : Except Error String :=
  (c.target fallback).map c.addressOf

end EndpointConfig

end RetrievalKit.HuggingFace
