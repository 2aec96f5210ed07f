import RetrievalKit.HuggingFace.Embed
import RetrievalKit.Proofs.HuggingFace.Construction
import RetrievalKit.Proofs.HuggingFace.Requests

/-!
# The token and the headers of a request

* `firstToken?` — the first token that is given: in the settings, or in one of two variables;
* `EmptyCounts` — where an empty text stands before the tokens that are left;
* `EndpointConfig.HasHeaders` — what a request with a token, or without one, has among its headers;
* `Endpoint.sends_headers` — **the token of a request is the first that is given, unless an empty
  text counts**.  Every request has the headers of the settings, and its own token before any of
  theirs.
-/

namespace RetrievalKit.HuggingFace

/-! ## Tokens -/

/-- The first token that is set and not empty: in the settings, then in the environment. -/
def firstToken? (explicit : Option String) (env : Environment) : Option String :=
  (explicit.filter (· != "")).or
    ((env.nonempty? "HUGGINGFACEHUB_API_TOKEN").or (env.nonempty? "HF_TOKEN"))

/-- Where an empty text is taken for a token, or hides one: it stands in the settings, or in the
first of the variables while the second is given. -/
inductive EmptyCounts (explicit : Option String) (env : Environment) : Prop
  | settings (h : explicit = some "")
  | environment (hexplicit : explicit = none) (h : env.get? "HUGGINGFACEHUB_API_TOKEN" = some "")
    (hother : Given (env.get? "HF_TOKEN"))

theorem firstToken?_ne_empty (explicit : Option String) (env : Environment) :
    firstToken? explicit env ≠ some "" := by
  have hne : ∀ setting : Option String, setting.filter (· != "") ≠ some "" :=
    fun setting h => (filter_eq_some_iff.mp h).1 rfl
  intro h
  rcases Option.or_eq_some_iff.mp h with h | ⟨-, h⟩
  · exact hne _ h
  · rcases Option.or_eq_some_iff.mp h with h | ⟨-, h⟩
    · exact hne _ h
    · exact hne _ h

/-- The token of the environment is the first that is given, unless an empty variable hides the
other. -/
theorem tokenOfEnvironment_iff {env : Environment} :
    tokenOfEnvironment env = firstToken? none env ↔ ¬ EmptyCounts none env := by
  unfold tokenOfEnvironment firstToken? Environment.nonempty?
  rw [Option.filter_none, Option.none_or]
  cases hhub : env.get? "HUGGINGFACEHUB_API_TOKEN" with
  | none =>
    refine iff_of_true rfl fun h => ?_
    cases h with
    | settings h => cases h
    | environment _ h _ => simp [hhub] at h
  | some hub =>
    -- An empty variable ends the search of the environment, and is dropped only then.
    rw [Option.some_or]
    by_cases hempty : hub = ""
    · subst hempty
      have hnone : (some "").filter (· != "") = none := by decide
      rw [hnone, Option.none_or, eq_comm, filter_eq_none_iff]
      refine not_congr ⟨.environment rfl hhub, fun h => ?_⟩
      cases h with
      | settings h => cases h
      | environment _ _ hother => exact hother
    · rw [filter_some_of_ne hempty, Option.some_or]
      refine iff_of_true rfl fun h => ?_
      cases h with
      | settings h => cases h
      | environment _ h _ => exact hempty (Option.some.inj (hhub.symm.trans h))

/-- The token of an endpoint is the first that is given, unless an empty text counts. -/
theorem token_iff {explicit : Option String} {env : Environment} :
    explicit.or (tokenOfEnvironment env) = firstToken? explicit env ↔
      ¬ EmptyCounts explicit env := by
  cases explicit with
  | none =>
    rw [Option.none_or]
    exact tokenOfEnvironment_iff
  | some t =>
    rw [Option.some_or]
    by_cases hempty : t = ""
    · subst hempty
      refine iff_of_false (firstToken?_ne_empty _ env).symm (not_not.mpr (.settings rfl))
    · rw [firstToken?, filter_some_of_ne hempty, Option.some_or]
      refine iff_of_true rfl fun h => ?_
      cases h with
      | settings h => exact hempty (Option.some.inj h)
      | environment hexplicit _ _ => cases hexplicit

/-- An empty text that counts leaves an endpoint with what is in its settings. -/
theorem token_of_emptyCounts {explicit : Option String} {env : Environment}
    (h : EmptyCounts explicit env) : explicit.or (tokenOfEnvironment env) = explicit := by
  cases h with
  | settings h =>
    subst h
    rfl
  | environment hexplicit hhub _ =>
    subst hexplicit
    rw [tokenOfEnvironment, hhub]
    rfl

/-! ## Headers -/

namespace EndpointConfig

variable {c : EndpointConfig}

/-- A header among the settings of the client. -/
def HasHeader (c : EndpointConfig) (header : String × String) : Prop :=
  ∃ fields, ("headers", .obj fields) ∈ c.serverKwargs ∧ (header.1, .str header.2) ∈ fields

/-- What a request has among its headers.  Its token comes before all headers of the settings,
whatever the case of their letters. -/
structure HasHeaders (c : EndpointConfig) (token : Option String) (request : Request) : Prop where
  authorization : ∀ t, token = some t → request.header? "Authorization" = some ("Bearer " ++ t)
  no_other : token = none → ∀ header ∈ request.headers,
    sameName header.1 "Authorization" = true → c.HasHeader header
  headers : ∀ header, c.HasHeader header → header ∈ request.headers
  billTo : ∀ who, ("bill_to", .str who) ∈ c.serverKwargs → ("X-HF-Bill-To", who) ∈ request.headers

/-- The headers that the settings of the client give are those they hold, and the one that names who
pays. -/
theorem mem_serverHeaders_iff {headers : List (String × String)} (h : c.serverHeaders = .ok headers)
    (header : String × String) : header ∈ headers ↔ c.HasHeader header ∨
      header.1 = billToHeader ∧ ("bill_to", .str header.2) ∈ c.serverKwargs := by
  obtain ⟨groups, hgroups, rfl⟩ := serverHeaders_eq_ok_iff.mp h
  rw [List.mem_flatten]
  simp only [mem_mapM_iff hgroups, kwargHeaders_eq_ok_iff]
  constructor
  · rintro ⟨group, ⟨⟨key, value⟩, hentry, hgives⟩, hmem⟩
    cases hgives with
    | headers hkey hvalue hfields =>
      obtain ⟨field, hfield, hheader⟩ := (mem_mapM_iff hfields).mp hmem
      cases hkey
      cases hvalue
      exact .inl ⟨_, hentry, serverHeader_eq_ok_iff.mp hheader ▸ hfield⟩
    | billTo hkey hvalue =>
      cases hkey
      cases hvalue
      cases List.mem_singleton.mp hmem
      exact .inr ⟨rfl, hentry⟩
    | other => cases hmem
  · rintro (⟨fields, hentry, hfield⟩ | ⟨hname, hentry⟩)
    · obtain ⟨group, hgroup⟩ := exists_mapM_eq_ok_iff.mp ⟨_, hgroups⟩ _ hentry
      have hgives := kwargHeaders_eq_ok_iff.mp hgroup
      cases hgives with
      | headers hkey hvalue hfields =>
        cases hvalue
        refine ⟨group, ⟨_, hentry, .headers hkey rfl hfields⟩, ?_⟩
        exact (mem_mapM_iff hfields).mpr ⟨_, hfield, serverHeader_eq_ok_iff.mpr rfl⟩
      | billTo hkey => exact absurd hkey (by simp)
      | other hheaders => exact absurd rfl hheaders
    · refine ⟨_, ⟨_, hentry, .billTo rfl rfl⟩, ?_⟩
      rw [← hname]
      exact List.mem_singleton_self _

end EndpointConfig

/-! ## Requests -/

namespace Endpoint

open EndpointConfig

variable {σ : Type} {env : Environment} {c : EndpointConfig} {b : Backend σ} {e : Endpoint σ}

theorem headers_requestOf (e : Endpoint σ) (call : Call) : (e.requestOf call).headers =
    ("Content-Type", "application/json") :: (tokenHeader e.token ++ e.extraHeaders) := rfl

theorem hasHeaders_requestOf (h : ofConfig env c b = .ok e) (call : Call) :
    c.HasHeaders e.token (e.requestOf call) := by
  obtain ⟨-, headers, t, hheaders, -, he⟩ := ofConfig_eq_ok_iff.mp h
  obtain rfl : e.extraHeaders = headers := congrArg extraHeaders he
  have hextra := mem_serverHeaders_iff hheaders
  have hmem : ∀ header ∈ e.extraHeaders, header ∈ (e.requestOf call).headers := by
    intro header hheader
    rw [headers_requestOf]
    exact .tail _ (List.mem_append_right _ hheader)
  refine ⟨fun t ht => ?_, fun hnone header hheader hname => ?_, fun header hheader => ?_,
    fun who hwho => ?_⟩
  -- The header of the token follows that of the content type, so it is found first.
  · have hcontent : sameName "Content-Type" "Authorization" = false := by decide
    have hname : sameName "Authorization" "Authorization" = true := by decide
    rw [Request.header?, headers_requestOf, ht]
    simp [tokenHeader, hcontent, hname]
  · rw [headers_requestOf, hnone, List.mem_cons] at hheader
    rcases hheader with rfl | hheader
    · exact absurd hname (by decide)
    · rcases (hextra header).mp hheader with hgiven | ⟨hbill, -⟩
      · exact hgiven
      · rw [hbill] at hname
        exact absurd hname (by decide)
  · exact hmem header ((hextra header).mpr (.inl hheader))
  · exact hmem _ ((hextra _).mpr (.inr ⟨rfl, hwho⟩))

/-- **The token and the headers of a request.**  Each call of an endpoint sends a request with the
headers of the settings, and with one token if there is one.  This is the first token that is
given, except if an empty text counts: then it is what the settings have, be it empty or nothing.
What the environment has to say is the same for embeddings. -/
theorem sends_headers (h : ofConfig env c b = .ok e) :
    ∃ token, (∀ call, ∃ request, e.Sends call request ∧ c.HasHeaders token request) ∧
      (token = firstToken? c.apiToken env ↔ ¬ EmptyCounts c.apiToken env) ∧
      (EmptyCounts c.apiToken env → token = c.apiToken) ∧
      ∀ model, token = c.apiToken.or (EmbedConfig.new env model).apiKey ∧
        ((EmbedConfig.new env model).apiKey = firstToken? none env ↔ ¬ EmptyCounts none env) := by
  obtain ⟨-, headers, t, -, -, he⟩ := ofConfig_eq_ok_iff.mp h
  have htoken : e.token = c.apiToken.or (tokenOfEnvironment env) := congrArg token he
  refine ⟨e.token, fun call => ⟨_, e.sends_requestOf call, hasHeaders_requestOf h call⟩, ?_, ?_,
    fun model => ⟨htoken, tokenOfEnvironment_iff⟩⟩
  · rw [htoken]
    exact token_iff
  · rw [htoken]
    exact token_of_emptyCounts

/-- A token of the second variable, before a header of the settings in small letters. -/
theorem sends_headers_lowercase :
    let env : Environment := ⟨[("HF_TOKEN", "hf")]⟩
    let c := { EndpointConfig.standard with model := some "org/m" }.withServerKwarg "headers"
      (.obj [("authorization", .str "mine")])
    ∃ e, ofConfig env c (Bench.backend 0) = .ok e ∧
      ∃ request, e.Sends (.generate "p" []) request ∧
        request.header? "Authorization" = some "Bearer hf" ∧
        ("authorization", "mine") ∈ request.headers := by
  intro env c
  obtain ⟨e, he⟩ : ∃ e, ofConfig env c (Bench.backend 0) = .ok e := ⟨_, rfl⟩
  obtain ⟨token, hsends, hfirst, -, -⟩ := sends_headers he
  obtain ⟨request, hsent, hheaders⟩ := hsends (.generate "p" [])
  have htoken : token = some "hf" := by
    refine hfirst.mpr fun h => ?_
    cases h with
    | settings h => cases h
    | environment _ h _ => exact absurd h (by decide)
  exact ⟨e, he, request, hsent, hheaders.authorization "hf" htoken,
    hheaders.headers _ ⟨_, .head _, .head _⟩⟩

/-- An empty variable hides the token in the other one, so that the request has none; an empty token
in the settings is sent as it is. -/
theorem empty_hides_token :
    let env : Environment := ⟨[("HUGGINGFACEHUB_API_TOKEN", ""), ("HF_TOKEN", "hf")]⟩
    let c := { EndpointConfig.standard with model := some "org/m" }
    firstToken? c.apiToken env = some "hf" ∧
      (∃ e request, ofConfig env c (Bench.backend 0) = .ok e ∧
        e.Sends (.generate "p" []) request ∧ request.header? "Authorization" = none) ∧
      firstToken? (some "") env = some "hf" ∧
      ∃ e request, ofConfig env { c with apiToken := some "" } (Bench.backend 0) = .ok e ∧
        e.Sends (.generate "p" []) request ∧
        request.header? "Authorization" = some "Bearer " := by
  intro env c
  exact ⟨rfl, ⟨_, _, rfl, sends_requestOf _ _, rfl⟩, rfl, _, _, rfl, sends_requestOf _ _, rfl⟩

end Endpoint

end RetrievalKit.HuggingFace
