import NewsCraft.Core.IpAddress
import NewsCraft.Lib.Checked
import NewsCraft.Normalization.Urls

/-!
# Which proxy a request goes through

`NO_PROXY` is read into rules of five kinds, each for every port or for one. The port that
is compared is the one `httpx` reports, none for the default port of the scheme: a rule that
names that port matches nothing. An address with a dot after it is none to `ip_address`, and
a suffix may end an IPv6 literal that ends in decimal.
-/

namespace NewsCraft.OutboundProxy

open Lib Urls Ip List Option

/-! ## The parts a request is routed by -/

/-- `httpx.URL`, as far as it is looked at. -/
structure HttpxUrl where
  scheme : Text
  /-- `host`; none where it cannot be decoded, which is a `ValueError`. -/
  host : Option Text
  /-- `port`; none where it is not given or the default of the scheme. -/
  port : Option Nat
  deriving DecidableEq

structure ProxyEnv where
  /-- `httpx.URL(text)`; none where it raises `InvalidURL`, which nothing here catches. -/
  url : Text → Option HttpxUrl
  /-- `str.casefold`, of one character. -/
  casefold : Char → Text
  /-- `str.isdigit`. -/
  isDigit : Char → Bool
  /-- The value of a character that `int` reads. -/
  decimal : Char → Option Nat
  casefold_ascii : ∀ c, c.toNat < 128 → casefold c = [c.toLower]

structure ProxyEndpoint where
  scheme : Text
  host : Text
  port : Nat
  username : Option Text
  password : Option Text
  url : Text
  deriving DecidableEq

inductive RuleKind where
  | all
  | ip (address : IpAddress)
  | network (network : IpNetwork)
  | host (name : Text)
  | suffix (name : Text)
  deriving DecidableEq

/-- `_BypassRule`. -/
structure BypassRule where
  kind : RuleKind
  port : Option Nat
  deriving DecidableEq

/-- `OutboundProxyPolicy`. -/
structure OutboundProxyPolicy where
  http : Option ProxyEndpoint
  https : Option ProxyEndpoint
  all : Option ProxyEndpoint
  bypassRules : List BypassRule

inductive ProxyConfigurationError where
  | noProxyRuleInvalid
  deriving DecidableEq

variable (E : ProxyEnv)

/-! ## Reading `NO_PROXY` -/

/-- `text.rstrip(".")`. -/
def rstripDots (text : Text) : Text := text.rdropWhile (· = '.')

def foldText (text : Text) : Text := text.flatMap E.casefold

/-- `host.casefold().rstrip(".")`. -/
def normalized (host : Text) : Text := rstripDots (foldText E host)

/-- `word in text`. -/
def hasWord (word : Text) : Text → Bool
  | [] => word.isEmpty
  | c :: rest => word.isPrefixOf (c :: rest) || hasWord word rest

/-- The digits that `int` reads, with single underscores between them. -/
def readInt : Bool → Nat → Text → Option Nat
  | afterDigit, value, [] => if afterDigit then some value else none
  | true, value, '_' :: rest => readInt false value rest
  | _, value, c :: rest => (E.decimal c).bind fun digit => readInt true (10 * value + digit) rest

/-- `_parse_bypass_port`; a negative number is out of range. -/
def parseBypassPort (value : Text) : Except ProxyConfigurationError Nat :=
  match readInt E false 0 (if value.head? = some '+' then value.drop 1 else value) with
  | some port => if 1 ≤ port ∧ port ≤ 65535 then .ok port else .error .noProxyRuleInvalid
  | none => .error .noProxyRuleInvalid

/-- `_split_bypass_host_port`. -/
def splitBypassHostPort (value : Text) : Except ProxyConfigurationError (Text × Option Nat) :=
  if value.head? = some '[' then
    if ']' ∈ value then
      match after ']' value with
      | [] => .ok ((before ']' value).drop 1, none)
      | ':' :: port => do
          let port ← parseBypassPort E port
          .ok ((before ']' value).drop 1, some port)
      | _ => .error .noProxyRuleInvalid
    else
      .error .noProxyRuleInvalid
  else if value.count ':' = 1 ∧ after ':' value ≠ [] ∧ (after ':' value).all E.isDigit = true then do
    let port ← parseBypassPort E (after ':' value)
    .ok (before ':' value, some port)
  else
    .ok (value, none)

/-- `_HOST_LABEL`. -/
def validLabel (label : Text) : Bool :=
  label.length ≤ 63 && label.head?.any Char.isAlphanum && label.getLast?.any Char.isAlphanum
    && label.all fun c => c.isAlphanum || c = '-'

/-- `_valid_hostname`. -/
def validHostname (name : Text) : Bool :=
  name ≠ [] && name.length ≤ 253 && !name.contains '/' && (split '.' name).all validLabel

def parseHostRule (value : Text) : Except ProxyConfigurationError BypassRule := do
  let (host, port) ← splitBypassHostPort E value
  match ipAddress host with
  | some address => .ok { kind := .ip address, port := port }
  | none =>
    let suffix := host.head? = some '.'
    let name := normalized E (if suffix then host.drop 1 else host)
    if validHostname name then
      .ok { kind := if suffix then .suffix name else .host name, port := port }
    else
      .error .noProxyRuleInvalid

/-- `_parse_bypass_rule`. -/
def parseBypassRule (value : Text) : Except ProxyConfigurationError BypassRule :=
  if value = ['*'] then
    .ok { kind := .all, port := none }
  else if hasWord "://".toList value ∨ value.any isPySpace = true ∨ '@' ∈ value then
    .error .noProxyRuleInvalid
  else
    match if '/' ∈ value then ipNetwork value else none with
    | some network => .ok { kind := .network network, port := none }
    | none => parseHostRule E value

/-- `_parse_no_proxy`. -/
def parseNoProxy (value : Option Text) : Except ProxyConfigurationError (List BypassRule) :=
  match value with
  | none => .ok []
  | some value =>
    (((split ',' value).map strip).filter (· ≠ [])).mapM (parseBypassRule E)

/-! ## Routing -/

/-- `_BypassRule.matches`. -/
def BypassRule.matches (rule : BypassRule) (host : Text) (port : Option Nat) : Bool :=
  if rule.port ≠ none ∧ port ≠ rule.port then false
  else
    match rule.kind with
    | .all => true
    | .ip address => ipAddress host = some address
    | .network network => (ipAddress host).any network.contains
    | .host name => normalized E host = name
    | .suffix name => normalized E host = name || ('.' :: name).isSuffixOf (normalized E host)

/-- `should_bypass`. -/
def shouldBypass (policy : OutboundProxyPolicy) (url : HttpxUrl) : Bool :=
  match url.host with
  | none => false
  | some host => host ≠ [] && policy.bypassRules.any fun rule => rule.matches E host url.port

def OutboundProxyPolicy.configured (policy : OutboundProxyPolicy) (scheme : Text) :
    Option ProxyEndpoint :=
  if scheme = "http".toList then policy.http.or policy.all
  else if scheme = "https".toList then policy.https.or policy.all
  else policy.all

/-- `endpoint_for_url`; none where `httpx.URL` raises. -/
def endpointForUrl (policy : OutboundProxyPolicy) (targetUrl : Text) :
    Option (Option ProxyEndpoint) :=
  (E.url targetUrl).map fun url =>
    if shouldBypass E policy url then none else policy.configured (foldText E url.scheme)

/-! ## What a rule covers -/

/-- The host that is meant, however it is written. -/
inductive Host where
  | unknown
  | v6 (ip : BitVec 128) (scopeId : Option Text)
  | name (text : Text) (ip : Option (BitVec 32))

def hostOf : Option Text → Host
  | none => .unknown
  | some [] => .unknown
  | some host =>
    match ipAddress host with
    | some (.v6 ip scopeId) => .v6 ip scopeId
    | _ => .name (normalized E host) (parseIpv4 (rstripDots host))

def Host.address : Host → Option IpAddress
  | .unknown => none
  | .v6 ip scopeId => some (.v6 ip scopeId)
  | .name _ ip => ip.map .v4

def Host.text : Host → Option Text
  | .name text _ => some text
  | _ => none

def RuleKind.Covers (host : Host) : RuleKind → Prop
  | .all => True
  | .ip address => host.address = some address
  | .network range => ∃ address, host.address = some address ∧ range.contains address = true
  | .host name => host.text = some name
  | .suffix name => ∃ text, host.text = some text ∧ (text = name ∨ '.' :: name <:+ text)

def defaultPort (scheme : Text) : Option Nat :=
  if scheme = "http".toList then some 80 else if scheme = "https".toList then some 443 else none

def effectivePort (url : HttpxUrl) : Option Nat := url.port.or (defaultPort url.scheme)

/-- The rule matches the host and the port that are meant. -/
def Covers (url : HttpxUrl) (rule : BypassRule) : Prop :=
  (rule.port = none ∨ rule.port = effectivePort url) ∧ rule.kind.Covers (hostOf E url.host)

/-- Two URLs that differ in their spelling at most, as far as routing goes. -/
structure SameTarget (url url' : HttpxUrl) : Prop where
  scheme : url.scheme = url'.scheme
  host : hostOf E url.host = hostOf E url'.host
  port : effectivePort url = effectivePort url'

/-! ## Where the comparison goes wrong -/

def RuleKind.byAddress : RuleKind → Bool
  | .ip _ => true
  | .network _ => true
  | _ => false

def RuleKind.Dotted (host : Text) (kind : RuleKind) : Prop :=
  kind.byAddress = true ∧ host.getLast? = some '.' ∧ ∃ text ip, hostOf E (some host) = .name text ip

def RuleKind.EndsLiteral (host : Text) (kind : RuleKind) : Prop :=
  (∃ ip scopeId, hostOf E (some host) = .v6 ip scopeId) ∧
    ∃ name, kind = .suffix name ∧ '.' :: name <:+ normalized E host

def PortMatches (url : HttpxUrl) (rule : BypassRule) : Prop :=
  rule.port = none ∨ rule.port = url.port

/-- A covering rule is passed over: the host cannot be read, the rule names the default port, or
the host has a dot after it. -/
def Overlooked (url : HttpxUrl) (rule : BypassRule) : Prop :=
  hostOf E url.host = .unknown ∨ (rule.port ≠ none ∧ url.port = none) ∨
    ∃ host, url.host = some host ∧ rule.kind.Dotted E host

/-- A rule that does not cover the URL is applied. -/
def Mistaken (url : HttpxUrl) (rule : BypassRule) : Prop :=
  PortMatches url rule ∧ ∃ host, url.host = some host ∧ rule.kind.EndsLiteral E host

def BypassRule.Valid (rule : BypassRule) : Prop :=
  ∀ name, rule.kind = .host name ∨ rule.kind = .suffix name → ':' ∉ name

/-! ## Texts that are split -/

theorem exists_mem_split {separator c : Char} {text : Text} (h : c ∈ text) (hc : c ≠ separator) :
    ∃ field ∈ split separator text, c ∈ field := by
  induction text with
  | nil => cases h
  | cons d rest ih =>
    unfold split
    by_cases hd : d = separator
    · rw [if_pos hd]
      rcases mem_cons.mp h with rfl | hrest
      · exact absurd hd hc
      obtain ⟨field, hfield, hmem⟩ := ih hrest
      exact ⟨field, mem_cons_of_mem _ hfield, hmem⟩
    · rw [if_neg hd]
      rcases mem_cons.mp h with rfl | hrest
      · split
        · exact ⟨[c], mem_cons_self, mem_cons_self⟩
        · exact ⟨_, mem_cons_self, mem_cons_self⟩
      · obtain ⟨field, hfield, hmem⟩ := ih hrest
        split
        · rename_i hnil
          rw [hnil] at hfield
          cases hfield
        · rename_i first fields hsplit
          rw [hsplit] at hfield
          rcases mem_cons.mp hfield with rfl | hlater
          · exact ⟨_, mem_cons_self, mem_cons_of_mem _ hmem⟩
          · exact ⟨field, mem_cons_of_mem _ hlater, hmem⟩

theorem split_ne_nil (separator : Char) (text : Text) : split separator text ≠ [] := by
  cases text with
  | nil => simp [split]
  | cons c rest =>
    unfold split
    by_cases hc : c = separator
    · simp [hc]
    rw [if_neg hc]
    split <;> simp

theorem split_concat (separator : Char) (text : Text) :
    split separator (text ++ [separator]) = split separator text ++ [[]] := by
  induction text with
  | nil => simp [split]
  | cons c rest ih =>
    rw [cons_append]
    unfold split
    by_cases hc : c = separator
    · rw [if_pos hc, if_pos hc, ih, cons_append]
    rw [if_neg hc, if_neg hc, ih]
    cases hsplit : split separator rest with
    | nil => exact absurd hsplit (split_ne_nil separator rest)
    | cons first fields => rfl

/-! ## Hosts -/

theorem parseOctet_ne_nil {octet : Text} {n : Nat} (h : parseOctet octet = some n) :
    octet ≠ [] := by
  intro hnil
  subst hnil
  simp [parseOctet, decimal] at h

theorem getLast_of_parseIpv4 {text : Text} {ip : BitVec 32} (h : parseIpv4 text = some ip) :
    text.getLast? ≠ some '.' := by
  intro hlast
  obtain ⟨front, hfront⟩ := getLast?_eq_some_iff.mp hlast
  unfold parseIpv4 at h
  split at h
  · rename_i a b c d hsplit
    rw [hfront, split_concat] at hsplit
    have hd : d = [] := by
      have hlast := congrArg List.getLast? hsplit
      simpa using hlast.symm
    simp only [bind_eq_bind, bind_eq_some_iff] at h
    obtain ⟨_, _, _, _, _, _, n, hoctet, _⟩ := h
    exact parseOctet_ne_nil hoctet hd
  · cases h

theorem rstripDots_of_getLast {text : Text} (h : text.getLast? ≠ some '.') :
    rstripDots text = text := by
  unfold rstripDots
  rcases eq_nil_or_concat text with rfl | ⟨front, last, rfl⟩
  · rfl
  rw [concat_eq_append, rdropWhile_concat_neg]
  simpa using h

variable {ip : BitVec 128}

theorem colon_of_ipv6Value {text : Text} (h : ipv6Value text = some ip) : ':' ∈ text := by
  by_contra hcolon
  unfold ipv6Value hextetParts at h
  simp [split_of_not_mem hcolon] at h

theorem colon_of_parseIpv6 {text : Text} {address : BitVec 128 × Option Text}
    (h : parseIpv6 text = some address) : ':' ∈ text := by
  unfold parseIpv6 at h
  dsimp only at h
  split_ifs at h
  · obtain ⟨ip, hip, -⟩ := map_eq_some_iff.mp h
    exact (takeWhile_sublist _).subset (colon_of_ipv6Value hip)
  · obtain ⟨ip, hip, -⟩ := map_eq_some_iff.mp h
    exact colon_of_ipv6Value hip

variable {host : Text}

theorem colon_of_v6 {scopeId : Option Text} (h : ipAddress host = some (.v6 ip scopeId)) :
    ':' ∈ host := by
  unfold ipAddress at h
  split at h
  · cases h
  obtain ⟨address, haddress, -⟩ := map_eq_some_iff.mp h
  exact colon_of_parseIpv6 haddress

theorem mem_rstripDots {c : Char} {text : Text} (h : c ∈ text) (hc : c ≠ '.') :
    c ∈ rstripDots text := by
  unfold rstripDots
  induction text using List.reverseRecOn with
  | nil => cases h
  | append_singleton front last ih =>
    by_cases hlast : last = '.'
    · rw [rdropWhile_concat_pos _ _ _ (by simpa using hlast)]
      rcases mem_append.mp h with hfront | hmem
      · exact ih hfront
      · exact absurd ((mem_singleton.mp hmem).trans hlast) hc
    · rw [rdropWhile_concat_neg _ _ _ (by simpa using hlast)]
      exact h

variable {E}

theorem colon_mem_normalized (h : ':' ∈ host) : ':' ∈ normalized E host := by
  refine mem_rstripDots ?_ (by decide)
  refine mem_flatMap.mpr ⟨':', h, ?_⟩
  rw [E.casefold_ascii ':' (by decide)]
  exact mem_singleton.mpr rfl

theorem ipAddress_v4 {ip : BitVec 32} :
    ipAddress host = some (.v4 ip) ↔ parseIpv4 host = some ip := by
  unfold ipAddress
  split
  · rename_i found hfound
    simp [hfound]
  · rename_i hnone
    simp [hnone]

inductive HostCase (E : ProxyEnv) (host : Text) : Prop where
  | v6 (ip : BitVec 128) (scopeId : Option Text) (hip : ipAddress host = some (.v6 ip scopeId))
      (h : hostOf E (some host) = .v6 ip scopeId)
  | name (hip : ipAddress host = (parseIpv4 host).map .v4)
      (h : hostOf E (some host) = .name (normalized E host) (parseIpv4 (rstripDots host)))

theorem hostCase (hne : host ≠ []) : HostCase E host := by
  cases hip : ipAddress host with
  | none =>
    have hv4 : parseIpv4 host = none := by
      cases hparse : parseIpv4 host with
      | none => rfl
      | some ip =>
        rw [ipAddress_v4.mpr hparse] at hip
        cases hip
    refine .name ?_ ?_
    · rw [hip, hv4]
      rfl
    · unfold hostOf
      split
      · rename_i heq
        cases heq
      · rename_i heq
        exact absurd (Option.some.inj heq) hne
      · rename_i heq
        cases heq
        simp [hip]
  | some address =>
    cases address with
    | v4 ip =>
      refine .name ?_ ?_
      · rw [hip, ipAddress_v4.mp hip]
        rfl
      · unfold hostOf
        split
        · rename_i heq
          cases heq
        · rename_i heq
          exact absurd (Option.some.inj heq) hne
        · rename_i heq
          cases heq
          simp [hip]
    | v6 ip scopeId =>
      refine .v6 ip scopeId hip ?_
      unfold hostOf
      split
      · rename_i heq
        cases heq
      · rename_i heq
        exact absurd (Option.some.inj heq) hne
      · rename_i heq
        cases heq
        simp [hip]

/-! ## A rule and a URL -/

variable {url : HttpxUrl} {rule : BypassRule}

/-- The part of `matches` after the port. -/
def RuleKind.matchesHost (E : ProxyEnv) (host : Text) : RuleKind → Bool
  | .all => true
  | .ip address => ipAddress host = some address
  | .network range => (ipAddress host).any range.contains
  | .host name => normalized E host = name
  | .suffix name => normalized E host = name || ('.' :: name).isSuffixOf (normalized E host)

theorem matches_eq_true : rule.matches E host url.port = true ↔
    PortMatches url rule ∧ rule.kind.matchesHost E host = true := by
  have hkind : rule.matches E host url.port = if rule.port ≠ none ∧ url.port ≠ rule.port then false
      else rule.kind.matchesHost E host := by
    rw [BypassRule.matches]
    cases rule.kind <;> rfl
  rw [hkind]
  by_cases hport : rule.port ≠ none ∧ url.port ≠ rule.port
  · rw [if_pos hport]
    constructor
    · nofun
    · intro h
      rcases h.1 with hnone | heq
      · exact absurd hnone hport.1
      · exact absurd heq.symm hport.2
  · rw [if_neg hport]
    constructor
    · intro h
      refine ⟨?_, h⟩
      by_cases hnone : rule.port = none
      · exact .inl hnone
      refine .inr ?_
      by_contra hne
      exact hport ⟨hnone, fun heq => hne heq.symm⟩
    · exact And.right

theorem portMatches_iff : PortMatches url rule ↔
    (rule.port = none ∨ rule.port = effectivePort url) ∧ ¬(rule.port ≠ none ∧ url.port = none) := by
  unfold PortMatches effectivePort
  cases hrule : rule.port with
  | none => simp
  | some port =>
    cases hurl : url.port with
    | none | some _ => simp

theorem matchesHost_v6 {scopeId : Option Text} (hip : ipAddress host = some (.v6 ip scopeId))
    (hhost : hostOf E (some host) = .v6 ip scopeId) (hvalid : rule.Valid) :
    rule.kind.matchesHost E host = true ↔
      rule.kind.Covers (hostOf E (some host)) ∧ ¬rule.kind.Dotted E host
        ∨ rule.kind.EndsLiteral E host := by
  have hcolon := colon_mem_normalized (E := E) (colon_of_v6 hip)
  have hplain : ∀ kind : RuleKind, ¬kind.Dotted E host := by
    intro kind hdotted
    obtain ⟨text, ip', hname⟩ := hdotted.2.2
    rw [hhost] at hname
    cases hname
  have hkind := hvalid
  unfold BypassRule.Valid at hkind
  generalize rule.kind = kind at hkind ⊢
  simp only [hplain, not_false_eq_true, and_true, RuleKind.EndsLiteral, hhost]
  cases kind with
  | all => simp [RuleKind.matchesHost, RuleKind.Covers]
  | ip address | network _ => simp [RuleKind.matchesHost, RuleKind.Covers, Host.address, hip]
  | host name =>
    -- a name has no colon
    have hne : normalized E host ≠ name := by
      intro heq
      rw [heq] at hcolon
      exact hkind name (.inl rfl) hcolon
    simp [RuleKind.matchesHost, RuleKind.Covers, Host.text, hne]
  | suffix name =>
    have hne : normalized E host ≠ name := by
      intro heq
      rw [heq] at hcolon
      exact hkind name (.inr rfl) hcolon
    simp [RuleKind.matchesHost, RuleKind.Covers, Host.text, hne]

theorem matchesHost_name (hip : ipAddress host = (parseIpv4 host).map .v4)
    (hhost : hostOf E (some host) = .name (normalized E host) (parseIpv4 (rstripDots host)))
    (kind : RuleKind) : kind.matchesHost E host = true ↔
      kind.Covers (hostOf E (some host)) ∧ ¬kind.Dotted E host ∨ kind.EndsLiteral E host := by
  have hnone : ¬kind.EndsLiteral E host := by
    intro hends
    obtain ⟨ip, scopeId, hv6⟩ := hends.1
    rw [hhost] at hv6
    cases hv6
  have hname : ∃ text ip, hostOf E (some host) = .name text ip := ⟨_, _, hhost⟩
  have haddress : (hostOf E (some host)).address = (parseIpv4 (rstripDots host)).map .v4 := by
    rw [hhost]
    rfl
  have htext : (hostOf E (some host)).text = some (normalized E host) := by
    rw [hhost]
    rfl
  simp only [hnone, or_false, RuleKind.Dotted, hname, and_true]
  by_cases hlast : host.getLast? = some '.'
  · -- a dot after an address, and `ip_address` reads none
    have hunread : ipAddress host = none := by
      rw [hip]
      cases hparse : parseIpv4 host with
      | none => rfl
      | some ip => exact absurd hlast (getLast_of_parseIpv4 hparse)
    cases kind with
    | all => simp [RuleKind.matchesHost, RuleKind.Covers, RuleKind.byAddress]
    | ip _ | network _ => simp [RuleKind.matchesHost, RuleKind.byAddress, hunread, hlast]
    | host _ | suffix _ => simp [RuleKind.matchesHost, RuleKind.Covers, RuleKind.byAddress, htext]
  · have hread : ipAddress host = (hostOf E (some host)).address := by
      rw [hip, haddress, rstripDots_of_getLast hlast]
    cases kind with
    | all => simp [RuleKind.matchesHost, RuleKind.Covers, RuleKind.byAddress]
    | ip address => simp [RuleKind.matchesHost, RuleKind.Covers, hlast, hread]
    | network range =>
      simp [RuleKind.matchesHost, RuleKind.Covers, hlast, hread, Option.any_eq_true]
    | host _ | suffix _ => simp [RuleKind.matchesHost, RuleKind.Covers, RuleKind.byAddress, htext]

theorem matches_iff (hurl : url.host = some host) (hne : host ≠ []) (hvalid : rule.Valid) :
    rule.matches E host url.port = true ↔
      Covers E url rule ∧ ¬Overlooked E url rule ∨ Mistaken E url rule := by
  have hhost : rule.kind.matchesHost E host = true ↔
      rule.kind.Covers (hostOf E (some host)) ∧ ¬rule.kind.Dotted E host
        ∨ rule.kind.EndsLiteral E host := by
    cases hostCase (E := E) hne with
    | v6 ip scopeId hip h => exact matchesHost_v6 hip h hvalid
    | name hip h => exact matchesHost_name hip h rule.kind
  have hknown : hostOf E (some host) ≠ .unknown := by
    cases hostCase (E := E) hne with
    | v6 _ _ _ h | name _ h => simp [h]
  rw [matches_eq_true, hhost]
  unfold Covers Overlooked Mistaken
  simp only [hurl, Option.some.injEq, exists_eq_left', hknown, false_or]
  rw [portMatches_iff]
  tauto

variable {policy : OutboundProxyPolicy}

theorem shouldBypass_iff (hvalid : ∀ rule ∈ policy.bypassRules, rule.Valid) :
    shouldBypass E policy url = true ↔ ∃ rule ∈ policy.bypassRules,
        Covers E url rule ∧ ¬Overlooked E url rule ∨ Mistaken E url rule := by
  unfold shouldBypass
  cases hurl : url.host with
  | none =>
    have hover : ∀ rule, Overlooked E url rule := by
      intro rule
      left
      rw [hurl]
      rfl
    simp [hover, Mistaken, hurl]
  | some host =>
    by_cases hne : host = []
    · subst hne
      have hover : ∀ rule, Overlooked E url rule := by
        intro rule
        left
        rw [hurl]
        rfl
      have hunknown : hostOf E (some []) = .unknown := rfl
      simp [hover, Mistaken, hurl, RuleKind.EndsLiteral, hunknown]
    · simp only [ne_eq, hne, not_false_eq_true, decide_true, Bool.true_and, List.any_eq_true]
      constructor
      · intro h
        obtain ⟨rule, hrule, hmatches⟩ := h
        exact ⟨rule, hrule, (matches_iff hurl hne (hvalid rule hrule)).mp hmatches⟩
      · intro h
        obtain ⟨rule, hrule, hcovers⟩ := h
        exact ⟨rule, hrule, (matches_iff hurl hne (hvalid rule hrule)).mpr hcovers⟩

/-! ## The rules that are read -/

theorem colon_not_mem_of_validHostname {name : Text} (h : validHostname name = true) :
    ':' ∉ name := by
  intro hcolon
  have hne : ':' ≠ '.' := by decide
  obtain ⟨label, hlabel, hmem⟩ := exists_mem_split hcolon hne
  simp only [validHostname, Bool.and_eq_true, List.all_eq_true] at h
  have hvalid := h.2 label hlabel
  simp only [validLabel, Bool.and_eq_true, List.all_eq_true] at hvalid
  exact absurd (hvalid.2 ':' hmem) (by decide)

theorem valid_of_parseHostRule {value : Text} (h : parseHostRule E value = .ok rule) :
    rule.Valid := by
  obtain ⟨hostPort, -, h⟩ := Checked.bind_ok_iff.mp h
  dsimp only at h
  split at h
  · cases h
    intro name hname
    rcases hname with hname | hname <;> cases hname
  · revert h
    generalize normalized E _ = name
    intro h
    by_cases hhostname : validHostname name = true
    · rw [if_pos hhostname] at h
      cases h
      intro other hother
      have hcolon := colon_not_mem_of_validHostname hhostname
      split at hother <;> rcases hother with hother | hother <;> cases hother <;> exact hcolon
    · rw [if_neg hhostname] at h
      cases h

theorem valid_of_parseBypassRule {value : Text} (h : parseBypassRule E value = .ok rule) :
    rule.Valid := by
  unfold parseBypassRule at h
  split_ifs at h
  · cases h
    intro name hname
    rcases hname with hname | hname <;> cases hname
  · split at h
    · cases h
      intro name hname
      rcases hname with hname | hname <;> cases hname
    · exact valid_of_parseHostRule h
  · exact valid_of_parseHostRule h

theorem valid_of_parseNoProxy {value : Option Text} {rules : List BypassRule}
    (h : parseNoProxy E value = .ok rules) : ∀ rule ∈ rules, rule.Valid := by
  intro rule hrule
  unfold parseNoProxy at h
  split at h
  · cases h
    cases hrule
  · obtain ⟨text, -, htext⟩ := Checked.mem_of_mapM_ok h hrule
    exact valid_of_parseBypassRule htext

/-! ## Routing by the rules -/

variable (E) in
/-- No proxy exactly where a rule covers the URL or none is configured for its scheme. -/
def FollowsRules (policy : OutboundProxyPolicy) (targetUrl : Text) (url : HttpxUrl) : Prop :=
  endpointForUrl E policy targetUrl = some none ↔
    (∃ rule ∈ policy.bypassRules, Covers E url rule) ∨ policy.configured url.scheme = none

variable (E) in
/-- Where the comparison goes right: one covering rule is not passed over, and without one none is
mistaken for one. -/
def ComparedRight (policy : OutboundProxyPolicy) (url : HttpxUrl) : Prop :=
  policy.configured url.scheme = none ∨ ((∃ rule ∈ policy.bypassRules, Covers E url rule) →
        ∃ rule ∈ policy.bypassRules,
          Covers E url rule ∧ ¬Overlooked E url rule ∨ Mistaken E url rule) ∧
      ((∀ rule ∈ policy.bypassRules, ¬Covers E url rule) →
        ∀ rule ∈ policy.bypassRules, ¬Mistaken E url rule)

theorem foldText_web {scheme : Text} (h : scheme ∈ webSchemes) : foldText E scheme = scheme := by
  have hh := E.casefold_ascii 'h' (by decide)
  have ht := E.casefold_ascii 't' (by decide)
  have hp := E.casefold_ascii 'p' (by decide)
  have hs := E.casefold_ascii 's' (by decide)
  rcases mem_cons.mp h with rfl | h
  · change ['h', 't', 't', 'p'].flatMap E.casefold = ['h', 't', 't', 'p']
    simp [hh, ht, hp]
  · rw [mem_singleton.mp h]
    change ['h', 't', 't', 'p', 's'].flatMap E.casefold = ['h', 't', 't', 'p', 's']
    simp [hh, ht, hp, hs]

theorem endpointForUrl_of_web {targetUrl : Text} (hurl : E.url targetUrl = some url)
    (hweb : url.scheme ∈ webSchemes) :
    endpointForUrl E policy targetUrl =
      some (if shouldBypass E policy url then none else policy.configured url.scheme) := by
  unfold endpointForUrl
  rw [hurl, map_some, foldText_web hweb]

theorem followsRules_iff (hvalid : ∀ rule ∈ policy.bypassRules, rule.Valid) {targetUrl : Text}
    (hurl : E.url targetUrl = some url) (hweb : url.scheme ∈ webSchemes) :
    FollowsRules E policy targetUrl url ↔ ComparedRight E policy url := by
  unfold FollowsRules ComparedRight
  rw [endpointForUrl_of_web hurl hweb, Option.some.injEq]
  by_cases hnone : policy.configured url.scheme = none
  · simp [hnone]
  have hbypass : shouldBypass E policy url = true ↔ _ := shouldBypass_iff hvalid
  have hendpoint : (if shouldBypass E policy url then none else policy.configured url.scheme) =
      none ↔ shouldBypass E policy url = true := by
    by_cases h : shouldBypass E policy url = true
    · simp [h]
    · simp [h, hnone]
  rw [hendpoint, hbypass]
  simp only [hnone, or_false, false_or]
  by_cases hcovered : ∃ rule ∈ policy.bypassRules, Covers E url rule
  · have hsome : ¬∀ rule ∈ policy.bypassRules, ¬Covers E url rule := by
      intro hall
      obtain ⟨rule, hrule, hcovers⟩ := hcovered
      exact hall rule hrule hcovers
    simp only [hcovered, hsome, iff_true, true_imp_iff, false_imp_iff, and_true]
  · have hnever : ∀ rule ∈ policy.bypassRules, ¬Covers E url rule := by
      intro rule hrule hcovers
      exact hcovered ⟨rule, hrule, hcovers⟩
    simp only [hcovered, iff_false, false_imp_iff, true_and]
    constructor
    · intro h _ rule hrule hmistaken
      exact h ⟨rule, hrule, Or.inr hmistaken⟩
    · intro h happlied
      obtain ⟨rule, hrule, happlied⟩ := happlied
      rcases happlied with hcovers | hmistaken
      · exact hnever rule hrule hcovers.1
      · exact h hnever rule hrule hmistaken

theorem covers_congr {url' : HttpxUrl} (h : SameTarget E url url') (rule : BypassRule) :
    Covers E url rule ↔ Covers E url' rule := by
  unfold Covers
  rw [h.host, h.port]

/-- **Requests are routed by the rules exactly where the comparison goes right**, and two
spellings of one URL are routed alike exactly where it goes right for both or for neither. -/
theorem routing_iff {value : Option Text} {policy : OutboundProxyPolicy}
    (hrules : parseNoProxy E value = .ok policy.bypassRules) {targetUrl targetUrl' : Text}
    {url url' : HttpxUrl} (hurl : E.url targetUrl = some url) (hweb : url.scheme ∈ webSchemes)
    (hurl' : E.url targetUrl' = some url') (hsame : SameTarget E url url') :
    (FollowsRules E policy targetUrl url ↔ ComparedRight E policy url) ∧
      (endpointForUrl E policy targetUrl = endpointForUrl E policy targetUrl' ↔
        (ComparedRight E policy url ↔ ComparedRight E policy url')) := by
  have hvalid := valid_of_parseNoProxy hrules
  have hweb' : url'.scheme ∈ webSchemes := hsame.scheme ▸ hweb
  have hfirst := followsRules_iff hvalid hurl hweb
  refine ⟨hfirst, ?_⟩
  have hsecond := followsRules_iff hvalid hurl' hweb'
  rw [← hfirst, ← hsecond]
  unfold FollowsRules
  rw [endpointForUrl_of_web hurl hweb, endpointForUrl_of_web hurl' hweb', hsame.scheme]
  simp only [covers_congr hsame, Option.some.injEq]
  generalize (∃ rule ∈ policy.bypassRules, Covers E url' rule) = covered
  cases policy.configured url'.scheme with
  | none => simp
  | some endpoint =>
    cases shouldBypass E policy url <;> cases shouldBypass E policy url' <;> simp

/-! ## The default port -/

theorem toLower_ascii (c : Char) (_ : c.toNat < 128) : [c.toLower] = [c.toLower] := rfl

/-- What the libraries say of one URL, and of ASCII. -/
def internalEnv : ProxyEnv where
  url text :=
    if text = "https://internal.example/".toList then
      some { scheme := "https".toList, host := some "internal.example".toList, port := none }
    else none
  casefold c := [c.toLower]
  isDigit := Char.isDigit
  decimal c := if c.isDigit then some (c.toNat - 48) else none
  casefold_ascii := toLower_ascii

def internalUrl : HttpxUrl where
  scheme := "https".toList
  host := some "internal.example".toList
  port := none

def someEndpoint : ProxyEndpoint where
  scheme := "http".toList
  host := "proxy.example".toList
  port := 8080
  username := none
  password := none
  url := "http://proxy.example:8080".toList

def internalRule : BypassRule where
  kind := .host "internal.example".toList
  port := some 443

/-- The rule names the port that an `https` request goes to. -/
def internalPolicy : OutboundProxyPolicy where
  http := none
  https := some someEndpoint
  all := none
  bypassRules := [internalRule]

theorem internal_rules :
    parseNoProxy internalEnv (some "internal.example:443".toList) = .ok [internalRule] := by
  decide +kernel

theorem internal_url :
    internalEnv.url "https://internal.example/".toList = some internalUrl := by decide

theorem internal_web : internalUrl.scheme ∈ webSchemes :=
  mem_cons_of_mem _ mem_cons_self

/-- A rule with the default port of `https` does not match an `https` URL. -/
theorem defaultPort_not_bypassed :
    ¬ ∀ (E : ProxyEnv) (value : Option Text) (policy : OutboundProxyPolicy) (targetUrl : Text)
      (url : HttpxUrl), parseNoProxy E value = .ok policy.bypassRules →
        E.url targetUrl = some url → url.scheme ∈ webSchemes →
          FollowsRules E policy targetUrl url := by
  intro hall
  have hfollows := hall internalEnv (some "internal.example:443".toList) internalPolicy
    "https://internal.example/".toList internalUrl internal_rules internal_url internal_web
  have hproxied : endpointForUrl internalEnv internalPolicy "https://internal.example/".toList ≠
      some none := by decide +kernel
  refine hproxied (hfollows.mpr (.inl ⟨internalRule, mem_singleton.mpr rfl, Or.inr rfl, ?_⟩))
  change (hostOf internalEnv internalUrl.host).text = some "internal.example".toList
  decide +kernel

theorem internal_routing :
    (FollowsRules internalEnv internalPolicy "https://internal.example/".toList internalUrl ↔
        ComparedRight internalEnv internalPolicy internalUrl) ∧
      (endpointForUrl internalEnv internalPolicy "https://internal.example/".toList =
          endpointForUrl internalEnv internalPolicy "https://internal.example/".toList ↔
        (ComparedRight internalEnv internalPolicy internalUrl ↔
          ComparedRight internalEnv internalPolicy internalUrl)) :=
  routing_iff internal_rules internal_url internal_web internal_url ⟨rfl, rfl, rfl⟩

end NewsCraft.OutboundProxy
