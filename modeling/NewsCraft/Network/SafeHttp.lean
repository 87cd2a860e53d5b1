import NewsCraft.Core.UrlHost
import NewsCraft.Lib.Transition
import NewsCraft.Network.OutboundProxy

/-!
# Requests to public addresses

`SafeHttpClient` resolves the host of every URL, refuses it unless all its addresses are
global, and pins them: connections are made to the pinned addresses of their host only, also
after a redirect. The pins belong to the client, so concurrent requests share them.

A resolver may answer as it likes, and a server may redirect to any URL.
-/

namespace NewsCraft.SafeHttp

open Lib Urls Ip OutboundProxy Option List

/-! ## Hosts -/

structure HostEnv extends TextEnv where
  /-- `idna.encode(text, uts46=True).decode("ascii")`; none where it raises `IDNAError`. -/
  idnaEncode : Text → Option Text

/-- `_normalized_host`; none where it raises. -/
def HostEnv.normalizedHost (E : HostEnv) (value : Text) : Option Text :=
  let candidate := rstripDots value
  match ipAddress candidate with
  | some address => some (ipText address)
  | none => (E.idnaEncode candidate).map fun encoded => encoded.map Char.toLower

/-- What `httpx` makes of URLs. -/
structure SafeHttpEnv extends HostEnv where
  /-- `str(httpx.URL(value).copy_with(host=host))`; none where it raises. -/
  copyWithHost : Text → Text → Option Text
  /-- `httpx.URL(url).raw_host`, the host that a connection is opened for. -/
  rawHost : Text → Option Text
  /-- `urllib.parse.urljoin`; none where it raises. -/
  urljoin : Text → Text → Option Text
  proxy : ProxyEnv
  /-- A URL has the host it was given, where that is in normal form. -/
  rawHost_copyWithHost : ∀ value host url given, toHostEnv.normalizedHost given = some host →
    copyWithHost value host = some url → rawHost url = some host

variable (E : SafeHttpEnv)

local instance : LawfulBEq Text := inferInstance

/-- The checks of `validate_public_url` before the host is resolved. -/
def publicHost (value : Text) : Option Text := do
  let parsed ← urlsplit (netlocOk E.toTextEnv) value
  if parsed.scheme ∉ webSchemes ∨ hasUserinfo parsed.netloc = true then none
  else
    let hostname := hostname E.toTextEnv parsed.netloc
    if hostname = [] then none
    else
      let host ← E.normalizedHost hostname
      if host = "localhost".toList ∨ ".localhost".toList <:+ host then none else some host

/-- The addresses of a host: its own, or those the resolver answers with, if it does. -/
def resolvedAddresses (host : Text) (answers : Option (List Text)) : Option (List IpAddress) :=
  match ipAddress host with
  | some literal => some [literal]
  | none =>
    match answers with
    | none => none
    | some [] => none
    | some answers => answers.mapM ipAddress

/-! ## The client -/

inductive Method where
  | get
  | post
  deriving DecidableEq

inductive Phase where
  /-- The URL is to be validated. -/
  | validating
  /-- The request is sent to this host. -/
  | sending (host : Text)
  | returned
  | failed

/-- A call of `get` or `post`. -/
structure Call where
  method : Method
  currentUrl : Text
  followRedirects : Bool
  redirectCount : Nat
  phase : Phase
  /-- How many requests it has sent. -/
  sent : Nat

structure Response where
  statusCode : Nat
  isRedirect : Bool
  location : Option Text
  url : Text

structure Resolution where
  host : Text
  addresses : List IpAddress

structure Dial where
  url : Text
  address : Text

/-- A client with its calls, and what was resolved and dialled on its behalf. -/
structure Client where
  pins : Text → Option (List Text)
  calls : Nat → Option Call
  resolutions : List Resolution
  dials : List Dial

def Client.new : Client where
  pins _ := none
  calls _ := none
  resolutions := []
  dials := []

/-- `self._addresses.get(_normalized_host(host), ())`. -/
def Client.pinned (client : Client) (host : Text) : List Text :=
  ((E.normalizedHost host).bind client.pins).getD []

/-- `pin`; none where it raises. -/
def Client.pin (client : Client) (host : Text) (addresses : List IpAddress) : Option Client :=
  (E.normalizedHost host).map fun key =>
    { client with
      pins := fun other => if other = key then some (addresses.map ipText) else client.pins other }

def Client.withCall (client : Client) (id : Nat) (call : Call) : Client :=
  { client with calls := fun other => if other = id then some call else client.calls other }

/-- The call once its URL is validated, and sent. -/
def Call.send (call : Call) (url host : Text) : Call :=
  { call with currentUrl := url, phase := .sending host, sent := call.sent + 1 }

def Call.fail (call : Call) : Call := { call with phase := .failed }

/-- `validate_public_url` and what follows on it: the host is pinned before the URL is
rewritten. -/
def Client.validate (client : Client) (id : Nat) (call : Call) (answers : Option (List Text)) :
    Client :=
  match publicHost E call.currentUrl with
  | none => client.withCall id call.fail
  | some host =>
    match resolvedAddresses host answers with
    | none => client.withCall id call.fail
    | some addresses =>
      let client := { client with resolutions := ⟨host, addresses⟩ :: client.resolutions }
      if addresses.all isGlobal then
        match client.pin E host addresses with
        | none => client.withCall id call.fail
        | some client =>
          match (E.copyWithHost call.currentUrl host).bind fun url =>
              (E.rawHost url).map fun host => (url, host) with
          | none => client.withCall id call.fail
          | some (url, host) => client.withCall id (call.send url host)
      else
        client.withCall id call.fail

def Call.afterResponse (maxRedirects : Nat) (call : Call) (response : Response) : Call :=
  if !call.followRedirects || !response.isRedirect then { call with phase := .returned }
  else
    match response.location with
    | none => { call with phase := .returned }
    | some [] => { call with phase := .returned }
    | some location =>
      if call.redirectCount = maxRedirects then call.fail
      else
        match E.urljoin response.url location with
        | none => call.fail
        | some url =>
          { call with
            currentUrl := url
            method :=
              if response.statusCode = 303 ∨
                  (response.statusCode = 301 ∨ response.statusCode = 302) ∧ call.method = .post
              then .get else call.method
            redirectCount := call.redirectCount + 1
            phase := .validating }

def direct (policy : Option OutboundProxyPolicy) (url : Text) : Bool :=
  match policy with
  | none => true
  | some policy =>
    (policy.http.isNone && policy.https.isNone && policy.all.isNone)
      || endpointForUrl E.proxy policy url = some none

inductive Event where
  | begin (id : Nat) (method : Method) (url : Text) (followRedirects : Bool)
  | validate (id : Nat) (answers : Option (List Text))
  /-- `connect_tcp`, which tries this many of the addresses. -/
  | connect (id : Nat) (tried : Nat)
  | respond (id : Nat) (response : Response)
  /-- Anything else goes wrong. -/
  | fail (id : Nat)

/-- A client that is used by any number of calls at one time. -/
inductive Step (policy : Option OutboundProxyPolicy) (maxRedirects : Nat) :
    Client → Event → Client → Prop
  | begin {client : Client} {id : Nat} {method : Method} {url : Text} {followRedirects : Bool}
      (hnew : client.calls id = none) :
      Step policy maxRedirects client (.begin id method url followRedirects)
        (client.withCall id ⟨method, url, followRedirects, 0, .validating, 0⟩)
  | validate {client : Client} {id : Nat} {call : Call} {answers : Option (List Text)}
      (hcall : client.calls id = some call) (hphase : call.phase = .validating) :
      Step policy maxRedirects client (.validate id answers) (client.validate E id call answers)
  | connect {client : Client} {id tried : Nat} {call : Call} {host : Text}
      (hcall : client.calls id = some call) (hphase : call.phase = .sending host)
      (hdirect : direct E policy call.currentUrl = true) :
      Step policy maxRedirects client (.connect id tried) { client with
          dials := ((client.pinned E host).take tried).map (Dial.mk call.currentUrl)
            ++ client.dials }
  | respond {client : Client} {id : Nat} {call : Call} {host : Text} {response : Response}
      (hcall : client.calls id = some call) (hphase : call.phase = .sending host) :
      Step policy maxRedirects client (.respond id response)
        (client.withCall id (call.afterResponse E maxRedirects response))
  | fail {client : Client} {id : Nat} {call : Call} (hcall : client.calls id = some call)
      (hphase : call.phase = .validating ∨ ∃ host, call.phase = .sending host) :
      Step policy maxRedirects client (.fail id) (client.withCall id call.fail)

def system (policy : Option OutboundProxyPolicy) (maxRedirects : Nat) : System Client Event where
  init client := client = Client.new
  step := Step E policy maxRedirects

/-! ## What validation comes to -/

variable {E} {client : Client} {policy : Option OutboundProxyPolicy} {maxRedirects : Nat}

variable {host : Text}

theorem normalizedHost_of_publicHost {value : Text} (h : publicHost E value = some host) :
    ∃ given, E.normalizedHost given = some host := by
  obtain ⟨parsed, -, h⟩ := bind_eq_some_iff.mp h
  dsimp only at h
  split_ifs at h
  obtain ⟨normal, hnormal, h⟩ := bind_eq_some_iff.mp h
  split_ifs at h
  cases h
  exact ⟨_, hnormal⟩

theorem resolvedAddresses_ne_nil {answers : Option (List Text)} {addresses : List IpAddress}
    (h : resolvedAddresses host answers = some addresses) : addresses ≠ [] := by
  unfold resolvedAddresses at h
  split at h
  · cases h
    simp
  · split at h
    · cases h
    · cases h
    rename_i answers hne
    cases answers with
    | nil => exact absurd rfl hne
    | cons first rest =>
      rw [mapM_cons] at h
      obtain ⟨address, -, h⟩ := bind_eq_some_iff.mp h
      obtain ⟨later, -, h⟩ := bind_eq_some_iff.mp h
      cases h
      simp

def Client.resolved (client : Client) (resolution : Resolution) : Client :=
  { client with resolutions := resolution :: client.resolutions }

def Client.pinnedAt (client : Client) (key : Text) (addresses : List IpAddress) : Client :=
  { client with
    pins := fun other => if other = key then some (addresses.map ipText) else client.pins other }

/-- What a validation leaves: the client before the call is put back, and the call. -/
inductive Validated (E : SafeHttpEnv) (client : Client) (call : Call) : Client → Call → Prop where
  | refused : Validated E client call client call.fail
  | resolved (resolution : Resolution) :
      Validated E client call (client.resolved resolution) call.fail
  | pinned (host key : Text) (addresses : List IpAddress)
      (hkey : E.normalizedHost host = some key) (hne : addresses ≠ [])
      (hglobal : ∀ address ∈ addresses, isGlobal address = true) :
      Validated E client call ((client.resolved ⟨host, addresses⟩).pinnedAt key addresses) call.fail
  | sent (host key url : Text) (addresses : List IpAddress)
      (hkey : E.normalizedHost host = some key) (hne : addresses ≠ [])
      (hglobal : ∀ address ∈ addresses, isGlobal address = true)
      (hurl : E.rawHost url = some host) :
      Validated E client call ((client.resolved ⟨host, addresses⟩).pinnedAt key addresses)
        (call.send url host)

theorem validate_cases (client : Client) (id : Nat) (call : Call) (answers : Option (List Text)) :
    ∃ client' call', Validated E client call client' call' ∧
      client.validate E id call answers = client'.withCall id call' := by
  unfold Client.validate
  cases hhost : publicHost E call.currentUrl with
  | none => exact ⟨client, call.fail, .refused, rfl⟩
  | some host =>
    dsimp only
    cases haddresses : resolvedAddresses host answers with
    | none => exact ⟨client, call.fail, .refused, rfl⟩
    | some addresses =>
      dsimp only
      have hne := resolvedAddresses_ne_nil haddresses
      by_cases hglobal : addresses.all isGlobal = true
      · rw [if_pos hglobal]
        have hall : ∀ address ∈ addresses, isGlobal address = true := by simpa using hglobal
        cases hkey : E.normalizedHost host with
        | none =>
          refine ⟨client.resolved ⟨host, addresses⟩, call.fail, .resolved _, ?_⟩
          simp only [Client.pin, hkey, map_none]
          rfl
        | some key =>
          simp only [Client.pin, hkey, map_some]
          cases hurl : E.copyWithHost call.currentUrl host with
          | none => exact ⟨_, _, .pinned host key addresses hkey hne hall, rfl⟩
          | some url =>
            obtain ⟨given, hgiven⟩ := normalizedHost_of_publicHost hhost
            have hraw := E.rawHost_copyWithHost _ _ _ _ hgiven hurl
            simp only [bind_some, hraw, map_some]
            exact ⟨_, _, .sent host key url addresses hkey hne hall hraw, rfl⟩
      · rw [if_neg hglobal]
        exact ⟨client.resolved ⟨host, addresses⟩, call.fail, .resolved _, rfl⟩

/-! ## The invariant -/

variable (E) in
def SameHost (host host' : Text) : Prop := E.normalizedHost host = E.normalizedHost host'

variable (E) in
/-- The connection goes to an address that a resolution of the host came to, all of whose
addresses are global. -/
def Vouched (resolutions : List Resolution) (dial : Dial) : Prop :=
  ∃ host, E.rawHost dial.url = some host ∧ ∃ resolution ∈ resolutions,
    SameHost E resolution.host host ∧ (∀ address ∈ resolution.addresses, isGlobal address = true) ∧
        ∃ address ∈ resolution.addresses, dial.address = ipText address

/-- What is pinned is a resolution to global addresses. -/
def PinOk (E : SafeHttpEnv) (client : Client) (key : Text) (addresses : List Text) : Prop :=
  addresses ≠ [] ∧ ∃ resolution ∈ client.resolutions, E.normalizedHost resolution.host = some key ∧
    (∀ address ∈ resolution.addresses, isGlobal address = true) ∧
      addresses = resolution.addresses.map ipText

/-- A call counts what it sends, and what it has sent went to a host that is pinned. -/
structure CallOk (E : SafeHttpEnv) (maxRedirects : Nat) (client : Client) (call : Call) :
    Prop where
  redirects : call.redirectCount ≤ maxRedirects
  sent : call.sent ≤ call.redirectCount + 1
  fresh : call.phase = .validating → call.sent ≤ call.redirectCount
  host : ∀ host, call.phase = .sending host → E.rawHost call.currentUrl = some host ∧
    ∃ key, E.normalizedHost host = some key ∧ client.pins key ≠ none

structure Inv (E : SafeHttpEnv) (maxRedirects : Nat) (client : Client) : Prop where
  pins : ∀ key addresses, client.pins key = some addresses → PinOk E client key addresses
  calls : ∀ id call, client.calls id = some call → CallOk E maxRedirects client call
  dials : ∀ dial ∈ client.dials, Vouched E client.resolutions dial

theorem Inv.new : Inv E maxRedirects Client.new := by
  refine ⟨?_, ?_, ?_⟩
  · nofun
  · nofun
  · nofun

theorem Inv.resolved (h : Inv E maxRedirects client) (resolution : Resolution) :
    Inv E maxRedirects (client.resolved resolution) := by
  refine ⟨?_, ?_, ?_⟩
  · intro key addresses hpin
    obtain ⟨hne, found, hfound, hvouched⟩ := h.pins key addresses hpin
    exact ⟨hne, found, mem_cons_of_mem _ hfound, hvouched⟩
  · intro id call hcall
    have hok := h.calls id call hcall
    exact ⟨hok.redirects, hok.sent, hok.fresh, hok.host⟩
  · intro dial hdial
    obtain ⟨host, hhost, found, hfound, hvouched⟩ := h.dials dial hdial
    exact ⟨host, hhost, found, mem_cons_of_mem _ hfound, hvouched⟩

variable {call : Call}

theorem CallOk.pinnedAt (h : CallOk E maxRedirects client call) (key : Text)
    (addresses : List IpAddress) : CallOk E maxRedirects (client.pinnedAt key addresses) call := by
  refine ⟨h.redirects, h.sent, h.fresh, ?_⟩
  intro host hphase
  obtain ⟨hraw, other, hother, hpinned⟩ := h.host host hphase
  refine ⟨hraw, other, hother, ?_⟩
  by_cases hkey : other = key
  · simp [Client.pinnedAt, hkey]
  · simpa [Client.pinnedAt, hkey] using hpinned

theorem Inv.pinnedAt (h : Inv E maxRedirects client) {resolution : Resolution} {key : Text}
    (hmem : resolution ∈ client.resolutions) (hkey : E.normalizedHost resolution.host = some key)
    (hne : resolution.addresses ≠ [])
    (hglobal : ∀ address ∈ resolution.addresses, isGlobal address = true) :
    Inv E maxRedirects (client.pinnedAt key resolution.addresses) := by
  refine ⟨?_, ?_, h.dials⟩
  · intro other addresses hpin
    by_cases hsame : other = key
    · simp only [Client.pinnedAt, if_pos hsame, Option.some.injEq] at hpin
      refine ⟨?_, resolution, hmem, ?_, hglobal, hpin.symm⟩
      · rw [← hpin]
        simpa using hne
      · rw [hsame]
        exact hkey
    · simp only [Client.pinnedAt, if_neg hsame] at hpin
      exact h.pins other addresses hpin
  · intro id call hcall
    exact (h.calls id call hcall).pinnedAt key resolution.addresses

theorem Inv.withCall (h : Inv E maxRedirects client) (hcall : CallOk E maxRedirects client call)
    (id : Nat) : Inv E maxRedirects (client.withCall id call) := by
  refine ⟨h.pins, ?_, h.dials⟩
  intro other found hfound
  by_cases hsame : other = id
  · simp only [Client.withCall, if_pos hsame, Option.some.injEq] at hfound
    subst hfound
    exact ⟨hcall.redirects, hcall.sent, hcall.fresh, hcall.host⟩
  · simp only [Client.withCall, if_neg hsame] at hfound
    have hok := h.calls other found hfound
    exact ⟨hok.redirects, hok.sent, hok.fresh, hok.host⟩

theorem CallOk.fail (h : CallOk E maxRedirects client call) :
    CallOk E maxRedirects client call.fail := by
  refine ⟨h.redirects, h.sent, ?_, ?_⟩
  · nofun
  · nofun

theorem CallOk.returned (h : CallOk E maxRedirects client call) :
    CallOk E maxRedirects client { call with phase := .returned } := by
  refine ⟨h.redirects, h.sent, ?_, ?_⟩
  · nofun
  · nofun

theorem CallOk.afterResponse (h : CallOk E maxRedirects client call) (response : Response) :
    CallOk E maxRedirects client (call.afterResponse E maxRedirects response) := by
  unfold Call.afterResponse
  split
  · exact h.returned
  split
  · exact h.returned
  · exact h.returned
  by_cases hlast : call.redirectCount = maxRedirects
  · rw [if_pos hlast]
    exact h.fail
  · rw [if_neg hlast]
    split
    · exact h.fail
    have hsent := h.sent
    have hredirects := h.redirects
    refine ⟨?_, ?_, ?_, ?_⟩
    · dsimp only
      omega
    · dsimp only
      omega
    · intro _
      exact hsent
    · nofun

theorem CallOk.send (h : CallOk E maxRedirects client call) (hphase : call.phase = .validating)
    {url key : Text} (hurl : E.rawHost url = some host) (hkey : E.normalizedHost host = some key)
    (hpinned : client.pins key ≠ none) : CallOk E maxRedirects client (call.send url host) := by
  have hfresh := h.fresh hphase
  refine ⟨h.redirects, ?_, ?_, ?_⟩
  · simp only [Call.send]
    omega
  · nofun
  · intro host' hsending
    cases hsending
    exact ⟨hurl, key, hkey, hpinned⟩

variable {id : Nat}

theorem Inv.validate (h : Inv E maxRedirects client) (hcall : client.calls id = some call)
    (hphase : call.phase = .validating) (answers : Option (List Text)) :
    Inv E maxRedirects (client.validate E id call answers) := by
  obtain ⟨client', call', hvalidated, heq⟩ := validate_cases (E := E) client id call answers
  rw [heq]
  have hok := h.calls id call hcall
  have hpinnedAt : ∀ host key addresses, E.normalizedHost host = some key → addresses ≠ [] →
      (∀ address ∈ addresses, isGlobal address = true) →
        Inv E maxRedirects ((client.resolved ⟨host, addresses⟩).pinnedAt key addresses) := by
    intro host key addresses hkey hne hglobal
    exact (h.resolved ⟨host, addresses⟩).pinnedAt mem_cons_self hkey hne hglobal
  cases hvalidated with
  | refused => exact h.withCall hok.fail id
  | resolved resolution =>
    have hresolved := h.resolved resolution
    exact hresolved.withCall (hresolved.calls id call hcall).fail id
  | pinned host key addresses hkey hne hglobal =>
    have hpinned := hpinnedAt host key addresses hkey hne hglobal
    exact hpinned.withCall (hpinned.calls id call hcall).fail id
  | sent host key url addresses hkey hne hglobal hurl =>
    have hpinned := hpinnedAt host key addresses hkey hne hglobal
    refine hpinned.withCall ?_ id
    refine (hpinned.calls id call hcall).send hphase hurl hkey ?_
    simp [Client.pinnedAt]

theorem Inv.pinned (h : Inv E maxRedirects client) (hcall : client.calls id = some call)
    (hphase : call.phase = .sending host) :
    ∃ key, E.normalizedHost host = some key ∧ PinOk E client key (client.pinned E host) := by
  obtain ⟨-, key, hkey, hpinned⟩ := (h.calls id call hcall).host host hphase
  refine ⟨key, hkey, ?_⟩
  obtain ⟨addresses, haddresses⟩ := ne_none_iff_exists'.mp hpinned
  have heq : client.pinned E host = addresses := by
    simp [Client.pinned, hkey, haddresses]
  rw [heq]
  exact h.pins key addresses haddresses

theorem Inv.connect (h : Inv E maxRedirects client) (hcall : client.calls id = some call)
    (hphase : call.phase = .sending host) (tried : Nat) :
    Inv E maxRedirects { client with
        dials := ((client.pinned E host).take tried).map (Dial.mk call.currentUrl)
          ++ client.dials } := by
  refine ⟨h.pins, ?_, ?_⟩
  · intro other found hfound
    have hok := h.calls other found hfound
    exact ⟨hok.redirects, hok.sent, hok.fresh, hok.host⟩
  · intro dial hdial
    rcases mem_append.mp hdial with hnew | hold
    · obtain ⟨text, htext, rfl⟩ := mem_map.mp hnew
      obtain ⟨key, hkey, -, resolution, hmem, hresolution, hglobal, heq⟩ := h.pinned hcall hphase
      obtain ⟨hraw, -⟩ := (h.calls id call hcall).host host hphase
      refine ⟨host, hraw, resolution, hmem, hresolution.trans hkey.symm, hglobal, ?_⟩
      have hpinned := mem_of_mem_take htext
      rw [heq] at hpinned
      obtain ⟨address, haddress, rfl⟩ := mem_map.mp hpinned
      exact ⟨address, haddress, rfl⟩
    · exact h.dials dial hold

theorem Inv.step {client' : Client} {event : Event} (h : Inv E maxRedirects client)
    (hstep : Step E policy maxRedirects client event client') : Inv E maxRedirects client' := by
  cases hstep with
  | begin hnew =>
    refine h.withCall ⟨Nat.zero_le _, Nat.zero_le _, fun _ => Nat.le_refl _, ?_⟩ _
    intro host hphase
    cases hphase
  | validate hcall hphase => exact h.validate hcall hphase _
  | connect hcall hphase _ => exact h.connect hcall hphase _
  | respond hcall _ => exact h.withCall ((h.calls _ _ hcall).afterResponse _) _
  | fail hcall _ => exact h.withCall (h.calls _ _ hcall).fail _

theorem inv_of_reachable (h : (system E policy maxRedirects).Reachable client) :
    Inv E maxRedirects client := by
  refine System.invariant ?_ ?_ h
  · intro c hinit
    cases hinit
    exact Inv.new
  · intro c event c' _ hc hstep
    exact hc.step hstep

structure DialsPinned (E : SafeHttpEnv) (maxRedirects : Nat) (client : Client) : Prop where
  dialled : ∀ dial ∈ client.dials, Vouched E client.resolutions dial
  bounded : ∀ id call, client.calls id = some call → call.sent ≤ maxRedirects + 1
  found : ∀ id call host, client.calls id = some call → call.phase = .sending host →
    client.pinned E host ≠ []

/-- **Only addresses that were validated are dialled.** -/
theorem dials_pinned (h : (system E policy maxRedirects).Reachable client) :
    DialsPinned E maxRedirects client := by
  have hinv := inv_of_reachable h
  refine ⟨hinv.dials, ?_, ?_⟩
  · intro id call hcall
    have hok := hinv.calls id call hcall
    have hsent := hok.sent
    have hredirects := hok.redirects
    omega
  · intro id call host hcall hphase
    obtain ⟨key, -, hpin⟩ := hinv.pinned hcall hphase
    exact hpin.1

/-! ## A request -/

def exampleUrl : Text := "https://example.com/".toList
def exampleHost : Text := "example.com".toList

/-- What the libraries make of one URL, and of ASCII. -/
def exampleEnv : SafeHttpEnv where
  toTextEnv := TextEnv.ascii
  idnaEncode text := if text.all fun c => c.isAlphanum || c = '-' || c = '.' then some text else none
  copyWithHost value host := if value = exampleUrl ∧ host = exampleHost then some value else none
  rawHost url := if url = exampleUrl then some exampleHost else none
  urljoin _ _ := none
  proxy := internalEnv
  rawHost_copyWithHost value host url given _ hurl := by
    by_cases h : value = exampleUrl ∧ host = exampleHost
    · rw [if_pos h] at hurl
      cases hurl
      rw [if_pos h.1, h.2]
    · rw [if_neg h] at hurl
      cases hurl

/-- A client with one call, once its URL is validated. -/
def exampleClient : Client :=
  (Client.new.withCall 1 ⟨.get, exampleUrl, false, 0, .validating, 0⟩).validate exampleEnv 1
    ⟨.get, exampleUrl, false, 0, .validating, 0⟩ (some ["93.184.216.34".toList])

theorem exampleClient_reachable : (system exampleEnv none 5).Reachable exampleClient :=
  .tail (.tail (.init rfl) (.begin rfl)) (.validate rfl rfl)

theorem exampleClient_sending :
    exampleClient.pinned exampleEnv exampleHost = ["93.184.216.34".toList] ∧
      DialsPinned exampleEnv 5 exampleClient :=
  ⟨by decide +kernel, dials_pinned exampleClient_reachable⟩

end NewsCraft.SafeHttp
