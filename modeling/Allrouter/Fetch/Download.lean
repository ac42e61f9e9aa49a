import Allrouter.Library.Network
import Allrouter.Library.Text

/-!
# Downloads and the addresses they reach

Before a file is downloaded, its URL is validated: the name of the host is looked up, and every
address must be one that the settings allow. Then the HTTP client looks the name up again
and connects, and so for every redirect (`doDownloadRequest`). What the standard library parses and
what the DNS answers to the `n`-th lookup are parameters.

* `validate_eq_ok`: a URL is only accepted when its host resolves to addresses that are allowed;
* `opened_allowed_iff`: every address that the client connects to is allowed just where its lookups
  give no refused address that those of the validation did not give;
* `opened_loopback`: a name that resolves to a public address first and to `127.0.0.1` then.
-/

namespace Allrouter

open Network Text List IPNet

/-- What is parsed by the standard library. -/
structure NetLibrary where
  parseURL : String → Option URL
  parseIP : String → Option IP
  parseIP_empty : parseIP "" = none
  parseCIDR : String → Option IPNet
  /-- The ASCII form of an international domain name. -/
  toASCII : String → Option String

/-- The answer to the `n`-th lookup of a name, if it succeeds. -/
abbrev Resolver := ℕ → String → Option (List IP)

/-! ### Addresses -/

def privateIPv4Nets : List IPNet :=
  [.v4 0x00000000 8, .v4 0x0a000000 8, .v4 0x64400000 10, .v4 0x7f000000 8, .v4 0xa9fe0000 16,
    .v4 0xac100000 12, .v4 0xc0000000 24, .v4 0xc0000200 24, .v4 0xc0a80000 16, .v4 0xc6120000 15,
      .v4 0xc6336400 24, .v4 0xcb007100 24,
    .v4 0xe0000000 4, .v4 0xf0000000 4, .v4 0xffffffff 32]

/-- The third one is written `::ffff:0:0/96`, which is a network of addresses of 4 bytes. -/
def privateIPv6Nets : List IPNet :=
  [.v6 0 128, .v6 1 128, .v4 0 0, .v6 0x0064ff9b000000000000000000000000 96,
    .v6 0x01000000000000000000000000000000 64, .v6 0x20010000000000000000000000000000 23,
      .v6 0x20010db8000000000000000000000000 32,
    .v6 0xfc000000000000000000000000000000 7, .v6 0xfe800000000000000000000000000000 10,
    .v6 0xff000000000000000000000000000000 8]

def isLoopback (ip : IP) : Bool := (v4 0x7f000000 8).contains ip || ip = 1

def isLinkLocalUnicast (ip : IP) : Bool :=
  (v4 0xa9fe0000 16).contains ip || (v6 0xfe800000000000000000000000000000 10).contains ip

/-- The scope of a multicast address of 16 bytes. -/
def isMulticastOf (scope : BitVec 8) (ip : IP) : Bool := ip.byte 0 = 0xff &&
    ip.byte 1 &&& 0x0f = scope

def isLinkLocalMulticast (ip : IP) : Bool := (v4 0xe0000000 24).contains ip || isMulticastOf 2 ip

def isInterfaceLocalMulticast (ip : IP) : Bool := isMulticastOf 1 ip

def isPrivate (ip : IP) : Bool :=
  [v4 0x0a000000 8, .v4 0xac100000 12, .v4 0xc0a80000 16,
    .v6 0xfc000000000000000000000000000000 7].any
    (·.contains ip)

/-- Addresses that are not on the internet. -/
def isPrivateIP (ip : IP) : Bool :=
  if ip.isUnspecified then true
  else if isLoopback ip || isLinkLocalUnicast ip || isLinkLocalMulticast ip then true
  else if isInterfaceLocalMulticast ip then true
  else if ip.to4.isSome then privateIPv4Nets.any (·.contains ip)
  else if privateIPv6Nets.any (·.contains ip) then true
  else isPrivate ip

def isIpInCIDRList (lib : NetLibrary) (ip : IP) (cidrList : List String) : Bool :=
  cidrList.any fun cidr =>
    match lib.parseCIDR cidr with
    | none => lib.parseIP cidr = some ip
    | some network => network.contains ip

/-! ### Settings -/

/-- The rules, with the ports as numbers. -/
structure SSRFProtection where
  (allowPrivateIp domainFilterMode : Bool)
  domainList : List String
  ipFilterMode : Bool
  ipList : List String
  allowedPorts : List ℤ
  applyIPFilterForDomain : Bool

/-- The rules as they are configured. -/
structure FetchSetting where
  enableSSRFProtection : Bool := true
  (allowPrivateIp domainFilterMode ipFilterMode : Bool := false)
  (domainList ipList : List String := [])
  allowedPorts : List String := ["80", "443", "8080", "8443"]
  applyIPFilterForDomain : Bool := true

/-- Why the ports of the settings are not valid; with the text of the configuration. -/
inductive PortError
  /-- "invalid port range format: %s" -/
  | rangeFormat (config : String)
  /-- "invalid start port in range %s: %v" -/
  | startPort (config : String)
  /-- "invalid end port in range %s: %v" -/
  | endPort (config : String)
  /-- "invalid port range %s: start port cannot be greater than end port" -/
  | order (config : String)
  /-- "port range %s contains invalid port numbers (must be 1-65535)" -/
  | rangeNumbers (config : String)
  /-- "invalid port number: %s" -/
  | number (config : String)
  /-- "invalid port number %d (must be 1-65535)" -/
  | bounds (port : ℤ)
  deriving DecidableEq

/-- The integer of 64 bits that a text stands for. -/
def atoi (s : String) : Option ℤ := (toInt? s).filter fun n => -2 ^ 63 ≤ n ∧ n < 2 ^ 63

def isPort (port : ℤ) : Bool := 1 ≤ port && port ≤ 65535

/-- The ports of one entry, which is not blank. -/
def parsePorts (config : String) : Except PortError (List ℤ) :=
  if '-' ∈ config.toList then
    match split '-' config with
    | [first, last] =>
      match atoi (trimSpace first), atoi (trimSpace last) with
      | none, _ => .error (.startPort config)
      | some _, none => .error (.endPort config)
      | some startPort, some endPort =>
        if endPort < startPort then .error (.order config)
        else if !isPort startPort || !isPort endPort then .error (.rangeNumbers config)
        else .ok ((range (endPort - startPort + 1).toNat).map fun i => startPort + i)
    | _ => .error (.rangeFormat config)
  else
    match atoi config with
    | none => .error (.number config)
    | some port => if isPort port then .ok [port] else .error (.bounds port)

def parsePortRanges (portConfigs : List String) : Except PortError (List ℤ) :=
  portConfigs.foldlM
    (fun ports config =>
      if trimSpace config = "" then .ok ports else (parsePorts (trimSpace config)).map (ports ++ ·))
    []

def FetchSetting.protection (setting : FetchSetting) : Except PortError SSRFProtection :=
  (parsePortRanges setting.allowedPorts).map fun ports =>
    { allowPrivateIp := setting.allowPrivateIp
      domainFilterMode := setting.domainFilterMode
      domainList := setting.domainList
      ipFilterMode := setting.ipFilterMode
      ipList := setting.ipList
      allowedPorts := ports
      applyIPFilterForDomain := setting.applyIPFilterForDomain }

/-! ### Validation -/

/-- Why a URL is refused. -/
inductive URLError
  /-- "invalid URL format: %v" -/
  | format
  /-- "unsupported protocol: %s (only http/https allowed)" -/
  | protocol (scheme : String)
  /-- "invalid port: %s" -/
  | port (portStr : String)
  /-- "port %d is not allowed" -/
  | portNotAllowed (port : ℤ)
  /-- "private IP address not allowed: %s", or "… %s resolves to %s" -/
  | privateIP (host : Option String) (ip : IP)
  /-- "ip not in whitelist: %s", or "… %s resolves to %s" -/
  | ipNotInWhitelist (host : Option String) (ip : IP)
  /-- "ip in blacklist: %s", or "… %s resolves to %s" -/
  | ipInBlacklist (host : Option String) (ip : IP)
  /-- "domain not in whitelist: %s" -/
  | domainNotInWhitelist (host : String)
  /-- "domain in blacklist: %s" -/
  | domainInBlacklist (host : String)
  /-- "DNS resolution failed for %s: %v" -/
  | resolution (host : String)
  /-- "request reject - invalid port configuration: %v" -/
  | portConfiguration (e : PortError)
  deriving DecidableEq

def isDomainListed (domain : String) (list : List String) : Bool :=
  list.any fun item =>
    let domain := toLower domain
    let item := toLower (trimSpace item)
    item ≠ "" && (domain = item ||
      startsWith "*." item &&
        (let suffix := String.ofList (item.toList.drop 2)
         hasSuffix ("." ++ suffix) domain || domain = suffix))

/-- The addresses of a host: it may be written as an address. -/
def NetLibrary.lookupIP (lib : NetLibrary) (resolver : Resolver) (n : ℕ) (host : String) :
    Option (List IP) :=
  match lib.parseIP host with
  | some ip => some [ip]
  | none => if host = "" then none else resolver n host

namespace SSRFProtection

variable (lib : NetLibrary) (p : SSRFProtection)

def isAllowedPort (port : ℤ) : Bool := p.allowedPorts.isEmpty || p.allowedPorts.contains port

/-- The list is of what is allowed, or of what is not. -/
def isDomainAllowed (domain : String) : Bool :=
  if p.domainFilterMode then isDomainListed domain p.domainList
    else !isDomainListed domain p.domainList

/-- The rules on private addresses, and the list. -/
def isIPAccessAllowed (ip : IP) : Bool :=
  if isPrivateIP ip && !p.allowPrivateIp then false
  else if p.ipFilterMode then isIpInCIDRList lib ip p.ipList
  else !isIpInCIDRList lib ip p.ipList

/-- The error for an address that is not allowed; `host` is the name that resolves to it, if there
    is one. -/
def ipError (host : Option String) (ip : IP) : URLError :=
  if isPrivateIP ip && (host.isNone || !p.allowPrivateIp) then .privateIP host ip
  else if p.ipFilterMode then .ipNotInWhitelist host ip
  else .ipInBlacklist host ip

def hostPort (u : URL) : String × String :=
  u.splitHostPort.getD (u.hostname, if u.scheme = "https" then "443" else "80")

def checkIPs (host : Option String) (ips : List IP) : Except URLError Unit :=
  match ips.find? fun ip => !p.isIPAccessAllowed lib ip with
  | some ip => .error (p.ipError host ip)
  | none => .ok ()

/-- The check of a host, with the number of lookups afterwards. -/
def checkHost (resolver : Resolver) (n : ℕ) (host : String) : Except URLError Unit × ℕ :=
  match lib.parseIP host with
  | some ip => (p.checkIPs lib none [ip], n)
  | none =>
    if !p.isDomainAllowed host then
      (.error (if p.domainFilterMode then .domainNotInWhitelist host else .domainInBlacklist host),
        n)
    else if !p.applyIPFilterForDomain then (.ok (), n)
    else match lib.lookupIP resolver n host with
      | none => (.error (.resolution host), n + 1)
      | some ips => (p.checkIPs lib (some host) ips, n + 1)

/-- The part of `ValidateURL` after the URL is parsed. -/
def validate (resolver : Resolver) (n : ℕ) (u : URL) : Except URLError Unit × ℕ :=
  if u.scheme ≠ "http" ∧ u.scheme ≠ "https" then (.error (.protocol u.scheme), n)
  else match atoi (hostPort u).2 with
    | none => (.error (.port (hostPort u).2), n)
    | some port =>
      if !p.isAllowedPort port then (.error (.portNotAllowed port), n)
        else p.checkHost lib resolver n (hostPort u).1

end SSRFProtection

/-- `ValidateURLWithFetchSetting`, for a URL that was parsed. -/
def FetchSetting.validate (setting : FetchSetting) (lib : NetLibrary) (resolver : Resolver)
    (n : ℕ) (u : URL) :
    Except URLError Unit × ℕ :=
  if !setting.enableSSRFProtection then (.ok (), n)
  else match setting.protection with
    | .error e => (.error (.portConfiguration e), n)
    | .ok protection => protection.validate lib resolver n u

/-- The error for a URL that cannot be parsed: the ports of the settings are parsed before. -/
def FetchSetting.formatError (setting : FetchSetting) : URLError :=
  match setting.protection with
  | .error e => .portConfiguration e
  | .ok _ => .format

/-! ### The client -/

/-- Why a download fails. -/
inductive DownloadError
  /-- "request reject: %v" -/
  | rejected (e : URLError)
  /-- The client cannot parse the URL, or connect. -/
  | client
  /-- "redirect to %s blocked: %v" -/
  | redirectBlocked (e : URLError)
  /-- "stopped after 10 redirects" -/
  | stopped
  deriving DecidableEq

namespace NetLibrary

variable (lib : NetLibrary)

/-- The name that the client looks up: an international name in its ASCII form. -/
def dialHost (u : URL) : String :=
  if u.hostname.toList.all (·.toNat < 128) then u.hostname
    else (lib.toASCII u.hostname).getD u.hostname

/-- The addresses that the client tries to connect to; an empty host is the local one. -/
def dial (resolver : Resolver) (n : ℕ) (u : URL) : Option (List IP) × ℕ :=
  if u.host = "" then (none, n)
  else if lib.dialHost u = "" then (some [0], n)
  else (lib.lookupIP resolver n (lib.dialHost u), n + 1)

variable (setting : FetchSetting) (resolver : Resolver)

/-- A request to a URL and to those that the servers redirect to, with the addresses of its
    connections. The URL of a redirect is validated as it is, since its text is parsed to the same
    scheme and host. -/
def get (u : URL) (via n : ℕ) (redirects : List URL) : List IP × Option DownloadError :=
  match lib.dial resolver n u with
  | (none, _) => ([], some .client)
  | (some ips, n) =>
    match redirects with
    | [] => (ips, none)
    | v :: redirects =>
      match setting.validate lib resolver n v with
      | (.error e, _) => (ips, some (.redirectBlocked e))
      | (.ok (), n) =>
        if 10 ≤ via + 1 then (ips, some .stopped)
        else (ips ++ (get v (via + 1) n redirects).1, (get v (via + 1) n redirects).2)

end NetLibrary

/-- A download without worker and proxy: the addresses that it connects to, and the error if it
    fails. -/
def doDownloadRequest (lib : NetLibrary) (setting : FetchSetting) (resolver : Resolver)
    (originUrl : String) (redirects : List URL) : List IP × Option DownloadError :=
  match lib.parseURL originUrl with
  | none => ([], some (if setting.enableSSRFProtection then .rejected setting.formatError
    else .client))
  | some u =>
    match setting.validate lib resolver 0 u with
    | (.error e, _) => ([], some (.rejected e))
    | (.ok (), n) => lib.get setting resolver u 0 n redirects

/-! ### The addresses that are reached -/

section Reached

variable {lib : NetLibrary} {setting : FetchSetting} {resolver : Resolver} {u : URL} {n n' : ℕ}

/-- The host resolves to addresses that the protection allows. -/
def SSRFProtection.Allows (lib : NetLibrary) (resolver : Resolver) (p : SSRFProtection) (n : ℕ)
    (host : String) : Prop :=
  ∃ ips, lib.lookupIP resolver n host = some ips ∧ ∀ ip ∈ ips, p.isIPAccessAllowed lib ip

namespace SSRFProtection

variable {p : SSRFProtection}

lemma checkIPs_eq_ok {host : Option String} {ips : List IP} (h : p.checkIPs lib host ips = .ok ()) :
    ∀ ip ∈ ips, p.isIPAccessAllowed lib ip := by
  rw [checkIPs] at h
  split at h
  · cases h
  · rename_i hnone
    intro ip hip
    simpa using find?_eq_none.1 hnone ip hip

lemma checkHost_eq_ok {host : String} (hfilter : p.applyIPFilterForDomain = true)
    (h : p.checkHost lib resolver n host = (.ok (), n')) : p.Allows lib resolver n host := by
  rw [checkHost] at h
  split at h
  · rename_i ip hip
    refine ⟨[ip], by rw [NetLibrary.lookupIP, hip], ?_⟩
    exact checkIPs_eq_ok (congrArg Prod.fst h)
  · split at h
    · cases h
    · split at h
      · rename_i hnofilter
        rw [hfilter] at hnofilter
        cases hnofilter
      · split at h
        · cases h
        · rename_i ips hips
          exact ⟨ips, hips, checkIPs_eq_ok (congrArg Prod.fst h)⟩

lemma fst_hostPort (u : URL) : (hostPort u).1 = u.hostname := by
  rw [hostPort]
  cases h : u.splitHostPort with
  | none => rfl
  | some x => exact URL.hostname_of_splitHostPort h

lemma validate_eq_ok (hfilter : p.applyIPFilterForDomain = true)
    (h : p.validate lib resolver n u = (.ok (), n')) :
    p.Allows lib resolver n u.hostname := by
  rw [validate] at h
  split_ifs at h with hscheme
  · cases h
  · split at h
    · cases h
    · split_ifs at h with hport
      · cases h
      · rw [← fst_hostPort]
        exact checkHost_eq_ok hfilter h

end SSRFProtection

/-- The settings accept the URL at the `n`-th lookup. -/
def FetchSetting.Accepts (lib : NetLibrary) (setting : FetchSetting) (resolver : Resolver) (n : ℕ)
    (u : URL) : Prop :=
  ∃ p, setting.protection = .ok p ∧ p.Allows lib resolver n u.hostname

lemma FetchSetting.validate_eq_ok (henabled : setting.enableSSRFProtection = true)
    (hfilter : setting.applyIPFilterForDomain = true)
    (h : setting.validate lib resolver n u = (.ok (), n')) : setting.Accepts lib resolver n u := by
  rw [FetchSetting.validate, henabled] at h
  simp only [Bool.not_true, Bool.false_eq_true, if_false] at h
  split at h
  · cases h
  · rename_i p hp
    refine ⟨p, hp, SSRFProtection.validate_eq_ok ?_ h⟩
    rw [FetchSetting.protection] at hp
    cases hports : parsePortRanges setting.allowedPorts with
    | error e =>
      rw [hports] at hp
      cases hp
    | ok ports =>
      rw [hports] at hp
      cases hp
      exact hfilter

/-- The settings have a protection that allows the address. -/
def FetchSetting.IsIPAccessAllowed (lib : NetLibrary) (setting : FetchSetting) (ip : IP) : Prop :=
  ∃ p, setting.protection = .ok p ∧ p.isIPAccessAllowed lib ip = true

/-- A URL that the client comes to, with the lookups at which it is validated and dialled. -/
structure Visit where
  url : URL
  (validated dialled : ℕ)

namespace Visit

variable (lib : NetLibrary) (setting : FetchSetting) (resolver : Resolver) (visit : Visit)

/-- The addresses that the validation has seen. -/
def seen : List IP := (lib.lookupIP resolver visit.validated visit.url.hostname).getD []

/-- The addresses that the client connects to. -/
def opened : List IP := (lib.dial resolver visit.dialled visit.url).1.getD []

/-- The second lookup gives no address that the first did not, unless it is an allowed one. -/
def Steady : Prop :=
  ∀ ip ∈ visit.opened lib resolver, ip ∉ visit.seen lib resolver → setting.IsIPAccessAllowed lib ip

end Visit

namespace NetLibrary

variable (lib : NetLibrary) (setting : FetchSetting) (resolver : Resolver)

/-- The URLs that a request comes to, from one that was validated at lookup `m`. -/
def visits (u : URL) (via m n : ℕ) (redirects : List URL) : List Visit :=
  ⟨u, m, n⟩ ::
    match lib.dial resolver n u with
    | (none, _) => []
    | (some _, n) =>
      match redirects with
      | [] => []
      | v :: redirects =>
        match setting.validate lib resolver n v with
        | (.error _, _) => []
        | (.ok (), n') => if 10 ≤ via + 1 then [] else visits v (via + 1) n n' redirects

end NetLibrary

variable (lib setting resolver) in
/-- The URLs that a download comes to. -/
def downloadVisits (originUrl : String) (redirects : List URL) : List Visit :=
  match lib.parseURL originUrl with
  | none => []
  | some u =>
    match setting.validate lib resolver 0 u with
    | (.error _, _) => []
    | (.ok (), n) => lib.visits setting resolver u 0 0 n redirects

lemma get_eq_visits (redirects : List URL) (u : URL) (via m n : ℕ) :
    (lib.get setting resolver u via n redirects).1 =
      (lib.visits setting resolver u via m n redirects).flatMap (·.opened lib resolver) := by
  induction redirects generalizing u via m n with
  | nil =>
    rw [NetLibrary.get, NetLibrary.visits, flatMap_cons, Visit.opened]
    rcases lib.dial resolver n u with ⟨- | ips, n'⟩ <;> simp
  | cons v redirects ih =>
    rw [NetLibrary.get, NetLibrary.visits, flatMap_cons, Visit.opened]
    rcases lib.dial resolver n u with ⟨- | ips, n'⟩
    · simp
    · dsimp only
      rcases setting.validate lib resolver n' v with ⟨e | ⟨⟩, n''⟩
      · simp
      · dsimp only
        split_ifs
        · simp
        · exact congrArg _ (ih ..)

/-- Every URL that a request comes to was accepted, by induction on the redirects. -/
lemma accepts_of_visits (henabled : setting.enableSSRFProtection = true)
    (hfilter : setting.applyIPFilterForDomain = true) (redirects : List URL) {u : URL} {m n : ℕ}
    (haccepts : setting.Accepts lib resolver m u) (via : ℕ) :
    ∀ visit ∈ lib.visits setting resolver u via m n redirects,
      setting.Accepts lib resolver visit.validated visit.url := by
  induction redirects generalizing u via m n with
  | nil =>
    rw [NetLibrary.visits, forall_mem_cons]
    refine ⟨haccepts, ?_⟩
    split <;> exact forall_mem_nil _
  | cons v redirects ih =>
    rw [NetLibrary.visits, forall_mem_cons]
    refine ⟨haccepts, ?_⟩
    rcases lib.dial resolver n u with ⟨- | ips, n'⟩
    · exact forall_mem_nil _
    · dsimp only
      rcases hvalidate : setting.validate lib resolver n' v with ⟨e | ⟨⟩, n''⟩
      · exact forall_mem_nil _
      · dsimp only
        split_ifs
        · exact forall_mem_nil _
        · exact ih (FetchSetting.validate_eq_ok henabled hfilter hvalidate) _

/-- What the validation has seen is allowed, so that only other addresses matter. -/
lemma FetchSetting.Accepts.steady_iff {visit : Visit}
    (h : setting.Accepts lib resolver visit.validated visit.url) :
    visit.Steady lib setting resolver ↔
      ∀ ip ∈ visit.opened lib resolver, setting.IsIPAccessAllowed lib ip := by
  obtain ⟨p, hp, ips, hlookup, hallowed⟩ := h
  refine ⟨fun hsteady ip hip => ?_, fun hopened ip hip _ => hopened ip hip⟩
  by_cases hseen : ip ∈ visit.seen lib resolver
  · rw [Visit.seen, hlookup] at hseen
    exact ⟨p, hp, hallowed ip hseen⟩
  · exact hsteady ip hip hseen

end Reached

/-- A download connects to allowed addresses only just where, at every URL that it comes to, the
    client's lookup gives no refused address that the validation's lookup did not give. -/
theorem opened_allowed_iff (lib : NetLibrary) (setting : FetchSetting) (resolver : Resolver)
    (originUrl : String) (redirects : List URL) (henabled : setting.enableSSRFProtection = true)
    (hfilter : setting.applyIPFilterForDomain = true) :
    (∀ ip ∈ (doDownloadRequest lib setting resolver originUrl redirects).1,
      setting.IsIPAccessAllowed lib ip) ↔
    ∀ visit ∈ downloadVisits lib setting resolver originUrl redirects,
      visit.Steady lib setting resolver := by
  rw [doDownloadRequest, downloadVisits]
  split
  · exact iff_of_true (forall_mem_nil _) (forall_mem_nil _)
  · split
    · exact iff_of_true (forall_mem_nil _) (forall_mem_nil _)
    · rename_i hvalidate
      have haccepts := FetchSetting.validate_eq_ok henabled hfilter hvalidate
      rw [get_eq_visits redirects _ 0 0, forall_mem_flatMap]
      refine forall₂_congr fun visit hvisit => Iff.symm ?_
      exact (accepts_of_visits henabled hfilter redirects haccepts 0 visit hvisit).steady_iff

namespace Rebinding

def url : URL where
  scheme := "http"
  host := "example.com"
  port_digits := by
    intro before port h
    cases h

def lib : NetLibrary where
  parseURL _ := some url
  parseIP _ := none
  parseIP_empty := rfl
  parseCIDR _ := none
  toASCII _ := none

def setting : FetchSetting := {}

/-- A public address at the first lookup, and another one then. -/
def moving : Resolver := fun n _ => some [if n = 0 then IP.v4 8 8 8 8 else IP.v4 8 8 4 4]

/-- A public address at the first lookup, and the local one then. -/
def rebinding : Resolver := fun n _ => some [if n = 0 then IP.v4 8 8 8 8 else IP.v4 127 0 0 1]

end Rebinding

/-- The name moves from one public address to another. -/
theorem opened_allowed_moving :
    (doDownloadRequest Rebinding.lib Rebinding.setting Rebinding.moving "http://example.com/" []).1
      =
        [IP.v4 8 8 4 4] ∧
      Rebinding.setting.IsIPAccessAllowed Rebinding.lib (IP.v4 8 8 4 4) := by
  have hopened : (doDownloadRequest Rebinding.lib Rebinding.setting Rebinding.moving
      "http://example.com/" []).1 = [IP.v4 8 8 4 4] := by decide +kernel
  refine ⟨hopened, (opened_allowed_iff Rebinding.lib Rebinding.setting Rebinding.moving
    "http://example.com/" [] rfl rfl).2 ?_ _ (hopened ▸ mem_singleton_self _)⟩
  intro visit hvisit ip hip _
  obtain rfl : visit = ⟨Rebinding.url, 0, 1⟩ := mem_singleton.1 hvisit
  obtain rfl : ip = IP.v4 8 8 4 4 := mem_singleton.1 hip
  exact ⟨_, rfl, by decide +kernel⟩

/-- The client connects to the local address, although private addresses are forbidden. -/
theorem opened_loopback : Rebinding.setting.enableSSRFProtection = true ∧
    Rebinding.setting.allowPrivateIp = false ∧
      Rebinding.setting.applyIPFilterForDomain = true ∧
      IP.v4 127 0 0 1 ∈ (doDownloadRequest Rebinding.lib Rebinding.setting Rebinding.rebinding
        "http://example.com/" []).1 ∧
      ¬Rebinding.setting.IsIPAccessAllowed Rebinding.lib (IP.v4 127 0 0 1) := by
  refine ⟨rfl, rfl, rfl, by decide +kernel, ?_⟩
  rintro ⟨p, hp, hallowed⟩
  have hprivate : p.allowPrivateIp = false := by
    cases hp
    rfl
  rw [SSRFProtection.isIPAccessAllowed, hprivate] at hallowed
  cases hallowed

end Allrouter
