import Asap.IpAddress

-- The two guards of an agent's endpoints against addresses of the inside: `scripts/lib/safe_url.py` for the
-- registration by issue, and `asap.transport.webhook` for the registration over HTTP.
namespace Asap.UrlGuards
open IpAddress

-- The parts of `urlparse`.
structure ParseResult where
  scheme : String
  netloc : String
  path : String
  params : String
  query : String
  fragment : String

-- What `getaddrinfo` raises.
inductive LookupError where
  | gaierror (text : String)
  | valueError (text : String)
  | osError (text : String)
  | other (text : String)

inductive Raised where
  | urlparse
  | lookup (error : LookupError)

-- Python's functions on texts; `urlparse` raises a ValueError, as does `ip_address` where the text is no
-- address. An address is read whatever the case of its letters.
structure Python where
  urlparse : String → Option ParseResult
  urlunparse : ParseResult → String
  hostname : ParseResult → Option String
  lower : String → String
  ipAddress : String → Option Address
  ipAddress_lower : ∀ text, ipAddress (lower text) = ipAddress text

-- The addresses that the lookup of the host gives, as texts.
abbrev Answer := Except LookupError (List String)

variable (python : Python) (answer : Answer)

def wsToHttpSchemes : String → Option String
  | "ws" => some "http"
  | "wss" => some "https"
  | _ => none

section Scripts
def blockedHosts : List String :=
  ["localhost","127.0.0.1","::1","0.0.0.0","metadata.google.internal","metadata.aws.internal","169.254.169.254"]

def nat64Network : Network 128 := v6 [0x64,0xff9b] 96

def embeddedIpv4InIpv6 (a : BitVec 128) : Option (BitVec 32) :=
  match ipv4Mapped a with
  | some mapped => some mapped
  | none => if nat64Network.contains a then some (a.setWidth 32) else none

def isLocal (address : Address) : Bool := address.isPrivate || address.isLoopback || address.isLinkLocal

def literalIpIsBlocked : Address → Bool
  | .v4 a => isLocal (.v4 a)
  | .v6 a =>
    match embeddedIpv4InIpv6 a with
    | some embedded => isLocal (.v4 embedded)
    | none => isLocal (.v6 a)

def resolvedIsSafe (text : String) : Bool :=
  match python.ipAddress text with
  | some address => !literalIpIsBlocked address
  | none => false

def isSafeHttpUrl (url : String) : Except Raised Bool :=
  match python.urlparse url with
  | none => .error .urlparse
  | some parsed =>
    if parsed.scheme ∉ ["http","https"] then .ok false
    else
      let hostname := python.lower ((python.hostname parsed).getD "")
      if hostname ∈ blockedHosts then .ok false
      else if (python.ipAddress hostname).any literalIpIsBlocked then .ok false
      else
        match answer with
        | .error (.other text) => .error (.lookup (.other text))
        | .error _ => .ok false
        | .ok resolved => .ok (resolved.all (resolvedIsSafe python))

def isSafeEndpointUrl (url : String) : Except Raised Bool :=
  match python.urlparse url with
  | none => .error .urlparse
  | some parsed =>
    match wsToHttpSchemes (python.lower parsed.scheme) with
    | some scheme => isSafeHttpUrl python answer (python.urlunparse { parsed with scheme := scheme })
    | none => isSafeHttpUrl python answer url
end Scripts

section Webhook
-- A WebhookURLValidationError, or another exception.
inductive Refusal where
  | validation (url reason : String) (resolvedIps : List String)
  | raised (error : Raised)

def ipIsBlocked (text : String) : Bool :=
  match python.ipAddress text with
  | none => false
  | some ip => isLocal ip || ip.isReserved

def addIp (ips : List String) (ip : String) : List String := if ip ∈ ips then ips else ips ++ [ip]

def resolveHostname (hostname : String) : Except Refusal (List String) :=
  match answer with
  | .error (.gaierror text) => .error (.validation hostname ("DNS resolution failed for '" ++ hostname ++ "': " ++ text) [])
  | .error error => .error (.raised (.lookup error))
  | .ok results => .ok (results.foldl addIp [])

def allowedSchemes (requireHttps : Bool) : List String := if requireHttps then ["https"] else ["http","https"]

def validateCallbackUrl (url : String) (requireHttps : Bool) : Except Refusal Unit :=
  match python.urlparse url with
  | none => .error (.raised .urlparse)
  | some parsed =>
    if parsed.scheme ∉ allowedSchemes requireHttps then
      .error (.validation url ("Scheme '" ++ parsed.scheme ++ "' is not allowed. Allowed schemes: " ++
        ", ".intercalate (allowedSchemes requireHttps)) [])
    else
      match (python.hostname parsed).filter (fun hostname => decide (hostname ≠ "")) with
      | none => .error (.validation url "URL must include a hostname" [])
      | some hostname =>
        if ipIsBlocked python hostname then
          .error (.validation url ("Host '" ++ hostname ++ "' resolves to a blocked address range (private/loopback/link-local)") [])
        else
          match resolveHostname answer hostname with
          | .error refusal => .error refusal
          | .ok resolvedIps =>
            match resolvedIps.find? (ipIsBlocked python) with
            | some ip => .error (.validation url ("Host '" ++ hostname ++ "' resolved to blocked IP '" ++ ip ++
                "' (private/loopback/link-local)") resolvedIps)
            | none => .ok ()

def validateAgentEndpointUrl (url : String) (requireHttps : Bool) : Except Refusal Unit :=
  match python.urlparse url with
  | none => .error (.raised .urlparse)
  | some parsed =>
    match wsToHttpSchemes (python.lower parsed.scheme) with
    | some scheme => validateCallbackUrl python answer (python.urlunparse { parsed with scheme := scheme }) requireHttps
    | none => validateCallbackUrl python answer url requireHttps
end Webhook

section Addresses
def isReservedIpv6 : Address → Bool
  | .v4 _ => false
  | .v6 a => (Address.v6 a).isReserved

theorem isLocal_reserved {a : BitVec 32} (reserved : (Address.v4 a).isReserved = true) : isLocal (.v4 a) = true := by
  have isPrivate : (Address.v4 a).isPrivate = true := reserved_private reserved
  simp [isLocal,isPrivate]

theorem isLocal_mapped {a : BitVec 128} {mapped : BitVec 32} (embeds : ipv4Mapped a = some mapped) :
    isLocal (.v6 a) = isLocal (.v4 mapped) := by
  unfold isLocal
  rw [isPrivate_mapped embeds,isLoopback_mapped embeds,isLinkLocal_mapped embeds]

-- The webhook refuses the addresses that the scripts refuse, and the reserved IPv6 addresses on top of them.
theorem blocked_iff (address : Address) :
    (isLocal address || address.isReserved) = true ↔ literalIpIsBlocked address = true ∨ isReservedIpv6 address = true := by
  rw [Bool.or_eq_true]
  cases address with
  | v4 a =>
    simp only [literalIpIsBlocked,isReservedIpv6,Bool.false_eq_true,or_false,or_iff_left_iff_imp]
    exact isLocal_reserved
  | v6 a =>
    cases embeds : ipv4Mapped a with
    | some mapped => simp only [literalIpIsBlocked,isReservedIpv6,embeddedIpv4InIpv6,embeds,isLocal_mapped embeds]
    | none =>
      cases inside : nat64Network.contains a with
      | false => simp [literalIpIsBlocked,isReservedIpv6,embeddedIpv4InIpv6,embeds,inside]
      | true =>
        have reserved : (Address.v6 a).isReserved = true :=
          isReserved_within nat64Network (v6 [] 8) embeds (by simp [reservedNetworks6]) (by decide) (by decide) (by decide) inside
        simp [isReservedIpv6,reserved]
end Addresses

section Agreement
variable {python : Python}

-- The addresses that the guards read of a parsed URL: the host where it is one, and what its lookup gave.
def addresses (python : Python) (parsed : ParseResult) (resolved : List String) : List Address :=
  (((python.hostname parsed).getD "") :: resolved).filterMap python.ipAddress

-- The scripts refuse a host by its name, and where its lookup gives what is no address; the webhook refuses a URL
-- without a host, and the reserved IPv6 addresses.
def RefusedTogether (python : Python) (parsed : ParseResult) (resolved : List String) : Prop :=
  (python.lower ((python.hostname parsed).getD "") ∈ blockedHosts ∨ ∃ text ∈ resolved, python.ipAddress text = none) ↔
    ((python.hostname parsed).getD "" = "" ∨ ∃ address ∈ addresses python parsed resolved, isReservedIpv6 address = true)

theorem addIp_mem (results : List String) (ips : List String) (text : String) :
    text ∈ results.foldl addIp ips ↔ text ∈ ips ∨ text ∈ results := by
  induction results generalizing ips with
  | nil => simp
  | cons first rest ih =>
    rw [List.foldl_cons,ih]
    unfold addIp
    split
    · rename_i seen
      constructor
      · rintro (old | later)
        · exact Or.inl old
        · exact Or.inr (List.mem_cons_of_mem _ later)
      · rintro (old | new)
        · exact Or.inl old
        · rcases List.mem_cons.mp new with rfl | later
          · exact Or.inl seen
          · exact Or.inr later
    · rw [List.mem_append,List.mem_singleton,List.mem_cons,or_assoc]
theorem forall_addresses {parsed : ParseResult} {resolved : List String} (p : Address → Prop) :
    (∀ address ∈ addresses python parsed resolved, p address) ↔
      (∀ address, python.ipAddress ((python.hostname parsed).getD "") = some address → p address) ∧
      ∀ text ∈ resolved, ∀ address, python.ipAddress text = some address → p address := by
  unfold addresses
  constructor
  · intro every
    refine ⟨fun address reads => every address ?_,fun text member address reads => every address ?_⟩
    · exact List.mem_filterMap.mpr ⟨_,List.mem_cons_self,reads⟩
    · exact List.mem_filterMap.mpr ⟨text,List.mem_cons_of_mem _ member,reads⟩
  · rintro ⟨literal,looked⟩ address member
    obtain ⟨text,listed,reads⟩ := List.mem_filterMap.mp member
    rcases List.mem_cons.mp listed with rfl | later
    · exact literal address reads
    · exact looked text later address reads

theorem resolvedIsSafe_iff {text : String} :
    resolvedIsSafe python text = true ↔ python.ipAddress text ≠ none ∧ ∀ address, python.ipAddress text = some address → literalIpIsBlocked address = false := by
  unfold resolvedIsSafe
  cases python.ipAddress text <;> simp

theorem ipIsBlocked_iff {text : String} :
    ipIsBlocked python text = false ↔ ∀ address, python.ipAddress text = some address → (isLocal address || address.isReserved) = false := by
  unfold ipIsBlocked
  cases python.ipAddress text <;> simp

theorem isSafeHttpUrl_accepts {answer : Answer} {url : String} :
    isSafeHttpUrl python answer url = .ok true ↔
      ∃ parsed resolved, python.urlparse url = some parsed ∧ parsed.scheme ∈ ["http","https"] ∧ answer = .ok resolved ∧
        (∀ address ∈ addresses python parsed resolved, literalIpIsBlocked address = false) ∧
        python.lower ((python.hostname parsed).getD "") ∉ blockedHosts ∧ ∀ text ∈ resolved, python.ipAddress text ≠ none := by
  constructor
  · intro accepted
    unfold isSafeHttpUrl at accepted
    split at accepted
    · cases accepted
    · rename_i parsed parses
      split at accepted
      · cases accepted
      · rename_i scheme
        simp only at accepted
        split at accepted
        · cases accepted
        · rename_i unnamed
          split at accepted
          · cases accepted
          · rename_i literal
            split at accepted
            · cases accepted
            · cases accepted
            · rename_i resolved
              have safe := List.all_eq_true.mp (Except.ok.inj accepted)
              refine ⟨parsed,resolved,parses,not_not.mp scheme,rfl,?_,unnamed,fun text member => (resolvedIsSafe_iff.mp (safe text member)).1⟩
              rw [forall_addresses]
              refine ⟨?_,fun text member => (resolvedIsSafe_iff.mp (safe text member)).2⟩
              intro address reads
              rw [python.ipAddress_lower,reads] at literal
              simpa using literal
  · rintro ⟨parsed,resolved,parses,scheme,rfl,unblocked,unnamed,read⟩
    obtain ⟨literal,looked⟩ := (forall_addresses _).mp unblocked
    have outside : ¬ (python.ipAddress (python.lower ((python.hostname parsed).getD ""))).any literalIpIsBlocked = true := by
      rw [python.ipAddress_lower]
      cases reads : python.ipAddress ((python.hostname parsed).getD "") with
      | none => simp
      | some address => simp [literal address reads]
    have safe : resolved.all (resolvedIsSafe python) = true :=
      List.all_eq_true.mpr (fun text member => resolvedIsSafe_iff.mpr ⟨read text member,looked text member⟩)
    unfold isSafeHttpUrl
    rw [parses]
    simp only [if_neg (not_not.mpr scheme),if_neg unnamed,if_neg outside,safe]

theorem validateCallbackUrl_accepts {answer : Answer} {url : String} :
    validateCallbackUrl python answer url false = .ok () ↔
      ∃ parsed resolved, python.urlparse url = some parsed ∧ parsed.scheme ∈ ["http","https"] ∧ answer = .ok resolved ∧
        (∀ address ∈ addresses python parsed resolved, (isLocal address || address.isReserved) = false) ∧
        (python.hostname parsed).getD "" ≠ "" := by
  constructor
  · intro accepted
    unfold validateCallbackUrl at accepted
    split at accepted
    · cases accepted
    · rename_i parsed parses
      split at accepted
      · cases accepted
      · rename_i scheme
        split at accepted
        · cases accepted
        · rename_i hostname named
          obtain ⟨host,present⟩ := Option.filter_eq_some_iff.mp named
          split at accepted
          · cases accepted
          · rename_i literal
            unfold resolveHostname at accepted
            split at accepted
            · cases accepted
            · rename_i ips resolves
              split at resolves
              · cases resolves
              · cases resolves
              · rename_i resolved
                cases resolves
                split at accepted
                · cases accepted
                · rename_i unblocked
                  rw [List.find?_eq_none] at unblocked
                  refine ⟨parsed,resolved,parses,not_not.mp scheme,rfl,?_,?_⟩
                  · rw [forall_addresses,host]
                    refine ⟨ipIsBlocked_iff.mp (Bool.eq_false_iff.mpr literal),?_⟩
                    intro text member
                    have fine := unblocked text ((addIp_mem resolved [] text).mpr (Or.inr member))
                    exact ipIsBlocked_iff.mp (Bool.eq_false_iff.mpr fine)
                  · rw [host]
                    exact of_decide_eq_true present
  · rintro ⟨parsed,resolved,parses,scheme,rfl,unblocked,present⟩
    obtain ⟨literal,looked⟩ := (forall_addresses _).mp unblocked
    have host : (python.hostname parsed).filter (fun hostname => decide (hostname ≠ "")) = some ((python.hostname parsed).getD "") := by
      cases named : python.hostname parsed with
      | none => simp [named] at present
      | some hostname =>
        rw [named] at present
        exact Option.filter_eq_some_iff.mpr ⟨rfl,decide_eq_true present⟩
    have outside : ipIsBlocked python ((python.hostname parsed).getD "") = false := ipIsBlocked_iff.mpr literal
    have found : (resolved.foldl addIp []).find? (ipIsBlocked python) = none := by
      rw [List.find?_eq_none]
      intro text member
      rcases (addIp_mem resolved [] text).mp member with impossible | listed
      · cases impossible
      · exact Bool.eq_false_iff.mp (ipIsBlocked_iff.mpr (looked text listed))
    unfold validateCallbackUrl
    have allowed : ¬ parsed.scheme ∉ allowedSchemes false := not_not.mpr scheme
    rw [parses]
    simp only [if_neg allowed,host,outside,resolveHostname,found,Bool.false_eq_true,if_false]
-- What the guards examine: WebSocket schemes are rewritten first.
def examined (python : Python) (url : String) : Option ParseResult :=
  (python.urlparse url).bind (fun parsed =>
    match wsToHttpSchemes (python.lower parsed.scheme) with
    | some scheme => python.urlparse (python.urlunparse { parsed with scheme := scheme })
    | none => some parsed)

theorem isSafeEndpointUrl_accepts {answer : Answer} {url : String} :
    isSafeEndpointUrl python answer url = .ok true ↔
      ∃ parsed resolved, examined python url = some parsed ∧ parsed.scheme ∈ ["http","https"] ∧ answer = .ok resolved ∧
        (∀ address ∈ addresses python parsed resolved, literalIpIsBlocked address = false) ∧
        python.lower ((python.hostname parsed).getD "") ∉ blockedHosts ∧ ∀ text ∈ resolved, python.ipAddress text ≠ none := by
  unfold isSafeEndpointUrl examined
  cases parses : python.urlparse url with
  | none => simp
  | some parsed =>
    cases rewritten : wsToHttpSchemes (python.lower parsed.scheme) with
    | some scheme => simp only [rewritten,Option.bind_some,isSafeHttpUrl_accepts]
    | none => simp only [rewritten,Option.bind_some,isSafeHttpUrl_accepts,parses]

theorem validateAgentEndpointUrl_accepts {answer : Answer} {url : String} :
    validateAgentEndpointUrl python answer url false = .ok () ↔
      ∃ parsed resolved, examined python url = some parsed ∧ parsed.scheme ∈ ["http","https"] ∧ answer = .ok resolved ∧
        (∀ address ∈ addresses python parsed resolved, (isLocal address || address.isReserved) = false) ∧
        (python.hostname parsed).getD "" ≠ "" := by
  unfold validateAgentEndpointUrl examined
  cases parses : python.urlparse url with
  | none => simp
  | some parsed =>
    cases rewritten : wsToHttpSchemes (python.lower parsed.scheme) with
    | some scheme => simp only [rewritten,Option.bind_some,validateCallbackUrl_accepts]
    | none => simp only [rewritten,Option.bind_some,validateCallbackUrl_accepts,parses]

theorem unblocked_iff {parsed : ParseResult} {resolved : List String} :
    (∀ address ∈ addresses python parsed resolved, (isLocal address || address.isReserved) = false) ↔
      (∀ address ∈ addresses python parsed resolved, literalIpIsBlocked address = false) ∧
      ¬ ∃ address ∈ addresses python parsed resolved, isReservedIpv6 address = true := by
  have each (address : Address) : (isLocal address || address.isReserved) = false ↔
      literalIpIsBlocked address = false ∧ ¬ isReservedIpv6 address = true := by
    rw [← Bool.not_eq_true,blocked_iff,not_or,Bool.not_eq_true]
  constructor
  · intro fine
    refine ⟨fun address member => ((each address).mp (fine address member)).1,?_⟩
    rintro ⟨address,member,reserved⟩
    exact ((each address).mp (fine address member)).2 reserved
  · rintro ⟨unblocked,unreserved⟩ address member
    exact (each address).mpr ⟨unblocked address member,fun reserved => unreserved ⟨address,member,reserved⟩⟩
end Agreement

-- The guards agree on a URL exactly when its scheme is none of theirs, its lookup fails, one of its addresses is
-- private, loopback or link-local, or what only one of them refuses is refused by the other as well.
theorem guards_agree_iff (python : Python) (answer : Answer) (url : String) :
    (isSafeEndpointUrl python answer url = .ok true ↔ validateAgentEndpointUrl python answer url false = .ok ()) ↔
      ∀ parsed resolved, examined python url = some parsed → parsed.scheme ∈ ["http","https"] → answer = .ok resolved →
        (∀ address ∈ addresses python parsed resolved, literalIpIsBlocked address = false) →
          RefusedTogether python parsed resolved := by
  rw [isSafeEndpointUrl_accepts,validateAgentEndpointUrl_accepts]
  simp only [unblocked_iff]
  constructor
  · intro agree parsed resolved examines scheme answers unblocked
    subst answers
    unfold RefusedTogether
    rw [← not_iff_not,not_or,not_or,not_exists]
    simp only [not_and]
    constructor
    · rintro ⟨unnamed,read⟩
      obtain ⟨_,_,again,-,same,⟨-,unreserved⟩,present⟩ := agree.mp ⟨parsed,resolved,examines,scheme,rfl,unblocked,unnamed,read⟩
      rw [examines] at again
      cases again
      cases same
      exact ⟨present,unreserved⟩
    · rintro ⟨present,unreserved⟩
      obtain ⟨_,_,again,-,same,-,unnamed,read⟩ := agree.mpr ⟨parsed,resolved,examines,scheme,rfl,⟨unblocked,unreserved⟩,present⟩
      rw [examines] at again
      cases again
      cases same
      exact ⟨unnamed,read⟩
  · intro together
    constructor
    · rintro ⟨parsed,resolved,examines,scheme,answers,unblocked,unnamed,read⟩
      have refused := together parsed resolved examines scheme answers unblocked
      have neither : ¬ ((python.hostname parsed).getD "" = "" ∨ ∃ address ∈ addresses python parsed resolved, isReservedIpv6 address = true) := by
        intro one
        rcases refused.mpr one with named | ⟨text,member,unread⟩
        · exact unnamed named
        · exact read text member unread
      exact ⟨parsed,resolved,examines,scheme,answers,⟨unblocked,fun reserved => neither (Or.inr reserved)⟩,fun missing => neither (Or.inl missing)⟩
    · rintro ⟨parsed,resolved,examines,scheme,answers,⟨unblocked,unreserved⟩,present⟩
      have refused := together parsed resolved examines scheme answers unblocked
      have neither : ¬ (python.lower ((python.hostname parsed).getD "") ∈ blockedHosts ∨ ∃ text ∈ resolved, python.ipAddress text = none) := by
        intro one
        rcases refused.mp one with missing | reserved
        · exact present missing
        · exact unreserved reserved
      exact ⟨parsed,resolved,examines,scheme,answers,unblocked,fun named => neither (Or.inl named),
        fun text member unread => neither (Or.inr ⟨text,member,unread⟩)⟩

-- `https://example.com/asap`, whose lookup gives 8.8.8.8 behind NAT64.
def example64 : Python where
  urlparse
    | "https://example.com/asap" => some ⟨"https","example.com","/asap","","",""⟩
    | _ => none
  urlunparse parsed := parsed.scheme ++ "://" ++ parsed.netloc ++ parsed.path
  hostname parsed := some parsed.netloc
  lower text := text
  ipAddress
    | "64:ff9b::808:808" => some (.v6 0x64ff9b000000000000000008080808)
    | _ => none
  ipAddress_lower _ := rfl

theorem nat64_tells_apart : ¬ (isSafeEndpointUrl example64 (.ok ["64:ff9b::808:808"]) "https://example.com/asap" = .ok true ↔
    validateAgentEndpointUrl example64 (.ok ["64:ff9b::808:808"]) "https://example.com/asap" false = .ok ()) := by
  intro agree
  have accepted : isSafeEndpointUrl example64 (.ok ["64:ff9b::808:808"]) "https://example.com/asap" = .ok true := by rfl
  cases agree.mp accepted

end Asap.UrlGuards
