import HttpCall.Options.Proxy
import HttpCall.Proofs.Url.Authority
import Mathlib

/-!
# The URLs of a proxy

A proxy's URL is the text `scheme://host:port` read by the URL parser, the host put in
brackets when it holds a colon and does not start with one. Read from an unchecked host, the
text can say something else: a `@`, `/`, `\`, `?` or `#` in the host moves the rest of it
into the userinfo, the path, the query or the fragment.

For a plain host (`ProxyInfo.PlainHost`: none of those characters, no tab or line break, and
as bracketed either a name with no colon or bracket or one bracketed text), the parser reads
the text as the proxy's address (`ProxyInfo.address`): the scheme, the host the scheme's host
parser makes of the host as bracketed, and the port unless it is the scheme's default. The
URL with credentials is that URL with the credentials percent-encoded for userinfo, so it fails
exactly when the URL does, and both name the host and reach it at the proxy's port
(`urlsFaithful_of_plainHost`).

The userinfo percent-decodes to what the credentials percent-decode to, whatever the host
(`decode_userinfo`): a credential holding an escape such as `%41` is read back as `A`
(`userinfo_keeps_percent_escapes`), and one without `%` as itself.
-/

namespace HttpCall

namespace ProxyKind

/-- The host parser of a proxy's scheme: HTTP is a special scheme, SOCKS5 is not. -/
def parseHost : ProxyKind → String → Except UrlError Host
  | http => Host.parseSpecial
  | socks => Host.parseNonSpecial

/-- The port a proxy URL keeps: none when it is the default port of HTTP. -/
def urlPort : ProxyKind → Nat → Option Nat
  | http, n => if n = 80 then none else some n
  | socks, n => some n

/-- The path of a proxy URL: the root of a special URL, empty otherwise. -/
def rootPath : ProxyKind → UrlPath
  | http => .segments [""]
  | socks => .segments []

/-- The scheme text and its colon read as the scheme. -/
theorem splitScheme_scheme (k : ProxyKind) (rest : List Char) :
    Url.splitScheme (k.scheme.toList ++ ':' :: rest) = some (k.scheme, rest) := by
  cases k <;> rfl

/-- A host text that reads is never the empty name. -/
theorem parseHost_ne_empty (k : ProxyKind) {s : String} {h : Host} (hs : s ≠ "")
    (hp : k.parseHost s = .ok h) : h ≠ .domain "" := by
  cases k with
  | http => exact Host.parseSpecial_ne_empty hp
  | socks => exact Host.parseNonSpecial_ne_empty hs hp

end ProxyKind

namespace ProxyInfo

/-! ## Plain hosts and the address they denote -/

/-- The characters that would end or split the authority of a proxy URL, with the tab and line
breaks that URL reading drops. -/
def authorityBreakers : List Char := ['@', '/', '\\', '?', '#', '\t', '\n', '\r']

/-- A host that the proxy URL carries whole as its host: nothing in it ends or splits the
authority, and as bracketed in the URL it is a name with no colon or bracket, or one
bracketed text. -/
structure PlainHost (p : ProxyInfo) : Prop where
  no_breaker : ∀ c ∈ p.host.toList, c ∉ authorityBreakers
  shape : Url.HostShape p.urlHost.toList

/-- The URL a proxy's address denotes: its scheme, the host the scheme's host parser makes of
the host as bracketed, and its port, left out when it is the scheme's default. -/
def address (p : ProxyInfo) : Except UrlError Url :=
  if p.urlHost = "" then .error .emptyHost
  else (p.kind.parseHost p.urlHost).map fun h =>
    { scheme := p.kind.scheme, host := some h, port := p.kind.urlPort p.port.toNat,
      path := p.kind.rootPath }

/-- The URL with the proxy's credentials, percent-encoded for userinfo, when there are any. -/
def addCredentials (p : ProxyInfo) (u : Url) : Url :=
  match p.credentials with
  | some (user, pass) =>
    { u with username := Percent.encode .userinfo user, password := Percent.encode .userinfo pass }
  | none => u

/-- What the two URLs of a proxy say about it. The URL is the address the proxy denotes; the
URL with credentials is that URL with the credentials added and fails exactly when it does;
its userinfo percent-decodes to what the credentials percent-decode to; and both URLs name a
host and reach it at the proxy's port. -/
structure UrlsFaithful (p : ProxyInfo) : Prop where
  url_ok : ∀ u, p.url = .ok u ↔ p.address = .ok u
  withCredentials : p.urlWithCredentials = p.url.map p.addCredentials
  decodes : ∀ u user pass, p.urlWithCredentials = .ok u → p.credentials = some (user, pass) →
    Percent.decode u.username = Percent.decode user ∧
      Percent.decode u.password = Percent.decode pass
  route : ∀ u, p.url = .ok u ∨ p.urlWithCredentials = .ok u →
    (∃ name, u.hostText? = some name) ∧ u.portOrKnownDefault = some p.port.toNat

/-- The host as bracketed holds the host's characters and the brackets. -/
theorem mem_urlHost {p : ProxyInfo} {c : Char} (h : c ∈ p.urlHost.toList) :
    c ∈ p.host.toList ∨ c = '[' ∨ c = ']' := by
  unfold urlHost at h
  split at h
  · simp only [String.toList_append, List.mem_append, String.reduceToList,
      List.mem_singleton] at h
    rcases h with (h | h) | h
    · exact .inr (.inl h)
    · exact .inl h
    · exact .inr (.inr h)
  · exact .inl h

section PlainHost

variable {p : ProxyInfo}

/-- Nothing in a plain host, as bracketed, ends or splits the authority. -/
theorem PlainHost.no_breaker_urlHost (hp : p.PlainHost) :
    ∀ c ∈ p.urlHost.toList, c ∉ authorityBreakers := by
  intro c hc
  rcases mem_urlHost hc with h | rfl | rfl
  · exact hp.no_breaker c h
  · decide
  · decide

/-- A plain host does not end the authority, whether the scheme is special or not. -/
theorem PlainHost.endsAuthority (hp : p.PlainHost) (special : Bool) :
    ∀ c ∈ p.urlHost.toList, Url.endsAuthority special c = false := by
  intro c hc
  have h := hp.no_breaker_urlHost c hc
  simp only [authorityBreakers, List.mem_cons, List.not_mem_nil, or_false, not_or] at h
  simp [Url.endsAuthority, h.2.1, h.2.2.1, h.2.2.2.1, h.2.2.2.2.1]

/-- The characters of a proxy's address text. -/
theorem addressText_toList (p : ProxyInfo) :
    (p.kind.scheme ++ "://" ++ p.urlHost ++ ":" ++ toString p.port).toList =
      p.kind.scheme.toList ++
        ':' :: '/' :: '/' :: (p.urlHost.toList ++ ':' :: Nat.toDigits 10 p.port.toNat) := by
  simp [String.reduceToList, Url.toList_toString_port]

/-- Reading leaves the address text of a plain host alone. -/
theorem PlainHost.prepare_address (hp : p.PlainHost) :
    Url.prepare (p.kind.scheme ++ "://" ++ p.urlHost ++ ":" ++ toString p.port) =
      (p.kind.scheme ++ "://" ++ p.urlHost ++ ":" ++ toString p.port).toList := by
  apply Url.prepare_eq_toList
  · rw [addressText_toList]
    cases p.kind <;> simp [ProxyKind.scheme, String.reduceToList]
  · rw [addressText_toList, show ∀ (A H D : List Char), A ++ ':' :: '/' :: '/' :: (H ++ ':' :: D) =
      (A ++ ':' :: '/' :: '/' :: (H ++ [':'])) ++ D by simp,
      List.getLast?_append_of_ne_nil _ Nat.toDigits_ne_nil]
    intro c hc
    have := Url.toNat_of_mem_toDigits (List.mem_of_getLast? hc)
    omega
  · have hscheme : ∀ c ∈ p.kind.scheme.toList, c ≠ '\t' ∧ c ≠ '\n' ∧ c ≠ '\r' := by
      cases p.kind <;> simp [ProxyKind.scheme, String.reduceToList]
    rw [addressText_toList]
    intro c hc
    simp only [List.mem_append, List.mem_cons] at hc
    rcases hc with hs | rfl | rfl | rfl | hh | rfl | hd
    · exact hscheme c hs
    all_goals try decide
    · have h := hp.no_breaker_urlHost c hh
      simp only [authorityBreakers, List.mem_cons, List.not_mem_nil, or_false, not_or] at h
      exact h.2.2.2.2.2
    · have := Url.toNat_of_mem_toDigits hd
      refine ⟨?_, ?_, ?_⟩ <;> rintro rfl <;> simp at this

/-- The URL parser reads the address text of a plain host as the address it denotes. -/
theorem PlainHost.parse_address (hp : p.PlainHost) :
    Url.parse (p.kind.scheme ++ "://" ++ p.urlHost ++ ":" ++ toString p.port) = p.address := by
  have hlt : p.port.toNat < 65536 := p.port.toNat_lt
  have hat : '@' ∉ p.urlHost.toList := fun h => hp.no_breaker_urlHost '@' h (by decide)
  rw [Url.parse, hp.prepare_address, addressText_toList, ProxyKind.splitScheme_scheme, address]
  have hshape := hp.shape
  have hend := hp.endsAuthority
  generalize p.urlHost = H at hshape hend hat
  cases hk : p.kind with
  | http =>
    dsimp only
    rw [show Url.schemeKind ProxyKind.http.scheme = .special 80 from rfl]
    dsimp only
    rw [Url.parseSpecial_address _ _ hshape (hend true) hat hlt]
    simp [String.toList_eq_nil_iff, ProxyKind.parseHost, ProxyKind.urlPort, ProxyKind.rootPath]
  | socks =>
    dsimp only
    rw [show Url.schemeKind ProxyKind.socks.scheme = .other from rfl]
    show Url.parseOtherAuthority _ (H.toList ++ ':' :: Nat.toDigits 10 p.port.toNat) = _
    rw [Url.parseOtherAuthority_address _ hshape (hend false) hat hlt]
    simp [String.toList_eq_nil_iff, ProxyKind.parseHost, ProxyKind.urlPort, ProxyKind.rootPath]

/-- For a plain host, the proxy URL is the address the proxy denotes. -/
theorem PlainHost.url_eq_ok_iff (hp : p.PlainHost) (u : Url) :
    p.url = .ok u ↔ p.address = .ok u := by
  rw [url, hp.parse_address]
  cases p.address <;> simp

end PlainHost

/-! ## Credentials and routes -/

section Credentials

variable {p : ProxyInfo}

/-- An address that reads is a URL built from the host the scheme's parser makes of the
host as bracketed, which is not empty. -/
theorem eq_of_address {u : Url} (h : p.address = .ok u) :
    ∃ host, p.urlHost ≠ "" ∧ p.kind.parseHost p.urlHost = .ok host ∧
      u = ⟨p.kind.scheme, "", "", some host, p.kind.urlPort p.port.toNat, p.kind.rootPath,
        none, none⟩ := by
  unfold address at h
  split at h
  · cases h
  · next hne =>
    cases hh : p.kind.parseHost p.urlHost with
    | error e => simp [hh, Except.map] at h
    | ok host =>
      simp only [hh, Except.map, Except.ok.injEq] at h
      exact ⟨host, hne, rfl, h.symm⟩

/-- The URL of an address can carry credentials: it has a host and is no file URL. -/
theorem canCarryCredentials_of_address {u : Url} (h : p.address = .ok u) :
    u.canCarryCredentials = true := by
  obtain ⟨host, hne, hh, rfl⟩ := eq_of_address h
  have hhost : Url.hasHost ⟨p.kind.scheme, "", "", some host, p.kind.urlPort p.port.toNat,
      p.kind.rootPath, none, none⟩ = true :=
    (Url.hasHost_iff _).2 ⟨host, rfl, p.kind.parseHost_ne_empty hne hh⟩
  have hscheme : p.kind.scheme ≠ "file" := by
    cases p.kind <;> decide
  simp [Url.canCarryCredentials, hhost, hscheme]

/-- The URL of an address names its host and reaches it at the proxy's port. -/
theorem route_of_address {u : Url} (h : p.address = .ok u) :
    (∃ name, u.hostText? = some name) ∧ u.portOrKnownDefault = some p.port.toNat := by
  have hcarry := canCarryCredentials_of_address h
  obtain ⟨host, -, -, rfl⟩ := eq_of_address h
  simp only [Url.canCarryCredentials, Bool.and_eq_true] at hcarry
  refine ⟨⟨host.render, by simp [Url.hostText?, hcarry.1]⟩, ?_⟩
  -- only HTTP drops its port, when it is the default that the route puts back
  cases p.kind with
  | http =>
    by_cases h80 : p.port.toNat = 80
    · have hdefault : Url.schemeKind "http" = .special 80 := rfl
      simp [Url.portOrKnownDefault, ProxyKind.urlPort, h80, ProxyKind.scheme, hdefault]
    · simp [Url.portOrKnownDefault, ProxyKind.urlPort, h80]
  | socks => rfl

/-- Adding credentials keeps the host and the port. -/
theorem route_addCredentials (u : Url) :
    (p.addCredentials u).hostText? = u.hostText? ∧
      (p.addCredentials u).portOrKnownDefault = u.portOrKnownDefault := by
  unfold addCredentials
  split <;> exact ⟨rfl, rfl⟩

/-- The userinfo of the URL with credentials percent-decodes to what the credentials
percent-decode to, whatever the host. -/
theorem decode_userinfo {u : Url} {user pass : String} (hu : p.urlWithCredentials = .ok u)
    (hc : p.credentials = some (user, pass)) :
    Percent.decode u.username = Percent.decode user ∧
      Percent.decode u.password = Percent.decode pass := by
  unfold urlWithCredentials at hu
  cases hurl : p.url with
  | error e => simp [hurl, bind, Except.bind] at hu
  | ok v =>
    simp only [hurl, hc, bind, Except.bind] at hu
    cases hw : (v.withUsername user).bind (·.withPassword pass) with
    | none =>
      rw [hw] at hu
      cases hu
    | some w =>
      rw [hw] at hu
      cases hu
      obtain ⟨huser, hpass⟩ := Url.withCredentials_eq_some hw
      rw [huser, hpass]
      exact ⟨Percent.decode_encode_userinfo user, Percent.decode_encode_userinfo pass⟩

/-- Credentials without `%` are read back from the userinfo as they are. -/
theorem decode_userinfo_of_no_percent {u : Url} {user pass : String}
    (hu : p.urlWithCredentials = .ok u) (hc : p.credentials = some (user, pass))
    (huser : '%' ∉ user.toList) (hpass : '%' ∉ pass.toList) :
    Percent.decode u.username = Utf8.encode user ∧
      Percent.decode u.password = Utf8.encode pass := by
  obtain ⟨hname, hword⟩ := decode_userinfo hu hc
  rw [hname, hword, Percent.decode_of_no_percent huser, Percent.decode_of_no_percent hpass]
  exact ⟨rfl, rfl⟩

/-- For a plain host, the URL with credentials is the proxy URL with the credentials added:
it fails exactly when the proxy URL does. -/
theorem PlainHost.urlWithCredentials_eq (hp : p.PlainHost) :
    p.urlWithCredentials = p.url.map p.addCredentials := by
  unfold urlWithCredentials
  cases hurl : p.url with
  | error e => rfl
  | ok u =>
    have hcarry := canCarryCredentials_of_address ((hp.url_eq_ok_iff u).1 hurl)
    simp only [bind, Except.bind]
    unfold addCredentials
    cases p.credentials with
    | none => rfl
    | some c =>
      obtain ⟨user, pass⟩ := c
      dsimp only
      rw [Url.withCredentials_of_canCarry hcarry]
      rfl

end Credentials

/-! ## The URLs of a plain host -/

section Faithful

variable {p : ProxyInfo}

/-- Both URLs of a plain host name the host and reach it at the proxy's port. -/
theorem PlainHost.route (hp : p.PlainHost) {u : Url}
    (hu : p.url = .ok u ∨ p.urlWithCredentials = .ok u) :
    (∃ name, u.hostText? = some name) ∧ u.portOrKnownDefault = some p.port.toNat := by
  rcases hu with hu | hu
  · exact route_of_address ((hp.url_eq_ok_iff u).1 hu)
  · -- the URL with credentials is the address with credentials added, which keeps the route
    rw [hp.urlWithCredentials_eq] at hu
    cases hurl : p.url with
    | error e => simp [hurl, Except.map] at hu
    | ok v =>
      simp only [hurl, Except.map, Except.ok.injEq] at hu
      subst hu
      rw [(route_addCredentials v).1, (route_addCredentials v).2]
      exact route_of_address ((hp.url_eq_ok_iff v).1 hurl)

/-- **The URLs of a proxy with a plain host.** The URL is the proxy's address: its scheme,
no userinfo, query or fragment, the host the scheme's host parser makes of the host as
bracketed, and its port unless it is the scheme's default. The URL with credentials adds them
percent-encoded for userinfo, and both name the host and reach it at the proxy's port. -/
theorem urlsFaithful_of_plainHost (hp : p.PlainHost) : p.UrlsFaithful := by
  constructor
  · exact hp.url_eq_ok_iff
  · exact hp.urlWithCredentials_eq
  · intro u user pass hu hc
    exact decode_userinfo hu hc
  · intro u hu
    exact hp.route hu

end Faithful

/-- A SOCKS5 proxy at the IPv6 loopback with credentials has a plain host, so its URLs are
faithful to it. -/
theorem loopback_socks_urlsFaithful :
    PlainHost ⟨"::1", 1080, .socks, some "us er", some "p@ss"⟩ ∧
      UrlsFaithful ⟨"::1", 1080, .socks, some "us er", some "p@ss"⟩ := by
  have hhost : (⟨"::1", 1080, .socks, some "us er", some "p@ss"⟩ : ProxyInfo).urlHost =
      "[::1]" := by
    simp [urlHost]
  have hp : PlainHost ⟨"::1", 1080, .socks, some "us er", some "p@ss"⟩ := by
    refine ⟨by simp [authorityBreakers, String.reduceToList], ?_⟩
    rw [hhost]
    exact .inr ⟨[':', ':', '1'], by simp [String.reduceToList], by decide, by decide⟩
  exact ⟨hp, urlsFaithful_of_plainHost hp⟩

/-- A username that is itself an escape stays one: the userinfo keeps `%41`, which
percent-decodes to `A`, not to the username. -/
theorem userinfo_keeps_percent_escapes :
    ((⟨"h", 1, .socks, some "%41", none⟩ : ProxyInfo).urlWithCredentials.toOption.map
      Url.username) = some "%41" ∧
      Percent.decode "%41" = Utf8.encode "A" ∧ Utf8.encode "A" ≠ Utf8.encode "%41" := by
  have hhost : (⟨"h", 1, .socks, some "%41", none⟩ : ProxyInfo).urlHost = "h" := by
    simp [urlHost]
  have hdecode : Percent.decode "%41" = Utf8.encode "A" := by
    rw [Percent.decode, show Utf8.encode "%41" = [37, 52, 49] by decide,
      show Utf8.encode "A" = [65] by decide, Percent.decodeBytes_percent]
    simp [Percent.escapeAhead, Percent.hexValue?, Percent.decodeBytes]
  refine ⟨?_, hdecode, by decide⟩
  simp only [urlWithCredentials, url, hhost, ProxyKind.scheme]
  decide

end ProxyInfo

end HttpCall
