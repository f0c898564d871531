import Rpackit.Library.WebUrl
import Rpackit.Transport.State

/-! # The hostname of a launch

A launch answers under one generated hostname. The proxy compares the `Host` and
`Origin` a browser sends byte for byte with the strings it builds from that name, so
a name that a URL parser rewrites would shut the browser out. The validator of an
explicit name accepts hexadecimal digits in both cases, the generator writes them in
lower case, and the validator of the crash-profile probe accepts only these.
-/

namespace Rpackit.Transport

open Text WebUrl

/-! ## Configurations -/

def hostnamePrefix : Bytes := asBytes "rpackit-"
def hostnameSuffix : Bytes := asBytes ".localhost"

/-- `u8::is_ascii_hexdigit`. -/
def isAsciiHexDigit (b : UInt8) : Bool :=
  isAsciiDigit b || (0x41 ≤ b && b ≤ 0x46) || (0x61 ≤ b && b ≤ 0x66)

/-- What `strip_prefix` and `strip_suffix` leave of a hostname. -/
def hostnameNonce (hostname : Bytes) : Option Bytes := do
  let value ← hostname.dropPrefix? hostnamePrefix
  value.dropSuffix? hostnameSuffix

def validHostnameWith (digit : UInt8 → Bool) (hostname : Bytes) : Bool :=
  match hostnameNonce hostname with
  | none => false
  | some nonce => nonce.length == 32 && nonce.all digit

/-- `valid_generated_hostname` of the transport. -/
def validGeneratedHostname (hostname : Bytes) : Bool := validHostnameWith isAsciiHexDigit hostname

/-- `valid_generated_hostname` of the crash-profile probe. -/
def CrashProfile.validGeneratedHostname (hostname : Bytes) : Bool :=
  validHostnameWith (fun b => isAsciiDigit b || (0x61 ≤ b && b ≤ 0x66)) hostname

inductive IpAddr where
  | v4 (bits : UInt32)
  | v6 (bits : BitVec 128)
  deriving DecidableEq, Repr

/-- 127.0.0.1. -/
def IpAddr.localhost : IpAddr := .v4 0x7F000001

/-- The failures of the `ProxyConfig` constructors. -/
inductive ConfigError where
  | invalidConfiguration
  | random
  deriving DecidableEq, Repr

/-- Immutable per-launch proxy configuration. -/
structure ProxyConfig where
  upstream : SocketAddr
  hostname : Bytes
  secrets : TransportSecrets
  limits : TransportLimits
  deriving DecidableEq

/-- The bytes `getrandom::fill` writes for the hostname. -/
abbrev Nonce := { bytes : Bytes // bytes.length = 16 }

namespace ProxyConfig

def generateWithSecrets (ip : IpAddr) (port : UInt16) (secrets : TransportSecrets)
    (nonce : Option Nonce) : Except ConfigError ProxyConfig :=
  if ip ≠ .localhost then .error .invalidConfiguration
  else
    match nonce with
    | none => .error .random
    | some nonce => .ok {
        upstream := ⟨port⟩
        hostname := hostnamePrefix ++ hexEncode nonce.val ++ hostnameSuffix
        secrets := secrets
        limits := defaultLimits }

def generate (ip : IpAddr) (port : UInt16) (secrets : Option TransportSecrets)
    (nonce : Option Nonce) : Except ConfigError ProxyConfig :=
  match secrets with
  | none => .error .random
  | some secrets => generateWithSecrets ip port secrets nonce

def explicit (ip : IpAddr) (port : UInt16) (hostname : Bytes) (secrets : TransportSecrets) :
    Except ConfigError ProxyConfig :=
  if ip ≠ .localhost ∨ validGeneratedHostname hostname = false then .error .invalidConfiguration
  else .ok {
    upstream := ⟨port⟩
    hostname := hostname
    secrets := secrets
    limits := defaultLimits }

def withLimits (config : ProxyConfig) (limits : TransportLimits) : ProxyConfig :=
  { config with limits := limits }

/-- The configurations a caller can have. -/
inductive Accepted : ProxyConfig → Prop
  | generate {ip : IpAddr} {port : UInt16} {secrets : Option TransportSecrets}
      {nonce : Option Nonce} {config : ProxyConfig}
      (hok : ProxyConfig.generate ip port secrets nonce = .ok config) : Accepted config
  | generateWithSecrets {ip : IpAddr} {port : UInt16} {secrets : TransportSecrets}
      {nonce : Option Nonce} {config : ProxyConfig}
      (hok : ProxyConfig.generateWithSecrets ip port secrets nonce = .ok config) :
      Accepted config
  | explicit {ip : IpAddr} {port : UInt16} {hostname : Bytes} {secrets : TransportSecrets}
      {config : ProxyConfig} (hok : ProxyConfig.explicit ip port hostname secrets = .ok config) :
      Accepted config
  | withLimits {config : ProxyConfig} (limits : TransportLimits) (haccepted : Accepted config) :
      Accepted (config.withLimits limits)

end ProxyConfig

namespace ProxyAddress

def bootstrapUrl (address : ProxyAddress) : Bytes := address.origin ++ bootstrapPath

def rootUrl (address : ProxyAddress) : Bytes := address.origin ++ asBytes "/"

end ProxyAddress

/-! ## Accepted names -/

theorem hostnameNonce_eq_some_iff {hostname nonce : Bytes} :
    hostnameNonce hostname = some nonce ↔
      hostname = hostnamePrefix ++ (nonce ++ hostnameSuffix) := by
  simp only [hostnameNonce, Option.bind_eq_bind, Option.bind_eq_some_iff,
    List.dropPrefix?_eq_some_iff, List.dropSuffix?_eq_some_iff, beq_iff_eq]
  constructor
  · rintro ⟨value, ⟨_, hhostname, rfl⟩, ⟨_, hvalue, rfl⟩⟩
    rw [hhostname, hvalue]
  · intro hhostname
    exact ⟨nonce ++ hostnameSuffix, ⟨hostnamePrefix, hhostname, rfl⟩, hostnameSuffix, rfl, rfl⟩

theorem validHostnameWith_iff {digit : UInt8 → Bool} {hostname : Bytes} :
    validHostnameWith digit hostname = true ↔
      ∃ nonce, hostname = hostnamePrefix ++ (nonce ++ hostnameSuffix) ∧ nonce.length = 32 ∧
        ∀ b ∈ nonce, digit b = true := by
  unfold validHostnameWith
  constructor
  · intro hvalid
    split at hvalid
    · cases hvalid
    next nonce hnonce =>
      simp only [Bool.and_eq_true, beq_iff_eq, List.all_eq_true] at hvalid
      exact ⟨nonce, hostnameNonce_eq_some_iff.mp hnonce, hvalid⟩
  · intro hvalid
    obtain ⟨nonce, hhostname, hlength, hdigits⟩ := hvalid
    simp [hostnameNonce_eq_some_iff.mpr hhostname, hlength, List.all_eq_true.mpr hdigits]

/-- The shape of the names `generate` makes. -/
def GeneratedShape (hostname : Bytes) : Prop :=
  ∃ nonce, hostname = hostnamePrefix ++ (nonce ++ hostnameSuffix) ∧ nonce.length = 32 ∧
    ∀ b ∈ nonce, isLowercaseHexDigit b = true

/-- The validator of the probe accepts exactly the generated shape. -/
theorem CrashProfile.validGeneratedHostname_iff {hostname : Bytes} :
    CrashProfile.validGeneratedHostname hostname = true ↔ GeneratedShape hostname :=
  validHostnameWith_iff

theorem isLowercaseHexDigit_iff : ∀ b : UInt8,
    isLowercaseHexDigit b = true ↔ isAsciiHexDigit b = true ∧ isAsciiUppercase b = false :=
  forall_byte (by decide +kernel)

theorem isLabelByte_of_isAsciiHexDigit : ∀ b : UInt8,
    isAsciiHexDigit b = true → isLabelByte b = true :=
  forall_byte (by decide +kernel)

theorem forall_mem_hostname {nonce : Bytes} {p : UInt8 → Prop}
    (hleading : ∀ b ∈ hostnamePrefix, p b) (hsuffix : ∀ b ∈ hostnameSuffix, p b) :
    (∀ b ∈ hostnamePrefix ++ (nonce ++ hostnameSuffix), p b) ↔ ∀ b ∈ nonce, p b := by
  simp only [List.forall_mem_append]
  exact ⟨fun hall => hall.2.1, fun hnonce => ⟨hleading, hnonce, hsuffix⟩⟩

/-- An accepted name has the generated shape unless it has a letter in upper case. -/
theorem generatedShape_iff {hostname : Bytes} (hvalid : validGeneratedHostname hostname = true) :
    GeneratedShape hostname ↔ ∀ b ∈ hostname, isAsciiUppercase b = false := by
  obtain ⟨nonce, rfl, hlength, hdigits⟩ := validHostnameWith_iff.mp hvalid
  rw [forall_mem_hostname (by decide +kernel) (by decide +kernel)]
  constructor
  · intro hshape
    obtain ⟨other, hother, -, hlower⟩ := hshape
    have hsame : nonce = other := by simpa using hother
    intro b hb
    exact ((isLowercaseHexDigit_iff b).mp (hlower b (hsame ▸ hb))).2
  · intro hlower
    refine ⟨nonce, rfl, hlength, fun b hb => ?_⟩
    exact (isLowercaseHexDigit_iff b).mpr ⟨hdigits b hb, hlower b hb⟩

theorem validGeneratedHostname_of_shape {hostname : Bytes} (hshape : GeneratedShape hostname) :
    validGeneratedHostname hostname = true := by
  obtain ⟨nonce, hhostname, hlength, hdigits⟩ := hshape
  refine validHostnameWith_iff.mpr ⟨nonce, hhostname, hlength, fun b hb => ?_⟩
  exact ((isLowercaseHexDigit_iff b).mp (hdigits b hb)).1

namespace ProxyConfig

theorem generateWithSecrets_shape {ip : IpAddr} {port : UInt16} {secrets : TransportSecrets}
    {nonce : Option Nonce} {config : ProxyConfig}
    (hok : generateWithSecrets ip port secrets nonce = .ok config) :
    GeneratedShape config.hostname := by
  unfold generateWithSecrets at hok
  split at hok
  · cases hok
  · cases nonce with
    | none => cases hok
    | some nonce =>
        cases hok
        refine ⟨hexEncode nonce.val, List.append_assoc _ _ _, ?_, ?_⟩
        · rw [length_hexEncode, nonce.property]
        · intro b hb
          exact isLowercaseHexDigit_of_mem_hexEncode hb

/-- Every configuration has a name the validator accepts. -/
theorem Accepted.validGeneratedHostname {config : ProxyConfig} (haccepted : config.Accepted) :
    validGeneratedHostname config.hostname = true := by
  induction haccepted with
  | @generate ip port secrets nonce config hok =>
      cases secrets with
      | none => cases hok
      | some secrets => exact validGeneratedHostname_of_shape (generateWithSecrets_shape hok)
  | generateWithSecrets hok => exact validGeneratedHostname_of_shape (generateWithSecrets_shape hok)
  | @explicit ip port hostname secrets config hok =>
      unfold ProxyConfig.explicit at hok
      split at hok
      · cases hok
      next hgood =>
        cases hok
        simpa using (not_or.mp hgood).2
  | withLimits limits haccepted ih => exact ih

end ProxyConfig

/-! ## What a URL parser makes of them -/

theorem isPlainDomain_of_valid {hostname : Bytes}
    (hvalid : validGeneratedHostname hostname = true) : isPlainDomain hostname = true := by
  obtain ⟨nonce, rfl, hlength, hdigits⟩ := validHostnameWith_iff.mp hvalid
  have hlabel : ∀ b ∈ nonce, isLabelByte b = true :=
    fun b hb => isLabelByte_of_isAsciiHexDigit b (hdigits b hb)
  have hlabels : (hostnamePrefix ++ (nonce ++ hostnameSuffix)).splitOn dot =
      [hostnamePrefix ++ nonce, asBytes "localhost"] := by
    have hjoined : hostnamePrefix ++ (nonce ++ hostnameSuffix) =
        [dot].intercalate [hostnamePrefix ++ nonce, asBytes "localhost"] := by
      rw [← List.append_assoc]
      rfl
    rw [hjoined]
    refine List.splitOn_intercalate _ ?_ (by simp)
    intro label hmem
    rcases List.mem_pair.mp hmem with rfl | rfl
    · intro hdot
      rcases List.mem_append.mp hdot with hleading | hnonce
      · exact absurd hleading (by decide)
      · exact absurd (hlabel dot hnonce) (by decide)
    · decide
  have hleading : hostnamePrefix.all isLabelByte = true := by decide
  have hfirst : isPlainLabel (hostnamePrefix ++ nonce) = true := by
    simp only [isPlainLabel, List.all_append, hleading, List.all_eq_true.mpr hlabel]
    rfl
  have hlast : isPlainLabel (asBytes "localhost") = true := by decide
  simp only [isPlainDomain, hlabels, List.all_cons, hfirst, hlast]
  rfl

/-- A URL parser gives back the host, the port and the strings the proxy compares. -/
def ReadsBack (parse : Bytes → Option UrlRecord) (address : ProxyAddress) (url : Bytes) : Prop :=
  ∃ record, parse url = some record ∧ record.host = some address.hostname ∧
    record.port = some address.port.toNat ∧ record.authority = address.authority ∧
      record.origin = address.origin

/-- Both addresses a browser is sent to are read back. -/
def NormalForm (parse : Bytes → Option UrlRecord) (address : ProxyAddress) : Prop :=
  ReadsBack parse address address.rootUrl ∧ ReadsBack parse address address.bootstrapUrl

section NormalForm

variable {parse : Bytes → Option UrlRecord} {address : ProxyAddress}

theorem origin_append (address : ProxyAddress) (path : Bytes) :
    address.origin ++ path = plainHttpText address.hostname address.port.toNat path := by
  simp only [ProxyAddress.origin, ProxyAddress.authority, plainHttpText, List.append_assoc]
  rfl

theorem readsBack_iff (hparse : ReadsPlainHttp parse)
    (hvalid : validGeneratedHostname address.hostname = true) (hport : address.port ≠ 80)
    {path : Bytes} (hpath : isPlainPath path = true) :
    ReadsBack parse address (address.origin ++ path) ↔
      lowercase address.hostname = address.hostname := by
  have hnat : address.port.toNat ≠ 80 := fun heq => hport (UInt16.toNat_inj.mp heq)
  have hread := hparse address.hostname address.port.toNat path (isPlainDomain_of_valid hvalid)
    address.port.toNat_lt hpath
  have hauthority : (plainHttpRecord address.hostname address.port.toNat path).authority =
      lowercase address.hostname ++ colon :: decimal address.port.toNat := by
    simp [plainHttpRecord, UrlRecord.authority, hnat]
  rw [ReadsBack, origin_append]
  constructor
  · intro hback
    obtain ⟨record, hrecord, hhost, -⟩ := hback
    rw [hread, Option.some.injEq] at hrecord
    rw [← hrecord] at hhost
    exact Option.some.inj hhost
  · intro hlower
    have hsame : (plainHttpRecord address.hostname address.port.toNat path).authority =
        address.authority := by
      rw [hauthority, hlower, ProxyAddress.authority, List.append_assoc]
      rfl
    refine ⟨_, hread, congrArg some hlower, ?_, hsame, ?_⟩
    · simp [plainHttpRecord, hnat]
    · rw [UrlRecord.origin, hsame]
      rfl

theorem normalForm_iff (hparse : ReadsPlainHttp parse)
    (hvalid : validGeneratedHostname address.hostname = true) (hport : address.port ≠ 80) :
    NormalForm parse address ↔ ∀ b ∈ address.hostname, isAsciiUppercase b = false := by
  rw [NormalForm, ProxyAddress.rootUrl, ProxyAddress.bootstrapUrl,
    readsBack_iff hparse hvalid hport (by decide), readsBack_iff hparse hvalid hport (by decide),
    and_self, lowercase_eq_self_iff]

end NormalForm

/-- An accepted configuration has the generated shape, and on every port but 80 the
strings a URL parser gives back, exactly if its hostname has no letter in upper case. -/
theorem ProxyConfig.Accepted.normal_iff {parse : Bytes → Option UrlRecord}
    (hparse : ReadsPlainHttp parse) {config : ProxyConfig} (haccepted : config.Accepted) :
    (GeneratedShape config.hostname ∧
      ∀ port : UInt16, port ≠ 80 → NormalForm parse ⟨config.hostname, port⟩) ↔
      ∀ b ∈ config.hostname, isAsciiUppercase b = false := by
  have hvalid := haccepted.validGeneratedHostname
  rw [generatedShape_iff hvalid]
  constructor
  · intro hnormal
    exact hnormal.1
  · intro hlower
    exact ⟨hlower, fun port hport => (normalForm_iff hparse hvalid hport).mpr hlower⟩

/-! ## A name in upper case -/

def uppercaseHostname : Bytes :=
  hostnamePrefix ++ (List.replicate 32 0x41 ++ hostnameSuffix)

def uppercaseConfig : ProxyConfig where
  upstream := ⟨49152⟩
  hostname := uppercaseHostname
  secrets := (ProxyState.fixture 1 49153 49152).secrets
  limits := defaultLimits

theorem uppercaseConfig_accepted : uppercaseConfig.Accepted :=
  @ProxyConfig.Accepted.explicit .localhost 49152 uppercaseHostname uppercaseConfig.secrets _ rfl

theorem uppercaseConfig_normal_iff : (GeneratedShape uppercaseConfig.hostname ∧
    ∀ port : UInt16, port ≠ 80 → NormalForm parsePlainHttp ⟨uppercaseConfig.hostname, port⟩) ↔
      ∀ b ∈ uppercaseConfig.hostname, isAsciiUppercase b = false :=
  ProxyConfig.Accepted.normal_iff parsePlainHttp_reads uppercaseConfig_accepted

/-- `explicit` accepts a nonce in upper case, which no browser gives back. -/
theorem exists_accepted_not_normal : ¬∀ parse : Bytes → Option UrlRecord, ReadsPlainHttp parse →
    ∀ config : ProxyConfig, config.Accepted → GeneratedShape config.hostname ∧
      ∀ port : UInt16, port ≠ 80 → NormalForm parse ⟨config.hostname, port⟩ := by
  intro hnormal
  obtain ⟨-, hback⟩ := hnormal parsePlainHttp parsePlainHttp_reads uppercaseConfig
    uppercaseConfig_accepted
  obtain ⟨record, hrecord, hhost, -⟩ := (hback 49152 (by decide)).1
  have hlower : (parsePlainHttp (ProxyAddress.rootUrl ⟨uppercaseHostname, 49152⟩)).bind
      UrlRecord.host = some (lowercase uppercaseHostname) := by decide +kernel
  change parsePlainHttp (ProxyAddress.rootUrl ⟨uppercaseHostname, 49152⟩) = some record at hrecord
  rw [hrecord, Option.bind_some, hhost] at hlower
  exact absurd (Option.some.inj hlower) (by decide)

end Rpackit.Transport
