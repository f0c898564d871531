import Rpackit.Transport.Http

/-! # Limits, credentials and fixed addresses of one proxy -/

namespace Rpackit.Transport

open Text

/-- Resource and timing limits; durations are in nanoseconds. -/
structure TransportLimits where
  maxRequestLineBytes : Nat
  maxHeaderBytes : Nat
  maxHeaders : Nat
  maxRequestBodyBytes : Nat
  requestBodyIdleTimeout : Nat
  requestBodyTotalTimeout : Nat
  minRequestBodyBytesPerSecond : Nat
  requestBodyRateWindow : Nat
  maxResponseBodyBytes : Nat
  maxDecodedResponseBodyBytes : Nat
  maxResponseContentEncodings : Nat
  responseBodyIdleTimeout : Nat
  minResponseBodyBytesPerSecond : Nat
  responseBodyRateWindow : Nat
  maxConnections : Nat
  headerTimeout : Nat
  upstreamTimeout : Nat
  websocketIdleTimeout : Nat
  maxWebsocketBytesPerSecond : Nat
  websocketRateBurstWindow : Nat
  deriving DecidableEq, Repr

def maxResponseContentEncodingLayers : Nat := 2

def seconds (count : Nat) : Nat := count * 1000000000

/-- `TransportLimits::default`. -/
def defaultLimits : TransportLimits where
  maxRequestLineBytes := 8 * 1024
  maxHeaderBytes := 32 * 1024
  maxHeaders := 96
  maxRequestBodyBytes := 64 * 1024 * 1024
  requestBodyIdleTimeout := seconds 15
  requestBodyTotalTimeout := seconds 300
  minRequestBodyBytesPerSecond := 1024
  requestBodyRateWindow := seconds 5
  maxResponseBodyBytes := 256 * 1024 * 1024
  maxDecodedResponseBodyBytes := 256 * 1024 * 1024
  maxResponseContentEncodings := 2
  responseBodyIdleTimeout := seconds 15
  minResponseBodyBytesPerSecond := 1024
  responseBodyRateWindow := seconds 5
  maxConnections := 64
  headerTimeout := seconds 5
  upstreamTimeout := seconds 10
  websocketIdleTimeout := seconds 300
  maxWebsocketBytesPerSecond := 8 * 1024 * 1024
  websocketRateBurstWindow := seconds 1

namespace TransportLimits

def isValid (limits : TransportLimits) : Bool :=
  limits.maxRequestLineBytes > 0
    && limits.maxRequestLineBytes ≤ limits.maxHeaderBytes
    && limits.maxHeaders > 0
    && limits.maxConnections > 0
    && limits.headerTimeout != 0
    && limits.upstreamTimeout != 0
    && limits.requestBodyIdleTimeout != 0
    && limits.requestBodyTotalTimeout != 0
    && (limits.minRequestBodyBytesPerSecond == 0
      || (limits.requestBodyRateWindow != 0
        && limits.requestBodyRateWindow ≤ limits.requestBodyTotalTimeout))
    && limits.responseBodyIdleTimeout != 0
    && (limits.minResponseBodyBytesPerSecond == 0 || limits.responseBodyRateWindow != 0)
    && limits.maxResponseContentEncodings ≤ maxResponseContentEncodingLayers
    && limits.websocketIdleTimeout != 0
    && (limits.maxWebsocketBytesPerSecond == 0
      || (limits.websocketRateBurstWindow != 0
        && limits.websocketRateBurstWindow ≤ limits.websocketIdleTimeout))

example : defaultLimits.isValid = true := by decide

end TransportLimits

/-! ## Credentials -/

/-- A 256-bit secret. -/
structure Secret where
  seed : Bytes
  length_seed : seed.length = 32
  deriving DecidableEq

namespace Secret

/-- The opaque token `Secret::from_bytes` builds. -/
def value (secret : Secret) : Bytes := asBytes "rp-" ++ hexEncode secret.seed

/-- `Secret::matches`. -/
def matchesCandidate (secret : Secret) (candidate : Bytes) : Bool :=
  if secret.value.length ≠ candidate.length then false else secret.value == candidate

theorem matchesCandidate_iff {secret : Secret} {candidate : Bytes} :
    secret.matchesCandidate candidate = true ↔ candidate = secret.value := by
  unfold matchesCandidate
  split
  next hlength =>
    simp only [Bool.false_eq_true, false_iff]
    rintro rfl
    exact hlength rfl
  · rw [beq_iff_eq]
    exact eq_comm

theorem mem_value {secret : Secret} {b : UInt8} (hmem : b ∈ secret.value) :
    isAsciiDigit b = true ∨ isAsciiLowercase b = true ∨ b = 0x2D := by
  rcases List.mem_append.mp hmem with hleads | hhex
  · have hall : ∀ b ∈ asBytes "rp-",
        isAsciiDigit b = true ∨ isAsciiLowercase b = true ∨ b = 0x2D := by
      simpa only [List.all_eq_true, Bool.or_eq_true, beq_iff_eq, or_assoc] using
        show (asBytes "rp-").all (fun b => isAsciiDigit b || isAsciiLowercase b || b == 0x2D)
          = true by decide
    exact hall b hleads
  · exact (mem_hexEncode hhex).imp_right Or.inl

theorem isVisibleAscii_of_mem_value {secret : Secret} {b : UInt8} (hmem : b ∈ secret.value) :
    isVisibleAscii b = true := by
  rcases mem_value hmem with hdigit | hlower | rfl
  · exact isVisibleAscii_of_isAsciiDigit hdigit
  · exact isVisibleAscii_of_isAsciiLowercase hlower
  · decide

end Secret

/-- The session (`P`), upstream (`S`) and bootstrap (`B`) credentials. -/
structure TransportSecrets where
  session : Secret
  upstream : Secret
  bootstrap : Secret
  deriving DecidableEq

/-! ## Addresses -/

structure ProxyAddress where
  hostname : Bytes
  port : UInt16
  deriving DecidableEq, Repr

namespace ProxyAddress

def authority (address : ProxyAddress) : Bytes :=
  address.hostname ++ asBytes ":" ++ decimal address.port.toNat

def origin (address : ProxyAddress) : Bytes := asBytes "http://" ++ address.authority

end ProxyAddress

/-- The upstream socket. Every `ProxyConfig` constructor requires the address
127.0.0.1, so only the port varies. -/
structure SocketAddr where
  port : UInt16
  deriving DecidableEq, Repr

namespace SocketAddr

def ip (_socket : SocketAddr) : Bytes := asBytes "127.0.0.1"

def toBytes (socket : SocketAddr) : Bytes :=
  socket.ip ++ asBytes ":" ++ decimal socket.port.toNat

end SocketAddr

/-- The fixed part of `ProxyState`; the permits, the bootstrap flag and the
tracked tasks change and are passed where they are used. -/
structure ProxyState where
  expectedAuthority : Bytes
  expectedOrigin : Bytes
  address : ProxyAddress
  upstream : SocketAddr
  secrets : TransportSecrets
  limits : TransportLimits
  deriving DecidableEq

/-- The state `RunningProxy::start` builds once the listeners are bound. -/
def ProxyState.start (address : ProxyAddress) (upstream : SocketAddr) (secrets : TransportSecrets)
    (limits : TransportLimits) : ProxyState where
  expectedAuthority := address.authority
  expectedOrigin := address.origin
  address := address
  upstream := upstream
  secrets := secrets
  limits := limits

/-- The proxy of the acceptance fixture: secrets and hostname are repeated bytes. -/
def ProxyState.fixture (nonce : UInt8) (port upstreamPort : UInt16) : ProxyState :=
  let secret (byte : UInt8) : Secret := ⟨List.replicate 32 byte, List.length_replicate⟩
  let hostname := asBytes "rpackit-" ++ hexEncode (List.replicate 16 nonce) ++
    asBytes ".localhost"
  .start ⟨hostname, port⟩ ⟨upstreamPort⟩ ⟨secret nonce, secret (nonce + 1), secret (nonce + 2)⟩
    defaultLimits

end Rpackit.Transport
