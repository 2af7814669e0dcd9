import LorahamBridge.Wire.Protocol

/-!
# Password authentication

The bridge challenges a client with a random nonce and compares the response with
the keyed hash of that nonce.  The hash and the random source belong to a crypto
library: both are parameters here, either may fail, and nothing is assumed about
what they return.  This file embeds `hmac_auth` without the password file.
-/

namespace LorahamBridge

open Foundation Extradio

/-- A challenge as the random source delivers it. -/
structure Nonce where
  bytes : Bytes
  length_eq : bytes.length = kAuthNonceSize
deriving DecidableEq

/-- The shared secret; empty in open mode. -/
structure AuthConfig where
  password : Bytes

/-- Clients have to prove that they know a password. -/
def AuthConfig.passwordConfigured (cfg : AuthConfig) : Bool :=
  !cfg.password.isEmpty

/-- The keyed hash of the crypto library: key, message, digest or failure. -/
abbrev Hmac : Type :=
  Bytes → Bytes → Option Bytes

/-- A digest counts only if it has the expected size. -/
def hmacSha256 (hmac : Hmac) (key msg : Bytes) : Option Bytes :=
  match hmac key msg with
  | none => none
  | some out => if out.length = kAuthResponseSize then some out else none

theorem length_of_hmacSha256 {hmac : Hmac} {key msg digest : Bytes}
    (h : hmacSha256 hmac key msg = some digest) : digest.length = kAuthResponseSize := by
  unfold hmacSha256 at h
  split at h
  · contradiction
  · split at h <;> rename_i hlen
    · exact Option.some.inj h ▸ hlen
    · contradiction

/-- The response is the keyed hash of the nonce. -/
def verifyAuthResponse (hmac : Hmac) (cfg : AuthConfig) (nonce response : Bytes) : Bool :=
  if !cfg.passwordConfigured then false
  else if response.length ≠ kAuthResponseSize then false
  else
    match hmacSha256 hmac cfg.password nonce with
    | none => false
    | some expected => expected == response

/-- An accepted response is the keyed hash of the challenge. -/
theorem hmac_of_verifyAuthResponse {hmac : Hmac} {cfg : AuthConfig} {nonce response : Bytes}
    (h : verifyAuthResponse hmac cfg nonce response = true) :
    response.length = kAuthResponseSize ∧ hmac cfg.password nonce = some response := by
  unfold verifyAuthResponse at h
  split at h
  · contradiction
  · split at h <;> rename_i hlen
    · contradiction
    · refine ⟨not_not.mp hlen, ?_⟩
      split at h <;> rename_i hmsg
      · contradiction
      · unfold hmacSha256 at hmsg
        split at hmsg
        · contradiction
        · rename_i out hout
          split at hmsg
          · simp only [Option.some.injEq] at hmsg
            rw [hout, hmsg, beq_iff_eq.mp h]
          · contradiction

end LorahamBridge
